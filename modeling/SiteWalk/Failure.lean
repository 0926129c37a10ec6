import SiteWalk.Batch.Basic
import SiteWalk.Link.Resolve
import SiteWalk.Profile

/-!
# Failures

Why a crawl is not begun, or a step of it not carried out.
-/

namespace SiteWalk

inductive Failure where
  | profile (e : ProfileError)
  | store (e : Batch.StoreError)
  | seed (e : Link.SeedError)
  | address (e : Url.ParseError)
  /-- The caller may not crawl. -/
  | capability (name : String)
  /-- The field that should hold a seed has none. -/
  | noSeed (field : String)
  deriving DecidableEq, Repr, Inhabited

def Failure.message : Failure → String
  | .profile e => "Configuration error: " ++ e.message
  | .store e => "Storage error: " ++ e.message
  | .seed e => "URL error: " ++ e.message
  | .address e => "URL parse error: " ++ e.message
  | .capability name => "Missing capability: " ++ name
  | .noSeed field => "No seed URL found in field '" ++ field ++ "'"

end SiteWalk
