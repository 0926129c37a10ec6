import SiteWalk.Html.Reference
import SiteWalk.Url.Parse

/-!
# From links to addresses

A link leads to a page if it is the address of one, on its own or against the
page it stands on: over `http` or `https`, with a host.  Fragments are dropped,
so two places of a page are one address.
-/

namespace SiteWalk.Link

open Text

/-- The schemes that never lead to a page. -/
def skippedSchemes : List String := ["javascript:", "mailto:", "tel:", "data:"]

/-- The link is nothing to follow: empty, a place on the same page or of a scheme that
leads to no page. -/
def isIdle (href : List Char) : Bool :=
  href.isEmpty || href.head? == some '#' ||
    skippedSchemes.any fun p => startsWithLower p.toList href

/-- The address of the page that a link on `page` leads to. -/
def resolve? (href : List Char) (page : Url) : Option Url :=
  let link := Html.decodeClosed (trim href)
  if isIdle link then none
  else
    match Url.parseWith (some page) link with
    | .error _ => none
    | .ok u => if u.isWeb && u.host?.isSome then some u.dropFragment else none

theorem resolve?_eq_some_iff {href : List Char} {page u : Url} :
    resolve? href page = some u ↔ isIdle (Html.decodeClosed (trim href)) = false ∧
      ∃ v, Url.parseWith (some page) (Html.decodeClosed (trim href)) = .ok v ∧
        v.isWeb = true ∧ v.host?.isSome = true ∧ u = v.dropFragment := by
  unfold resolve?
  dsimp only
  constructor
  · intro h
    split at h
    · cases h
    next busy =>
    split at h
    · cases h
    next v read =>
    split at h
    · next good =>
      cases h
      rw [Bool.and_eq_true] at good
      exact ⟨Bool.eq_false_iff.2 busy, v, read, good.1, good.2, rfl⟩
    · cases h
  · rintro ⟨busy, v, read, web, host, rfl⟩
    rw [if_neg (by simp [busy]), read]
    exact if_pos (Bool.and_eq_true_iff.2 ⟨web, host⟩)

/-- Why a text is no address to start from. -/
inductive SeedError where
  | unreadable (raw : String) (why : Url.ParseError)
  | scheme (name : String)
  | hostless
  deriving DecidableEq, Repr, Inhabited

def SeedError.message : SeedError → String
  | .unreadable raw why => "Failed to parse URL: '" ++ raw ++ "': " ++ why.message
  | .scheme name => "Invalid URL scheme: " ++ name
  | .hostless => "Missing host in URL"

/-- The address to start from. -/
def seed? (raw : String) : Except SeedError Url :=
  match Url.parse (trim raw.toList) with
  | .error e => .error (.unreadable raw e)
  | .ok u =>
    if !u.isWeb then .error (.scheme (String.ofList u.scheme))
    else if u.host?.isNone then .error .hostless
    else .ok u.dropFragment

/-- Two addresses on one host; an address without host is on none. -/
def sameHost (a b : Url) : Bool :=
  match a.hostText?, b.hostText? with
  | some x, some y => x == y
  | _, _ => false

/-- Words between commas and line ends, trimmed; empty ones do not count. -/
def wordList (s : String) : List String :=
  (((pieces (fun c => c == ',' || c == '\n') s.toList).map trim).filter (!·.isEmpty)).map
    String.ofList

/-- A segment of the path is one of the words. -/
def hasSegmentIn (words : List String) (u : Url) : Bool :=
  (u.segments?.getD []).any fun s => words.contains (String.ofList s)

end SiteWalk.Link
