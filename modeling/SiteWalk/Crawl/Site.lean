import SiteWalk.Settings.Basic

/-!
# Sites and requests

A site answers a request for an address with a page or a failure; which site is seen
may depend on how a run asks.  Requests are noted with what goes out with them and the
time at which they are made; nothing but waiting takes time.
-/

namespace SiteWalk.Crawl

/-- Why a page was not got. -/
inductive FetchError where
  | status (url : String) (code : Nat)
  | body (url reason : String)
  deriving DecidableEq, Repr, Inhabited

def FetchError.message : FetchError → String
  | .status url code => url ++ " answered with HTTP " ++ code.repr
  | .body url reason => "failed to read body of " ++ url ++ ": " ++ reason

/-- The answer to one request. -/
abbrev Answer := Except FetchError String

/-- What stands at every address. -/
abbrev Site := String → Answer

/-- A site for every way of asking: user agent, time limit, credentials, headers and
cookies go out with each request, and the answer may depend on them. -/
structure Web where
  answer : Settings.Request → Site

/-- The same site for everybody. -/
instance : Coe Site Web := ⟨fun site => ⟨fun _ => site⟩⟩

/-- A request that was made: for which address, how, and when. -/
structure Request where
  url : String
  options : Settings.Request
  time : Nat
  deriving DecidableEq, Inhabited

/-- The clock, the requests made so far, and whether the crawl was called off.  It is
called off while the request number `cancelAt` is being answered. -/
structure Env where
  clock : Nat := 0
  requests : List Request := []
  cancelled : Bool := false
  cancelAt : Option Nat := none
  deriving DecidableEq, Inhabited

namespace Env

/-- A fresh environment in which the crawl is called off at a request; at number 0
before it begins. -/
def start (cancelAt : Option Nat) : Env :=
  { cancelled := cancelAt == some 0, cancelAt := cancelAt }

/-- Asks for an address after a wait. -/
def request (e : Env) (url : String) (options : Settings.Request) (wait : Nat) : Env :=
  let requests := e.requests ++ [⟨url, options, e.clock + wait⟩]
  { e with
    clock := e.clock + wait
    requests := requests
    cancelled := e.cancelled || e.cancelAt == some requests.length }

/-- Forgets the requests made so far. -/
def clear (e : Env) : Env := { e with requests := [] }

end Env

end SiteWalk.Crawl
