import SiteWalk.Batch.Coordinator
import SiteWalk.Field.Value
import SiteWalk.Text.Blank

/-!
# Population of fields

A crawl from the seed in one field of an entity, with its results put into another
field.  A batch run is handed over first; its results are put when it is over.
-/

namespace SiteWalk.Field

open Batch Crawl

/-- What one must be granted to crawl. -/
def crawlCapability : String := "crawl web content"

/-- Which field holds the seed and which takes the results. -/
structure Mapping where
  source : String
  destination : String
  flavor : Flavor
  deriving DecidableEq, Repr, Inhabited

inductive Populated where
  | written (count : Nat)
  | deferred (run : Int)
  deriving DecidableEq, Repr, Inhabited

/-- The first value of a field that is not blank, trimmed. -/
def seed (e : Entity) (field : String) : Except Failure String :=
  match ((e.values field).map fun v => Text.trim v.payload.toList).find? (!·.isEmpty) with
  | some s => .ok (String.ofList s)
  | none => .error (.noSeed field)

/-- The results of a crawl as values. -/
def results (r : Report) : Flavor → List Value
  | .content => r.contents.map fun u => .text u.text
  | .links => r.links.map .link

/-- Something done to an entity in a session. -/
abbrev Deed (σ α : Type) := Entity → Session σ → Except Failure α × Entity × Session σ

/-- Puts the results of a crawl into their field. -/
def put (m : Mapping) (r : Report) (e : Entity) : Nat × Entity :=
  let vs := results r m.flavor
  (vs.length, e.set m.destination vs)

variable {σ : Type} [Store σ]

/-- Starts a crawl for a field, on behalf of somebody with certain capabilities. -/
def populate (c : Coordinator) (granted : List String) (m : Mapping) (mode : Mode) :
    Deed σ Populated := fun e s =>
  if !granted.contains crawlCapability then (.error (.capability crawlCapability), e, s)
  else
    match seed e m.source with
    | .error why => (.error why, e, s)
    | .ok url =>
      match c.start url m.flavor mode s with
      | (.error why, s) => (.error why, e, s)
      | (.ok (.deferred run), s) => (.ok (.deferred run), e, s)
      | (.ok (.done r), s) =>
        let (count, e) := put m r e
        (.ok (.written count), e, s)

/-- Puts the results of a batch run that is over; says how many values there are, or
nothing while steps of it are queued. -/
def finish (run : Int) (m : Mapping) : Deed σ (Option Nat) := fun e s =>
  match collect run s with
  | (.error why, s) => (.error why, e, s)
  | (.ok none, s) => (.ok none, e, s)
  | (.ok (some r), s) =>
    let (count, e) := put m r e
    (.ok (some count), e, s)

end SiteWalk.Field
