import SiteWalk.Crawl.Basic
import SiteWalk.Settings.Form

/-!
# Batch runs

A batch run is a crawl cut into steps that wait in a queue.  A step carries the
settings that it runs under and their digest; what the run has collected so far
is its context.
-/

namespace SiteWalk.Batch

open Crawl

/-- One node of a run that waits to be visited. -/
structure Step where
  run : Int
  node : Node
  flavor : Flavor
  settings : Settings
  digest : String
  deriving DecidableEq, Inhabited

namespace Step

/-- The step for a child of a step's node: it runs under the same settings. -/
def child (s : Step) (n : Node) : Step := { s with node := n }

/-- How far the node of a step may still be followed. -/
def depth (s : Step) : Nat := s.node.remaining

end Step

/-- A step with its number in the queue. -/
structure Queued where
  id : Int
  step : Step
  deriving DecidableEq, Inhabited

/-- What a run keeps between its steps. -/
structure Context where
  seed : String
  flavor : Flavor
  digest : String
  progress : Progress := {}
  report : Report := {}
  cancelled : Bool := false
  deriving DecidableEq, Inhabited

/-- The context of a run that is called off. -/
def Context.cancel (c : Context) : Context :=
  { c with cancelled := true, report := { c.report with cancelled := true } }

/-- Why a store refuses. -/
inductive StoreError where
  /-- There is no such run. -/
  | missingRun (run : Int)
  /-- A step names a run that is not there. -/
  | danglingStep
  /-- A step carries other settings than its run was started with. -/
  | mismatch (run : Int) (expected found : String)
  deriving DecidableEq, Repr, Inhabited

def StoreError.message : StoreError → String
  | .missingRun run => "Run not found: " ++ run.repr
  | .danglingStep => "SQLite error: FOREIGN KEY constraint failed"
  | .mismatch run expected found =>
    "Run " ++ run.repr ++ " was started with settings " ++ expected ++ ", step carries " ++ found

end SiteWalk.Batch
