import SiteWalk.Batch.Basic

/-!
# Stores

What a store of batch runs offers.  Its queue is a stack: steps are taken from
where they were put last.  A step leaves the queue when it is completed, which
also replaces the context of its run and adds the steps that follow.

    queue (discard s r) = (queue s).filter fun q => q.step.run ≠ r
    queue (complete s id new r c) = new.reverse ++ (queue s).filter fun q => q.id ≠ id
-/

namespace SiteWalk.Batch

/-- A change of a store, with its answer. -/
abbrev Change (σ α : Type) := σ → Except StoreError α × σ

class Store (σ : Type) where
  empty : σ
  /-- The queued steps, the one that was added last in front. -/
  queue : σ → List Queued
  /-- The runs with their contexts, oldest first. -/
  runs : σ → List (Int × Context)
  enqueue : Step → Change σ Unit
  /-- Drops the steps of a run. -/
  discard : Int → σ → σ
  /-- Adds a run; its number has not been used before. -/
  create : Context → σ → Int × σ
  save : Int → Context → Change σ Unit
  remove : Int → Change σ Unit
  complete : Int → List Step → Int → Context → Change σ Unit
  queue_discard (run : Int) (s : σ) :
    queue (discard run s) = (queue s).filter fun q => q.step.run ≠ run
  queue_save {run : Int} {c : Context} {s : σ} (h : (save run c s).1 = .ok ()) :
    queue (save run c s).2 = queue s
  queue_complete {id run : Int} {new : List Step} {c : Context} {s : σ}
    (h : (complete id new run c s).1 = .ok ()) :
    (queue (complete id new run c s).2).map Queued.step =
      new.reverse ++ ((queue s).filter fun q => q.id ≠ id).map Queued.step

namespace Store

variable {σ : Type} [Store σ]

/-- The step that is taken next. -/
def peek? (s : σ) : Option Queued := (queue s).head?

/-- How many steps of a run are queued. -/
def pending (run : Int) (s : σ) : Nat := ((queue s).filter fun q => q.step.run = run).length

def load (run : Int) (s : σ) : Except StoreError Context :=
  match (runs s).lookup run with
  | some c => .ok c
  | none => .error (.missingRun run)

def runIds (s : σ) : List Int := (runs s).map Prod.fst

end Store

/-! ## Tables of runs -/

/-- The runs with the context of one of them replaced. -/
def replaced (run : Int) (c : Context) (runs : List (Int × Context)) : List (Int × Context) :=
  runs.map fun r => if r.1 = run then (run, c) else r

def hasRun (run : Int) (runs : List (Int × Context)) : Bool := runs.any fun r => r.1 == run

end SiteWalk.Batch
