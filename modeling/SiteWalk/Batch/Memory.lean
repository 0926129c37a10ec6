import SiteWalk.Batch.Store

/-!
# The store of one process

A stack of steps and a list of runs.  Steps may name runs that are not there.
-/

namespace SiteWalk.Batch

structure Memory where
  steps : List Queued := []
  runs : List (Int × Context) := []
  lastRun : Int := 0
  lastStep : Int := 0
  deriving DecidableEq, Inhabited

namespace Memory

/-- Puts a step on the stack. -/
def push (m : Memory) (s : Step) : Memory :=
  { m with steps := ⟨m.lastStep + 1, s⟩ :: m.steps, lastStep := m.lastStep + 1 }

def enqueue (s : Step) : Change Memory Unit := fun m => (.ok (), m.push s)

def discard (run : Int) (m : Memory) : Memory :=
  { m with steps := m.steps.filter fun q => q.step.run ≠ run }

def create (c : Context) (m : Memory) : Int × Memory :=
  (m.lastRun + 1,
    { m with runs := m.runs ++ [(m.lastRun + 1, c)], lastRun := m.lastRun + 1 })

def save (run : Int) (c : Context) : Change Memory Unit := fun m =>
  if hasRun run m.runs then (.ok (), { m with runs := replaced run c m.runs })
  else (.error (.missingRun run), m)

/-- Forgets a run; its steps stay. -/
def remove (run : Int) : Change Memory Unit := fun m =>
  if hasRun run m.runs then (.ok (), { m with runs := m.runs.filter fun r => r.1 ≠ run })
  else (.error (.missingRun run), m)

/-- Fails before anything is changed, or not at all. -/
def complete (id : Int) (new : List Step) (run : Int) (c : Context) : Change Memory Unit :=
  fun m =>
    if hasRun run m.runs then
      (.ok (), new.foldl push
        { m with
          runs := replaced run c m.runs
          steps := m.steps.filter fun q => q.id ≠ id })
    else (.error (.missingRun run), m)

/-! ## Lemmas -/

theorem queue_foldl_push (new : List Step) (m : Memory) :
    (new.foldl push m).steps.map Queued.step = new.reverse ++ m.steps.map Queued.step := by
  induction new generalizing m with
  | nil => rfl
  | cons s r ih => simp [ih, push]

instance : Store Memory where
  empty := {}
  queue := steps
  runs := runs
  enqueue := enqueue
  discard := discard
  create := create
  save := save
  remove := remove
  complete := complete
  queue_discard _ _ := rfl
  queue_save {run c s} _ := by
    unfold save
    split <;> rfl
  queue_complete {id run new c s} h := by
    unfold complete at h ⊢
    split
    · simp [queue_foldl_push]
    · next hr => simp [hr] at h

end Memory

end SiteWalk.Batch
