import SiteWalk.Batch.Store

/-!
# The store that outlives a process

Two tables, one of runs and one of steps, with rows in the order of their
numbers.  A step has to name a run of the other table: a step of an unknown run is
refused, and the steps of a run leave with it.  Numbers are never used twice.
-/

namespace SiteWalk.Batch

structure Relational where
  runs : List (Int × Context) := []
  steps : List Queued := []
  lastRun : Int := 0
  lastStep : Int := 0
  deriving DecidableEq, Inhabited

namespace Relational

/-! ## Statements -/

/-- Adds a row for a step. -/
def insert (s : Step) : Change Relational Unit := fun db =>
  if hasRun s.run db.runs then
    (.ok (), { db with
      steps := db.steps ++ [⟨db.lastStep + 1, s⟩]
      lastStep := db.lastStep + 1 })
  else (.error .danglingStep, db)

/-- Adds rows one after the other until one is refused. -/
def insertAll : List Step → Change Relational Unit
  | [], db => (.ok (), db)
  | s :: r, db =>
    match insert s db with
    | (.ok (), db) => insertAll r db
    | (.error e, db) => (.error e, db)

/-- Replaces the context of a run. -/
def update (run : Int) (c : Context) : Change Relational Unit := fun db =>
  if hasRun run db.runs then (.ok (), { db with runs := replaced run c db.runs })
  else (.error (.missingRun run), db)

/-- Removes the row of a step, if there is one. -/
def deleteStep (id : Int) (db : Relational) : Relational :=
  { db with steps := db.steps.filter fun q => q.id ≠ id }

/-- Removes the rows of the steps of a run. -/
def deleteSteps (run : Int) (db : Relational) : Relational :=
  { db with steps := db.steps.filter fun q => q.step.run ≠ run }

/-- Makes all changes of a body, or none if it fails. -/
def transaction {α : Type} (body : Change Relational α) : Change Relational α := fun db =>
  match body db with
  | (.ok a, db') => (.ok a, db')
  | (.error e, _) => (.error e, db)

/-! ## Operations -/

def create (c : Context) (db : Relational) : Int × Relational :=
  (db.lastRun + 1,
    { db with runs := db.runs ++ [(db.lastRun + 1, c)], lastRun := db.lastRun + 1 })

/-- Forgets a run and its steps. -/
def remove (run : Int) : Change Relational Unit := fun db =>
  if hasRun run db.runs then
    (.ok (), deleteSteps run { db with runs := db.runs.filter fun r => r.1 ≠ run })
  else (.error (.missingRun run), db)

def complete (id : Int) (new : List Step) (run : Int) (c : Context) : Change Relational Unit :=
  transaction fun db =>
    match update run c db with
    | (.ok (), db) => insertAll new (deleteStep id db)
    | (.error e, db) => (.error e, db)

/-! ## Lemmas -/

theorem steps_of_insertAll {new : List Step} {db : Relational}
    (h : (insertAll new db).1 = .ok ()) :
    (insertAll new db).2.steps.map Queued.step = db.steps.map Queued.step ++ new := by
  induction new generalizing db with
  | nil => simp [insertAll]
  | cons s r ih =>
    unfold insertAll at h ⊢
    unfold insert at h ⊢
    by_cases hr : hasRun s.run db.runs
    · simp only [hr, if_true] at h ⊢
      rw [ih h]
      simp
    · simp [hr] at h

theorem transaction_of_ok {α : Type} {body : Change Relational α} {db : Relational} {a : α}
    (h : (transaction body db).1 = .ok a) :
    (body db).1 = .ok a ∧ (transaction body db).2 = (body db).2 := by
  unfold transaction at h ⊢
  split
  · next b db' heq => simp_all
  · next heq => simp [heq] at h

instance : Store Relational where
  empty := {}
  queue db := db.steps.reverse
  runs := runs
  enqueue := insert
  discard := deleteSteps
  create := create
  save := update
  remove := remove
  complete := complete
  queue_discard _ _ := by simp [deleteSteps, List.filter_reverse]
  queue_save {run c s} _ := by
    unfold update
    split <;> rfl
  queue_complete {id run new c s} h := by
    obtain ⟨h, e⟩ := transaction_of_ok h
    show ((complete id new run c s).2.steps.reverse).map Queued.step = _
    unfold complete
    rw [e]
    unfold update at h ⊢
    by_cases hr : hasRun run s.runs
    · simp only [hr, if_true] at h ⊢
      rw [List.map_reverse, steps_of_insertAll h]
      simp [deleteStep, List.filter_reverse, List.map_reverse]
    · simp [hr] at h

end Relational

end SiteWalk.Batch
