import SiteWalk.Batch.Coordinator
import SiteWalk.Batch.Memory
import SiteWalk.Batch.Relational

/-!
# Stores seen as stacks

Every store is seen as the store of one process: a stack of steps, a list of runs and
the two numbers given out last.  `LawfulStore` asks of each operation that it does to
the view what the store of one process does, with the same answer.  Some operations
have to do so only if no step is left without its run, which coordinators see to
(`Memory.Closed`).

    Session.view (f s) = f (Session.view s)        for all that coordinators do
-/

namespace SiteWalk.Batch

open Crawl

/-- An answer with the view of the state behind it. -/
def seen {σ α : Type} (view : σ → Memory) (x : α × σ) : α × Memory := (x.1, view x.2)

class LawfulStore (σ : Type) [Store σ] where
  view : σ → Memory
  view_empty : view Store.empty = {}
  queue_eq (s : σ) : Store.queue s = (view s).steps
  runs_eq (s : σ) : Store.runs s = (view s).runs
  view_discard (run : Int) (s : σ) : view (Store.discard run s) = (view s).discard run
  view_create (c : Context) (s : σ) : seen view (Store.create c s) = (view s).create c
  view_save (run : Int) (c : Context) (s : σ) :
    seen view (Store.save run c s) = Memory.save run c (view s)
  view_enqueue {t : Step} {s : σ} (h : hasRun t.run (view s).runs = true) :
    seen view (Store.enqueue t s) = Memory.enqueue t (view s)
  view_remove {run : Int} {s : σ} (h : ∀ q ∈ (view s).steps, q.step.run ≠ run) :
    seen view (Store.remove run s) = Memory.remove run (view s)
  view_complete {id run : Int} {new : List Step} {c : Context} {s : σ}
    (h : ∀ t ∈ new, hasRun t.run (view s).runs = true) :
    seen view (Store.complete id new run c s) = Memory.complete id new run c (view s)

namespace Memory

/-- No step is left without its run. -/
def Closed (m : Memory) : Prop := ∀ q ∈ m.steps, hasRun q.step.run m.runs = true

end Memory

theorem hasRun_replaced (run run' : Int) (c : Context) (runs : List (Int × Context)) :
    hasRun run' (replaced run c runs) = hasRun run' runs := by
  unfold hasRun replaced
  rw [List.any_map]
  congr 1
  funext x
  by_cases hx : x.1 = run <;> simp [hx]

/-! ## The two stores -/

instance : LawfulStore Memory where
  view m := m
  view_empty := rfl
  queue_eq _ := rfl
  runs_eq _ := rfl
  view_discard _ _ := rfl
  view_create _ _ := rfl
  view_save _ _ _ := rfl
  view_enqueue _ := rfl
  view_remove _ := rfl
  view_complete _ := rfl

namespace Relational

/-- The rows of the steps with the last one on top. -/
def view (db : Relational) : Memory :=
  { steps := db.steps.reverse, runs := db.runs, lastRun := db.lastRun, lastStep := db.lastStep }

theorem view_insert {t : Step} {db : Relational} (h : hasRun t.run db.runs = true) :
    seen view (insert t db) = Memory.enqueue t db.view := by
  unfold insert
  rw [if_pos h]
  simp [seen, view, Memory.enqueue, Memory.push]

theorem view_insertAll {new : List Step} {db : Relational}
    (h : ∀ t ∈ new, hasRun t.run db.runs = true) :
    seen view (insertAll new db) = (.ok (), new.foldl Memory.push db.view) := by
  induction new generalizing db with
  | nil => rfl
  | cons t new ih =>
    have ht : hasRun t.run db.runs = true := h t List.mem_cons_self
    have hi := view_insert ht
    unfold insertAll
    rw [List.foldl_cons]
    unfold insert at hi ⊢
    rw [if_pos ht] at hi ⊢
    have hv := congrArg Prod.snd hi
    simp only [seen, Memory.enqueue] at hv
    rw [← hv]
    exact ih fun t' ht' => h t' (List.mem_cons_of_mem _ ht')

theorem view_complete {id run : Int} {new : List Step} {c : Context} {db : Relational}
    (h : ∀ t ∈ new, hasRun t.run db.runs = true) :
    seen view (complete id new run c db) = Memory.complete id new run c db.view := by
  by_cases hr : hasRun run db.runs = true
  · have hd : ∀ t ∈ new, hasRun t.run
        (deleteStep id { db with runs := replaced run c db.runs }).runs = true := by
      intro t ht
      show hasRun t.run (replaced run c db.runs) = true
      rw [hasRun_replaced]
      exact h t ht
    have hi := view_insertAll hd
    unfold complete transaction update Memory.complete
    simp only [hr, if_true, show hasRun run db.view.runs = true from hr]
    generalize insertAll new (deleteStep id { db with runs := replaced run c db.runs }) = x at hi
    obtain ⟨a, db'⟩ := x
    simp only [seen, Prod.mk.injEq] at hi
    obtain ⟨rfl, hv⟩ := hi
    simp only [seen, hv]
    simp [view, deleteStep, List.filter_reverse]
  · unfold complete transaction update Memory.complete
    simp only [hr, show ¬ hasRun run db.view.runs = true from hr]
    rfl

instance : LawfulStore Relational where
  view := view
  view_empty := rfl
  queue_eq _ := rfl
  runs_eq _ := rfl
  view_discard run db := by
    show view (deleteSteps run db) = _
    simp [view, deleteSteps, Memory.discard, List.filter_reverse]
  view_create _ _ := rfl
  view_save run c db := by
    show seen view (update run c db) = _
    unfold update Memory.save
    by_cases hr : hasRun run db.runs = true
    · simp only [hr, if_true, show hasRun run db.view.runs = true from hr]
      rfl
    · simp only [hr, show ¬ hasRun run db.view.runs = true from hr]
      rfl
  view_enqueue h := view_insert h
  view_remove {run db} h := by
    show seen view (remove run db) = _
    have hs : db.steps.filter (fun q => q.step.run ≠ run) = db.steps := by
      rw [List.filter_eq_self]
      intro q hq
      exact decide_eq_true (h q (List.mem_reverse.2 hq))
    unfold remove Memory.remove
    by_cases hr : hasRun run db.runs = true
    · simp only [hr, if_true, show hasRun run db.view.runs = true from hr]
      unfold seen deleteSteps view
      dsimp only
      rw [hs]
    · simp only [hr, show ¬ hasRun run db.view.runs = true from hr]
      rfl
  view_complete h := view_complete h

end Relational

/-! ## Runs in the view -/

theorem hasRun_iff {run : Int} {runs : List (Int × Context)} :
    hasRun run runs = true ↔ ∃ c, runs.lookup run = some c := by
  induction runs with
  | nil => simp [hasRun]
  | cons x runs ih =>
    unfold hasRun at ih ⊢
    rw [List.any_cons, List.lookup_cons]
    by_cases hx : x.1 = run
    · simp [hx]
    · have h1 : (x.1 == run) = false := beq_eq_false_iff_ne.2 hx
      have h2 : (run == x.1) = false := beq_eq_false_iff_ne.2 (Ne.symm hx)
      rw [h1, h2, Bool.false_or]
      exact ih

namespace Memory

/-- What is kept of a run. -/
def context? (run : Int) (m : Memory) : Option Context := m.runs.lookup run

/-- The steps of a run, the one that is next in front. -/
def stepsOf (run : Int) (m : Memory) : List Step :=
  (m.steps.filter fun q => q.step.run = run).map Queued.step

theorem run_ne_of_stepsOf {run : Int} {m : Memory} (h : m.stepsOf run = []) :
    ∀ q ∈ m.steps, q.step.run ≠ run := by
  intro q hq hr
  have hm : q.step ∈ m.stepsOf run :=
    List.mem_map_of_mem (List.mem_filter.2 ⟨hq, decide_eq_true hr⟩)
  rw [h] at hm
  cases hm

end Memory

variable {σ : Type} [Store σ] [LawfulStore σ]

/-- A session with the view of its store. -/
def Session.view (s : Session σ) : Session Memory := ⟨LawfulStore.view s.store, s.env⟩

theorem Session.view_discard (run : Int) (s : Session σ) :
    view { s with store := Store.discard run s.store } = ⟨s.view.store.discard run, s.env⟩ := by
  unfold view
  rw [LawfulStore.view_discard]

theorem load_some {s : Session σ} {run : Int} {c : Context}
    (h : s.view.store.context? run = some c) : Store.load run s.store = .ok c := by
  have h : (LawfulStore.view s.store).runs.lookup run = some c := h
  unfold Store.load
  rw [LawfulStore.runs_eq, h]

theorem load_none {s : Session σ} {run : Int} (h : s.view.store.context? run = none) :
    Store.load run s.store = .error (.missingRun run) := by
  have h : (LawfulStore.view s.store).runs.lookup run = none := h
  unfold Store.load
  rw [LawfulStore.runs_eq, h]

theorem load_eq (run : Int) (s : Session σ) : Store.load run s.store =
    match s.view.store.context? run with
    | some c => .ok c
    | none => .error (.missingRun run) := by
  cases h : s.view.store.context? run with
  | none => exact load_none h
  | some c => exact load_some h

theorem context_of_load {s : Session σ} {run : Int} {c : Context}
    (h : Store.load run s.store = .ok c) : s.view.store.context? run = some c := by
  rw [load_eq] at h
  split at h
  · next hc =>
    cases h
    exact hc
  · cases h

theorem peek?_eq (s : σ) : Store.peek? s = (LawfulStore.view s).steps.head? := by
  unfold Store.peek?
  rw [LawfulStore.queue_eq]

theorem pending_eq (run : Int) (s : σ) :
    Store.pending run s = ((LawfulStore.view s).stepsOf run).length := by
  unfold Store.pending Memory.stepsOf
  rw [LawfulStore.queue_eq, List.length_map]

/-- A change that is made does to the session what it does to the view of the store. -/
theorem Session.change_of_seen {α : Type} {f : Change σ α} {s : Session σ} {a : α} {m : Memory}
    (h : seen LawfulStore.view (f s.store) = (.ok a, m)) :
    ∃ s', Session.change f s = (.ok a, s') ∧ s'.view = ⟨m, s.env⟩ := by
  unfold seen at h
  obtain ⟨h1, h2⟩ := Prod.mk.inj h
  unfold Session.change
  generalize f s.store = x at h1 h2
  obtain ⟨b, store⟩ := x
  obtain rfl : b = .ok a := h1
  exact ⟨⟨store, s.env⟩, rfl, by unfold Session.view; rw [← h2]⟩

end SiteWalk.Batch
