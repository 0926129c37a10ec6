import SiteWalk.Proofs.Batch.Grounded

/-!
# Steps are completed in full or not at all

Completing a step removes it, puts the steps that follow on the queue and replaces the
context of its run.  Where one of these cannot be done none is: the store is the one from
before, with the numbers that are given out next.  Where all can be done the new steps lie
above all others, under numbers that no step has had so far.

    hasRun run m.runs = true → Completed id new run c m (Memory.complete id new run c m).2
                                                                          (completed_memory)
    (transaction body db).1 = .error e → (transaction body db).2 = db  (transaction_of_error)
-/

namespace SiteWalk.Batch

section

variable {σ : Type} [Store σ]

/-- The step with the number has given way to `added`, which are new steps with numbers that
grow towards the top; the context of the run is replaced, and all else is as before. -/
structure Completed (id : Int) (new : List Step) (run : Int) (c : Context) (s s' : σ)
    (added : List Queued) : Prop where
  queue : Store.queue s' = added ++ (Store.queue s).filter fun q => q.id ≠ id
  steps : added.map Queued.step = new.reverse
  rising : added.Pairwise fun a b => b.id < a.id
  gone : ∀ q ∈ Store.queue s, q.id = id → q ∉ Store.queue s'
  context : Store.load run s' = .ok c
  others : ∀ run', run' ≠ run → Store.load run' s' = Store.load run' s
  runs : Store.runIds s' = Store.runIds s

end

theorem load_congr {σ τ : Type} [Store σ] [Store τ] {s : σ} {s' : τ} {run : Int}
    (h : (Store.runs s).lookup run = (Store.runs s').lookup run) :
    Store.load run s = Store.load run s' := by
  unfold Store.load
  rw [h]

/-! ## Numbers -/

namespace Memory

theorem lastStep_foldl_push (new : List Step) (m : Memory) :
    m.lastStep ≤ (new.foldl push m).lastStep := by
  induction new generalizing m with
  | nil => exact Int.le_refl _
  | cons t new ih =>
    have pushed : m.lastStep + 1 ≤ (new.foldl push (m.push t)).lastStep := ih (m.push t)
    show m.lastStep ≤ (new.foldl push (m.push t)).lastStep
    omega

/-- Numbers are never given back. -/
theorem lastStep_perform (m : Memory) (o : Operation) : m.lastStep ≤ (o.perform m).lastStep := by
  cases o with
  | create c => exact Int.le_refl _
  | discard run => exact Int.le_refl _
  | enqueue t =>
    show m.lastStep ≤ m.lastStep + 1
    omega
  | save run c =>
    show m.lastStep ≤ (save run c m).2.lastStep
    unfold save
    split <;> exact Int.le_refl _
  | remove run =>
    show m.lastStep ≤ (remove run m).2.lastStep
    unfold remove
    split <;> exact Int.le_refl _
  | complete id new run c =>
    show m.lastStep ≤ (complete id new run c m).2.lastStep
    unfold complete
    split
    · exact lastStep_foldl_push new _
    · exact Int.le_refl _

theorem lastStep_operations (m : Memory) (os : List Operation) :
    m.lastStep ≤ (os.foldl Operation.perform m).lastStep := by
  induction os generalizing m with
  | nil => exact Int.le_refl _
  | cons o os ih => exact Int.le_trans (m.lastStep_perform o) (ih (o.perform m))

end Memory

section

variable {σ : Type} [Store σ] [LawfulStore σ] [LawfulOperations σ]

theorem lastStep_le (s : σ) (ops : List Operation) :
    (LawfulStore.view s).lastStep ≤
      (LawfulStore.view (ops.foldl Operation.perform s)).lastStep := by
  induction ops generalizing s with
  | nil => exact Int.le_refl _
  | cons o ops ih =>
    obtain ⟨os, hos⟩ := LawfulOperations.view_perform s o
    have first := (LawfulStore.view s).lastStep_operations os
    rw [← hos] at first
    exact Int.le_trans first (ih (o.perform s))

/-- No step has had a number above the one that was given out last. -/
theorem id_le_lastStep {before : List Operation} {q : Queued} (after : List Operation)
    (h : q ∈ Store.queue (operate before : σ)) :
    q.id ≤ (LawfulStore.view (operate (before ++ after) : σ)).lastStep := by
  rw [LawfulStore.queue_eq] at h
  have early := (orderly_operate before).steps_le q h
  have later := lastStep_le (operate before : σ) after
  unfold operate at early later ⊢
  rw [List.foldl_append]
  exact Int.le_trans early later

end

/-! ## The store of one process -/

/-- All that has to be done can be done where the run is there. -/
theorem completed_memory {m : Memory} {run : Int} (id : Int) (new : List Step) (c : Context)
    (orderly : m.Orderly) (stored : hasRun run m.runs = true) :
    ∃ added, Completed id new run c m (Memory.complete id new run c m).2 added ∧
      ∀ a ∈ added, m.lastStep < a.id := by
  obtain ⟨c', known⟩ := hasRun_iff.1 stored
  have context (run' : Int) : (Memory.complete id new run c m).2.context? run' =
      if run' = run then some c else m.context? run' := Memory.context?_complete known
  obtain ⟨added, hs, ht, hid⟩ := Memory.steps_foldl_push new
    { m with runs := replaced run c m.runs, steps := m.steps.filter fun q => q.id ≠ id }
  have whole : (Memory.complete id new run c m).2 = new.foldl Memory.push
      { m with runs := replaced run c m.runs, steps := m.steps.filter fun q => q.id ≠ id } := by
    unfold Memory.complete
    rw [if_pos stored]
  rw [← whole] at hs
  refine ⟨added, ?_, hid⟩
  constructor
  · exact hs
  · exact ht
  · have ordered := (orderly.perform (.complete id new run c)).ordered
    have queue : (Operation.perform m (.complete id new run c)).steps = added ++ _ := hs
    rw [queue] at ordered
    exact (List.pairwise_append.1 ordered).1
  · intro q hq same left
    have left : q ∈ (Memory.complete id new run c m).2.steps := left
    rw [hs] at left
    rcases List.mem_append.1 left with above | kept
    · -- What is new has a number that no step had.
      have high : m.lastStep < q.id := hid q above
      have low := orderly.steps_le q hq
      omega
    · exact of_decide_eq_true (List.mem_filter.1 kept).2 same
  · have here := context run
    rw [if_pos rfl] at here
    show Store.load run (Memory.complete id new run c m).2 = .ok c
    unfold Store.load
    have here : (Store.runs (Memory.complete id new run c m).2).lookup run = some c := here
    rw [here]
  · intro run' other
    have there := context run'
    rw [if_neg other] at there
    exact load_congr there
  · show (Memory.complete id new run c m).2.runs.map Prod.fst = m.runs.map Prod.fst
    rw [whole, (Memory.pushed new _).1]
    exact runIds_replaced run c m.runs

/-! ## The store that outlives a process -/

section

variable {σ : Type} [Store σ] [LawfulStore σ]

/-- What is done in the view is done. -/
theorem Completed.of_view {id run : Int} {new : List Step} {c : Context} {s s' : σ}
    {added : List Queued}
    (h : Completed id new run c (LawfulStore.view s) (LawfulStore.view s') added) :
    Completed id new run c s s' added := by
  have load (run' : Int) (s : σ) : Store.load run' (LawfulStore.view s) = Store.load run' s :=
    load_congr (congrArg (List.lookup run') (LawfulStore.runs_eq s).symm)
  have runs (s : σ) : Store.runIds (LawfulStore.view s) = Store.runIds s := by
    unfold Store.runIds
    rw [LawfulStore.runs_eq s]
    rfl
  have queue (s : σ) : Store.queue (LawfulStore.view s) = Store.queue s :=
    (LawfulStore.queue_eq s).symm
  constructor
  · rw [← queue s, ← queue s']
    exact h.queue
  · exact h.steps
  · exact h.rising
  · rw [← queue s, ← queue s']
    exact h.gone
  · rw [← load run s']
    exact h.context
  · intro run' other
    rw [← load run' s', ← load run' s]
    exact h.others run' other
  · rw [← runs s', ← runs s]
    exact h.runs

end

namespace Relational

section

variable {α : Type} {body : Change Relational α} {db : Relational}

theorem transaction_answer : (transaction body db).1 = (body db).1 := by
  unfold transaction
  generalize body db = x
  obtain ⟨a, db'⟩ := x
  cases a <;> rfl

/-- What has failed has changed nothing, whatever was done before the failure. -/
theorem transaction_of_error {e : StoreError} (h : (transaction body db).1 = .error e) :
    (transaction body db).2 = db := by
  unfold transaction at h ⊢
  generalize body db = x at h ⊢
  obtain ⟨a, db'⟩ := x
  cases a with
  | ok => cases h
  | error => rfl

end

theorem insertAll_answer (new : List Step) (db : Relational) :
    (insertAll new db).1 =
      if ∀ t ∈ new, hasRun t.run db.runs = true then .ok () else .error .danglingStep := by
  induction new generalizing db with
  | nil => rfl
  | cons t new ih =>
    unfold insertAll insert
    by_cases stored : hasRun t.run db.runs = true
    · rw [if_pos stored]
      dsimp only
      rw [ih]
      simp only [List.forall_mem_cons, stored, true_and]
    · rw [if_neg stored, if_neg fun all => stored (all t List.mem_cons_self)]

/-- A step is completed if its run is there and the runs of all new steps are; the run of the
step is looked for first. -/
theorem complete_answer (id : Int) (new : List Step) (run : Int) (c : Context) (db : Relational) :
    (complete id new run c db).1 =
      if hasRun run db.runs = true then
        if ∀ t ∈ new, hasRun t.run db.runs = true then .ok () else .error .danglingStep
      else .error (.missingRun run) := by
  unfold complete
  rw [transaction_answer]
  unfold update
  by_cases stored : hasRun run db.runs = true
  · rw [if_pos stored, if_pos stored]
    dsimp only
    rw [insertAll_answer]
    simp only [show (deleteStep id { db with runs := replaced run c db.runs }).runs =
      replaced run c db.runs from rfl, hasRun_replaced]
  · rw [if_neg stored, if_neg stored]

end Relational

/-! ## Both stores -/

/-- After the operations the step is completed in full, with numbers that no step has had in any
store on the way, or all is as it was. -/
def InFullOrNot (σ : Type) [Store σ] (ops : List Operation) (id : Int) (new : List Step)
    (run : Int) (c : Context) : Prop :=
  let s : σ := operate ops
  match Store.complete id new run c s with
  | (.error _, s') => s' = s
  | (.ok (), s') => ∃ added, Completed id new run c s s' added ∧
    ∀ before after, ops = before ++ after →
      ∀ q ∈ Store.queue (operate before : σ), ∀ a ∈ added, q.id < a.id

/-- Where a store that completes a step does to its view what the store of one process does,
and keeps all where it does not. -/
theorem inFullOrNot_of {σ : Type} [Store σ] [LawfulStore σ] [LawfulOperations σ]
    {ops : List Operation} {id : Int} {new : List Step} {run : Int} {c : Context}
    (failed : ∀ e, (Store.complete id new run c (operate ops : σ)).1 = .error e →
      (Store.complete id new run c (operate ops : σ)).2 = operate ops)
    (done : (Store.complete id new run c (operate ops : σ)).1 = .ok () →
      hasRun run (LawfulStore.view (operate ops : σ)).runs = true ∧
        seen LawfulStore.view (Store.complete id new run c (operate ops : σ)) =
          Memory.complete id new run c (LawfulStore.view (operate ops : σ))) :
    InFullOrNot σ ops id new run c := by
  unfold InFullOrNot
  dsimp only
  generalize Store.complete id new run c (operate ops : σ) = x at failed done ⊢
  obtain ⟨a, s'⟩ := x
  cases a with
  | error e => exact failed e rfl
  | ok =>
    obtain ⟨stored, same⟩ := done rfl
    obtain ⟨added, completed, high⟩ :=
      completed_memory id new c (orderly_operate (σ := σ) ops) stored
    have same : LawfulStore.view s' =
        (Memory.complete id new run c (LawfulStore.view (operate ops : σ))).2 :=
      congrArg Prod.snd same
    rw [← same] at completed
    refine ⟨added, .of_view completed, ?_⟩
    rintro before after rfl q hq a ha
    have low := id_le_lastStep after hq
    have above := high a ha
    omega

theorem Memory.complete_answer (id : Int) (new : List Step) (run : Int) (c : Context)
    (m : Memory) : (complete id new run c m).1 =
      if hasRun run m.runs = true then .ok () else .error (.missingRun run) := by
  unfold complete
  split <;> rfl

/-- **A step is completed in full or not at all.**  After whatever operations, for each number,
list of new steps, run and context: a store that refuses is the store from before, and one that
does not has lost the step with the number, if there was one, has the new steps above all
others, in order and under numbers that were never used, has replaced the context of the run
and has left all else alone.  The store of one process refuses if the run is not there.  The
store that outlives a process also refuses if a run of a new step is not there. -/
theorem completed_or_untouched (ops : List Operation) (id : Int) (new : List Step) (run : Int)
    (c : Context) :
    (InFullOrNot Memory ops id new run c ∧
      (Store.complete id new run c (operate ops : Memory)).1 =
        if run ∈ Store.runIds (operate ops : Memory) then .ok () else .error (.missingRun run)) ∧
    (InFullOrNot Relational ops id new run c ∧
      (Store.complete id new run c (operate ops : Relational)).1 =
        if run ∈ Store.runIds (operate ops : Relational) then
          if ∀ t ∈ new, t.run ∈ Store.runIds (operate ops : Relational) then .ok ()
          else .error .danglingStep
        else .error (.missingRun run)) := by
  refine ⟨⟨inFullOrNot_of ?_ ?_, ?_⟩, inFullOrNot_of ?_ ?_, ?_⟩
  · intro e failed
    show (Memory.complete id new run c (operate ops)).2 = operate ops
    have failed : (Memory.complete id new run c (operate ops)).1 = .error e := failed
    unfold Memory.complete at failed ⊢
    split at failed
    · cases failed
    · next missing => rw [if_neg missing]
  · intro done
    have done : (Memory.complete id new run c (operate ops)).1 = .ok () := done
    rw [Memory.complete_answer] at done
    split at done
    · next stored => exact ⟨stored, rfl⟩
    · cases done
  · simp only [Store.runIds, mem_runIds_iff]
    exact Memory.complete_answer id new run c _
  · intro e failed
    exact Relational.transaction_of_error failed
  · intro done
    have done : (Relational.complete id new run c (operate ops)).1 = .ok () := done
    rw [Relational.complete_answer] at done
    split at done
    · next stored =>
      split at done
      · next others => exact ⟨stored, LawfulStore.view_complete others⟩
      · cases done
    · cases done
  · simp only [Store.runIds, mem_runIds_iff]
    exact Relational.complete_answer id new run c _

end SiteWalk.Batch
