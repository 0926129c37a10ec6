import SiteWalk.Proofs.Batch.Tampered

/-!
# Steps without a run

The store that outlives a process refuses a step of an unknown run and drops the steps of a
run with it.  So whatever is done to it, every queued step belongs to a stored run.  The
store of one process does neither.  Where its users queue steps of stored runs only
(`Grounded`), a step has lost its run just if it was queued already when that was removed
(`Tended`).

    (operate ops : Relational).Keyed                              (Relational.keyed_operate)
    AllGrounded ops Store.empty → Tended ops (operate ops : Memory)          (tended_operate)
-/

namespace SiteWalk.Batch

section

variable {σ : Type} [Store σ]

/-- Steps are queued for stored runs only. -/
def Operation.Grounded (s : σ) : Operation → Prop
  | .enqueue t => t.run ∈ Store.runIds s
  | .complete _ new _ _ => ∀ t ∈ new, t.run ∈ Store.runIds s
  | .create _ | .save _ _ | .remove _ | .discard _ => True

/-- Each operation is grounded where it is done. -/
def AllGrounded : List Operation → σ → Prop
  | [], _ => True
  | o :: ops, s => o.Grounded s ∧ AllGrounded ops (o.perform s)

end

theorem mem_runIds_iff {run : Int} {runs : List (Int × Context)} :
    run ∈ runs.map Prod.fst ↔ hasRun run runs = true := by
  unfold hasRun
  rw [List.mem_map, List.any_eq_true]
  constructor
  · rintro ⟨x, hx, rfl⟩
    exact ⟨x, hx, beq_self_eq_true _⟩
  · rintro ⟨x, hx, same⟩
    exact ⟨x, hx, beq_iff_eq.1 same⟩

/-! ## The store that outlives a process -/

namespace Relational

/-- No row of a step is left without the row of its run. -/
def Keyed (db : Relational) : Prop := ∀ q ∈ db.steps, hasRun q.step.run db.runs = true

theorem Keyed.of_sublist {db db' : Relational} (h : db.Keyed) (hs : db'.steps.Sublist db.steps)
    (hr : ∀ run, hasRun run db.runs = true → hasRun run db'.runs = true) : db'.Keyed :=
  fun q hq => hr _ (h q (hs.subset hq))

/-- A row is added only for a step whose run is there. -/
theorem Keyed.insert {db : Relational} (h : db.Keyed) (t : Step) : (insert t db).2.Keyed := by
  unfold Relational.insert
  by_cases hr : hasRun t.run db.runs = true
  · rw [if_pos hr]
    intro q hq
    rcases List.mem_append.1 hq with hq | hq
    · exact h q hq
    · obtain rfl := List.mem_singleton.1 hq
      exact hr
  · rw [if_neg hr]
    exact h

theorem Keyed.insertAll {db : Relational} (h : db.Keyed) (new : List Step) :
    (insertAll new db).2.Keyed := by
  induction new generalizing db with
  | nil => exact h
  | cons t new ih =>
    have ht := h.insert t
    unfold Relational.insertAll
    generalize Relational.insert t db = x at ht
    obtain ⟨a, db'⟩ := x
    cases a with
    | ok => exact ih ht
    | error => exact ht

theorem Keyed.update {db : Relational} (h : db.Keyed) (run : Int) (c : Context) :
    (update run c db).2.Keyed := by
  unfold Relational.update
  split
  · intro q hq
    show hasRun q.step.run (replaced run c db.runs) = true
    rw [hasRun_replaced]
    exact h q hq
  · exact h

/-- A transaction keeps what its body keeps. -/
theorem Keyed.transaction {α : Type} {body : Change Relational α} {db : Relational}
    (h : db.Keyed) (kept : (body db).2.Keyed) : (transaction body db).2.Keyed := by
  unfold Relational.transaction
  generalize body db = x at kept
  obtain ⟨a, db'⟩ := x
  cases a with
  | ok => exact kept
  | error => exact h

/-- The steps of a run leave with it. -/
theorem Keyed.remove {db : Relational} (h : db.Keyed) (run : Int) : (remove run db).2.Keyed := by
  unfold Relational.remove
  split
  · intro q hq
    obtain ⟨hq, other⟩ := List.mem_filter.1 hq
    have stored := mem_runIds_iff.2 (h q hq)
    obtain ⟨x, hx, same⟩ := List.mem_map.1 stored
    refine mem_runIds_iff.1 (List.mem_map.2 ⟨x, List.mem_filter.2 ⟨hx, ?_⟩, same⟩)
    rw [same]
    exact other
  · exact h

theorem Keyed.complete {db : Relational} (h : db.Keyed) (id : Int) (new : List Step) (run : Int)
    (c : Context) : (complete id new run c db).2.Keyed := by
  refine h.transaction ?_
  have hu := h.update run c
  generalize Relational.update run c db = x at hu
  obtain ⟨a, db'⟩ := x
  cases a with
  | ok =>
    have deleted : (deleteStep id db').Keyed := hu.of_sublist List.filter_sublist fun _ hr => hr
    exact deleted.insertAll new
  | error => exact hu

theorem Keyed.perform {db : Relational} (h : db.Keyed) (o : Operation) : (o.perform db).Keyed := by
  cases o with
  | create c =>
    refine h.of_sublist (List.Sublist.refl _) fun run hr => ?_
    show hasRun run (db.runs ++ [(db.lastRun + 1, c)]) = true
    unfold hasRun at hr ⊢
    rw [List.any_append, hr, Bool.true_or]
  | save run c => exact h.update run c
  | remove run => exact h.remove run
  | enqueue t => exact h.insert t
  | discard run => exact h.of_sublist List.filter_sublist fun _ hr => hr
  | complete id new run c => exact h.complete id new run c

/-- **Whatever operations were done, no step is left without its run.** -/
theorem keyed_operate (ops : List Operation) : (operate ops : Relational).Keyed := by
  have run : ∀ db : Relational, db.Keyed → (ops.foldl Operation.perform db).Keyed := by
    induction ops with
    | nil => exact fun _ h => h
    | cons o ops ih => exact fun db h => ih (o.perform db) (h.perform o)
  exact run Store.empty fun _ hq => nomatch hq

end Relational

/-! ## The store of one process -/

/-- What has become of the steps in a store that was empty before the operations: the run of a
step is there, or it was removed when the step was queued already. -/
def Tended (done : List Operation) (m : Memory) : Prop :=
  ∀ q ∈ m.steps, hasRun q.step.run m.runs = true ∨
    ∃ before after, done = before ++ .remove q.step.run :: after ∧
      q ∈ (operate before : Memory).steps

namespace Memory

theorem mem_push_foldl {new : List Step} {m : Memory} {q : Queued}
    (h : q ∈ (new.foldl push m).steps) : q ∈ m.steps ∨ q.step ∈ new := by
  obtain ⟨added, hs, ht, -⟩ := steps_foldl_push new m
  rw [hs] at h
  refine (List.mem_append.1 h).symm.imp_right fun hq => ?_
  rw [← List.mem_reverse, ← ht]
  exact List.mem_map_of_mem hq

/-- A queued step was queued before, or it is new and grounded. -/
theorem mem_perform {m : Memory} {o : Operation} {q : Queued} (grounded : o.Grounded m)
    (h : q ∈ (o.perform m).steps) : q ∈ m.steps ∨ hasRun q.step.run m.runs = true := by
  cases o with
  | create c => exact .inl h
  | discard run => exact .inl (List.mem_filter.1 h).1
  | save run c =>
    left
    have h : q ∈ (save run c m).2.steps := h
    unfold save at h
    split at h <;> exact h
  | remove run =>
    left
    have h : q ∈ (remove run m).2.steps := h
    unfold remove at h
    split at h <;> exact h
  | enqueue t =>
    rcases List.mem_cons.1 h with rfl | h
    · exact .inr (mem_runIds_iff.1 grounded)
    · exact .inl h
  | complete id new run c =>
    have h : q ∈ (complete id new run c m).2.steps := h
    unfold complete at h
    split at h
    · rcases mem_push_foldl h with h | h
      · exact .inl (List.mem_filter.1 h).1
      · exact .inr (mem_runIds_iff.1 (grounded q.step h))
    · exact .inl h

/-- A run stays unless it is removed. -/
theorem hasRun_perform {m : Memory} {o : Operation} {run : Int}
    (h : hasRun run m.runs = true) : hasRun run (o.perform m).runs = true ∨ o = .remove run := by
  cases o with
  | discard run' => exact .inl h
  | enqueue t => exact .inl h
  | create c =>
    left
    show hasRun run (m.runs ++ [(m.lastRun + 1, c)]) = true
    unfold hasRun at h ⊢
    rw [List.any_append, h, Bool.true_or]
  | save run' c =>
    left
    show hasRun run (save run' c m).2.runs = true
    unfold save
    split
    · rwa [hasRun_replaced]
    · exact h
  | complete id new run' c =>
    left
    show hasRun run (complete id new run' c m).2.runs = true
    unfold complete
    split
    · rwa [(pushed new _).1, hasRun_replaced]
    · exact h
  | remove run' =>
    by_cases same : run' = run
    · exact .inr (congrArg Operation.remove same)
    · left
      show hasRun run (remove run' m).2.runs = true
      unfold remove
      split
      · obtain ⟨x, hx, rfl⟩ := List.mem_map.1 (mem_runIds_iff.2 h)
        have kept : decide (x.1 ≠ run') = true := decide_eq_true (Ne.symm same)
        exact mem_runIds_iff.1 (List.mem_map_of_mem (List.mem_filter.2 ⟨hx, kept⟩))
      · exact h

end Memory

/-- One more operation, done by those who queue steps of stored runs only. -/
theorem Tended.perform {done : List Operation} {o : Operation}
    (h : Tended done (operate done)) (grounded : o.Grounded (operate done : Memory)) :
    Tended (done ++ [o]) (operate (done ++ [o])) := by
  have next : (operate (done ++ [o]) : Memory) = o.perform (operate done) := by
    unfold operate
    rw [List.foldl_append]
    rfl
  rw [next]
  intro q hq
  have queued := Memory.mem_perform grounded hq
  have before : hasRun q.step.run (operate done : Memory).runs = true ∨
      ∃ before after, done = before ++ .remove q.step.run :: after ∧
        q ∈ (operate before : Memory).steps := by
    rcases queued with old | new
    · exact h q old
    · exact .inl new
  rcases before with stored | ⟨before, after, rfl, old⟩
  · rcases Memory.hasRun_perform (o := o) stored with stored | rfl
    · exact .inl stored
    · -- Removing a run queues nothing, so the step was there.
      refine .inr ⟨done, [], rfl, ?_⟩
      have same : (Memory.remove q.step.run (operate done)).2.steps =
          (operate done : Memory).steps := by
        unfold Memory.remove
        split <;> rfl
      rw [← same]
      exact hq
  · exact .inr ⟨before, after ++ [o], by simp, old⟩

/-- **Where steps are queued for stored runs only, a step loses its run just by its removal.** -/
theorem tended_operate {ops : List Operation} (h : AllGrounded ops (Store.empty : Memory)) :
    Tended ops (operate ops) := by
  have run : ∀ done : List Operation, Tended done (operate done) →
      AllGrounded ops (operate done : Memory) →
      Tended (done ++ ops) (operate (done ++ ops)) := by
    clear h
    induction ops with
    | nil =>
      intro done tended _
      rwa [List.append_nil]
    | cons o ops ih =>
      intro done tended grounded
      have next : (operate (done ++ [o]) : Memory) = o.perform (operate done) := by
        unfold operate
        rw [List.foldl_append]
        rfl
      have rest := ih (done ++ [o]) (tended.perform grounded.1) (next ▸ grounded.2)
      rwa [List.append_assoc] at rest
  exact run [] (fun _ hq => nomatch hq) h

/-! ## Both stores -/

/-- **A queued step belongs to a stored run, or its run was removed above it.**  In the store
that outlives a process the first holds whatever operations were done, and when a run is
removed then no step of it is left.  In the store of one process a run takes no step with it:
where steps are queued for stored runs only, each queued step belongs to a stored run or was
queued already when that run was removed. -/
theorem stored_or_left (ops : List Operation) :
    (let db : Relational := operate ops
     (∀ q ∈ Store.queue db, q.step.run ∈ Store.runIds db) ∧
     ∀ run, (Store.remove run db).1 = .ok () →
       Store.pending run (Store.remove run db).2 = 0) ∧
    (AllGrounded ops (Store.empty : Memory) →
      let m : Memory := operate ops
      (∀ q ∈ Store.queue m, q.step.run ∈ Store.runIds m ∨
        ∃ before after, ops = before ++ .remove q.step.run :: after ∧
          q ∈ Store.queue (operate before : Memory)) ∧
      ∀ run, (Store.remove run m).1 = .ok () →
        Store.pending run (Store.remove run m).2 = Store.pending run m) := by
  constructor
  · intro db
    have keyed : db.Keyed := Relational.keyed_operate ops
    constructor
    · intro q hq
      exact mem_runIds_iff.2 (keyed q (List.mem_reverse.1 hq))
    · intro run removed
      have removed : (Relational.remove run db).1 = .ok () := removed
      show ((Relational.remove run db).2.steps.reverse.filter _).length = 0
      unfold Relational.remove at removed ⊢
      split at removed
      · next stored =>
        rw [if_pos stored, List.length_eq_zero_iff, List.filter_eq_nil_iff]
        intro q hq same
        have other := (List.mem_filter.1 (List.mem_reverse.1 hq)).2
        exact of_decide_eq_true other (of_decide_eq_true same)
      · cases removed
  · intro grounded m
    have tended : Tended ops m := tended_operate grounded
    constructor
    · intro q hq
      rcases tended q hq with stored | left
      · exact .inl (mem_runIds_iff.2 stored)
      · exact .inr left
    · intro run _
      show ((Memory.remove run m).2.steps.filter _).length = _
      have same : (Memory.remove run m).2.steps = m.steps := by
        unfold Memory.remove
        split <;> rfl
      rw [same]
      rfl

/-- A run is removed above its step. -/
def leaving : List Operation :=
  [.create (loopbackRun.context {} {}), .enqueue (loopbackRun.stepAt 1 loopbackRun.first),
    .remove 1]

theorem leaving_grounded : AllGrounded leaving (Store.empty : Memory) :=
  ⟨trivial, List.mem_cons_self, trivial, trivial⟩

theorem stored_or_left_leaving :
    ∃ before after, leaving = before ++ .remove 1 :: after ∧
      ⟨1, loopbackRun.stepAt 1 loopbackRun.first⟩ ∈ Store.queue (operate before : Memory) := by
  have h := ((stored_or_left leaving).2 leaving_grounded).1
    ⟨1, loopbackRun.stepAt 1 loopbackRun.first⟩ List.mem_cons_self
  rcases h with stored | left
  · cases stored
  · exact left

/-- In the store of one process steps may be left without their run, though each was queued
for a stored one, and a run that was removed may have steps. -/
theorem left_in_memory :
    ¬ ∀ ops : List Operation, AllGrounded ops (Store.empty : Memory) →
      (∀ q ∈ Store.queue (operate ops : Memory), q.step.run ∈ Store.runIds (operate ops : Memory)) ∧
      ∀ run, (Store.remove run (operate ops : Memory)).1 = .ok () →
        Store.pending run (Store.remove run (operate ops : Memory)).2 = 0 := by
  intro h
  have stored := (h leaving leaving_grounded).1 ⟨1, loopbackRun.stepAt 1 loopbackRun.first⟩
    List.mem_cons_self
  cases stored

end SiteWalk.Batch
