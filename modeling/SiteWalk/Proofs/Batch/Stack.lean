import SiteWalk.Proofs.Batch.InFull

/-!
# The queue is a stack

Every step that is put on the queue is given a number, and these are written down in the order in
which they are given out (`issued`).  They only rise, whatever is done in between, and what is
queued are the steps that have not left since, the last one on top.  An operation that is refused
changes nothing.

    Adds s t a new → Adds t u b more → Adds s u (a ++ b) (new ++ more)          (Adds.trans)
    Adds s (ops.foldl Operation.perform s) (issued ops s) (accepted ops s)       (adds_issued)
-/

namespace SiteWalk.Batch

/-! ## What is put on the queue -/

/-- The steps that an operation asks to be queued. -/
def Operation.steps : Operation → List Step
  | .enqueue t => [t]
  | .complete _ new _ _ => new
  | .create _ | .save _ _ | .remove _ | .discard _ => []

section

variable {σ : Type} [Store σ]

/-- Whether the store does what it is asked for. -/
def Operation.answer (s : σ) : Operation → Except StoreError Unit
  | .save run c => (Store.save run c s).1
  | .remove run => (Store.remove run s).1
  | .enqueue t => (Store.enqueue t s).1
  | .complete id new run c => (Store.complete id new run c s).1
  | .create _ | .discard _ => .ok ()

/-- The steps that an operation has queued: all that it asked for, or none if it was refused. -/
def Operation.accepted (s : σ) (o : Operation) : List Step :=
  match o.answer s with
  | .ok () => o.steps
  | .error _ => []

/-- The same steps with their numbers: so many as there are, from the top of the queue. -/
def Operation.issued (s : σ) (o : Operation) : List Queued :=
  ((Store.queue (o.perform s)).take (o.accepted s).length).reverse

/-- All steps that operations have queued, one after the other. -/
def accepted : List Operation → σ → List Step
  | [], _ => []
  | o :: ops, s => o.accepted s ++ accepted ops (o.perform s)

/-- All steps that operations have queued, with the numbers that they were given. -/
def issued : List Operation → σ → List Queued
  | [], _ => []
  | o :: ops, s => o.issued s ++ issued ops (o.perform s)

end

/-- What an operation leaves of a queue.  The steps of a run that is forgotten may stay. -/
def Operation.Leaves (queue kept : List Queued) : Operation → Prop
  | .complete id _ _ _ => kept = queue.filter fun q => q.id ≠ id
  | .discard run => kept = queue.filter fun q => q.step.run ≠ run
  | .remove run => kept.Sublist queue ∧
      (kept.filter fun q => q.step.run ≠ run) = queue.filter fun q => q.step.run ≠ run
  | .create _ | .save _ _ | .enqueue _ => kept = queue

theorem Operation.Leaves.sublist {queue kept : List Queued} {o : Operation}
    (h : o.Leaves queue kept) : kept.Sublist queue := by
  cases o with
  | complete id new run c => exact h ▸ List.filter_sublist
  | discard run => exact h ▸ List.filter_sublist
  | remove run => exact h.1
  | create c => exact h ▸ List.Sublist.refl _
  | save run c => exact h ▸ List.Sublist.refl _
  | enqueue t => exact h ▸ List.Sublist.refl _

/-! ## One operation -/

/-- The operation has put its steps on what it leaves of the queue, under new numbers. -/
structure Grown {σ : Type} [Store σ] [LawfulStore σ] (s : σ) (o : Operation)
    (added kept : List Queued) : Prop where
  queue : Store.queue (o.perform s) = added.reverse ++ kept
  leaves : o.Leaves (Store.queue s) kept
  steps : added.map Queued.step = o.steps
  above : ∀ a ∈ added, (LawfulStore.view s).lastStep < a.id

/-- An operation is done in full, or refused and then nothing is changed. -/
class LawfulAnswers (σ : Type) [Store σ] [LawfulStore σ] : Prop where
  refused {s : σ} {o : Operation} {e : StoreError} (h : o.answer s = .error e) : o.perform s = s
  grown {s : σ} {o : Operation} (h : o.answer s = .ok ()) : ∃ added kept, Grown s o added kept

theorem unchanged_of_error {σ : Type} {p : Prop} [Decidable p] {s s' : σ} {e e' : StoreError}
    (h : (if p then (.ok (), s') else (.error e', s) : Except StoreError Unit × σ).1 = .error e) :
    (if p then (.ok (), s') else (.error e', s) : Except StoreError Unit × σ).2 = s := by
  split at h
  · cases h
  · next missing => rw [if_neg missing]

namespace Memory

theorem grown_complete {m : Memory} {id run : Int} {new : List Step} {c : Context}
    (stored : hasRun run m.runs = true) :
    ∃ added kept, Grown m (.complete id new run c) added kept := by
  obtain ⟨added, steps, same, above⟩ := steps_foldl_push new
    { m with runs := replaced run c m.runs, steps := m.steps.filter fun q => q.id ≠ id }
  refine ⟨added.reverse, m.steps.filter fun q => q.id ≠ id, ?_, rfl, ?_, ?_⟩
  · show (complete id new run c m).2.steps = _
    rw [complete, if_pos stored, List.reverse_reverse]
    exact steps
  · rw [List.map_reverse, same, List.reverse_reverse]
    rfl
  · exact fun a ha => above a (List.mem_reverse.1 ha)

instance : LawfulAnswers Memory where
  refused {m o e} h := by
    cases o with
    | create c => cases h
    | enqueue t => cases h
    | discard run => cases h
    | save run c => exact unchanged_of_error h
    | remove run => exact unchanged_of_error h
    | complete id new run c => exact unchanged_of_error h
  grown {m o} h := by
    cases o with
    | create c => exact ⟨[], m.steps, rfl, rfl, rfl, List.forall_mem_nil _⟩
    | discard run => exact ⟨[], _, rfl, rfl, rfl, List.forall_mem_nil _⟩
    | save run c =>
      have same : (save run c m).2.steps = m.steps := by unfold save; split <;> rfl
      exact ⟨[], m.steps, same, rfl, rfl, List.forall_mem_nil _⟩
    | remove run =>
      have same : (remove run m).2.steps = m.steps := by unfold remove; split <;> rfl
      exact ⟨[], m.steps, same, ⟨List.Sublist.refl _, rfl⟩, rfl, List.forall_mem_nil _⟩
    | enqueue t =>
      refine ⟨[⟨m.lastStep + 1, t⟩], m.steps, rfl, rfl, rfl, List.forall_mem_singleton.2 ?_⟩
      exact Int.lt_add_one_of_le (Int.le_refl _)
    | complete id new run c =>
      have h : (complete id new run c m).1 = .ok () := h
      rw [complete_answer] at h
      split at h
      · next stored => exact grown_complete stored
      · cases h

end Memory

/-- What is done to the view alike is done alike. -/
theorem grown_of_view {σ : Type} [Store σ] [LawfulStore σ] {s : σ} {o : Operation}
    (answer : o.answer (LawfulStore.view s) = .ok ())
    (same : LawfulStore.view (o.perform s) = o.perform (LawfulStore.view s)) :
    ∃ added kept, Grown s o added kept := by
  obtain ⟨added, kept, grown⟩ := LawfulAnswers.grown answer
  refine ⟨added, kept, ?_, ?_, grown.steps, grown.above⟩
  · rw [LawfulStore.queue_eq, same]
    exact grown.queue
  · rw [LawfulStore.queue_eq]
    exact grown.leaves

namespace Relational

theorem grown_remove {db : Relational} {run : Int} (stored : hasRun run db.runs = true) :
    Grown db (.remove run) [] ((Store.queue db).filter fun q => q.step.run ≠ run) where
  queue := by
    show (remove run db).2.steps.reverse = db.steps.reverse.filter _
    rw [remove, if_pos stored, List.filter_reverse]
    rfl
  leaves := ⟨List.filter_sublist, by simp⟩
  steps := rfl
  above := List.forall_mem_nil _

instance : LawfulAnswers Relational where
  refused {db o e} h := by
    cases o with
    | create c => cases h
    | discard run => cases h
    | save run c => exact unchanged_of_error h
    | remove run => exact unchanged_of_error h
    | enqueue t => exact unchanged_of_error h
    | complete id new run c => exact transaction_of_error h
  grown {db o} h := by
    cases o with
    | create c => exact grown_of_view rfl (congrArg Prod.snd (LawfulStore.view_create c db))
    | discard run => exact grown_of_view rfl (LawfulStore.view_discard run db)
    | save run c =>
      have seen := LawfulStore.view_save run c db
      exact grown_of_view ((congrArg Prod.fst seen).symm.trans h) (congrArg Prod.snd seen)
    | enqueue t =>
      have h : (insert t db).1 = .ok () := h
      unfold insert at h
      split at h
      · next stored => exact grown_of_view rfl (congrArg Prod.snd (view_insert stored))
      · cases h
    | remove run =>
      have h : (remove run db).1 = .ok () := h
      unfold remove at h
      split at h
      · next stored => exact ⟨_, _, grown_remove stored⟩
      · cases h
    | complete id new run c =>
      have done : (complete id new run c db).1 = .ok () := h
      rw [complete_answer] at done
      split at done
      · split at done
        · next others =>
          have seen : Batch.seen view (complete id new run c db) = _ := view_complete others
          exact grown_of_view ((congrArg Prod.fst seen).symm.trans h) (congrArg Prod.snd seen)
        · cases done
      · cases done

end Relational

/-! ## Many operations -/

section

variable {σ : Type} [Store σ] [LawfulStore σ] {s t u : σ}

/-- From one store to a later one these steps were added, under numbers that rise from the last
one before to the last one after, and the queue holds no others besides those from before. -/
structure Adds (s t : σ) (added : List Queued) (new : List Step) : Prop where
  steps : added.map Queued.step = new
  rising : added.Pairwise fun a b => a.id < b.id
  above : ∀ a ∈ added, (LawfulStore.view s).lastStep < a.id
  below : ∀ a ∈ added, a.id ≤ (LawfulStore.view t).lastStep
  last : (LawfulStore.view s).lastStep ≤ (LawfulStore.view t).lastStep
  queue : (Store.queue t).reverse.Sublist ((Store.queue s).reverse ++ added)

theorem Adds.refl (s : σ) : Adds s s [] [] where
  steps := rfl
  rising := List.Pairwise.nil
  above := List.forall_mem_nil _
  below := List.forall_mem_nil _
  last := Int.le_refl _
  queue := by simp

theorem Adds.trans {a b : List Queued} {new more : List Step} (h : Adds s t a new)
    (h' : Adds t u b more) : Adds s u (a ++ b) (new ++ more) where
  steps := by rw [List.map_append, h.steps, h'.steps]
  rising := List.pairwise_append.2 ⟨h.rising, h'.rising, fun x hx y hy =>
    Int.lt_of_le_of_lt (h.below x hx) (h'.above y hy)⟩
  above := List.forall_mem_append.2
    ⟨h.above, fun y hy => Int.lt_of_le_of_lt h.last (h'.above y hy)⟩
  below := List.forall_mem_append.2 ⟨fun x hx => Int.le_trans (h.below x hx) h'.last, h'.below⟩
  last := Int.le_trans h.last h'.last
  queue := by
    rw [← List.append_assoc]
    exact h'.queue.trans (h.queue.append_right b)

theorem Grown.issued_eq {o : Operation} {added kept : List Queued} (done : o.answer s = .ok ())
    (h : Grown s o added kept) : o.issued s = added := by
  have accepted : o.accepted s = o.steps := by rw [Operation.accepted, done]
  have count : o.steps.length = added.reverse.length := by
    rw [← h.steps, List.length_map, List.length_reverse]
  rw [Operation.issued, accepted, h.queue, count, List.take_left, List.reverse_reverse]

variable [LawfulOperations σ] [LawfulAnswers σ]

/-- One operation adds what it queues, and nothing if it is refused. -/
theorem adds_perform (h : (LawfulStore.view s).Orderly) (o : Operation) :
    Adds s (o.perform s) (o.issued s) (o.accepted s) := by
  cases answer : o.answer s with
  | error e =>
    have none : o.accepted s = [] := by rw [Operation.accepted, answer]
    rw [Operation.issued, none, LawfulAnswers.refused answer]
    exact .refl s
  | ok =>
    obtain ⟨added, kept, grown⟩ := LawfulAnswers.grown answer
    have after := orderly_perform h o
    have queue := grown.queue
    rw [LawfulStore.queue_eq] at queue
    rw [grown.issued_eq answer, Operation.accepted, answer]
    refine ⟨grown.steps, ?_, grown.above, fun a ha => ?_, lastStep_le s [o], ?_⟩
    · have ordered := after.ordered
      rw [queue] at ordered
      exact List.pairwise_reverse.1 (List.pairwise_append.1 ordered).1
    · refine after.steps_le a ?_
      rw [queue]
      exact List.mem_append_left _ (List.mem_reverse.2 ha)
    · rw [grown.queue, List.reverse_append, List.reverse_reverse]
      exact (grown.leaves.sublist.reverse).append_right added

/-- All operations. -/
theorem adds_issued (h : (LawfulStore.view s).Orderly) (ops : List Operation) :
    Adds s (ops.foldl Operation.perform s) (issued ops s) (accepted ops s) := by
  induction ops generalizing s with
  | nil => exact .refl s
  | cons o ops ih => exact (adds_perform h o).trans (ih (orderly_perform h o))

theorem adds_operate (ops : List Operation) :
    Adds (Store.empty : σ) (operate ops) (issued ops (Store.empty : σ))
      (accepted ops (Store.empty : σ)) :=
  adds_issued orderly_empty ops

end

/-! ## Both stores -/

/-- What comes of an operation: nothing is changed if it is refused, and else it puts its steps on
what it leaves of the queue. -/
def Operation.Settles {σ : Type} [Store σ] (s : σ) (o : Operation) : Prop :=
  match o.answer s with
  | .error _ => o.perform s = s
  | .ok () => ∃ kept, Store.queue (o.perform s) = (o.issued s).reverse ++ kept ∧
    o.Leaves (Store.queue s) kept

theorem settles {σ : Type} [Store σ] [LawfulStore σ] [LawfulAnswers σ] (s : σ) (o : Operation) :
    o.Settles s := by
  unfold Operation.Settles
  cases answer : o.answer s with
  | error e => exact LawfulAnswers.refused answer
  | ok =>
    obtain ⟨added, kept, grown⟩ := LawfulAnswers.grown answer
    refine ⟨kept, ?_, grown.leaves⟩
    rw [grown.issued_eq answer]
    exact grown.queue

/-- After the operations all steps that were asked for and not refused have been given numbers that
only rise.  Those that are still queued are the queue, in the order of their numbers with the last
one on top, and the top is taken next.  What comes of a further operation is settled for each. -/
structure Stack (σ : Type) [Store σ] (ops : List Operation) : Prop where
  steps : (issued ops (Store.empty : σ)).map Queued.step = accepted ops (Store.empty : σ)
  rising : (issued ops (Store.empty : σ)).Pairwise fun a b => a.id < b.id
  queue : Store.queue (operate ops : σ) =
    ((issued ops (Store.empty : σ)).filter (· ∈ Store.queue (operate ops : σ))).reverse
  distinct : ((Store.queue (operate ops : σ)).map Queued.id).Nodup
  ordered : (Store.queue (operate ops : σ)).Pairwise fun a b => b.id < a.id
  top : Store.peek? (operate ops : σ) =
    ((issued ops (Store.empty : σ)).filter (· ∈ Store.queue (operate ops : σ))).getLast?
  settles : ∀ o : Operation, o.Settles (operate ops : σ)

/-- What is in a part of a list without doubles is that part. -/
theorem filter_mem_of_sublist {α : Type} [DecidableEq α] {xs ys : List α} (h : xs.Sublist ys)
    (distinct : ys.Nodup) : ys.filter (· ∈ xs) = xs := by
  induction h with
  | slnil => rfl
  | cons y sub ih =>
    obtain ⟨new, distinct⟩ := List.nodup_cons.1 distinct
    rw [List.filter_cons_of_neg (by simpa using fun mem => new (sub.subset mem)), ih distinct]
  | @cons_cons xs ys x sub ih =>
    obtain ⟨new, distinct⟩ := List.nodup_cons.1 distinct
    have others : ys.filter (· ∈ x :: xs) = ys.filter (· ∈ xs) := by
      refine List.filter_congr fun y hy => ?_
      have other : y ≠ x := fun same => new (same ▸ hy)
      simp [other]
    rw [List.filter_cons_of_pos (by simp), others, ih distinct]

theorem stack (σ : Type) [Store σ] [LawfulStore σ] [LawfulOperations σ] [LawfulAnswers σ]
    (ops : List Operation) : Stack σ ops := by
  have adds := adds_operate (σ := σ) ops
  have ordered := (orderly_operate (σ := σ) ops).ordered
  rw [← LawfulStore.queue_eq] at ordered
  have empty : Store.queue (Store.empty : σ) = [] := by
    rw [LawfulStore.queue_eq, LawfulStore.view_empty]
  have sub := adds.queue
  rw [empty, List.reverse_nil, List.nil_append] at sub
  have distinct : (issued ops (Store.empty : σ)).Nodup := by
    refine adds.rising.imp ?_
    rintro a b less rfl
    exact Int.lt_irrefl _ less
  have left := filter_mem_of_sublist sub distinct
  simp only [List.mem_reverse] at left
  refine ⟨adds.steps, adds.rising, ?_, ?_, ordered, ?_, settles (operate ops)⟩
  · rw [left, List.reverse_reverse]
  · exact List.pairwise_map.2 (ordered.imp fun less => (Int.ne_of_lt less).symm)
  · rw [left, List.getLast?_reverse]
    rfl

/-- **The queue is a stack.**  In both stores and after whatever operations: numbers are given out
in rising order and none is used twice, whatever was dropped, forgotten or refused in between; no
two queued steps share one, and the queue lies in their order; the step that is taken next is the
last one that was queued and has not left.  Completing a step and dropping those of a run leave all
others as they lie. -/
theorem stack_operate (ops : List Operation) : Stack Memory ops ∧ Stack Relational ops :=
  ⟨stack Memory ops, stack Relational ops⟩

/-- The number of a step that was dropped is not used again. -/
example : (issued [.create default, .enqueue { (default : Step) with run := 1 }, .discard 1,
    .enqueue { (default : Step) with run := 1 }] (Store.empty : Relational)).map Queued.id =
      [1, 2] := by
  decide

end SiteWalk.Batch
