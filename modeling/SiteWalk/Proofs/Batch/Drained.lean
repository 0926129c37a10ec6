import Mathlib.Logic.Function.Iterate
import Mathlib.Logic.Relation
import Mathlib.Order.WellFounded
import SiteWalk.Proofs.Batch.Exit
import SiteWalk.Proofs.Batch.Runs

/-!
# Work comes to an end

Neither the nodes of a crawl nor the steps of a store become fewer with each visit, and a
site may lead to ever new addresses.  But whatever is taken from the front gives way to what
may be followed less far, and this is so for all exits of processing a step, from any content
of a store.  So there is no endless crawl, no endless call to process all steps, and such
calls come to an empty queue at last, also if some of them fail.  The site may answer
otherwise each time.

    r.Turn s s' → Shrinks s'.depths s.depths                               (Run.Turn.shrinks)
    s.env.cancelled = false → Store.queue s.store ≠ [] →
      Shrinks (processStep site s).2.depths s.depths                     (shrinks_processStep)
-/

namespace SiteWalk

namespace Crawl

/-- What always shrinks does not go on for ever. -/
theorem not_endless {α : Type} {r : α → α → Prop} {depths : α → List Nat}
    (shrinks : ∀ {a b}, r a b → Relation.TransGen Shrinks (depths b) (depths a)) (f : Nat → α) :
    ∃ i, ¬ r (f i) (f (i + 1)) := by
  by_contra h
  have h : ∀ i, r (f i) (f (i + 1)) := by simpa using h
  exact (wellFounded_iff_isEmpty_descending_chain.1 shrinks_wf.transGen).false
    ⟨fun i => depths (f i), fun i => shrinks (h i)⟩

namespace Run

/-! ## Crawls -/

/-- One turn of a crawl, in which any site may answer. -/
inductive Turn (r : Run) (s : State) : State → Prop
  | intro {n : Node} {rest : List Node} (site : Web) (top : s.stack = n :: rest)
      (on : s.env.cancelled = false) : Turn r s (r.step site n rest s)

theorem Turn.shrinks {r : Run} {s s' : State} (h : r.Turn s s') : Shrinks s'.depths s.depths := by
  cases h with
  | @intro n rest site top _ =>
    have depths : s.depths = n.remaining :: rest.map Node.remaining := by
      unfold State.depths
      rw [top, List.map_cons]
    rw [depths]
    exact r.step_shrinks site n rest s

/-- A crawl takes turns until no node is left or it is called off. -/
theorem turns_drain (r : Run) (site : Web) (s : State) :
    ∃ s', Relation.ReflTransGen r.Turn s s' ∧
      (s'.stack = [] ∧ r.drain site s = s' ∨
        s'.stack ≠ [] ∧ s'.env.cancelled = true ∧ r.drain site s = s'.calledOff) := by
  fun_induction Run.drain r site s with
  | case1 s hs => exact ⟨s, .refl, .inl ⟨hs, rfl⟩⟩
  | case2 s n rest hs off => exact ⟨s, .refl, .inr ⟨by simp [hs], off, rfl⟩⟩
  | case3 s n rest hs on ih =>
    obtain ⟨s', turns, final⟩ := ih
    exact ⟨s', .head (.intro site hs (by simpa using on)) turns, final⟩

end Run

end Crawl

namespace Batch

open Crawl

/-! ## Queues -/

/-- What may be left of a queue after its first step was processed: the step is gone, others
may be gone with it, and steps of its run that may be followed less far may be on top. -/
inductive GivesWay (q : Queued) (rest : List Queued) : List Queued → Prop
  | intro {new left : List Queued} (kept : left.Sublist rest) (gone : q ∉ left)
      (less : ∀ x ∈ new, x.step.run = q.step.run ∧ x.step.depth < q.step.depth) :
      GivesWay q rest (new ++ left)

namespace GivesWay

variable {q : Queued} {rest after : List Queued}

theorem gone (h : GivesWay q rest after) : q ∉ after := by
  obtain ⟨-, gone, less⟩ := h
  intro hq
  rcases List.mem_append.1 hq with hq | hq
  · exact Nat.lt_irrefl _ (less q hq).2
  · exact gone hq

theorem shrinks (h : GivesWay q rest after) :
    Shrinks (after.map fun q => q.step.depth) ((q :: rest).map fun q => q.step.depth) := by
  obtain ⟨kept, -, less⟩ := h
  rw [List.map_append, List.map_cons]
  refine .intro (kept.map _) fun d hd => ?_
  obtain ⟨x, hx, rfl⟩ := List.mem_map.1 hd
  exact (less x hx).2

/-- Steps are only dropped, the first one among them. -/
theorem filter (p : Queued → Bool) (drop : p q = false) :
    GivesWay q rest ((q :: rest).filter p) := by
  rw [List.filter_cons_of_neg (by simp [drop])]
  exact @intro q rest [] _ List.filter_sublist (by simp [drop]) (by simp)

end GivesWay

namespace Memory

theorem steps_save {run : Int} {c : Context} {m : Memory} : (save run c m).2.steps = m.steps := by
  unfold save
  split <;> rfl

/-- A step that is completed gives way to steps that may be followed less far. -/
theorem givesWay_complete {q : Queued} {rest : List Queued} {new : List Step} {c c' : Context}
    {m : Memory} (top : m.steps = q :: rest) (context : m.context? q.step.run = some c')
    (less : ∀ t ∈ new, t.run = q.step.run ∧ t.depth < q.step.depth) :
    GivesWay q rest (complete q.id new q.step.run c m).2.steps := by
  unfold complete
  rw [if_pos (hasRun_iff.2 ⟨c', context⟩)]
  obtain ⟨added, hs, ht, -⟩ := steps_foldl_push new { m with
    runs := replaced q.step.run c m.runs
    steps := m.steps.filter fun x => x.id ≠ q.id }
  dsimp only at hs ⊢
  rw [hs, top, List.filter_cons_of_neg (by simp)]
  refine .intro List.filter_sublist (by simp) fun x hx => less _ ?_
  rw [← List.mem_reverse, ← ht]
  exact List.mem_map_of_mem hx

end Memory

namespace Exit

variable {site : Web} {s s' : Session Memory} {a : Except Failure (Option StepReport)}

/-- **All exits take the step that is next off the queue.** -/
theorem givesWay (h : Exit site s a s') {q : Queued} {rest : List Queued}
    (on : s.env.cancelled = false) (top : s.store.steps = q :: rest) :
    GivesWay q rest s'.store.steps := by
  cases h with
  | idle none =>
    rw [on, top] at none
    rcases none with none | none <;> cases none
  | orphan _ top' =>
    cases top.symm.trans top'
    show GivesWay q rest (s.store.steps.filter _)
    rw [top]
    exact .filter _ (by simp)
  | dropped _ top' =>
    cases top.symm.trans top'
    dsimp only
    rw [Memory.steps_save]
    show GivesWay q rest (s.store.steps.filter _)
    rw [top]
    exact .filter _ (by simp)
  | abandoned _ top' context =>
    cases top.symm.trans top'
    exact Memory.givesWay_complete top context (by simp)
  | visited _ top' context _ _ visit =>
    cases top.symm.trans top'
    subst visit
    refine Memory.givesWay_complete top context fun t ht => ⟨run_of_mem_children ht, ?_⟩
    obtain ⟨n, hn, rfl⟩ := List.mem_map.1 (List.mem_reverse.1 ht)
    exact Run.remaining_of_mem_visit hn

theorem quiet (h : Exit site s a s') (quiet : s.env.Quiet) : s'.env.Quiet := by
  cases h with
  | idle | orphan | dropped | abandoned => exact quiet
  | visited _ _ _ _ _ visit =>
    subst visit
    exact Run.quiet_visit quiet

end Exit

/-! ## Calls -/

variable {σ : Type} [Store σ]

/-- What a call to process all steps may lead to: steps are processed, with any site to
answer each time, until there is none or one of them fails. -/
inductive Drives : Session σ → Session σ → Prop
  | last {s : Session σ} (site : Web) (final : ∀ o, (processStep site s).1 ≠ .ok (some o)) :
      Drives s (processStep site s).2
  | more {s s' : Session σ} {o : StepReport} (site : Web)
      (done : (processStep site s).1 = .ok (some o)) (rest : Drives (processStep site s).2 s') :
      Drives s s'

theorem drives_runPending (site : Web) (s : Session σ) :
    Drives s (runPending site none s).2 := by
  generalize hl : (none : Option Nat) = limit
  fun_induction runPending site limit s with
  | case1 => cases hl
  | case2 limit s _ e s' h =>
    have hd := Drives.last (s := s) site (by simp [h])
    rwa [h] at hd
  | case3 limit s _ s' h =>
    have hd := Drives.last (s := s) site (by simp [h])
    rwa [h] at hd
  | case4 limit s _ o s' h n s'' hn ih =>
    subst hl
    have hd := ih rfl
    rw [hn] at hd
    exact .more site (congrArg Prod.fst h) (by rwa [h])

variable [LawfulStore σ]

theorem givesWay_processStep (site : Web) {s : Session σ} {q : Queued} {rest : List Queued}
    (on : s.env.cancelled = false) (top : Store.queue s.store = q :: rest) :
    GivesWay q rest (Store.queue (processStep site s).2.store) := by
  rw [LawfulStore.queue_eq] at top ⊢
  exact (exit site s).givesWay on top

theorem shrinks_processStep (site : Web) {s : Session σ} (on : s.env.cancelled = false)
    (more : Store.queue s.store ≠ []) : Shrinks (processStep site s).2.depths s.depths := by
  obtain ⟨q, rest, top⟩ := List.exists_cons_of_ne_nil more
  have h := (givesWay_processStep site on top).shrinks
  rwa [← top] at h

theorem processStep_empty (site : Web) {s : Session σ} (h : Store.queue s.store = []) :
    (processStep site s).2 = s := by
  rw [LawfulStore.queue_eq] at h
  unfold processStep
  rw [claim_idle (.inr h)]
  rfl

namespace Drives

variable {s s' : Session σ}

theorem quiet (h : Drives s s') (hs : s.env.Quiet) : s'.env.Quiet := by
  induction h with
  | last site => exact (exit site _).quiet hs
  | more site _ _ ih => exact ih ((exit site _).quiet hs)

theorem descends (h : Drives s s') (hs : s.env.Quiet) :
    Relation.ReflTransGen Shrinks s'.depths s.depths := by
  have step : ∀ (site : Web) (s : Session σ), s.env.Quiet →
      Relation.ReflTransGen Shrinks (processStep site s).2.depths s.depths := by
    intro site s hs
    by_cases more : Store.queue s.store = []
    · rw [processStep_empty site more]
    · exact .single (shrinks_processStep site hs.1 more)
  induction h with
  | last site => exact step site _ hs
  | more site _ _ ih => exact (ih ((exit site _).quiet hs)).trans (step site _ hs)

theorem shrinks (h : Drives s s') (hs : s.env.Quiet) (more : Store.queue s.store ≠ []) :
    Relation.TransGen Shrinks s'.depths s.depths := by
  cases h with
  | last site => exact .single (shrinks_processStep site hs.1 more)
  | more site _ rest =>
    exact .tail' (rest.descends ((exit site _).quiet hs)) (shrinks_processStep site hs.1 more)

/-- Calls that are made again and again come to an empty queue. -/
theorem drained {f : Nat → Session σ} (h : ∀ i, Drives (f i) (f (i + 1))) (hs : (f 0).env.Quiet) :
    ∃ k, Store.queue (f k).store = [] := by
  have quiet : ∀ i, (f i).env.Quiet := by
    intro i
    induction i with
    | zero => exact hs
    | succ i ih => exact (h i).quiet ih
  obtain ⟨k, hk⟩ := not_endless
    (r := fun s s' : Session σ => Drives s s' ∧ s.env.Quiet ∧ Store.queue s.store ≠ [])
    (fun ⟨h, hs, left⟩ => h.shrinks hs left) f
  exact ⟨k, by_contra fun left => hk ⟨h k, quiet k, left⟩⟩

end Drives

/-- **Work comes to an end**, whatever a site answers.  No crawl goes on for ever, and each
takes turns until no node is left or it is called off.  From any content of a store, each
step that is processed leaves the queue, also if that fails, no call to process all steps
goes on for ever, and such calls come to an empty queue if they are made again and again.
The counters of a context play no part in this, so it does not matter whether one that is
full begins anew. -/
theorem work_ends :
    (∀ r : Run,
      (∀ f : Nat → State, ∃ i, ¬ r.Turn (f i) (f (i + 1))) ∧
      ∀ site e, ∃ s, Relation.ReflTransGen r.Turn (.initial r.first e) s ∧
        (s.stack = [] ∧ r.crawl site e = s ∨
          s.stack ≠ [] ∧ s.env.cancelled = true ∧ r.crawl site e = s.calledOff)) ∧
    ∀ (σ : Type) [Store σ] [LawfulStore σ],
      (∀ (site : Web) (s : Session σ) q rest, s.env.cancelled = false →
        Store.queue s.store = q :: rest →
        q ∉ Store.queue (processStep site s).2.store ∧
          GivesWay q rest (Store.queue (processStep site s).2.store)) ∧
      (∀ f : Nat → Session σ, ∃ i,
        ¬ ∃ site o, processStep site (f i) = (.ok (some o), f (i + 1))) ∧
      (∀ (site : Web) (s : Session σ), Drives s (runPending site none s).2) ∧
      ∀ f : Nat → Session σ, (f 0).env.Quiet → (∀ i, Drives (f i) (f (i + 1))) →
        ∃ k, Store.queue (f k).store = [] := by
  refine ⟨fun r => ⟨?_, fun site e => r.turns_drain site _⟩, fun σ _ _ => ⟨?_, ?_, ?_, ?_⟩⟩
  · exact not_endless fun h => .single h.shrinks
  · intro site s q rest on top
    have h := givesWay_processStep site on top
    exact ⟨h.gone, h⟩
  · refine @not_endless _ (fun s s' : Session σ => ∃ site o, processStep site s = (.ok (some o), s'))
      Session.depths ?_
    rintro s s' ⟨site, o, h⟩
    exact .single (processStep_shrinks h)
  · exact drives_runPending
  · exact fun f quiet h => Drives.drained h quiet

/-- A site where each page leads on to another address. -/
def endless : Site := fun u => .ok ("<a href=" ++ u ++ "a>")

/-- A store with a step of a run that is missing on top of one that is not what its run was
started with, and two steps of one number. -/
def disordered : Session Memory where
  store := {
    steps := [⟨3, loopbackRun.stepAt 7 loopbackRun.first⟩,
      ⟨1, { loopbackRun.stepAt 1 loopbackRun.first with digest := "b" }⟩,
      ⟨1, loopbackRun.stepAt 1 loopbackRun.first⟩]
    runs := [(1, loopbackRun.context {} {})] }

theorem work_ends_disordered :
    let call : Session Memory → Session Memory := fun s => (runPending endless none s).2
    (⟨3, loopbackRun.stepAt 7 loopbackRun.first⟩ : Queued) ∉
        Store.queue (processStep endless disordered).2.store ∧
      ∃ k, Store.queue (call^[k] disordered).store = [] := by
  intro call
  obtain ⟨leaves, -, drives, ends⟩ := work_ends.2 Memory
  refine ⟨(leaves endless disordered _ _ rfl rfl).1, ?_⟩
  refine ends (fun k => call^[k] disordered) ⟨rfl, rfl⟩ fun i => ?_
  rw [Function.iterate_succ_apply']
  exact drives endless _

end Batch

end SiteWalk
