import SiteWalk.Proofs.Batch.Frame

/-!
# Stores without one of their runs

`m.without run` is the store with everything of a run left out, its context and its steps.
An operation on another run does the same with and without it, and an operation on the run
itself is not to be seen.  So those who work on other runs need not know of it.

    (Memory.save run' c m).2.without run = (Memory.save run' c (m.without run)).2
    ¬ x.Concerns run → Effect site s x s' → Effect site (s.without run) x (s'.without run)
-/

namespace SiteWalk.Batch

open Crawl

/-! ## Tables of runs -/

/-- A table with one of its runs left out. -/
def omitted (run : Int) (runs : List (Int × Context)) : List (Int × Context) :=
  runs.filter fun x => x.1 ≠ run

variable {run run' : Int} {c : Context}

theorem hasRun_omitted (runs : List (Int × Context)) (h : run' ≠ run) :
    hasRun run' (omitted run runs) = hasRun run' runs := by
  rw [Bool.eq_iff_iff, hasRun_iff, hasRun_iff]
  unfold omitted
  rw [lookup_filter, if_neg h]

theorem omitted_replaced_self (c : Context) (runs : List (Int × Context)) :
    omitted run (replaced run c runs) = omitted run runs := by
  unfold omitted replaced
  induction runs with
  | nil => rfl
  | cons x runs ih =>
    rw [List.map_cons]
    by_cases hx : x.1 = run
    · rw [if_pos hx, List.filter_cons_of_neg (by simp), List.filter_cons_of_neg (by simpa using hx),
        ih]
    · rw [if_neg hx, List.filter_cons_of_pos (by simpa using hx),
        List.filter_cons_of_pos (by simpa using hx), ih]

theorem omitted_replaced (c : Context) (runs : List (Int × Context)) (h : run' ≠ run) :
    omitted run (replaced run' c runs) = replaced run' c (omitted run runs) := by
  unfold omitted replaced
  rw [List.filter_map]
  congr 2
  funext x
  by_cases hx : x.1 = run'
  · simp [hx, h]
  · simp [hx]

theorem filter_comm {α : Type} (p q : α → Bool) (l : List α) :
    (l.filter p).filter q = (l.filter q).filter p := by
  rw [List.filter_filter, List.filter_filter]
  congr 1
  funext x
  exact Bool.and_comm _ _

namespace Memory

/-- The store with everything of a run left out. -/
def without (run : Int) (m : Memory) : Memory :=
  { m.discard run with runs := omitted run m.runs }

variable {m : Memory}

/-! ## Lookups -/

theorem context?_without (h : run' ≠ run) : (m.without run).context? run' = m.context? run' := by
  unfold without context? omitted
  rw [lookup_filter, if_neg h]

theorem stepsOf_without (h : run' ≠ run) : (m.without run).stepsOf run' = m.stepsOf run' := by
  show (m.discard run).stepsOf run' = m.stepsOf run'
  rw [stepsOf_discard, if_neg h]

theorem steps_without {q : Queued} {rest : List Queued} (top : m.steps = q :: rest)
    (h : q.step.run ≠ run) :
    (m.without run).steps = q :: rest.filter fun q => q.step.run ≠ run := by
  unfold without discard
  rw [top, List.filter_cons_of_pos (by simpa using h)]

theorem Sound.without (h : m.Sound) (run : Int) : (m.without run).Sound := by
  refine (h.keep fun q => q.step.run ≠ run).table rfl rfl ?_ ?_
  · intro q hq c hc
    have hr : q.step.run ≠ run := by simpa using (List.mem_filter.1 hq).2
    exact ⟨c, (context?_without hr).trans hc⟩
  · intro run' c hc
    by_cases hr : run' = run
    · unfold Memory.without context? omitted at hc
      rw [lookup_filter, if_pos hr] at hc
      cases hc
    · rw [context?_without hr] at hc
      exact h.runs_le hc

/-! ## Operations on the run itself -/

theorem without_discard_self : (m.discard run).without run = m.without run := by
  unfold without discard
  dsimp only
  rw [List.filter_filter]
  simp only [Bool.and_self]

theorem without_save_self : (save run c m).2.without run = m.without run := by
  unfold save
  split
  · unfold without
    dsimp only
    rw [omitted_replaced_self]
    rfl
  · rfl

theorem without_remove_self : (remove run m).2.without run = m.without run := by
  unfold remove
  split
  · unfold without omitted discard
    dsimp only
    rw [List.filter_filter]
    simp only [Bool.and_self]
  · rfl

theorem without_push_self {t : Step} (h : t.run = run) :
    (m.push t).without run = { m.without run with lastStep := m.lastStep + 1 } := by
  unfold push without discard
  dsimp only
  rw [List.filter_cons_of_neg (by simpa using h)]

/-! ## Operations on another run -/

theorem without_discard : (m.discard run').without run = (m.without run).discard run' := by
  unfold without discard
  dsimp only
  rw [filter_comm]

theorem without_save (h : run' ≠ run) :
    (save run' c m).2.without run = (save run' c (m.without run)).2 := by
  unfold save
  rw [show hasRun run' (m.without run).runs = hasRun run' m.runs from hasRun_omitted m.runs h]
  split
  · unfold without
    dsimp only
    rw [omitted_replaced c m.runs h]
    rfl
  · rfl

theorem without_remove (h : run' ≠ run) :
    (remove run' m).2.without run = (remove run' (m.without run)).2 := by
  unfold remove
  rw [show hasRun run' (m.without run).runs = hasRun run' m.runs from hasRun_omitted m.runs h]
  split
  · unfold without omitted discard
    dsimp only
    rw [filter_comm]
  · rfl

theorem without_push {t : Step} (h : t.run ≠ run) :
    (m.push t).without run = (m.without run).push t := by
  unfold push without discard
  dsimp only
  rw [List.filter_cons_of_pos (by simpa using h)]

theorem without_pushAll {new : List Step} (h : ∀ t ∈ new, t.run ≠ run) :
    (new.foldl push m).without run = new.foldl push (m.without run) := by
  induction new generalizing m with
  | nil => rfl
  | cons t new ih =>
    rw [List.foldl_cons, List.foldl_cons, ih fun t' ht' => h t' (List.mem_cons_of_mem _ ht'),
      without_push (h t List.mem_cons_self)]

theorem without_complete {id : Int} {new : List Step} (h : run' ≠ run)
    (hn : ∀ t ∈ new, t.run = run') :
    (complete id new run' c m).2.without run = (complete id new run' c (m.without run)).2 := by
  unfold complete
  rw [show hasRun run' (m.without run).runs = hasRun run' m.runs from hasRun_omitted m.runs h]
  split
  · dsimp only
    rw [without_pushAll fun t ht => by rw [hn t ht]; exact h]
    unfold without discard
    dsimp only
    rw [omitted_replaced c m.runs h, filter_comm]
  · rfl

theorem without_begin (r : Run) (h : m.lastRun + 1 ≠ run) :
    (m.begin r).without run = (m.without run).begin r := by
  unfold begin
  rw [without_push (show (r.stepAt (m.lastRun + 1) r.first).run ≠ run from h)]
  unfold create without omitted
  dsimp only
  rw [List.filter_append, List.filter_cons_of_pos (by simpa using h)]
  rfl

end Memory

/-! ## Effects -/

/-- The session with everything of a run left out of its store. -/
def Session.without (run : Int) (s : Session Memory) : Session Memory :=
  ⟨s.store.without run, s.env⟩

variable {site : Web} {s s' : Session Memory} {x : Entry}

/-- **What is done to others does not depend on a run.** -/
theorem effect_without (eff : Effect site s x s') (other : ¬ x.Concerns run) :
    Effect site (s.without run) x (s'.without run) := by
  have off := off_of_not_concerns other
  cases eff with
  | idle started collected => exact .idle started collected
  | @started settings seed r profile address =>
    have hne : s.store.lastRun + 1 ≠ run := fun hr => other (.inl (.inl (by rw [hr])))
    unfold Session.without
    dsimp only
    rw [Memory.without_begin r hne]
    exact Effect.started (s := ⟨s.store.without run, s.env⟩) profile address
  | @dropped q rest c o top context off' stage =>
    have hne : q.step.run ≠ run := beq_eq_false_iff_ne.1 off
    unfold Session.without
    dsimp only
    rw [Memory.without_save hne, Memory.without_discard]
    exact .dropped (s := ⟨s.store.without run, s.env⟩) (Memory.steps_without top hne)
      ((Memory.context?_without hne).trans context) off' stage
  | @abandoned q rest c why top context on bad =>
    have hne : q.step.run ≠ run := beq_eq_false_iff_ne.1 off
    unfold Session.without
    dsimp only
    rw [Memory.without_complete hne (by simp)]
    exact .abandoned (s := ⟨s.store.without run, s.env⟩) (Memory.steps_without top hne)
      ((Memory.context?_without hne).trans context) on bad
  | @visited q rest c r o v top context on good visit stage =>
    have hne : q.step.run ≠ run := beq_eq_false_iff_ne.1 off
    unfold Session.without
    dsimp only
    rw [Memory.without_complete hne fun _ => run_of_mem_children]
    exact .visited (s := ⟨s.store.without run, s.env⟩) (Memory.steps_without top hne)
      ((Memory.context?_without hne).trans context) on good visit stage
  | @collected run' c spent context =>
    have hne : run' ≠ run := fun hr => other (.inr (.inl (by rw [hr])))
    unfold Session.without
    dsimp only
    rw [Memory.without_remove hne]
    exact .collected (s := ⟨s.store.without run, s.env⟩)
      ((Memory.stepsOf_without hne).trans spent) ((Memory.context?_without hne).trans context)
  | @calledOff run' c n context =>
    have hne : run' ≠ run := fun hr => other (.inr (.inr (by rw [hr])))
    unfold Session.without
    dsimp only
    rw [Memory.without_discard, Memory.without_save hne]
    exact .calledOff (s := ⟨s.store.without run, s.env⟩)
      ((Memory.context?_without hne).trans context)

end SiteWalk.Batch
