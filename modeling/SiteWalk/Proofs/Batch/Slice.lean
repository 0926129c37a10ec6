import SiteWalk.Proofs.Batch.Effect

/-!
# What a store holds of one run

The context and the steps of one run are all that matters to it.  Each operation says
what it does to them, and an operation on one run leaves those of another alone.  The
numbers given out last see to it that no run and no step is taken for another (`Orderly`,
`Sound`).

    (m.discard run).stepsOf run' = if run' = run then [] else m.stepsOf run'
    m.Sound → (m.begin r).Sound
-/

namespace SiteWalk.Batch

open Crawl

/-! ## Tables of runs -/

theorem lookup_replaced_self {run : Int} (c : Context) {runs : List (Int × Context)}
    (h : hasRun run runs = true) : (replaced run c runs).lookup run = some c := by
  induction runs with
  | nil => cases h
  | cons x runs ih =>
    unfold hasRun at h ih
    unfold replaced at ih ⊢
    rw [List.map_cons]
    by_cases hx : x.1 = run
    · rw [if_pos hx, List.lookup_cons_self]
    · rw [if_neg hx, List.lookup_cons, beq_eq_false_iff_ne.2 (Ne.symm hx)]
      rw [List.any_cons, beq_eq_false_iff_ne.2 hx, Bool.false_or] at h
      exact ih h

theorem lookup_replaced_other {run run' : Int} (c : Context) (runs : List (Int × Context))
    (h : run' ≠ run) : (replaced run c runs).lookup run' = runs.lookup run' := by
  induction runs with
  | nil => rfl
  | cons x runs ih =>
    unfold replaced at ih ⊢
    rw [List.map_cons, List.lookup_cons, List.lookup_cons, ih]
    by_cases hx : x.1 = run
    · rw [if_pos hx, beq_eq_false_iff_ne.2 h, hx, beq_eq_false_iff_ne.2 h]
    · rw [if_neg hx]

theorem lookup_replaced {run run' : Int} {c : Context} {runs : List (Int × Context)}
    (h : hasRun run runs = true) :
    (replaced run c runs).lookup run' = if run' = run then some c else runs.lookup run' := by
  by_cases hr : run' = run
  · rw [if_pos hr, hr]
    exact lookup_replaced_self c h
  · rw [if_neg hr]
    exact lookup_replaced_other c runs hr

theorem lookup_filter {α β : Type} [BEq α] [LawfulBEq α] [DecidableEq α] (k k' : α)
    (l : List (α × β)) :
    (l.filter fun x => x.1 ≠ k).lookup k' = if k' = k then none else l.lookup k' := by
  induction l with
  | nil => simp
  | cons x l ih =>
    by_cases hx : x.1 = k
    · rw [List.filter_cons_of_neg (by simpa using hx), ih, List.lookup_cons]
      by_cases hk : k' = k
      · rw [if_pos hk, if_pos hk]
      · rw [if_neg hk, if_neg hk, hx, beq_eq_false_iff_ne.2 hk]
    · rw [List.filter_cons_of_pos (by simpa using hx), List.lookup_cons, List.lookup_cons, ih]
      by_cases hk : k' = k
      · rw [if_pos hk, if_pos hk, hk, beq_eq_false_iff_ne.2 (Ne.symm hx)]
      · rw [if_neg hk, if_neg hk]

namespace Memory

/-! ## Contexts -/

@[simp] theorem context?_discard (run run' : Int) (m : Memory) :
    (m.discard run).context? run' = m.context? run' := rfl

theorem pushed (new : List Step) (m : Memory) :
    (new.foldl push m).runs = m.runs ∧ (new.foldl push m).lastRun = m.lastRun := by
  induction new generalizing m with
  | nil => exact ⟨rfl, rfl⟩
  | cons t new ih => exact ih (m.push t)

/-- What is put on the stack lies above all else, the last on top, with new numbers. -/
theorem steps_foldl_push (new : List Step) (m : Memory) :
    ∃ added, (new.foldl push m).steps = added ++ m.steps ∧
      added.map Queued.step = new.reverse ∧ ∀ a ∈ added, m.lastStep < a.id := by
  induction new generalizing m with
  | nil => exact ⟨[], rfl, rfl, List.forall_mem_nil _⟩
  | cons t new ih =>
    obtain ⟨added, hs, ht, hid⟩ := ih (m.push t)
    have last : (m.push t).lastStep = m.lastStep + 1 := rfl
    rw [last] at hid
    refine ⟨added ++ [⟨m.lastStep + 1, t⟩], ?_, ?_, ?_⟩
    · rw [List.append_assoc]
      exact hs
    · rw [List.map_append, ht, List.reverse_cons]
      rfl
    · intro a ha
      rcases List.mem_append.1 ha with ha | ha
      · have := hid a ha
        omega
      · rw [List.mem_singleton.1 ha]
        show m.lastStep < m.lastStep + 1
        omega

variable {m : Memory} {run run' : Int} {c c' : Context}

theorem context?_save (h : m.context? run = some c') :
    (save run c m).2.context? run' = if run' = run then some c else m.context? run' := by
  have hr := hasRun_iff.2 ⟨c', h⟩
  unfold save
  rw [if_pos hr]
  exact lookup_replaced hr

theorem context?_remove (h : m.context? run = some c') :
    (remove run m).2.context? run' = if run' = run then none else m.context? run' := by
  unfold remove
  rw [if_pos (hasRun_iff.2 ⟨c', h⟩)]
  exact lookup_filter run run' m.runs

theorem context?_complete {id : Int} {new : List Step} (h : m.context? run = some c') :
    (complete id new run c m).2.context? run' = if run' = run then some c else m.context? run' := by
  have hr := hasRun_iff.2 ⟨c', h⟩
  unfold complete context?
  rw [if_pos hr]
  dsimp only
  rw [(pushed new _).1]
  exact lookup_replaced hr

/-! ## Numbers of runs -/

theorem lastRun_save : (save run c m).2.lastRun = m.lastRun := by
  unfold save
  split <;> rfl

theorem lastRun_remove : (remove run m).2.lastRun = m.lastRun := by
  unfold remove
  split <;> rfl

theorem lastRun_complete {id : Int} {new : List Step} :
    (complete id new run c m).2.lastRun = m.lastRun := by
  unfold complete
  split
  · exact (pushed new _).2
  · rfl

/-! ## Steps -/

theorem stepsOf_push (t : Step) :
    (m.push t).stepsOf run = if run = t.run then t :: m.stepsOf run else m.stepsOf run := by
  unfold push stepsOf
  by_cases h : run = t.run
  · rw [if_pos h, List.filter_cons_of_pos (by simp [h])]
    rfl
  · rw [if_neg h, List.filter_cons_of_neg (by simpa using Ne.symm h)]

theorem stepsOf_foldl_push {new : List Step} (h : ∀ t ∈ new, t.run = run) :
    (new.foldl push m).stepsOf run' =
      if run' = run then new.reverse ++ m.stepsOf run' else m.stepsOf run' := by
  induction new generalizing m with
  | nil => simp
  | cons t new ih =>
    rw [List.foldl_cons, ih fun t' ht' => h t' (List.mem_cons_of_mem _ ht'), stepsOf_push,
      h t List.mem_cons_self]
    by_cases hr : run' = run <;> simp [hr]

theorem stepsOf_discard :
    (m.discard run).stepsOf run' = if run' = run then [] else m.stepsOf run' := by
  unfold discard stepsOf
  dsimp only
  rw [List.filter_filter]
  by_cases h : run' = run
  · rw [if_pos h, List.filter_eq_nil_iff.2 (by intro q _; simp [h])]
    rfl
  · rw [if_neg h]
    congr 2
    funext q
    by_cases hq : q.step.run = run'
    · simp [hq, h]
    · simp [hq]

theorem stepsOf_save : (save run c m).2.stepsOf run' = m.stepsOf run' := by
  unfold save
  split <;> rfl

theorem stepsOf_remove : (remove run m).2.stepsOf run' = m.stepsOf run' := by
  unfold remove
  split <;> rfl

/-- The step on top is the first of its run. -/
theorem stepsOf_top {q : Queued} {rest : List Queued} (top : m.steps = q :: rest) :
    ∃ ts, m.stepsOf q.step.run = q.step :: ts := by
  unfold stepsOf
  rw [top, List.filter_cons_of_pos (by simp)]
  exact ⟨_, rfl⟩

/-! ## Orderly stores -/

/-- Younger steps lie above older ones, and no step has a number above the one given out
last. -/
structure Orderly (m : Memory) : Prop where
  ordered : m.steps.Pairwise fun a b => b.id < a.id
  steps_le : ∀ q ∈ m.steps, q.id ≤ m.lastStep

/-- The step on top is the only one with its number. -/
theorem Orderly.filter_top {q : Queued} {rest : List Queued} (h : m.Orderly)
    (top : m.steps = q :: rest) : m.steps.filter (fun x => x.id ≠ q.id) = rest := by
  have ho := h.ordered
  rw [top, List.pairwise_cons] at ho
  rw [top, List.filter_cons_of_neg (by simp), List.filter_eq_self]
  intro x hx
  have := ho.1 x hx
  exact decide_eq_true (by omega)

theorem Orderly.push (h : m.Orderly) (t : Step) : (m.push t).Orderly := by
  constructor
  · refine List.pairwise_cons.2 ⟨?_, h.ordered⟩
    intro q hq
    have := h.steps_le q hq
    show q.id < m.lastStep + 1
    omega
  · intro q hq
    show q.id ≤ m.lastStep + 1
    rcases List.mem_cons.1 hq with rfl | hq
    · exact Int.le_refl _
    · have := h.steps_le q hq
      omega

theorem Orderly.pushAll (h : m.Orderly) (new : List Step) :
    (new.foldl Memory.push m).Orderly := by
  induction new generalizing m with
  | nil => exact h
  | cons t new ih => exact ih (h.push t)

/-- Steps may be dropped, and the table of runs is of no account. -/
theorem Orderly.keep {m' : Memory} (h : m.Orderly) (hs : m'.steps.Sublist m.steps)
    (hl : m'.lastStep = m.lastStep) : m'.Orderly where
  ordered := h.ordered.sublist hs
  steps_le q hq := by
    rw [hl]
    exact h.steps_le q (hs.subset hq)

/-! ## Sound stores -/

/-- Steps have their runs, younger steps lie above older ones, and no number is above the
one given out last. -/
structure Sound (m : Memory) : Prop where
  closed : m.Closed
  ordered : m.steps.Pairwise fun a b => b.id < a.id
  steps_le : ∀ q ∈ m.steps, q.id ≤ m.lastStep
  runs_le : ∀ {run : Int} {c : Context}, m.context? run = some c → run ≤ m.lastRun

theorem Sound.orderly (h : m.Sound) : m.Orderly := ⟨h.ordered, h.steps_le⟩

theorem stepsOf_complete {q : Queued} {rest : List Queued} {new : List Step} (h : m.Sound)
    (top : m.steps = q :: rest) (hc : m.context? q.step.run = some c')
    (hn : ∀ t ∈ new, t.run = q.step.run) :
    (complete q.id new q.step.run c m).2.stepsOf run' =
      if run' = q.step.run then new.reverse ++ (m.stepsOf run').tail else m.stepsOf run' := by
  unfold complete
  rw [if_pos (hasRun_iff.2 ⟨c', hc⟩)]
  dsimp only
  rw [stepsOf_foldl_push hn, h.orderly.filter_top top]
  unfold stepsOf
  dsimp only
  rw [top]
  by_cases hr : run' = q.step.run
  · rw [if_pos hr, if_pos hr, List.filter_cons_of_pos (by simp [hr])]
    rfl
  · rw [if_neg hr, if_neg hr, List.filter_cons_of_neg (by simpa using Ne.symm hr)]

theorem sound_empty : Sound {} where
  closed := by simp [Closed]
  ordered := List.Pairwise.nil
  steps_le := by simp
  runs_le := by simp [context?]

theorem Sound.push {t : Step} (h : m.Sound) (ht : m.context? t.run = some c) :
    (m.push t).Sound := by
  have ho := h.orderly.push t
  refine ⟨?_, ho.ordered, ho.steps_le, h.runs_le⟩
  intro q hq
  rcases List.mem_cons.1 hq with rfl | hq
  · exact hasRun_iff.2 ⟨c, ht⟩
  · exact h.closed q hq

theorem Sound.pushAll {new : List Step} (h : m.Sound) (hn : ∀ t ∈ new, t.run = run)
    (hc : m.context? run = some c) : (new.foldl Memory.push m).Sound := by
  induction new generalizing m with
  | nil => exact h
  | cons t new ih =>
    have ht : m.context? t.run = some c := by
      rw [hn t List.mem_cons_self]
      exact hc
    exact ih (h.push ht) (fun t' ht' => hn t' (List.mem_cons_of_mem _ ht')) hc

/-- Steps may be dropped. -/
theorem Sound.keep (h : m.Sound) (p : Queued → Bool) :
    Sound { m with steps := m.steps.filter p } where
  closed q hq := h.closed q (List.mem_filter.1 hq).1
  ordered := h.ordered.filter p
  steps_le q hq := h.steps_le q (List.mem_filter.1 hq).1
  runs_le := h.runs_le

/-- A table of the same runs, or of more. -/
theorem Sound.table {m' : Memory} (h : m.Sound) (hs : m'.steps = m.steps)
    (hl : m'.lastStep = m.lastStep)
    (keep : ∀ q ∈ m.steps, ∀ c, m.context? q.step.run = some c →
      ∃ c', m'.context? q.step.run = some c')
    (hr : ∀ {run : Int} {c : Context}, m'.context? run = some c → run ≤ m'.lastRun) :
    m'.Sound := by
  refine ⟨?_, ?_, ?_, hr⟩
  · intro q hq
    rw [hs] at hq
    obtain ⟨c, hc⟩ := hasRun_iff.1 (h.closed q hq)
    exact hasRun_iff.2 (keep q hq c hc)
  · rw [hs]
    exact h.ordered
  · rw [hs, hl]
    exact h.steps_le

theorem Sound.replaced (h : m.Sound) (hc : m.context? run = some c') :
    Sound { m with runs := replaced run c m.runs } := by
  have hl : ∀ run', Memory.context? run' { m with runs := Batch.replaced run c m.runs } =
      if run' = run then some c else m.context? run' :=
    fun _ => lookup_replaced (hasRun_iff.2 ⟨c', hc⟩)
  refine h.table rfl rfl ?_ ?_
  · intro q hq x hx
    rw [hl]
    by_cases hr : q.step.run = run
    · exact ⟨c, if_pos hr⟩
    · exact ⟨x, by rw [if_neg hr]; exact hx⟩
  · intro run' x hx
    rw [hl] at hx
    by_cases hr : run' = run
    · rw [hr]
      exact h.runs_le hc
    · rw [if_neg hr] at hx
      exact h.runs_le hx

theorem Sound.save (h : m.Sound) (hc : m.context? run = some c') :
    (save run c m).2.Sound := by
  unfold Memory.save
  rw [if_pos (hasRun_iff.2 ⟨c', hc⟩)]
  exact h.replaced hc

theorem Sound.remove (h : m.Sound) (hc : m.context? run = some c')
    (spent : m.stepsOf run = []) : (remove run m).2.Sound := by
  refine h.table ?_ ?_ ?_ ?_
  · unfold Memory.remove
    split <;> rfl
  · unfold Memory.remove
    split <;> rfl
  · intro q hq x hx
    rw [context?_remove hc, if_neg (run_ne_of_stepsOf spent q hq)]
    exact ⟨x, hx⟩
  · intro run' x hx
    rw [context?_remove hc] at hx
    rw [lastRun_remove]
    by_cases hr : run' = run
    · rw [if_pos hr] at hx
      cases hx
    · rw [if_neg hr] at hx
      exact h.runs_le hx

theorem Sound.complete {id : Int} {new : List Step} (h : m.Sound)
    (hc : m.context? run = some c') (hn : ∀ t ∈ new, t.run = run) :
    (complete id new run c m).2.Sound := by
  unfold Memory.complete
  rw [if_pos (hasRun_iff.2 ⟨c', hc⟩)]
  refine Sound.pushAll (c := c) ((h.replaced hc).keep fun q => q.id ≠ id) hn ?_
  exact lookup_replaced_self c (hasRun_iff.2 ⟨c', hc⟩)

/-! ## New runs -/

theorem context?_create (h : m.Sound) (c : Context) :
    (m.create c).2.context? run = if run = m.lastRun + 1 then some c else m.context? run := by
  show (m.runs ++ [(m.lastRun + 1, c)]).lookup run = _
  rw [List.lookup_append]
  by_cases hr : run = m.lastRun + 1
  · have hn : m.runs.lookup run = none := by
      cases hl : m.runs.lookup run with
      | none => rfl
      | some c =>
        have := h.runs_le hl
        omega
    rw [if_pos hr, hn, hr]
    simp
  · rw [if_neg hr, List.lookup_cons, beq_eq_false_iff_ne.2 hr]
    simp [context?]

theorem context?_begin_other {r : Run} (h : run ≠ m.lastRun + 1) :
    (m.begin r).context? run = m.context? run := by
  show (m.runs ++ [(m.lastRun + 1, r.context {} {})]).lookup run = _
  rw [List.lookup_append, List.lookup_cons, beq_eq_false_iff_ne.2 h]
  simp [context?]

theorem context?_begin (h : m.Sound) (r : Run) :
    (m.begin r).context? run =
      if run = m.lastRun + 1 then some (r.context {} {}) else m.context? run :=
  context?_create h _

theorem stepsOf_begin (h : m.Sound) (r : Run) :
    (m.begin r).stepsOf run =
      if run = m.lastRun + 1 then [r.stepAt (m.lastRun + 1) r.first] else m.stepsOf run := by
  have hs : (m.create (r.context {} {})).2.stepsOf run = m.stepsOf run := rfl
  unfold begin
  rw [stepsOf_push, hs]
  by_cases hr : run = m.lastRun + 1
  · -- A step of a run that is still to come would be a step without its run.
    have hn : m.stepsOf run = [] := by
      unfold stepsOf
      rw [List.filter_eq_nil_iff.2]
      · rfl
      · intro q hq hqr
        obtain ⟨c, hc⟩ := hasRun_iff.1 (h.closed q hq)
        have hle := h.runs_le hc
        have hqr := of_decide_eq_true hqr
        omega
    rw [if_pos hr, hn]
    exact if_pos hr
  · rw [if_neg hr]
    exact if_neg hr

theorem Sound.create (h : m.Sound) (c : Context) : (m.create c).2.Sound := by
  refine h.table rfl rfl ?_ ?_
  · intro q hq x hx
    have hle := h.runs_le hx
    rw [context?_create h, if_neg (by omega)]
    exact ⟨x, hx⟩
  · intro run x hx
    rw [context?_create h] at hx
    show run ≤ m.lastRun + 1
    by_cases hr : run = m.lastRun + 1
    · omega
    · rw [if_neg hr] at hx
      have := h.runs_le hx
      omega

theorem Sound.begin (h : m.Sound) (r : Run) : (m.begin r).Sound := by
  have hc : (m.create (r.context {} {})).2.context? (r.stepAt (m.lastRun + 1) r.first).run =
      some (r.context {} {}) := by
    rw [context?_create h]
    exact if_pos rfl
  exact (h.create _).push hc

end Memory

/-- A run that is called off keeps its context, marked so, and has no steps. -/
theorem slice_cancelRun {σ : Type} [Store σ] [LawfulStore σ] {s : Session σ} {run : Int}
    {c : Context} (context : s.view.store.context? run = some c) :
    (cancelRun run s).2.view.store.context? run = some c.cancel ∧
      (cancelRun run s).2.view.store.stepsOf run = [] := by
  obtain ⟨s', he, hv⟩ := cancelRun_view context
  rw [he, hv]
  constructor
  · rw [Memory.context?_discard, Memory.context?_save context, if_pos rfl]
  · rw [Memory.stepsOf_discard, if_pos rfl]

theorem context_of_cancelRun {σ : Type} [Store σ] [LawfulStore σ] {s : Session σ} {run : Int}
    {n : Nat} (h : (cancelRun run s).1 = .ok n) : ∃ c, s.view.store.context? run = some c := by
  cases hc : s.view.store.context? run with
  | none =>
    rw [cancelRun_none hc] at h
    cases h
  | some c => exact ⟨c, rfl⟩

end SiteWalk.Batch
