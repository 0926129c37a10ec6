import SiteWalk.Proofs.Batch.View

/-!
# The exits of processing a step

Processing a step ends in one of five ways, and `Exit` says for each of them what the answer
is and all that is done to the view of the session.  Nothing is asked of the store: its steps
and contexts may have been put there by anyone, and runs may be missing.

    Exit site s.view (processStep site s).1 (processStep site s).2.view             (exit)
-/

namespace SiteWalk.Batch

open Crawl

variable {σ : Type} [Store σ] [LawfulStore σ] {s : Session σ}

/-! ## Claiming -/

theorem claim_idle (h : s.env.cancelled = true ∨ s.view.store.steps = []) : claim s = .idle := by
  unfold claim
  by_cases hc : s.env.cancelled = true
  · rw [if_pos hc]
  · have hs : (LawfulStore.view s.store).steps = [] := h.resolve_left hc
    rw [if_neg hc, peek?_eq, hs]
    rfl

theorem claim_top {q : Queued} {rest : List Queued} {c : Context} (on : ¬ s.env.cancelled = true)
    (top : s.view.store.steps = q :: rest)
    (context : s.view.store.context? q.step.run = some c) :
    claim s = if c.cancelled then .dropped q c else .ready q c := by
  have htop : (LawfulStore.view s.store).steps = q :: rest := top
  unfold claim
  rw [if_neg on, peek?_eq, htop]
  dsimp only [List.head?_cons]
  rw [load_some context]

theorem claim_orphan {q : Queued} {rest : List Queued} (on : ¬ s.env.cancelled = true)
    (top : s.view.store.steps = q :: rest) (context : s.view.store.context? q.step.run = none) :
    claim s = .orphan q := by
  have htop : (LawfulStore.view s.store).steps = q :: rest := top
  unfold claim
  rw [if_neg on, peek?_eq, htop]
  dsimp only [List.head?_cons]
  rw [load_none context]

/-! ## Settling -/

/-- The steps for children belong to the run of the step. -/
theorem run_of_mem_children {q : Queued} {children : List Node} {t : Step}
    (h : t ∈ (children.map q.step.child).reverse) : t.run = q.step.run := by
  obtain ⟨n, -, rfl⟩ := List.mem_map.1 (List.mem_reverse.1 h)
  rfl

theorem Memory.save_of_context {run : Int} {c c' : Context} {m : Memory}
    (h : m.context? run = some c) : Memory.save run c' m = (.ok (), (Memory.save run c' m).2) := by
  unfold Memory.save
  rw [if_pos (hasRun_iff.2 ⟨c, h⟩)]

theorem Memory.remove_of_context {run : Int} {c : Context} {m : Memory}
    (h : m.context? run = some c) : Memory.remove run m = (.ok (), (Memory.remove run m).2) := by
  unfold Memory.remove
  rw [if_pos (hasRun_iff.2 ⟨c, h⟩)]

theorem Memory.complete_of_context (id : Int) {run : Int} {new : List Step} {c c' : Context}
    {m : Memory} (h : m.context? run = some c) :
    Memory.complete id new run c' m = (.ok (), (Memory.complete id new run c' m).2) := by
  unfold Memory.complete
  rw [if_pos (hasRun_iff.2 ⟨c, h⟩)]

/-- The steps of a run that is called off are dropped. -/
theorem settleDropped_view {q : Queued} {c c' : Context}
    (context : s.view.store.context? q.step.run = some c') :
    ∃ s', settleDropped q c s =
        (.ok (some { run := q.step.run, url := q.step.node.url, stage := .skipped }), s') ∧
      s'.view = ⟨(Memory.save q.step.run { c with report := { c.report with cancelled := true } }
        (s.view.store.discard q.step.run)).2, s.env⟩ := by
  have hd := s.view_discard q.step.run
  have hctx : (Session.view { s with store := Store.discard q.step.run s.store }).store.context?
      q.step.run = some c' := by
    rw [hd]
    exact context
  obtain ⟨s', he, hv⟩ := Session.change_of_seen
    (s := { s with store := Store.discard q.step.run s.store })
    ((LawfulStore.view_save q.step.run { c with report := { c.report with cancelled := true } }
      _).trans (Memory.save_of_context hctx))
  refine ⟨s', by simp [settleDropped, he], ?_⟩
  rw [hv, show LawfulStore.view (Store.discard q.step.run s.store) =
    s.view.store.discard q.step.run from LawfulStore.view_discard _ _]

/-- A step that cannot be carried out leaves the queue alone. -/
theorem abandon_view {q : Queued} {c c' : Context} (why : Failure)
    (context : s.view.store.context? q.step.run = some c') :
    ∃ s', abandon q c why s = (.error why, s') ∧
      s'.view = ⟨(Memory.complete q.id [] q.step.run
        { c with report := { c.report with incomplete := true } } s.view.store).2, s.env⟩ := by
  obtain ⟨s', he, hv⟩ := Session.change_of_seen
    ((LawfulStore.view_complete (c := { c with report := { c.report with incomplete := true } })
      (List.forall_mem_nil _)).trans (Memory.complete_of_context q.id context))
  exact ⟨s', by simp [abandon, he], hv⟩

/-- A step that is carried out leaves the queue to the steps for its children. -/
theorem carryOut_view (site : Web) {q : Queued} {c c' : Context} {r : Run} {v : Run.Visit}
    {m : Memory} (visit : v = r.visit site q.step.node c.progress s.env)
    (after : m = (Memory.complete q.id (v.outcome.children.map q.step.child).reverse q.step.run
      { c with progress := v.progress, report := c.report.record v.outcome } s.view.store).2)
    (context : s.view.store.context? q.step.run = some c') :
    ∃ s', carryOut site q c r s = (.ok (some {
        run := q.step.run
        url := v.outcome.url
        stage := v.outcome.stage
        scheduled := v.outcome.children.length
        remaining := (m.stepsOf q.step.run).length }), s') ∧
      s'.view = ⟨m, v.env⟩ := by
  have hnew : ∀ t ∈ (v.outcome.children.map q.step.child).reverse,
      hasRun t.run s.view.store.runs = true := by
    intro t ht
    rw [run_of_mem_children ht]
    exact hasRun_iff.2 ⟨c', context⟩
  obtain ⟨s', he, hv⟩ := Session.change_of_seen (s := { s with env := v.env })
    ((LawfulStore.view_complete (c := { c with
        progress := v.progress, report := c.report.record v.outcome }) hnew).trans
      (Memory.complete_of_context q.id context))
  have hv : s'.view = ⟨m, v.env⟩ := by
    rw [after]
    exact hv
  have hp := pending_eq q.step.run s'.store
  rw [show LawfulStore.view s'.store = m from congrArg Session.store hv] at hp
  refine ⟨s', ?_, hv⟩
  simp [carryOut, ← visit, he, hp]

/-- What processing says of a step that is carried out. -/
theorem processStep_visit (site : Web) {q : Queued} {rest : List Queued} {c : Context} {r : Run}
    {v : Run.Visit} {m : Memory} (on : s.env.cancelled = false)
    (top : s.view.store.steps = q :: rest) (context : s.view.store.context? q.step.run = some c)
    (kept : c.cancelled = false) (good : prepare q.step c = .ok r)
    (visit : v = r.visit site q.step.node c.progress s.env)
    (after : m = (Memory.complete q.id (v.outcome.children.map q.step.child).reverse q.step.run
      { c with progress := v.progress, report := c.report.record v.outcome } s.view.store).2) :
    ∃ s', processStep site s = (.ok (some {
        run := q.step.run
        url := v.outcome.url
        stage := v.outcome.stage
        scheduled := v.outcome.children.length
        remaining := (m.stepsOf q.step.run).length }), s') ∧ s'.view = ⟨m, v.env⟩ := by
  obtain ⟨s', he, hv⟩ := carryOut_view site visit after context
  refine ⟨s', ?_, hv⟩
  unfold processStep
  rw [claim_top (Bool.eq_false_iff.1 on) top context, if_neg (Bool.eq_false_iff.1 kept)]
  simp only [settle, good]
  exact he

/-! ## Exits -/

/-- The answer to processing a step, and the session behind it. -/
inductive Exit (site : Web) (s : Session Memory) :
    Except Failure (Option StepReport) → Session Memory → Prop
  /-- The work is called off, or there is no step. -/
  | idle (none : s.env.cancelled = true ∨ s.store.steps = []) : Exit site s (.ok .none) s
  /-- The run of the step that is next is missing. -/
  | orphan {q : Queued} {rest : List Queued} {o : StepReport} (on : s.env.cancelled = false)
      (top : s.store.steps = q :: rest) (unknown : s.store.context? q.step.run = none)
      (stage : o.stage = .skipped) :
      Exit site s (.ok (some o)) ⟨s.store.discard q.step.run, s.env⟩
  /-- The run of the step that is next is called off. -/
  | dropped {q : Queued} {rest : List Queued} {c : Context} {o : StepReport}
      (on : s.env.cancelled = false) (top : s.store.steps = q :: rest)
      (context : s.store.context? q.step.run = some c) (off : c.cancelled = true)
      (stage : o.stage = .skipped) :
      Exit site s (.ok (some o))
        ⟨(Memory.save q.step.run { c with report := { c.report with cancelled := true } }
          (s.store.discard q.step.run)).2, s.env⟩
  /-- The step that is next cannot be carried out. -/
  | abandoned {q : Queued} {rest : List Queued} {c : Context} {why : Failure}
      (on : s.env.cancelled = false) (top : s.store.steps = q :: rest)
      (context : s.store.context? q.step.run = some c) (kept : c.cancelled = false)
      (bad : prepare q.step c = .error why) :
      Exit site s (.error why)
        ⟨(Memory.complete q.id [] q.step.run
          { c with report := { c.report with incomplete := true } } s.store).2, s.env⟩
  /-- The node of the step that is next is visited. -/
  | visited {q : Queued} {rest : List Queued} {c : Context} {r : Run} {o : StepReport}
      {v : Run.Visit} (on : s.env.cancelled = false) (top : s.store.steps = q :: rest)
      (context : s.store.context? q.step.run = some c) (kept : c.cancelled = false)
      (good : prepare q.step c = .ok r)
      (visit : v = r.visit site q.step.node c.progress s.env) (stage : o.stage = v.outcome.stage) :
      Exit site s (.ok (some o))
        ⟨(Memory.complete q.id (v.outcome.children.map q.step.child).reverse q.step.run
          { c with progress := v.progress, report := c.report.record v.outcome } s.store).2, v.env⟩

/-- **Every processing of a step takes one of the exits.** -/
theorem exit (site : Web) (s : Session σ) :
    Exit site s.view (processStep site s).1 (processStep site s).2.view := by
  by_cases hidle : s.env.cancelled = true ∨ s.view.store.steps = []
  · unfold processStep
    rw [claim_idle hidle]
    exact .idle hidle
  rw [not_or] at hidle
  obtain ⟨on, hne⟩ := hidle
  have on' : s.view.env.cancelled = false := Bool.eq_false_iff.2 on
  obtain ⟨q, rest, top⟩ := List.exists_cons_of_ne_nil hne
  unfold processStep
  cases hctx : s.view.store.context? q.step.run with
  | none =>
    rw [claim_orphan on top hctx]
    show Exit site s.view _ (Session.view { s with store := Store.discard q.step.run s.store })
    rw [Session.view_discard]
    exact .orphan on' top hctx rfl
  | some c =>
    rw [claim_top on top hctx]
    by_cases off : c.cancelled = true
    · obtain ⟨s', he, hv⟩ := settleDropped_view (c := c) hctx
      rw [if_pos off]
      show Exit site s.view (settleDropped q c s).1 (settleDropped q c s).2.view
      rw [he, hv]
      exact .dropped on' top hctx off rfl
    · have kept : c.cancelled = false := by simpa using off
      rw [if_neg off]
      cases hp : prepare q.step c with
      | error why =>
        obtain ⟨s', he, hv⟩ := abandon_view (c := c) why hctx
        simp only [settle, hp, he, hv]
        exact .abandoned on' top hctx kept hp
      | ok r =>
        obtain ⟨s', he, hv⟩ := carryOut_view site (c := c) (r := r) rfl rfl hctx
        simp only [settle, hp, he, hv]
        exact .visited on' top hctx kept hp rfl rfl

end SiteWalk.Batch
