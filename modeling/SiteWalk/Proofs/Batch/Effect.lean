import SiteWalk.Proofs.Batch.Exit
import SiteWalk.Proofs.Batch.Journal
import SiteWalk.Proofs.Crawl.Reached

/-!
# The effects of a move

A move has one of seven effects, and `Effect` says for each of them all that the move
does to the view of the session.  What follows about journals is read off the effects,
so nothing else has to look into the coordination of runs.

    s.view.store.Closed →
      Effect site s.view (m.entry site s) (m.perform site s).2.view           (effect)
-/

namespace SiteWalk

open Batch

namespace Crawl.Run

/-! ## What a run puts into a store -/

/-- The step of a batch run for one of its nodes. -/
def stepAt (r : Run) (run : Int) (n : Node) : Step :=
  ⟨run, n, r.flavor, r.profile.settings, r.profile.settings.digest⟩

/-- The context of a batch run that is not called off. -/
def context (r : Run) (p : Progress) (rep : Report) : Context :=
  ⟨r.seed.toText, r.flavor, r.profile.settings.digest, p, rep, false⟩

end Crawl.Run

namespace Batch

open Crawl

namespace Memory

/-- Adds a run with a step for its first node. -/
def begin (r : Run) (m : Memory) : Memory :=
  (m.create (r.context {} {})).2.push (r.stepAt (m.lastRun + 1) r.first)

end Memory

variable {σ : Type} [Store σ] [LawfulStore σ]

/-! ## Effects -/

/-- What a move does to the view of a session, and the entry that it makes. -/
inductive Effect (site : Web) (s : Session Memory) : Entry → Session Memory → Prop
  /-- Nothing happens to any run. -/
  | idle {move : Move} {reply : Reply} {asked : List String} {env : Env}
      (started : ∀ run, reply ≠ .started (.ok (.deferred run)))
      (collected : ∀ rep, reply ≠ .collected (.ok (some rep))) :
      Effect site s ⟨move, none, reply, asked⟩ ⟨s.store, env⟩
  /-- A run is put into the store. -/
  | started {settings : Settings} {seed : String} {r : Run}
      (profile : Profile.ofSettings settings = .ok r.profile)
      (address : Link.seed? seed = .ok r.seed) :
      Effect site s
        ⟨.start settings seed r.flavor .batched, none,
          .started (.ok (.deferred (s.store.lastRun + 1))), []⟩
        ⟨s.store.begin r, s.env⟩
  /-- The step that is next belongs to a run that is called off. -/
  | dropped {q : Queued} {rest : List Queued} {c : Context} {o : StepReport}
      (top : s.store.steps = q :: rest) (context : s.store.context? q.step.run = some c)
      (off : c.cancelled = true) (stage : o.stage = .skipped) :
      Effect site s ⟨.process, some q.step, .processed (.ok (some o)), []⟩
        ⟨(Memory.save q.step.run { c with report := { c.report with cancelled := true } }
          (s.store.discard q.step.run)).2, s.env⟩
  /-- The step that is next cannot be carried out. -/
  | abandoned {q : Queued} {rest : List Queued} {c : Context} {why : Failure}
      (top : s.store.steps = q :: rest) (context : s.store.context? q.step.run = some c)
      (on : c.cancelled = false) (bad : prepare q.step c = .error why) :
      Effect site s ⟨.process, some q.step, .processed (.error why), []⟩
        ⟨(Memory.complete q.id [] q.step.run
          { c with report := { c.report with incomplete := true } } s.store).2, s.env⟩
  /-- The node of the step that is next is visited. -/
  | visited {q : Queued} {rest : List Queued} {c : Context} {r : Run} {o : StepReport}
      {v : Run.Visit}
      (top : s.store.steps = q :: rest) (context : s.store.context? q.step.run = some c)
      (on : c.cancelled = false) (good : prepare q.step c = .ok r)
      (visit : v = r.visit site q.step.node c.progress s.env) (stage : o.stage = v.outcome.stage) :
      Effect site s
        ⟨.process, some q.step, .processed (.ok (some o)),
          if v.outcome.fetched then [q.step.node.url] else []⟩
        ⟨(Memory.complete q.id (v.outcome.children.map q.step.child).reverse q.step.run
          { c with progress := v.progress, report := c.report.record v.outcome } s.store).2, v.env⟩
  /-- The report of a run is handed out. -/
  | collected {run : Int} {c : Context} (spent : s.store.stepsOf run = [])
      (context : s.store.context? run = some c) :
      Effect site s ⟨.collect run, none, .collected (.ok (some c.report)), []⟩
        ⟨(Memory.remove run s.store).2, s.env⟩
  /-- A run is called off. -/
  | calledOff {run : Int} {c : Context} {n : Nat} (context : s.store.context? run = some c) :
      Effect site s ⟨.cancel run, none, .cancelled (.ok n), []⟩
        ⟨(Memory.save run c.cancel s.store).2.discard run, s.env⟩

/-! ## Every move has one -/

/-- What the move does to the session is an effect on its view. -/
abbrev Move.HasEffect (site : Web) (m : Move) (s : Session σ) : Prop :=
  Effect site s.view (m.entry site s) (m.perform site s).2.view

variable {site : Web} {s : Session σ}

/-- Putting a run into the store. -/
theorem enqueue_view (c : Coordinator) (u : Url) (flavor : Flavor) (s : Session σ) :
    ∃ s', c.enqueue u flavor s = (.ok (s.view.store.lastRun + 1), s') ∧
      s'.view = ⟨s.view.store.begin ⟨c.profile, u, flavor⟩, s.env⟩ := by
  have hc := LawfulStore.view_create ((Run.mk c.profile u flavor).context {} {}) s.store
  unfold Coordinator.enqueue
  unfold seen at hc
  generalize hx : Store.create ((Run.mk c.profile u flavor).context {} {}) s.store = x at hc
  obtain ⟨run, store⟩ := x
  obtain ⟨h1, h2⟩ := Prod.mk.inj hc
  obtain rfl : run = s.view.store.lastRun + 1 := h1
  have hr : hasRun ((Run.mk c.profile u flavor).stepAt (s.view.store.lastRun + 1)
      (Run.mk c.profile u flavor).first).run (LawfulStore.view store).runs = true := by
    show hasRun _ (LawfulStore.view (s.view.store.lastRun + 1, store).2).runs = true
    rw [h2]
    simp [hasRun, Run.stepAt, Session.view]
  obtain ⟨s', he, hv⟩ := Session.change_of_seen (s := ⟨store, s.env⟩) (LawfulStore.view_enqueue hr)
  refine ⟨s', ?_, ?_⟩
  · dsimp only
    rw [show Store.create ⟨u.toText, flavor, c.profile.settings.digest, {}, {}, false⟩ s.store =
      (s.view.store.lastRun + 1, store) from hx]
    dsimp only
    have he' : Session.change (Store.enqueue ⟨s.view.store.lastRun + 1,
        ⟨u.toText, c.profile.settings.walk.depth⟩, flavor, c.profile.settings,
        c.profile.settings.digest⟩) ⟨store, s.env⟩ = (.ok (), s') := he
    rw [he']
  · rw [hv]
    show Session.mk ((LawfulStore.view (s.view.store.lastRun + 1, store).2).push _) s.env = _
    rw [h2]
    rfl

/-- The step that is claimed is the one on top. -/
theorem claim_step {q : Queued} {rest : List Queued} (on : ¬ s.env.cancelled = true)
    (top : s.view.store.steps = q :: rest) : (claim s).step? = some q.step := by
  cases hctx : s.view.store.context? q.step.run with
  | none =>
    rw [claim_orphan on top hctx]
    rfl
  | some c =>
    rw [claim_top on top hctx]
    split <;> rfl

/-- The entry of a move that leads to a session. -/
theorem effect_of {m : Move} (reply : Reply) (s' : Session σ) {step : Option Step}
    {x : Session Memory} (hp : m.perform site s = (reply, s')) (hs : m.step? s = step)
    (hv : s'.view = x)
    (h : Effect site s.view
      ⟨m, step, reply, (x.env.requests.drop s.env.requests.length).map Request.url⟩ x) :
    m.HasEffect site s := by
  subst hv
  unfold Move.HasEffect Move.entry
  rw [hp, hs]
  exact h

theorem effect_idle {m : Move} (reply : Reply) (s' : Session σ)
    (hp : m.perform site s = (reply, s')) (hs : m.step? s = none) (hv : s'.store = s.store)
    (started : ∀ run, reply ≠ .started (.ok (.deferred run)))
    (collected : ∀ rep, reply ≠ .collected (.ok (some rep))) :
    m.HasEffect site s := by
  refine effect_of (x := ⟨s.view.store, s'.env⟩) reply s' hp hs ?_ (.idle started collected)
  unfold Session.view
  rw [hv]

theorem effect_start (settings : Settings) (seed : String) (flavor : Flavor) (mode : Mode) :
    (Move.start settings seed flavor mode).HasEffect site s := by
  cases hp : Profile.ofSettings settings with
  | error e =>
    refine effect_idle (.started (.error (.profile e))) s ?_ rfl rfl ?_ ?_ <;>
      simp [Move.perform, hp]
  | ok p =>
    cases hu : Link.seed? seed with
    | error e =>
      refine effect_idle (.started (.error (.seed e))) s ?_ rfl rfl ?_ ?_ <;>
        simp [Move.perform, hp, Coordinator.start, hu]
    | ok u =>
      cases mode with
      | synchronous =>
        refine effect_idle (.started (.ok (.done ((Run.mk p u flavor).crawl site s.env).report)))
          { s with env := ((Run.mk p u flavor).crawl site s.env).env } ?_ rfl rfl ?_ ?_ <;>
            simp [Move.perform, hp, Coordinator.start, hu]
      | batched =>
        obtain ⟨s', he, hv⟩ := enqueue_view ⟨p, site⟩ u flavor s
        refine effect_of (.started (.ok (.deferred (s.view.store.lastRun + 1)))) s' ?_ rfl hv ?_
        · simp [Move.perform, hp, Coordinator.start, hu, he]
        · rw [List.drop_length]
          exact .started (r := ⟨p, u, flavor⟩) hp hu

/-! ## Processing -/

theorem effect_unclaimed (h : s.env.cancelled = true ∨ s.view.store.steps = []) :
    Move.process.HasEffect site s := by
  have hi := claim_idle h
  refine effect_idle (.processed (.ok none)) s ?_ ?_ rfl (by simp) (by simp)
  · simp [Move.perform, processStep, hi, settle]
  · simp [Move.step?, hi, Claim.step?]

/-- An exit is an effect, if the step that is next is not left without its run. -/
theorem effect_of_exit {s s' : Session Memory} {a : Except Failure (Option StepReport)}
    {step : Option Step} (h : Exit site s a s')
    (closed : ∀ q rest, s.store.steps = q :: rest → hasRun q.step.run s.store.runs = true)
    (idle : s.env.cancelled = true ∨ s.store.steps = [] → step = none)
    (claimed : ∀ q rest, s.env.cancelled = false → s.store.steps = q :: rest →
      step = some q.step) :
    Effect site s ⟨.process, step, .processed a,
      (s'.env.requests.drop s.env.requests.length).map Request.url⟩ s' := by
  cases h with
  | idle none =>
    rw [idle none]
    exact .idle (by simp) (by simp)
  | orphan _ top unknown =>
    obtain ⟨c, context⟩ := hasRun_iff.1 (closed _ _ top)
    cases unknown.symm.trans context
  | dropped on top context off stage =>
    rw [claimed _ _ on top, List.drop_length]
    exact .dropped top context off stage
  | abandoned on top context kept bad =>
    rw [claimed _ _ on top, List.drop_length]
    exact .abandoned top context kept bad
  | visited on top context kept good visit stage =>
    subst visit
    rw [claimed _ _ on top]
    dsimp only
    rw [Run.requests_visit, List.drop_left]
    have h := Effect.visited top context kept good rfl stage
    split at h
    · next fetched =>
      rw [if_pos fetched]
      exact h
    · next bare =>
      rw [if_neg bare]
      exact h

/-- Processing has an effect when the step that is next is not left without its run. -/
theorem effect_process (closed : ∀ q rest, s.view.store.steps = q :: rest →
    hasRun q.step.run s.view.store.runs = true) : Move.process.HasEffect site s := by
  refine effect_of_exit (exit site s) closed ?_ ?_
  · intro idle
    show (claim s).step? = none
    rw [claim_idle (s := s) idle]
    rfl
  · intro q rest on top
    have on' : ¬ s.env.cancelled = true := by
      rw [show s.env.cancelled = false from on]
      exact Bool.false_ne_true
    exact claim_step on' top

/-! ## Ending runs -/

/-- Calling a run off marks its context and drops its steps. -/
theorem cancelRun_view {run : Int} {c : Context} (context : s.view.store.context? run = some c) :
    ∃ s', cancelRun run s =
        (.ok ((Memory.save run c.cancel s.view.store).2.stepsOf run).length, s') ∧
      s'.view = ⟨(Memory.save run c.cancel s.view.store).2.discard run, s.env⟩ := by
  obtain ⟨s', he, hv⟩ := Session.change_of_seen
    ((LawfulStore.view_save run c.cancel s.store).trans (Memory.save_of_context context))
  have hd : Session.view { s' with store := Store.discard run s'.store } =
      ⟨s'.view.store.discard run, s'.view.env⟩ := s'.view_discard run
  refine ⟨{ s' with store := Store.discard run s'.store }, ?_, ?_⟩
  · have hp := pending_eq run s'.store
    rw [show LawfulStore.view s'.store = _ from congrArg Session.store hv] at hp
    simp [cancelRun, load_some context, he, hp, Session.view]
  · rw [hd, hv]
    rfl

theorem cancelRun_none {run : Int} (h : s.view.store.context? run = none) :
    cancelRun run s = (.error (.store (.missingRun run)), s) := by
  simp [cancelRun, load_none h]

/-- The report of a run is handed out when no step of it is queued. -/
theorem collect_view {run : Int} {c : Context} (spent : s.view.store.stepsOf run = [])
    (context : s.view.store.context? run = some c) :
    ∃ s', collect run s = (.ok (some c.report), s') ∧
      s'.view = ⟨(Memory.remove run s.view.store).2, s.env⟩ := by
  have hn : Store.pending run s.store = 0 := by
    rw [pending_eq, show (LawfulStore.view s.store).stepsOf run = [] from spent]
    rfl
  obtain ⟨s', he, hv⟩ := Session.change_of_seen
    ((LawfulStore.view_remove (Memory.run_ne_of_stepsOf spent)).trans
      (Memory.remove_of_context context))
  exact ⟨s', by simp [Batch.collect, hn, load_some context, he], hv⟩

/-- Nothing is handed out while steps of the run are queued. -/
theorem collect_left {run : Int} (left : s.view.store.stepsOf run ≠ []) :
    collect run s = (.ok none, s) := by
  have pending : Store.pending run s.store > 0 := by
    rw [pending_eq]
    exact List.length_pos_iff.2 left
  unfold collect
  rw [if_pos pending]

theorem collect_none {run : Int} (spent : s.view.store.stepsOf run = [])
    (h : s.view.store.context? run = none) :
    collect run s = (.error (.store (.missingRun run)), s) := by
  have pending : ¬ Store.pending run s.store > 0 := by
    rw [pending_eq, show (LawfulStore.view s.store).stepsOf run = [] from spent]
    exact Nat.lt_irrefl 0
  unfold collect
  rw [if_neg pending, load_none h]

/-- The three exits of collecting: steps of the run are queued, the run is unknown, or its
report is handed out. -/
theorem collect_exits (run : Int) (s : Session σ) :
    (Store.pending run s.store > 0 ∧ collect run s = (.ok none, s)) ∨
    (Store.pending run s.store = 0 ∧ Store.load run s.store = .error (.missingRun run) ∧
      collect run s = (.error (.store (.missingRun run)), s)) ∨
    (Store.pending run s.store = 0 ∧ ∃ c s', Store.load run s.store = .ok c ∧
      collect run s = (.ok (some c.report), s') ∧
      s'.view = ⟨(Memory.remove run s.view.store).2, s.env⟩) := by
  have pending : Store.pending run s.store = (s.view.store.stepsOf run).length :=
    pending_eq run s.store
  by_cases left : s.view.store.stepsOf run = []
  · have none : Store.pending run s.store = 0 := by
      rw [pending, left]
      rfl
    cases context : s.view.store.context? run with
    | none => exact .inr (.inl ⟨none, load_none context, collect_none left context⟩)
    | some c =>
      obtain ⟨s', handed, view⟩ := collect_view left context
      exact .inr (.inr ⟨none, c, s', load_some context, handed, view⟩)
  · refine .inl ⟨?_, collect_left left⟩
    rw [pending]
    exact List.length_pos_iff.2 left

theorem effect_collect (run : Int) : (Move.collect run).HasEffect site s := by
  by_cases hn : s.view.store.stepsOf run = []
  · cases hc : s.view.store.context? run with
    | none =>
      refine effect_idle (.collected (.error (.store (.missingRun run)))) s
        ?_ rfl rfl ?_ ?_ <;> simp [Move.perform, collect_none hn hc]
    | some c =>
      obtain ⟨s', he, hv⟩ := collect_view hn hc
      refine effect_of (.collected (.ok (some c.report))) s' ?_ rfl hv ?_
      · simp [Move.perform, he]
      · rw [List.drop_length]
        exact .collected hn hc
  · refine effect_idle (.collected (.ok none)) s ?_ rfl rfl ?_ ?_ <;>
      simp [Move.perform, collect_left hn]

theorem effect_cancel (run : Int) : (Move.cancel run).HasEffect site s := by
  cases hc : s.view.store.context? run with
  | none =>
    refine effect_idle (.cancelled (.error (.store (.missingRun run)))) s
      ?_ rfl rfl ?_ ?_ <;> simp [Move.perform, cancelRun_none hc]
  | some c =>
    obtain ⟨s', he, hv⟩ := cancelRun_view hc
    refine effect_of (.cancelled (.ok ((Memory.save run c.cancel s.view.store).2.stepsOf run).length))
      s' ?_ rfl hv ?_
    · simp [Move.perform, he]
    · rw [List.drop_length]
      exact .calledOff hc

/-- What a move does in the store of one process, if it puts a run into it. -/
theorem perform_start (site : Web) {settings : Settings} {seed : String} {r : Run}
    (profile : Profile.ofSettings settings = .ok r.profile)
    (address : Link.seed? seed = .ok r.seed) (m : Memory) (e : Env) :
    let s : Session Memory := ⟨m, e⟩
    let start : Move := .start settings seed r.flavor .batched
    start.entry site s = ⟨start, none, .started (.ok (.deferred (m.lastRun + 1))), []⟩ ∧
      (start.perform site s).2 = ⟨m.begin r, e⟩ := by
  intro s start
  obtain ⟨s', he, hv⟩ := enqueue_view ⟨r.profile, site⟩ r.seed r.flavor s
  obtain rfl : s' = ⟨m.begin r, e⟩ := hv
  have performed : start.perform site s =
      (.started (.ok (.deferred (m.lastRun + 1))), ⟨m.begin r, e⟩) := by
    simp only [start, Move.perform, profile, Coordinator.start, address, he]
    rfl
  have none : e.requests.drop e.requests.length = [] := List.drop_length
  unfold Move.entry
  rw [performed]
  dsimp only
  rw [none]
  exact ⟨rfl, rfl⟩

/-- What a move does in the store of one process, if it processes a step that can be carried
out. -/
theorem perform_visit (site : Web) {m : Memory} {e : Env} {q : Queued} {rest : List Queued}
    {c : Context} {r : Run} {v : Run.Visit} (on : e.cancelled = false) (top : m.steps = q :: rest)
    (context : m.context? q.step.run = some c) (kept : c.cancelled = false)
    (good : prepare q.step c = .ok r) (visit : r.visit site q.step.node c.progress e = v) :
    let s : Session Memory := ⟨m, e⟩
    let m' := (Memory.complete q.id (v.outcome.children.map q.step.child).reverse q.step.run
      { c with progress := v.progress, report := c.report.record v.outcome } m).2
    let o : StepReport := {
      run := q.step.run
      url := v.outcome.url
      stage := v.outcome.stage
      scheduled := v.outcome.children.length
      remaining := (m'.stepsOf q.step.run).length }
    Move.process.entry site s = ⟨.process, some q.step, .processed (.ok (some o)),
        (v.env.requests.drop e.requests.length).map Request.url⟩ ∧
      (Move.process.perform site s).2 = ⟨m', v.env⟩ := by
  intro s m' o
  obtain ⟨s', he, hv⟩ := processStep_visit (s := s) site on top context kept good visit.symm rfl
  obtain rfl : s' = ⟨m', v.env⟩ := hv
  have performed : Move.process.perform site s = (.processed (.ok (some o)), ⟨m', v.env⟩) := by
    unfold Move.perform
    dsimp only
    rw [he]
    rfl
  have step : Move.process.step? s = some q.step := claim_step (Bool.eq_false_iff.1 on) top
  unfold Move.entry
  rw [performed, step]
  exact ⟨rfl, rfl⟩

/-- **Every move has one of the effects.** -/
theorem effect (site : Web) (closed : s.view.store.Closed) (m : Move) : m.HasEffect site s := by
  cases m with
  | start settings seed flavor mode => exact effect_start settings seed flavor mode
  | process => exact effect_process fun q _ top => closed q (top ▸ List.mem_cons_self)
  | collect run => exact effect_collect run
  | cancel run => exact effect_cancel run
  | handOver cancelled cancelAt => exact .idle (by simp [Move.perform]) (by simp [Move.perform])

end Batch

end SiteWalk
