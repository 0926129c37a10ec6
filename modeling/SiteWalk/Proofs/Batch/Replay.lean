import SiteWalk.Proofs.Batch.Frame

/-!
# Batch runs replay crawls

Whatever else goes on in a store, a run in it does what a quiet crawl does: its context
and its steps are the progress, the report and the stack of a state that the crawl
reaches, and its requests and visits so far are those of the crawl.  `Standing` says
how a run may stand in the store, `Replays` that it got there as the crawl does.

    Trail site e J s → x ∈ J → x.Starts r run → Replays r site run J s.view.store
-/

namespace SiteWalk

/-! ## Reading back -/

namespace Url

/-- The address that a written address is read as; addresses that cannot be read stay. -/
def reread (u : Url) : Url :=
  match parse u.toText.toList with
  | .ok v => v
  | .error _ => u

theorem reread_of_parse {u v : Url} (h : parse u.toText.toList = .ok v) : u.reread = v := by
  unfold reread
  rw [h]

end Url

namespace Crawl.Run

/-- The run as its steps read it from the store. -/
def stored (r : Run) : Run := { r with seed := r.seed.reread }

@[simp] theorem flavor_stored (r : Run) : r.stored.flavor = r.flavor := by
  unfold stored
  rfl

theorem stored_eq {r : Run} (h : Url.parse r.seed.toText.toList = .ok r.seed) : r.stored = r := by
  unfold stored
  rw [Url.reread_of_parse h]

end Crawl.Run

namespace Batch

open Crawl

/-- The profile of a run is what its settings are read as. -/
def Valid (r : Run) : Prop := Profile.ofSettings r.profile.settings = .ok r.profile

theorem valid_of_ofSettings {r : Run} {settings : Settings}
    (h : Profile.ofSettings settings = .ok r.profile) : Valid r := by
  unfold Valid
  rw [Profile.settings_of_ofSettings h]
  exact h

theorem prepare_stepAt {r : Run} (valid : Valid r) (run : Int) (n : Node) (p : Progress)
    (rep : Report) :
    prepare (r.stepAt run n) (r.context p rep) =
      match Url.parse r.seed.toText.toList with
      | .error e => .error (.address e)
      | .ok u => .ok { r with seed := u } := by
  have hp : Profile.ofSettings r.profile.settings = .ok r.profile := valid
  cases hu : Url.parse r.seed.toText.toList <;>
    simp [prepare, Run.stepAt, Run.context, hp, hu]

/-- A step that can be carried out is carried out for the stored run. -/
theorem stored_of_prepare {r r' : Run} (valid : Valid r) {run : Int} {n : Node} {p : Progress}
    {rep : Report} (good : prepare (r.stepAt run n) (r.context p rep) = .ok r') :
    r' = r.stored ∧ ∃ u, Url.parse r.seed.toText.toList = .ok u := by
  rw [prepare_stepAt valid] at good
  cases hu : Url.parse r.seed.toText.toList with
  | error e =>
    rw [hu] at good
    cases good
  | ok u =>
    rw [hu] at good
    cases good
    unfold Run.stored
    rw [Url.reread_of_parse hu]
    exact ⟨rfl, u, rfl⟩

/-! ## Standing -/

/-- A run was called off, or its seed cannot be read back. -/
def Early (r : Run) (run : Int) (J : List Entry) : Prop :=
  (∃ x ∈ J, x.move = .cancel run) ∨ ∀ u, Url.parse r.seed.toText.toList ≠ .ok u

/-- How a run stands in a store when its crawl has reached a state. -/
inductive Standing (r : Run) (run : Int) (J : List Entry) (m : Memory) (s : State) : Prop
  /-- Steps of it are queued, or its report waits. -/
  | waiting (context : m.context? run = some (r.context s.progress s.report))
      (steps : m.stepsOf run = s.stack.map (r.stepAt run))
      (readable : (∃ u, Url.parse r.seed.toText.toList = .ok u) ∨ s.stack = [r.first])
  /-- It was ended early. -/
  | ended {c : Context} (context : m.context? run = some c) (progress : c.progress = s.progress)
      (contents : c.report.contents = s.report.contents) (links : c.report.links = s.report.links)
      (pages : c.report.pagesFetched = s.report.pagesFetched)
      (failures : c.report.fetchFailures = s.report.fetchFailures)
      (steps : m.stepsOf run = []) (early : Early r run J)
  /-- Its report was handed out. -/
  | gone (context : m.context? run = none) (steps : m.stepsOf run = [])
      (spent : s.stack = [] ∨ Early r run J)

/-- A run stands where its crawl gets, with the same requests and visits so far. -/
def Replays (r : Run) (site : Web) (run : Int) (J : List Entry) (m : Memory) : Prop :=
  ∃ s, Run.Reached r.stored site r.first {} (marksOf run J) s ∧
    s.env.requests.map Request.url = askedFor run J ∧ Standing r run J m s

/-! ## Journals of one run -/

variable {r : Run} {site : Web} {run : Int} {J : List Entry} {m m' : Memory} {s : State}

theorem mark?_of_off {x : Entry} (h : x.on run = false) : x.mark? run = none := by
  unfold Entry.mark?
  split
  · next t o ht _ =>
    unfold Entry.on at h
    rw [ht] at h
    exact if_neg (by simpa using h)
  · rfl

theorem marksOf_silent {x : Entry} (h : x.mark? run = none) :
    marksOf run (J ++ [x]) = marksOf run J := by
  unfold marksOf
  rw [List.filterMap_append, List.filterMap_cons_none h]
  simp

theorem marksOf_marked {x : Entry} {k : Mark} (h : x.mark? run = some k) :
    marksOf run (J ++ [x]) = marksOf run J ++ [k] := by
  unfold marksOf
  rw [List.filterMap_append, List.filterMap_cons_some h]
  rfl

theorem marksOf_off {x : Entry} (h : x.on run = false) : marksOf run (J ++ [x]) = marksOf run J :=
  marksOf_silent (mark?_of_off h)

theorem askedFor_off {x : Entry} (h : x.on run = false) :
    askedFor run (J ++ [x]) = askedFor run J := by
  unfold askedFor
  rw [List.filter_append, List.filter_cons_of_neg (by simp [h])]
  simp

theorem askedFor_on {x : Entry} (h : x.on run = true) :
    askedFor run (J ++ [x]) = askedFor run J ++ x.asked := by
  unfold askedFor
  rw [List.filter_append, List.filter_cons_of_pos h, List.flatMap_append]
  simp

theorem askedFor_append (J J' : List Entry) :
    askedFor run (J ++ J') = askedFor run J ++ askedFor run J' := by
  unfold askedFor
  rw [List.filter_append, List.flatMap_append]

theorem marksOf_append (J J' : List Entry) :
    marksOf run (J ++ J') = marksOf run J ++ marksOf run J' := by
  unfold marksOf
  rw [List.filterMap_append]

/-! ## Steps -/

theorem Early.more {x : Entry} (h : Early r run J) : Early r run (J ++ [x]) := by
  rcases h with ⟨y, hy, hm⟩ | h
  · exact .inl ⟨y, List.mem_append_left _ hy, hm⟩
  · exact .inr h

theorem Standing.more (st : Standing r run J m s) (x : Entry) : Standing r run (J ++ [x]) m s := by
  cases st with
  | waiting context steps readable => exact .waiting context steps readable
  | ended context progress contents links pages failures steps early =>
    exact .ended context progress contents links pages failures steps early.more
  | gone context steps spent => exact .gone context steps (spent.imp_right Early.more)

/-- How a run stands is told by its context and its steps. -/
theorem Standing.congr (st : Standing r run J m s) (hc : m'.context? run = m.context? run)
    (hs : m'.stepsOf run = m.stepsOf run) : Standing r run J m' s := by
  cases st with
  | waiting context steps readable => exact .waiting (hc ▸ context) (hs ▸ steps) readable
  | ended context progress contents links pages failures steps early =>
    exact .ended (hc ▸ context) progress contents links pages failures (hs ▸ steps) early
  | gone context steps spent => exact .gone (hc ▸ context) (hs ▸ steps) spent

/-- What is done to others leaves a run alone. -/
theorem Replays.frame (h : Replays r site run J m) {x : Entry} (off : x.on run = false)
    (hc : m'.context? run = m.context? run) (hs : m'.stepsOf run = m.stepsOf run) :
    Replays r site run (J ++ [x]) m' := by
  obtain ⟨s, reached, asked, st⟩ := h
  refine ⟨s, ?_, ?_, (st.congr hc hs).more x⟩
  · rwa [marksOf_off off]
  · rwa [askedFor_off off]

/-- A run that has the step on top waits. -/
theorem Standing.top {q : Queued} {rest : List Queued} (st : Standing r q.step.run J m s)
    (top : m.steps = q :: rest) :
    ∃ n ns, s.stack = n :: ns ∧ q.step = r.stepAt q.step.run n ∧
      m.context? q.step.run = some (r.context s.progress s.report) ∧
      (m.stepsOf q.step.run).tail = ns.map (r.stepAt q.step.run) ∧
      ((∃ u, Url.parse r.seed.toText.toList = .ok u) ∨ s.stack = [r.first]) := by
  obtain ⟨ts, ht⟩ := Memory.stepsOf_top top
  cases st with
  | waiting context steps readable =>
    rw [ht] at steps ⊢
    cases hs : s.stack with
    | nil => rw [hs] at steps; cases steps
    | cons n ns =>
      rw [hs, List.map_cons] at steps
      obtain ⟨hq, hts⟩ := List.cons.inj steps
      exact ⟨n, ns, rfl, hq, context, hts, hs ▸ readable⟩
  | ended context progress contents links pages failures steps =>
    rw [ht] at steps
    cases steps
  | gone context steps =>
    rw [ht] at steps
    cases steps

/-- A step can be carried out unless the seed of its run cannot be read. -/
theorem Standing.unread {q : Queued} {rest : List Queued} {c : Context} {why : Failure}
    (valid : Valid r) (st : Standing r q.step.run J m s) (top : m.steps = q :: rest)
    (context : m.context? q.step.run = some c) (bad : prepare q.step c = .error why) (u : Url) :
    Url.parse r.seed.toText.toList ≠ .ok u := by
  obtain ⟨n, ns, -, hq, hctx, -, -⟩ := st.top top
  obtain rfl : c = r.context s.progress s.report := Option.some.inj (context.symm.trans hctx)
  intro hu
  rw [hq, prepare_stepAt valid, hu] at bad
  cases bad

/-- A run without steps has come to its end. -/
theorem Standing.spent (st : Standing r run J m s) (steps : m.stepsOf run = []) :
    s.stack = [] ∨ Early r run J := by
  cases st with
  | waiting context steps' =>
    rw [steps] at steps'
    exact .inl (List.map_eq_nil_iff.1 steps'.symm)
  | ended context progress contents links pages failures steps' early => exact .inr early
  | gone context steps' spent => exact spent

/-- A visit is the next step of the crawl. -/
theorem replays_visited {s : Session Memory} {q : Queued} {rest : List Queued} {c : Context}
    {r' : Run} {o : StepReport} {v : Run.Visit} (valid : Valid r) (sound : s.store.Sound)
    (h : Replays r site q.step.run J s.store) (top : s.store.steps = q :: rest)
    (context : s.store.context? q.step.run = some c) (good : prepare q.step c = .ok r')
    (visit : v = r'.visit site q.step.node c.progress s.env) (stage : o.stage = v.outcome.stage) :
    Replays r site q.step.run
      (J ++ [⟨.process, some q.step, .processed (.ok (some o)),
        if v.outcome.fetched then [q.step.node.url] else []⟩])
      (Memory.complete q.id (v.outcome.children.map q.step.child).reverse q.step.run
        { c with progress := v.progress, report := c.report.record v.outcome } s.store).2 := by
  obtain ⟨t, reached, asked, st⟩ := h
  obtain ⟨n, ns, hstack, hq, hctx, hrest, -⟩ := st.top top
  obtain rfl : c = r.context t.progress t.report := Option.some.inj (context.symm.trans hctx)
  have hn : q.step.node = n := congrArg Step.node hq
  rw [hq] at good
  obtain ⟨rfl, readable⟩ := stored_of_prepare valid good
  -- The session's clock and calling off are not those of the crawl, but do not matter.
  obtain ⟨ho, hp⟩ := r.stored.visit_env site n t.progress s.env t.env
  have hv : v = r.stored.visit site n t.progress s.env := by
    rw [visit, hn]
    rfl
  rw [← hv] at ho hp
  have hchild : q.step.child = r.stepAt q.step.run := by
    funext k
    rw [hq]
    rfl
  refine ⟨r.stored.step site n ns t, ?_, ?_, .waiting ?_ ?_ (.inl readable)⟩
  · have hm : Entry.mark? q.step.run ⟨.process, some q.step, .processed (.ok (some o)),
        if v.outcome.fetched then [q.step.node.url] else []⟩ = some (r.stored.mark site n t) := by
      unfold Entry.mark?
      dsimp only
      rw [if_pos rfl, stage, ho, hn]
      rfl
    rw [marksOf_marked hm]
    exact reached.visit hstack (Run.quiet_of_reached ⟨rfl, rfl⟩ reached).1
  · rw [Run.urls_step, asked, askedFor_on (by simp [Entry.on]), ← ho, hn]
  · rw [Memory.context?_complete context, if_pos rfl, ho, hp]
    rfl
  · rw [Memory.stepsOf_complete sound top context fun _ => run_of_mem_children, if_pos rfl, hrest,
      hchild, ho, List.reverse_reverse, ← List.map_append]
    rfl

/-- A run whose seed cannot be read ends with its first step. -/
theorem replays_abandoned {s : Session Memory} {q : Queued} {rest : List Queued} {c : Context}
    {why : Failure} (valid : Valid r) (sound : s.store.Sound)
    (h : Replays r site q.step.run J s.store) (top : s.store.steps = q :: rest)
    (context : s.store.context? q.step.run = some c) (bad : prepare q.step c = .error why) :
    Replays r site q.step.run (J ++ [⟨.process, some q.step, .processed (.error why), []⟩])
      (Memory.complete q.id [] q.step.run
        { c with report := { c.report with incomplete := true } } s.store).2 := by
  obtain ⟨t, reached, asked, st⟩ := h
  have unread := st.unread valid top context bad
  obtain ⟨n, ns, hstack, hq, hctx, hrest, readable⟩ := st.top top
  obtain rfl : c = r.context t.progress t.report := Option.some.inj (context.symm.trans hctx)
  -- What cannot be read now could not be read before, so nothing has been visited yet.
  have hns : ns = [] := by
    rcases readable with ⟨u, hu⟩ | hf
    · exact absurd hu (unread u)
    · rw [hstack] at hf
      exact (List.cons.inj hf).2
  refine ⟨t, ?_, ?_, ?_⟩
  · rwa [marksOf_silent rfl]
  · rw [asked, askedFor_on (by simp [Entry.on])]
    simp
  · refine .ended (c := { r.context t.progress t.report with
        report := { t.report with incomplete := true } }) ?_ rfl rfl rfl rfl rfl ?_ (.inr unread)
    · rw [Memory.context?_complete context, if_pos rfl]
      rfl
    · rw [Memory.stepsOf_complete sound top context (by simp), if_pos rfl, hrest, hns]
      rfl

/-- Calling a run off ends it where it stands. -/
theorem Standing.calledOff {c : Context} {x : Entry} (st : Standing r run J m s)
    (context : m.context? run = some c) (hc : m'.context? run = some c.cancel)
    (hs : m'.stepsOf run = []) (hx : x.move = .cancel run) : Standing r run (J ++ [x]) m' s := by
  have early : Early r run (J ++ [x]) :=
    .inl ⟨x, List.mem_append_right _ List.mem_cons_self, hx⟩
  cases st with
  | waiting context' =>
    obtain rfl : c = r.context s.progress s.report := Option.some.inj (context.symm.trans context')
    exact .ended hc rfl rfl rfl rfl rfl hs early
  | @ended c' context' progress contents links pages failures =>
    obtain rfl : c = c' := Option.some.inj (context.symm.trans context')
    exact .ended hc progress contents links pages failures hs early
  | gone context' =>
    rw [context'] at context
    cases context

/-- What is done to a run keeps it in step with its crawl. -/
theorem replays_own {s s' : Session Memory} {x : Entry} (valid : Valid r)
    (sound : s.store.Sound) (old : run ≤ s.store.lastRun) (h : Replays r site run J s.store)
    (eff : Effect site s x s') (own : x.Concerns run) : Replays r site run (J ++ [x]) s'.store := by
  cases eff with
  | idle => exact h.frame rfl rfl rfl
  | started =>
    have hr : s.store.lastRun + 1 = run := own.started
    omega
  | @dropped q rest c o top context off stage =>
    obtain rfl : q.step.run = run := own.processed
    -- A run with a step in the queue is not called off.
    obtain ⟨t, reached, asked, st⟩ := h
    obtain ⟨n, ns, -, -, hctx, -, -⟩ := st.top top
    rw [hctx] at context
    cases context
    cases off
  | @abandoned q rest c why top context on bad =>
    obtain rfl : q.step.run = run := own.processed
    exact replays_abandoned valid sound h top context bad
  | @visited q rest c r' o v top context on good visit stage =>
    obtain rfl : q.step.run = run := own.processed
    exact replays_visited valid sound h top context good visit stage
  | @collected run' c spent context =>
    obtain rfl : run' = run := own.collected
    obtain ⟨t, reached, asked, st⟩ := h
    refine ⟨t, ?_, ?_, .gone ?_ ?_ ((st.spent spent).imp_right Early.more)⟩
    · rwa [marksOf_off rfl]
    · rwa [askedFor_off rfl]
    · rw [Memory.context?_remove context, if_pos rfl]
    · rw [Memory.stepsOf_remove, spent]
  | @calledOff run' c n context =>
    obtain rfl : run' = run := own.calledOff
    obtain ⟨t, reached, asked, st⟩ := h
    refine ⟨t, ?_, ?_, st.calledOff context ?_ ?_ rfl⟩
    · rwa [marksOf_off rfl]
    · rwa [askedFor_off rfl]
    · rw [Memory.context?_discard, Memory.context?_save context, if_pos rfl]
    · rw [Memory.stepsOf_discard, if_pos rfl]

/-- **Every move keeps a run in step with its crawl.** -/
theorem replays_effect {s s' : Session Memory} {x : Entry} (valid : Valid r)
    (sound : s.store.Sound) (old : run ≤ s.store.lastRun) (h : Replays r site run J s.store)
    (eff : Effect site s x s') : Replays r site run (J ++ [x]) s'.store := by
  by_cases own : x.Concerns run
  · exact replays_own valid sound old h eff own
  · obtain ⟨hc, hs⟩ := frame_effect sound eff own
    exact h.frame (off_of_not_concerns own) hc hs

/-! ## Trails -/

variable {σ : Type} [Store σ] [LawfulStore σ] {e : Env}

/-- Nothing is noted of a run that is still to come. -/
theorem unnoted (h : Kept J m) :
    marksOf (m.lastRun + 1) J = [] ∧ askedFor (m.lastRun + 1) J = [] := by
  have new : ∀ y ∈ J, y.on (m.lastRun + 1) = false := by
    intro y hy
    cases hon : y.on (m.lastRun + 1) with
    | false => rfl
    | true =>
      have := h.names_le y hy _ (.inr (.inl hon))
      omega
  constructor
  · exact List.filterMap_eq_nil_iff.2 fun y hy => mark?_of_off (new y hy)
  · unfold askedFor
    rw [List.filter_eq_nil_iff.2 fun y hy => by simp [new y hy]]
    rfl

/-- A run that is new is at the beginning of its crawl. -/
theorem replays_begin (h : Kept J m) : Replays r site (m.lastRun + 1) J (m.begin r) := by
  obtain ⟨marks, asked⟩ := unnoted h
  refine ⟨.initial r.first {}, ?_, ?_, .waiting ?_ ?_ (.inr rfl)⟩
  · rw [marks]
    exact .start
  · rw [asked]
    rfl
  · rw [Memory.context?_begin h.sound, if_pos rfl]
    rfl
  · rw [Memory.stepsOf_begin h.sound, if_pos rfl]
    rfl

theorem replays_started {s : Session Memory} {x : Entry} (h : Kept J s.store)
    (off : x.on (s.store.lastRun + 1) = false) :
    Replays r site (s.store.lastRun + 1) (J ++ [x]) (s.store.begin r) :=
  (replays_begin h).frame off rfl rfl

theorem Entry.Starts.valid {x : Entry} (h : x.Starts r run) : Valid r := by
  obtain ⟨settings, seed, -, hp, -, -⟩ := h
  exact valid_of_ofSettings hp

/-- **Every run that was put into a store replays its crawl.** -/
theorem replays_trail {s : Session σ} (t : Trail site e J s) {x : Entry} (hx : x ∈ J)
    (hs : x.Starts r run) : Replays r site run J s.view.store := by
  induction t with
  | start => cases hx
  | @move J s before m ih =>
    have kept := kept_trail before
    have eff : Effect site s.view (m.entry site s) (m.perform site s).2.view :=
      effect site kept.sound.closed m
    -- The run is there already, or this move puts it there.
    rcases List.mem_append.1 hx with hx | hx
    · have old : run ≤ s.view.store.lastRun := by
        obtain ⟨_, _, -, -, -, hr⟩ := id hs
        exact kept.names_le x hx run (.inl hr)
      exact replays_effect hs.valid kept.sound old (ih hx) eff
    · rw [List.mem_singleton.1 hx] at hs
      obtain ⟨hr, hv⟩ := started_of_effect eff hs
      subst hr
      rw [hv]
      exact replays_started kept (off_of_starts eff hs _)

end Batch

end SiteWalk
