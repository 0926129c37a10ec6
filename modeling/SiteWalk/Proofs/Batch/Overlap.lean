import SiteWalk.Proofs.Batch.Runs

/-!
# Calling off while a step is processed

Someone processes steps of a store while someone else calls runs off.  Processing has two
phases, and what is called off in between is written over: settling a step that was claimed
puts back the context of its run as it was loaded, and queues the steps for its children.

A run that no claimed step belongs to stays called off for good, and so does the other one
until its step is settled; from then on it goes on as if nothing had been called off.

    ¬ now.InFlight run → (pass site (.cancel run :: after) now).….CalledOff run
    now.held = .ready q c → (pass site [.cancel run, .settle] now).….context? run =
      some (written site q c …).2
-/

namespace SiteWalk.Batch

open Crawl

/-! ## Phases -/

/-- A session, and what was claimed in it and is not settled yet. -/
structure Shared (σ : Type) where
  session : Session σ
  held : Claim := .idle

inductive Phase where
  /-- A step is claimed, unless one is held. -/
  | claim
  /-- What is held is settled. -/
  | settle
  /-- Someone else calls a run off. -/
  | cancel (run : Int)
  deriving DecidableEq

variable {σ : Type} [Store σ]

def Phase.perform (site : Web) (p : Phase) (s : Shared σ) : Shared σ :=
  match p, s.held with
  | .claim, .idle => { s with held := Batch.claim s.session }
  | .claim, _ => s
  | .settle, held => ⟨(Batch.settle site held s.session).2, .idle⟩
  | .cancel run, _ => { s with session := (cancelRun run s.session).2 }

def pass (site : Web) (ps : List Phase) (s : Shared σ) : Shared σ :=
  ps.foldl (fun s p => p.perform site s) s

theorem pass_append (site : Web) (ps ps' : List Phase) (s : Shared σ) :
    pass site (ps ++ ps') s = pass site ps' (pass site ps s) := List.foldl_append

/-- The two phases with nothing in between process a step. -/
theorem pass_claim_settle (site : Web) (s : Session σ) :
    pass site [.claim, .settle] ⟨s, .idle⟩ = ⟨(processStep site s).2, .idle⟩ := rfl

/-- A step of the run is claimed and about to be carried out. -/
def Shared.InFlight (run : Int) (s : Shared σ) : Prop :=
  ∃ q c, s.held = .ready q c ∧ q.step.run = run

/-- The run is called off and has no steps. -/
structure Memory.CalledOff (run : Int) (m : Memory) : Prop where
  off : ∃ c, m.context? run = some c ∧ c.cancelled = true
  spent : m.stepsOf run = []

/-! ## What is written -/

/-- What is written for a step that was claimed with a context: the steps that it leaves
the queue to and the context of its run. -/
def written (site : Web) (q : Queued) (c : Context) (e : Env) : List Step × Context :=
  match prepare q.step c with
  | .error _ => ([], { c with report := { c.report with incomplete := true } })
  | .ok r =>
    let v := r.visit site q.step.node c.progress e
    ((v.outcome.children.map q.step.child).reverse,
      { c with progress := v.progress, report := c.report.record v.outcome })

variable {site : Web} {q : Queued} {c c' : Context} {e : Env} {run run' : Int} {m : Memory}

/-- Whether the run is called off is what it was when the context was loaded. -/
theorem cancelled_written : (written site q c e).2.cancelled = c.cancelled := by
  unfold written
  split <;> rfl

theorem children_written {r : Run} (good : prepare q.step c = .ok r) :
    (written site q c e).1 = ((r.visit site q.step.node c.progress e).outcome.children.map
      q.step.child).reverse := by
  unfold written
  rw [good]

theorem run_of_mem_written {t : Step} (h : t ∈ (written site q c e).1) : t.run = q.step.run := by
  unfold written at h
  split at h
  · cases h
  · exact run_of_mem_children h

/-- A run without steps has those that are added for it, whichever step is completed. -/
theorem Memory.stepsOf_complete_spent {id : Int} {new : List Step} (h : m.context? run = some c')
    (hn : ∀ t ∈ new, t.run = run) (spent : m.stepsOf run' = []) :
    (complete id new run c m).2.stepsOf run' = if run' = run then new.reverse else [] := by
  have rest : stepsOf run' { m with
      runs := replaced run c m.runs, steps := m.steps.filter fun q => q.id ≠ id } = [] := by
    unfold stepsOf
    rw [List.map_eq_nil_iff, List.filter_eq_nil_iff]
    intro q hq
    simpa using run_ne_of_stepsOf spent q (List.mem_filter.1 hq).1
  unfold complete
  rw [if_pos (hasRun_iff.2 ⟨c', h⟩)]
  dsimp only
  rw [stepsOf_foldl_push hn, rest, List.append_nil]

variable [LawfulStore σ] {s : Session σ} {t : Shared σ}

/-- Settling a step writes what comes from the context that was loaded for it. -/
theorem settle_ready_view (site : Web) (q : Queued) (c : Context)
    (h : s.view.store.context? q.step.run = some c') :
    (settle site (.ready q c) s).2.view.store =
      (Memory.complete q.id (written site q c s.env).1 q.step.run (written site q c s.env).2
        s.view.store).2 := by
  cases hp : prepare q.step c with
  | error why =>
    obtain ⟨s', he, hv⟩ := abandon_view (c := c) why h
    simp only [settle, written, hp, he, hv]
  | ok r =>
    obtain ⟨s', he, hv⟩ := carryOut_view site (c := c) (r := r) rfl rfl h
    simp only [settle, written, hp, he, hv]

/-! ## Claims -/

/-- What is held was claimed from the store: its run is still there, and had been called
off before if the step is to be dropped. -/
inductive Genuine (m : Memory) : Claim → Prop
  | idle : Genuine m .idle
  | orphan (q : Queued) : Genuine m (.orphan q)
  | dropped {q : Queued} {c c' : Context} (known : m.context? q.step.run = some c')
      (off : c.cancelled = true) : Genuine m (.dropped q c)
  | ready {q : Queued} {c c' : Context} (known : m.context? q.step.run = some c')
      (on : c.cancelled = false) : Genuine m (.ready q c)

theorem Genuine.mono {m' : Memory} {held : Claim} (h : Genuine m held)
    (keep : ∀ run c, m.context? run = some c → ∃ c', m'.context? run = some c') :
    Genuine m' held := by
  cases h with
  | idle => exact .idle
  | orphan q => exact .orphan q
  | dropped known off =>
    obtain ⟨c', known⟩ := keep _ _ known
    exact .dropped known off
  | ready known on =>
    obtain ⟨c', known⟩ := keep _ _ known
    exact .ready known on

theorem claim_cases (s : Session σ) :
    claim s = .idle ∨ (∃ q, claim s = .orphan q) ∨
      ∃ q c, s.view.store.context? q.step.run = some c ∧
        claim s = if c.cancelled then .dropped q c else .ready q c := by
  by_cases hc : s.env.cancelled = true ∨ s.view.store.steps = []
  · exact .inl (claim_idle hc)
  · rw [not_or] at hc
    obtain ⟨on, hne⟩ := hc
    obtain ⟨q, rest, top⟩ := List.exists_cons_of_ne_nil hne
    cases hctx : s.view.store.context? q.step.run with
    | none => exact .inr (.inl ⟨q, claim_orphan on top hctx⟩)
    | some c => exact .inr (.inr ⟨q, c, hctx, claim_top on top hctx⟩)

theorem genuine_claim (s : Session σ) : Genuine s.view.store (claim s) := by
  rcases claim_cases s with h | ⟨q, h⟩ | ⟨q, c, hctx, h⟩
  · rw [h]
    exact .idle
  · rw [h]
    exact .orphan q
  · rw [h]
    by_cases off : c.cancelled = true
    · rw [if_pos off]
      exact .dropped hctx off
    · rw [if_neg off]
      exact .ready hctx (by simpa using off)

/-- No step is claimed to be carried out for a run that is called off. -/
theorem run_of_claim_ready (off : s.view.store.CalledOff run) (h : claim s = .ready q c) :
    q.step.run ≠ run := by
  intro hr
  obtain ⟨c₀, hc₀, hoff⟩ := off.off
  rcases claim_cases s with h' | ⟨q', h'⟩ | ⟨q', c', hctx, h'⟩
  · rw [h'] at h
    cases h
  · rw [h'] at h
    cases h
  · rw [h'] at h
    by_cases on : c'.cancelled = true
    · rw [if_pos on] at h
      cases h
    · rw [if_neg on] at h
      cases h
      rw [hr, hc₀] at hctx
      cases hctx
      exact on hoff

/-! ## What a phase leaves called off -/

theorem context?_cancelRun (run' : Int) (s : Session σ) :
    (cancelRun run' s).2.view.store.context? run =
      if run = run' then (s.view.store.context? run').map Context.cancel
      else s.view.store.context? run := by
  cases hc : s.view.store.context? run' with
  | none =>
    rw [cancelRun_none hc]
    by_cases hr : run = run'
    · rw [if_pos hr, hr]
      exact hc
    · rw [if_neg hr]
  | some c =>
    obtain ⟨s', he, hv⟩ := cancelRun_view hc
    rw [he, hv, Memory.context?_discard, Memory.context?_save hc]
    rfl

theorem stepsOf_cancelRun_nil (run' : Int) (spent : s.view.store.stepsOf run = []) :
    (cancelRun run' s).2.view.store.stepsOf run = [] := by
  cases hc : s.view.store.context? run' with
  | none =>
    rw [cancelRun_none hc]
    exact spent
  | some c =>
    obtain ⟨s', he, hv⟩ := cancelRun_view hc
    rw [he, hv, Memory.stepsOf_discard, Memory.stepsOf_save, spent, ite_self]

/-- Calling a run off does. -/
theorem calledOff_cancelRun {n : Nat} (h : (cancelRun run s).1 = .ok n) :
    (cancelRun run s).2.view.store.CalledOff run := by
  obtain ⟨c, context⟩ := context_of_cancelRun h
  obtain ⟨hc, spent⟩ := slice_cancelRun context
  exact ⟨⟨c.cancel, hc, rfl⟩, spent⟩

theorem genuine_perform (site : Web) (h : Genuine t.session.view.store t.held) (p : Phase) :
    Genuine (p.perform site t).session.view.store (p.perform site t).held := by
  obtain ⟨s, held⟩ := t
  cases p with
  | claim =>
    cases held with
    | idle => exact genuine_claim s
    | orphan | dropped | ready => exact h
  | settle => exact .idle
  | cancel run' =>
    refine h.mono ?_
    intro run c hc
    show ∃ c', (cancelRun run' s).2.view.store.context? run = some c'
    rw [context?_cancelRun]
    by_cases hr : run = run'
    · rw [if_pos hr, ← hr, show s.view.store.context? run = some c from hc]
      exact ⟨_, rfl⟩
    · rw [if_neg hr]
      exact ⟨c, hc⟩

/-- Nothing but settling a step of it brings a run back. -/
theorem calledOff_perform (site : Web) (h : Genuine t.session.view.store t.held)
    (off : t.session.view.store.CalledOff run) (p : Phase)
    (free : p = .settle → ¬ t.InFlight run) :
    (p.perform site t).session.view.store.CalledOff run := by
  obtain ⟨s, held⟩ := t
  obtain ⟨⟨c₀, hc₀, hoff⟩, spent⟩ := off
  dsimp only at h hc₀ spent
  cases p with
  | claim =>
    cases held with
    | idle | orphan | dropped | ready => exact ⟨⟨c₀, hc₀, hoff⟩, spent⟩
  | settle =>
    cases h with
    | idle => exact ⟨⟨c₀, hc₀, hoff⟩, spent⟩
    | orphan q =>
      show (Session.view { s with store := Store.discard q.step.run s.store }).store.CalledOff run
      rw [Session.view_discard]
      exact ⟨⟨c₀, hc₀, hoff⟩, by rw [Memory.stepsOf_discard, spent, ite_self]⟩
    | @dropped q c c' known off =>
      -- What is put back was loaded when the run had been called off already.
      obtain ⟨s', he, hv⟩ := settleDropped_view (c := c) known
      show (settleDropped q c s).2.view.store.CalledOff run
      rw [he, hv]
      refine ⟨?_, ?_⟩
      · rw [Memory.context?_save (m := s.view.store.discard q.step.run) known]
        by_cases hr : run = q.step.run
        · rw [if_pos hr]
          exact ⟨_, rfl, off⟩
        · rw [if_neg hr]
          exact ⟨c₀, hc₀, hoff⟩
      · rw [Memory.stepsOf_save, Memory.stepsOf_discard, spent, ite_self]
    | @ready q c c' known on =>
      have hr : run ≠ q.step.run := fun hr => free rfl ⟨q, c, rfl, hr.symm⟩
      show (settle site (.ready q c) s).2.view.store.CalledOff run
      rw [settle_ready_view site q c known]
      refine ⟨⟨c₀, ?_, hoff⟩, ?_⟩
      · rw [Memory.context?_complete known, if_neg hr]
        exact hc₀
      · rw [Memory.stepsOf_complete_spent known (fun _ => run_of_mem_written) spent, if_neg hr]
  | cancel run' =>
    refine ⟨?_, stepsOf_cancelRun_nil run' spent⟩
    show ∃ c, (cancelRun run' s).2.view.store.context? run = some c ∧ c.cancelled = true
    rw [context?_cancelRun]
    by_cases hr : run = run'
    · rw [if_pos hr, ← hr, hc₀]
      exact ⟨_, rfl, rfl⟩
    · rw [if_neg hr]
      exact ⟨c₀, hc₀, hoff⟩

theorem not_inFlight_perform (site : Web) (off : t.session.view.store.CalledOff run) (p : Phase)
    (free : ¬ t.InFlight run) : ¬ (p.perform site t).InFlight run := by
  obtain ⟨s, held⟩ := t
  cases p with
  | claim =>
    cases held with
    | idle =>
      rintro ⟨q, c, hq, hr⟩
      exact run_of_claim_ready off hq hr
    | orphan | dropped | ready => exact free
  | settle =>
    rintro ⟨q, c, hq, -⟩
    cases hq
  | cancel run' => exact free

/-- A step that is held stays so until it is settled, and nothing is asked for. -/
theorem held_perform (site : Web) {p : Phase} (h : t.held = .ready q c) (hp : p ≠ .settle) :
    (p.perform site t).held = .ready q c ∧
      (p.perform site t).session.env = t.session.env := by
  obtain ⟨s, held⟩ := t
  obtain rfl : held = .ready q c := h
  cases p with
  | claim => exact ⟨rfl, rfl⟩
  | settle => exact absurd rfl hp
  | cancel run' =>
    refine ⟨rfl, ?_⟩
    show (cancelRun run' s).2.view.env = s.view.env
    cases hc : s.view.store.context? run' with
    | none => rw [cancelRun_none hc]
    | some c =>
      obtain ⟨s', he, hv⟩ := cancelRun_view hc
      rw [he, hv]
      rfl

/-! ## What a sequence of phases does -/

theorem genuine_pass (site : Web) (h : Genuine t.session.view.store t.held) (ps : List Phase) :
    Genuine (pass site ps t).session.view.store (pass site ps t).held := by
  induction ps generalizing t with
  | nil => exact h
  | cons p ps ih => exact ih (genuine_perform site h p)

theorem calledOff_pass (site : Web) (h : Genuine t.session.view.store t.held)
    (off : t.session.view.store.CalledOff run) (ps : List Phase)
    (free : ¬ t.InFlight run ∨ .settle ∉ ps) :
    (pass site ps t).session.view.store.CalledOff run := by
  induction ps generalizing t with
  | nil => exact off
  | cons p ps ih =>
    have off' := calledOff_perform site h off p fun hp =>
      free.resolve_right fun hs => hs (by rw [hp]; exact List.mem_cons_self)
    refine ih (genuine_perform site h p) off' ?_
    rcases free with free | free
    · exact .inl (not_inFlight_perform site off p free)
    · exact .inr fun hs => free (List.mem_cons_of_mem _ hs)

theorem not_inFlight_pass (site : Web) (h : Genuine t.session.view.store t.held)
    (off : t.session.view.store.CalledOff run) (ps : List Phase) (free : ¬ t.InFlight run) :
    ¬ (pass site ps t).InFlight run := by
  induction ps generalizing t with
  | nil => exact free
  | cons p ps ih =>
    exact ih (genuine_perform site h p) (calledOff_perform site h off p fun _ => free)
      (not_inFlight_perform site off p free)

theorem held_pass (site : Web) (h : t.held = .ready q c) (ps : List Phase) (hs : .settle ∉ ps) :
    (pass site ps t).held = .ready q c ∧ (pass site ps t).session.env = t.session.env := by
  induction ps generalizing t with
  | nil => exact ⟨h, rfl⟩
  | cons p ps ih =>
    have hp : p ≠ .settle := fun hp => hs (by rw [hp]; exact List.mem_cons_self)
    obtain ⟨hh, he⟩ := held_perform site h hp
    obtain ⟨hh', he'⟩ := ih hh fun hm => hs (List.mem_cons_of_mem _ hm)
    exact ⟨hh', he'.trans he⟩

/-- Settling a step of a run that was called off since takes the calling off back. -/
theorem overwritten (site : Web) {n : Nat} (h : Genuine t.session.view.store t.held)
    (off : (cancelRun run t.session).1 = .ok n) (held : t.held = .ready q c)
    (own : q.step.run = run) (between : List Phase) (unsettled : .settle ∉ between) :
    let later := (pass site (.cancel run :: between ++ [.settle]) t).session.view.store
    let new := written site q c t.session.env
    later.context? run = some new.2 ∧ new.2.cancelled = false ∧
      later.stepsOf run = new.1.reverse := by
  subst own
  have unsettled' : .settle ∉ .cancel q.step.run :: between := by simpa using unsettled
  have g := genuine_pass site h (.cancel q.step.run :: between)
  have spent := (calledOff_pass site (genuine_perform site h (.cancel q.step.run))
    (calledOff_cancelRun off) between (.inr unsettled)).spent
  obtain ⟨hh, he⟩ := held_pass site held _ unsettled'
  have hl : (pass site (.cancel q.step.run :: between ++ [.settle]) t).session =
      (settle site (.ready q c) (pass site (.cancel q.step.run :: between) t).session).2 := by
    rw [pass_append, ← hh]
    rfl
  rw [hh] at g
  rw [hl]
  cases g with
  | ready known on =>
    rw [settle_ready_view site q c known, he]
    refine ⟨?_, cancelled_written.trans on, ?_⟩
    · rw [Memory.context?_complete known, if_pos rfl]
    · rw [Memory.stepsOf_complete_spent known (fun _ => run_of_mem_written) spent, if_pos rfl]

/-- **What is called off stays so, unless a step of it is being carried out.**  Someone
processes steps, and someone else calls a run off at any time.  From then on the run is
called off and has no steps, and none of them is carried out, with one exception: if a step
of the run was claimed before, the run is called off only until that step is settled.  Then
its context is the one loaded before with the visit added to it, which is not called off,
and the steps for the children of the step are queued. -/
theorem calledOff_or_overwritten (site : Web) (s : Session σ) (before : List Phase) (run : Int)
    (n : Nat) (off : (cancelRun run (pass site before ⟨s, .idle⟩).session).1 = .ok n) :
    let now := pass site before ⟨s, .idle⟩
    (∀ after, ¬ now.InFlight run ∨ .settle ∉ after →
      (pass site (.cancel run :: after) now).session.view.store.CalledOff run) ∧
    (¬ now.InFlight run → ∀ after, ¬ (pass site (.cancel run :: after) now).InFlight run) ∧
    ∀ q c, now.held = .ready q c → q.step.run = run → ∀ between, .settle ∉ between →
      let later := (pass site (.cancel run :: between ++ [.settle]) now).session.view.store
      let new := written site q c now.session.env
      later.context? run = some new.2 ∧ new.2.cancelled = false ∧
        later.stepsOf run = new.1.reverse := by
  intro now
  have g : Genuine now.session.view.store now.held := genuine_pass site .idle before
  have g' := genuine_perform site g (.cancel run)
  have off' : ((Phase.cancel run).perform site now).session.view.store.CalledOff run :=
    calledOff_cancelRun off
  refine ⟨?_, ?_, ?_⟩
  · intro after free
    exact calledOff_pass site g' off' after free
  · intro free after
    exact not_inFlight_pass site g' off' after free
  · intro q c held own between unsettled
    exact overwritten site g off held own between unsettled

/-- All pages link to `a`. -/
def onward : Site := fun _ => .ok "<a href=a>"

/-- A store with a run of which nothing has been processed. -/
def fresh : Session Relational where
  store := {
    runs := [(1, loopbackRun.context {} {})]
    steps := [⟨1, loopbackRun.stepAt 1 loopbackRun.first⟩]
    lastRun := 1
    lastStep := 1 }

example : work onward begun ⟨Store.empty, {}⟩ = fresh := rfl

/-- The first step of the run is claimed. -/
def claimed : Shared Relational := pass onward [.claim] ⟨fresh, .idle⟩

theorem cancelRun_claimed : (cancelRun 1 claimed.session).1 = .ok 1 := rfl

theorem held_claimed :
    claimed.held = .ready ⟨1, loopbackRun.stepAt 1 loopbackRun.first⟩ (loopbackRun.context {} {}) :=
  rfl

theorem children_onward (e : Env) :
    (loopbackRun.visit onward loopbackRun.first {} e).outcome.children =
      [⟨"http://[::1]/a", 0⟩] := by
  have children : (loopbackRun.visit onward ⟨"http://[::1]/", 1⟩ {} {}).outcome.children =
      [⟨"http://[::1]/a", 0⟩] := by decide +kernel
  rw [loopback_first, (loopbackRun.visit_env onward ⟨"http://[::1]/", 1⟩ {} e {}).1]
  exact children

theorem written_claimed :
    (written onward ⟨1, loopbackRun.stepAt 1 loopbackRun.first⟩ (loopbackRun.context {} {})
      claimed.session.env).1 = [loopbackRun.stepAt 1 ⟨"http://[::1]/a", 0⟩] := by
  refine (children_written (q := ⟨1, loopbackRun.stepAt 1 loopbackRun.first⟩)
    (loopback_prepared 1 _ {} {})).trans ?_
  show ((loopbackRun.visit onward loopbackRun.first {} claimed.session.env).outcome.children.map
    (loopbackRun.stepAt 1)).reverse = _
  rw [children_onward]
  rfl

theorem calledOff_or_overwritten_claimed :
    (cancelRun 1 claimed.session).1 = .ok 1 ∧
      (pass onward [.cancel 1, .claim] claimed).session.view.store.CalledOff 1 ∧
      ∃ new, (pass onward [.cancel 1, .claim, .settle] claimed).session.view.store.context? 1 =
        some new ∧ new.cancelled = false := by
  obtain ⟨h, -, h'⟩ := calledOff_or_overwritten onward
    fresh [.claim] 1 1 cancelRun_claimed
  obtain ⟨hc, hoff, -⟩ := h' _ _ held_claimed rfl [.claim] (by decide)
  exact ⟨cancelRun_claimed, h [.claim] (.inr (by decide)), _, hc, hoff⟩

/-- The run is called off while its first step is being carried out, and goes on: it is not
called off any more, and a step of it is queued. -/
theorem goes_on_claimed :
    (cancelRun 1 claimed.session).1 = .ok 1 ∧
      (∃ c, (pass onward [.cancel 1, .settle] claimed).session.view.store.context? 1 = some c ∧
        c.cancelled = false) ∧
      (pass onward [.cancel 1, .settle] claimed).session.view.store.stepsOf 1 =
        [loopbackRun.stepAt 1 ⟨"http://[::1]/a", 0⟩] := by
  have g : Genuine claimed.session.view.store claimed.held := genuine_pass onward .idle [.claim]
  obtain ⟨hc, hoff, hs⟩ := overwritten onward g cancelRun_claimed held_claimed rfl []
    (by decide)
  rw [written_claimed] at hs
  exact ⟨cancelRun_claimed, ⟨_, hc, hoff⟩, hs⟩

end SiteWalk.Batch
