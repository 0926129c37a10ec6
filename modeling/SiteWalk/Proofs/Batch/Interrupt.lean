import SiteWalk.Batch.Coordinator
import SiteWalk.Proofs.Crawl.Coverage
import SiteWalk.Proofs.Crawl.Moment

/-!
# Calling off between moments

Those who process all steps of a store work moment by moment like a crawl does, and so both
cease in the same way when their work is called off while they wait.

    (pendingLoop.advance site)^[j] ⟨.looking ⟨s.store, limit, n⟩, s.env⟩ =
      ⟨.ended ((runPending site limit s).1.map (n + ·), …), …⟩       for some j  (ended_runPending)
-/

namespace SiteWalk.Batch

open Crawl

variable {σ : Type} [Store σ]

/-! ## Steps -/

/-- Notes what came of visiting the node of a step. -/
def note (q : Queued) (c : Context) (v : Run.Visit) : Action σ (Option StepReport) := fun s =>
  let c := { c with progress := v.progress, report := c.report.record v.outcome }
  let new := (v.outcome.children.map q.step.child).reverse
  match Session.change (Store.complete q.id new q.step.run c) { s with env := v.env } with
  | (.ok (), s) =>
    (.ok (some {
      run := q.step.run
      url := v.outcome.url
      stage := v.outcome.stage
      scheduled := v.outcome.children.length
      remaining := Store.pending q.step.run s.store }), s)
  | (.error e, s) => (.error e, s)

theorem carryOut_eq (site : Web) (q : Queued) (c : Context) (r : Run) (s : Session σ) :
    carryOut site q c r s = note q c (r.visit site q.step.node c.progress s.env) s := rfl

/-! ## The loop -/

/-- What those who process steps have on their hands between two of them. -/
structure Drive (σ : Type) where
  store : σ
  limit : Option Nat
  done : Nat

namespace Drive

/-- Goes on after a step, or is over. -/
def after (d : Drive σ) (x : Except Failure (Option StepReport) × Session σ) :
    (Except Failure Nat × σ) ⊕ Drive σ :=
  match x.1 with
  | .ok (some _) => .inr ⟨x.2.store, d.limit.map (· - 1), d.done + 1⟩
  | .ok none => .inl (.ok d.done, x.2.store)
  | .error e => .inl (.error e, x.2.store)

end Drive

/-- What comes of a step that nothing is visited for. -/
def unvisited {ρ : Type} : ρ ⊕ Drive σ → Look (Drive σ) ρ
  | .inl result => .ended result
  | .inr d => .on d

/-- The loop of those who process all steps. -/
def pendingLoop : Loop (Drive σ) (Except Failure Nat × σ) where
  look off d :=
    if d.limit = some 0 then .ended (.ok d.done, d.store)
    else
      let s : Session σ := ⟨d.store, { cancelled := off }⟩
      match claim s with
      | .idle => .ended (.ok d.done, d.store)
      | .orphan q => unvisited (d.after (settleOrphan q s))
      | .dropped q c => unvisited (d.after (settleDropped q c s))
      | .ready q c =>
        match prepare q.step c with
        | .error why => unvisited (d.after (abandon q c why s))
        | .ok r => .visit r q.step.node c.progress fun o p => d.after (note q c ⟨o, p, {}⟩ s)
  ends d := by
    by_cases h : d.limit = some 0
    · exact ⟨_, if_pos h⟩
    · refine ⟨(.ok d.done, d.store), ?_⟩
      rw [if_neg h]
      rfl

/-! ## Environments -/

/-- The action does not look at the environment and leaves it alone. -/
def Blind {α : Type} (a : Action σ α) : Prop :=
  ∀ store e e', a ⟨store, e⟩ = ((a ⟨store, e'⟩).1, ⟨(a ⟨store, e'⟩).2.store, e⟩)

theorem blind_settleOrphan (q : Queued) : Blind (settleOrphan q : Action σ _) := fun _ _ _ => rfl

theorem blind_settleDropped (q : Queued) (c : Context) :
    Blind (settleDropped q c : Action σ _) := by
  intro store e e'
  unfold settleDropped Session.change
  dsimp only
  generalize Store.save q.step.run _ (Store.discard q.step.run store) = x
  obtain ⟨a, store'⟩ := x
  cases a <;> rfl

theorem blind_abandon (q : Queued) (c : Context) (why : Failure) :
    Blind (abandon q c why : Action σ _) := by
  intro store e e'
  unfold abandon Session.change
  dsimp only
  generalize Store.complete q.id [] q.step.run _ store = x
  obtain ⟨a, store'⟩ := x
  cases a <;> rfl

/-- Noting a visit takes over its environment and does not look at it either. -/
theorem note_env (q : Queued) (c : Context) (v : Run.Visit) (store : σ) (e e' : Env) :
    note q c v ⟨store, e⟩ =
      ((note q c { v with env := e' } ⟨store, e'⟩).1,
        ⟨(note q c { v with env := e' } ⟨store, e'⟩).2.store, v.env⟩) := by
  unfold note Session.change
  dsimp only
  generalize Store.complete q.id _ q.step.run _ store = x
  obtain ⟨a, store'⟩ := x
  cases a <;> rfl

/-! ## Moments -/

variable (site : Web)

theorem advance_unvisited {d : Drive σ} {e : Env} {x : (Except Failure Nat × σ) ⊕ Drive σ}
    (h : pendingLoop.look e.cancelled d = unvisited x) :
    pendingLoop.advance site ⟨.looking d, e⟩ = ⟨.resume x, e⟩ := by
  unfold Loop.advance
  dsimp only
  rw [h]
  cases x <;> rfl

/-- A step for which nothing is visited is processed in one moment. -/
theorem advance_blind {d : Drive σ} {e : Env} {a : Action σ (Option StepReport)} (blind : Blind a)
    (h : pendingLoop.look e.cancelled d =
      unvisited (d.after (a ⟨d.store, { cancelled := e.cancelled }⟩))) :
    pendingLoop.advance site ⟨.looking d, e⟩ =
      ⟨.resume (d.after (a ⟨d.store, e⟩)), (a ⟨d.store, e⟩).2.env⟩ := by
  rw [advance_unvisited site h, blind d.store e { cancelled := e.cancelled }]
  rfl

/-- **The moments of a step make up the processing of the step.** -/
theorem advance_process (d : Drive σ) (e : Env) (more : d.limit ≠ some 0) :
    let x := processStep site ⟨d.store, e⟩
    ∃ j, (pendingLoop.advance site)^[j] ⟨.looking d, e⟩ = ⟨.resume (d.after x), x.2.env⟩ := by
  intro x
  have hx : x = settle site (claim ⟨d.store, e⟩) ⟨d.store, e⟩ := rfl
  -- Claiming looks at nothing of the environment but whether the work is called off.
  have hl : pendingLoop.look e.cancelled d =
      match claim (⟨d.store, e⟩ : Session σ) with
      | .idle => .ended (.ok d.done, d.store)
      | .orphan q => unvisited (d.after (settleOrphan q ⟨d.store, { cancelled := e.cancelled }⟩))
      | .dropped q c =>
        unvisited (d.after (settleDropped q c ⟨d.store, { cancelled := e.cancelled }⟩))
      | .ready q c =>
        match prepare q.step c with
        | .error why =>
          unvisited (d.after (abandon q c why ⟨d.store, { cancelled := e.cancelled }⟩))
        | .ok r => .visit r q.step.node c.progress fun o p =>
            d.after (note q c ⟨o, p, {}⟩ ⟨d.store, { cancelled := e.cancelled }⟩) := if_neg more
  rw [hx]
  cases hc : claim (⟨d.store, e⟩ : Session σ) with
  | idle =>
    rw [hc] at hl
    exact ⟨1, advance_unvisited site hl⟩
  | orphan q =>
    rw [hc] at hl
    exact ⟨1, advance_blind site (blind_settleOrphan q) hl⟩
  | dropped q c =>
    rw [hc] at hl
    exact ⟨1, advance_blind site (blind_settleDropped q c) hl⟩
  | ready q c =>
    rw [hc] at hl
    dsimp only at hl
    cases hp : prepare q.step c with
    | error why =>
      rw [hp] at hl
      have hs : settle site (.ready q c) ⟨d.store, e⟩ = abandon q c why ⟨d.store, e⟩ := by
        simp only [settle, hp]
      rw [hs]
      exact ⟨1, advance_blind site (blind_abandon q c why) hl⟩
    | ok r =>
      rw [hp] at hl
      have hs : settle site (.ready q c) ⟨d.store, e⟩ =
          note q c (r.visit site q.step.node c.progress e) ⟨d.store, e⟩ := by
        simp only [settle, hp, carryOut_eq]
      rw [hs]
      obtain ⟨j, hj⟩ := pendingLoop.advance_visit site hl
      refine ⟨j, ?_⟩
      rw [hj, note_env q c (r.visit site q.step.node c.progress e) d.store e {}]
      rfl

/-- **The moments of processing all steps make it up**, as long as nobody calls the work off
between them. -/
theorem ended_runPending (limit : Option Nat) (s : Session σ) (n : Nat) :
    let x := runPending site limit s
    ∃ j, (pendingLoop.advance site)^[j] ⟨.looking ⟨s.store, limit, n⟩, s.env⟩ =
      ⟨.ended (x.1.map (n + ·), x.2.store), x.2.env⟩ := by
  fun_induction runPending site limit s generalizing n with
  | case1 s =>
    exact ⟨1, rfl⟩
  | case2 limit s more why s' h =>
    obtain ⟨j, hj⟩ := advance_process site ⟨s.store, limit, n⟩ s.env more
    rw [show processStep site ⟨s.store, s.env⟩ = (.error why, s') from h] at hj
    exact ⟨j, hj⟩
  | case3 limit s more s' h =>
    obtain ⟨j, hj⟩ := advance_process site ⟨s.store, limit, n⟩ s.env more
    rw [show processStep site ⟨s.store, s.env⟩ = (.ok none, s') from h] at hj
    exact ⟨j, hj⟩
  | case4 limit s more o s' h k s'' hk ih =>
    obtain ⟨i, hi⟩ := advance_process site ⟨s.store, limit, n⟩ s.env more
    rw [show processStep site ⟨s.store, s.env⟩ = (.ok (some o), s') from h] at hi
    obtain ⟨j, hj⟩ := ih (n + 1)
    rw [hk] at hj
    refine ⟨j + i, ?_⟩
    rw [Function.iterate_add_apply, hi]
    refine hj.trans ?_
    cases k with
    | error why => rfl
    | ok k =>
      have hn : n + 1 + k = n + (k + 1) := by omega
      show Moment.mk (.ended (Except.ok (n + 1 + k), s''.store)) s''.env = _
      rw [hn]
      rfl

/-! ## Calling off -/

/-- The moment at which someone begins to process the steps of a store. -/
def Session.begin (limit : Option Nat) (s : Session σ) :
    Moment (Drive σ) (Except Failure Nat × σ) :=
  ⟨.looking ⟨s.store, limit, 0⟩, s.env⟩

/-- **Of work that is called off at any moment, one request is left at most.**  A crawl, and
the processing of all steps of a store, is made up of moments: looking for a node, waiting,
asking for its page, and taking the answer.  If it is called off between two of them, then
the page of a node that was claimed and not asked for yet is still asked for; nothing else is,
and after four moments the work is over. -/
theorem one_request_left (site : Web) :
    (∀ (r : Run) (e : Env),
      (∃ j, (r.loop.advance site)^[j] (r.begin e) =
        ⟨.ended (r.crawl site e).holding, (r.crawl site e).env⟩) ∧
      ∀ i, ∃ last, r.loop.Ceases site ((r.loop.advance site)^[i] (r.begin e)) last) ∧
    ∀ (σ : Type) [Store σ] (limit : Option Nat) (s : Session σ),
      let x := runPending site limit s
      (∃ j, (pendingLoop.advance site)^[j] (s.begin limit) = ⟨.ended (x.1, x.2.store), x.2.env⟩) ∧
      ∀ i, ∃ last, pendingLoop.Ceases site ((pendingLoop.advance site)^[i] (s.begin limit)) last := by
  constructor
  · intro r e
    exact ⟨r.ended_drain site (.initial r.first e), fun i => r.loop.ceases site _⟩
  · intro σ _ limit s x
    refine ⟨?_, fun i => pendingLoop.ceases site _⟩
    obtain ⟨j, hj⟩ := ended_runPending site limit s 0
    have hx : x.1.map (0 + ·) = x.1 := by
      cases x.1 with
      | error why => rfl
      | ok n => exact congrArg Except.ok (Nat.zero_add n)
    refine ⟨j, hj.trans ?_⟩
    rw [hx]

/-- A crawl is called off while it waits for its second request, and makes it all the same,
when the wait is over. -/
theorem asks_while_called_off :
    let l := (Run.plain 2).loop
    let now := (l.advance Run.detour)^[5] ((Run.plain 2).begin {})
    now.env.cancelled = false ∧ now.callOff.env.cancelled = true ∧
      now.callOff.env.requests = [⟨"http://[::1]/", .standard, 0⟩] ∧
      ((l.advance Run.detour)^[2] now.callOff).env.requests =
        [⟨"http://[::1]/", .standard, 0⟩, ⟨"http://[::1]/a", .standard, 500⟩] := by
  decide +kernel

end SiteWalk.Batch
