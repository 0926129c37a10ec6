import Mathlib.Data.List.Forall2
import SiteWalk.Proofs.Batch.Sights
import SiteWalk.Proofs.Crawl.ReadBack

/-!
# The order of claims

Nothing depends on the order in which a context holds the addresses that its run has claimed.
First the operations of a store, then the moves and calls of those who work on it do the same
to stores that differ in nothing else (`Same`).

    p.Same q → (r.visit site n p e).outcome = (r.visit site n q e).outcome       (same_visit)
    s.Same t → List.Forall₂ Sight.Same (sights site calls s) (sights site calls t)
                                                                               (same_sights)
-/

namespace SiteWalk

open Batch

/-! ## Visits -/

namespace Crawl.Run

variable {r : Run} {n : Node} {p q : Progress}

theorem same_start (h : p.Same q) :
    (r.start n p).1 = (r.start n q).1 ∧ (r.start n p).2.Same (r.start n q).2 := by
  have free : (p.visited.insert n.url).1 = (q.visited.insert n.url).1 := by
    rw [Bool.eq_iff_iff, Visited.insert_fst, Visited.insert_fst, h.visited n.url]
  have claimed : (p.visited.insert n.url).2.Same (q.visited.insert n.url).2 := by
    intro u
    rw [Visited.mem_insert, Visited.mem_insert, h.visited u]
  unfold start
  dsimp only
  rw [free]
  split
  · exact ⟨rfl, claimed, h.fetchCount⟩
  · split
    · exact ⟨rfl, claimed, h.fetchCount⟩
    · split <;> exact ⟨rfl, claimed, h.fetchCount⟩

theorem same_finish {v w : Visited} (h : v.Same w) (address : Url) (answer : Answer) :
    r.finish n v address answer = r.finish n w address answer := by
  have children : ∀ page k, r.children address page v k = r.children address page w k := by
    intro page k
    unfold children
    congr 1
    refine List.filter_congr fun u _ => ?_
    unfold Visited.contains
    rw [Bool.eq_iff_iff]
    simp [h u]
  unfold finish
  simp only [children]

/-- **A visit finds the same whatever the order of claims.** -/
theorem same_visit (r : Run) (site : Web) (n : Node) (e : Env) (h : p.Same q) :
    (r.visit site n p e).outcome = (r.visit site n q e).outcome ∧
      (r.visit site n p e).progress.Same (r.visit site n q e).progress ∧
      (r.visit site n p e).env = (r.visit site n q e).env := by
  obtain ⟨begun, same⟩ := same_start (r := r) (n := n) h
  unfold visit
  generalize r.start n p = x at begun same
  generalize r.start n q = y at begun same
  obtain ⟨b, p'⟩ := x
  obtain ⟨b', q'⟩ := y
  obtain rfl : b = b' := begun
  have fetchCount : p'.fetchCount = q'.fetchCount := same.fetchCount
  cases b with
  | settled o => exact ⟨rfl, same, rfl⟩
  | needs address =>
    refine ⟨same_finish same.visited address _, ⟨same.visited, ?_⟩, ?_⟩
    · show p'.fetchCount + 1 = q'.fetchCount + 1
      rw [fetchCount]
    · show e.request n.url _ _ = e.request n.url _ _
      rw [fetchCount]

end Crawl.Run

namespace Batch

open Crawl

/-! ## Contexts and stores -/

/-- The contexts differ at most in the order of claims. -/
structure Context.Same (c d : Context) : Prop where
  seed : c.seed = d.seed
  flavor : c.flavor = d.flavor
  digest : c.digest = d.digest
  progress : c.progress.Same d.progress
  report : c.report = d.report
  cancelled : c.cancelled = d.cancelled

theorem Context.Same.trans {b c d : Context} (h : b.Same c) (h' : c.Same d) : b.Same d where
  seed := h.seed.trans h'.seed
  flavor := h.flavor.trans h'.flavor
  digest := h.digest.trans h'.digest
  progress := ⟨fun u => (h.progress.visited u).trans (h'.progress.visited u),
    h.progress.fetchCount.trans h'.progress.fetchCount⟩
  report := h.report.trans h'.report
  cancelled := h.cancelled.trans h'.cancelled

/-- Contexts that have come further, with the same noted in their reports. -/
theorem Context.Same.noted {c d : Context} (h : c.Same d) {p q : Progress} (progress : p.Same q)
    (note : Report → Report) :
    Same { c with progress := p, report := note c.report }
      { d with progress := q, report := note d.report } where
  seed := h.seed
  flavor := h.flavor
  digest := h.digest
  progress := progress
  report := congrArg note h.report
  cancelled := h.cancelled

/-- The runs have the same numbers, and contexts that are the same. -/
abbrev SameRuns : List (Int × Context) → List (Int × Context) → Prop :=
  List.Forall₂ fun x y => x.1 = y.1 ∧ x.2.Same y.2

theorem SameRuns.trans {xs ys zs : List (Int × Context)} (h : SameRuns xs ys)
    (h' : SameRuns ys zs) : SameRuns xs zs := by
  induction h generalizing zs with
  | nil => exact h'
  | cons same _ ih =>
    cases h' with
    | cons same' rest' => exact .cons ⟨same.1.trans same'.1, same.2.trans same'.2⟩ (ih rest')

theorem SameRuns.hasRun {xs ys : List (Int × Context)} (h : SameRuns xs ys) (run : Int) :
    hasRun run xs = hasRun run ys := by
  induction h with
  | nil => rfl
  | cons same _ ih =>
    unfold Batch.hasRun at ih ⊢
    rw [List.any_cons, List.any_cons, same.1, ih]

theorem SameRuns.lookup {xs ys : List (Int × Context)} (h : SameRuns xs ys) (run : Int) :
    (xs.lookup run = none ∧ ys.lookup run = none) ∨
      ∃ c d, xs.lookup run = some c ∧ ys.lookup run = some d ∧ c.Same d := by
  induction h with
  | nil => exact .inl ⟨rfl, rfl⟩
  | @cons x y xs ys same _ ih =>
    rw [List.lookup_cons, List.lookup_cons, ← same.1]
    cases run == x.1 with
    | true => exact .inr ⟨x.2, y.2, rfl, rfl, same.2⟩
    | false => exact ih

theorem SameRuns.replaced {xs ys : List (Int × Context)} {c d : Context} (h : SameRuns xs ys)
    (run : Int) (hc : c.Same d) : SameRuns (replaced run c xs) (replaced run d ys) := by
  unfold Batch.replaced SameRuns
  rw [List.forall₂_map_left_iff, List.forall₂_map_right_iff]
  refine h.imp fun x y same => ?_
  rw [← same.1]
  by_cases hx : x.1 = run
  · rw [if_pos hx, if_pos hx]
    exact ⟨rfl, hc⟩
  · rw [if_neg hx, if_neg hx]
    exact same

theorem SameRuns.filter {xs ys : List (Int × Context)} (h : SameRuns xs ys) (run : Int) :
    SameRuns (xs.filter fun x => x.1 ≠ run) (ys.filter fun x => x.1 ≠ run) := by
  induction h with
  | nil => exact .nil
  | @cons x y xs ys same _ ih =>
    rw [List.filter_cons, List.filter_cons, ← same.1]
    split
    · exact .cons same ih
    · exact ih

namespace Memory

/-- The stores differ at most in the order of claims. -/
structure Same (m n : Memory) : Prop where
  steps : m.steps = n.steps
  runs : SameRuns m.runs n.runs
  lastRun : m.lastRun = n.lastRun
  lastStep : m.lastStep = n.lastStep

variable {k m n : Memory} {c d : Context}

theorem Same.trans (h : k.Same m) (h' : m.Same n) : k.Same n where
  steps := h.steps.trans h'.steps
  runs := h.runs.trans h'.runs
  lastRun := h.lastRun.trans h'.lastRun
  lastStep := h.lastStep.trans h'.lastStep

theorem Same.context? (h : m.Same n) (run : Int) :
    (m.context? run = none ∧ n.context? run = none) ∨
      ∃ c d, m.context? run = some c ∧ n.context? run = some d ∧ c.Same d :=
  h.runs.lookup run

theorem Same.stepsOf (h : m.Same n) (run : Int) : m.stepsOf run = n.stepsOf run := by
  unfold Memory.stepsOf
  rw [h.steps]

theorem Same.push (h : m.Same n) (t : Step) : (m.push t).Same (n.push t) := by
  refine ⟨?_, h.runs, h.lastRun, ?_⟩
  · show _ :: m.steps = _ :: n.steps
    rw [h.steps, h.lastStep]
  · show m.lastStep + 1 = n.lastStep + 1
    rw [h.lastStep]

theorem Same.pushAll (h : m.Same n) (new : List Step) :
    (new.foldl Memory.push m).Same (new.foldl Memory.push n) := by
  induction new generalizing m n with
  | nil => exact h
  | cons t new ih => exact ih (h.push t)

theorem Same.discard (h : m.Same n) (run : Int) : (m.discard run).Same (n.discard run) := by
  refine ⟨?_, h.runs, h.lastRun, h.lastStep⟩
  show m.steps.filter _ = n.steps.filter _
  rw [h.steps]

theorem Same.save (h : m.Same n) (run : Int) (hc : c.Same d) :
    (Memory.save run c m).2.Same (Memory.save run d n).2 := by
  unfold Memory.save
  rw [h.runs.hasRun run]
  split
  · exact ⟨h.steps, h.runs.replaced run hc, h.lastRun, h.lastStep⟩
  · exact h

theorem Same.remove (h : m.Same n) (run : Int) :
    (Memory.remove run m).2.Same (Memory.remove run n).2 := by
  unfold Memory.remove
  rw [h.runs.hasRun run]
  split
  · exact ⟨h.steps, h.runs.filter run, h.lastRun, h.lastStep⟩
  · exact h

theorem Same.complete (h : m.Same n) (id : Int) (new : List Step) (run : Int) (hc : c.Same d) :
    (Memory.complete id new run c m).2.Same (Memory.complete id new run d n).2 := by
  unfold Memory.complete
  rw [h.runs.hasRun run]
  split
  · have left : Same
        { m with runs := replaced run c m.runs, steps := m.steps.filter fun q => q.id ≠ id }
        { n with runs := replaced run d n.runs, steps := n.steps.filter fun q => q.id ≠ id } := by
      refine ⟨?_, h.runs.replaced run hc, h.lastRun, h.lastStep⟩
      show m.steps.filter _ = n.steps.filter _
      rw [h.steps]
    exact left.pushAll new
  · exact h

theorem Same.begin (h : m.Same n) (r : Run) : (m.begin r).Same (n.begin r) := by
  have created : (m.create (r.context {} {})).2.Same (n.create (r.context {} {})).2 := by
    refine ⟨h.steps, ?_, ?_, h.lastStep⟩
    · show SameRuns (m.runs ++ [(m.lastRun + 1, _)]) (n.runs ++ [(n.lastRun + 1, _)])
      rw [h.lastRun]
      exact List.rel_append h.runs (.cons ⟨rfl, rfl, rfl, rfl, ⟨fun _ => .rfl, rfl⟩, rfl, rfl⟩ .nil)
    · show m.lastRun + 1 = n.lastRun + 1
      rw [h.lastRun]
  unfold Memory.begin
  rw [h.lastRun]
  exact created.push _

end Memory

/-! ## Moves -/

/-- The sessions differ at most in the order of claims. -/
structure Session.Same (s t : Session Memory) : Prop where
  store : s.store.Same t.store
  env : s.env = t.env

/-- The same answer, and sessions that are the same. -/
structure Agree {α : Type} (x y : α × Session Memory) : Prop where
  answer : x.1 = y.1
  session : x.2.Same y.2

theorem agree_of {α : Type} {x y : α × Session Memory} {a b : α} {s t : Session Memory}
    (hx : ∃ s', x = (a, s') ∧ s'.view = s) (hy : ∃ t', y = (b, t') ∧ t'.view = t) (answer : a = b)
    (session : s.Same t) : Agree x y := by
  obtain ⟨s', rfl, rfl⟩ := hx
  obtain ⟨t', rfl, rfl⟩ := hy
  exact ⟨answer, session⟩

/-- The claims differ at most in the order of claims of the context that was loaded. -/
inductive Claim.Same : Claim → Claim → Prop
  | idle : Same .idle .idle
  | orphan (q : Queued) : Same (.orphan q) (.orphan q)
  | dropped (q : Queued) {c d : Context} (same : c.Same d) : Same (.dropped q c) (.dropped q d)
  | ready (q : Queued) {c d : Context} (same : c.Same d) : Same (.ready q c) (.ready q d)

variable {s t : Session Memory}

theorem same_claim (h : s.Same t) : (claim s).Same (claim t) := by
  by_cases hidle : s.env.cancelled = true ∨ s.store.steps = []
  · have hidle' : t.env.cancelled = true ∨ t.store.steps = [] := by
      rwa [← h.env, ← h.store.steps]
    rw [claim_idle (s := s) hidle, claim_idle (s := t) hidle']
    exact .idle
  · rw [not_or] at hidle
    obtain ⟨on, some⟩ := hidle
    obtain ⟨q, rest, top⟩ := List.exists_cons_of_ne_nil some
    have on' : ¬ t.env.cancelled = true := h.env ▸ on
    have top' : t.store.steps = q :: rest := h.store.steps ▸ top
    rcases h.store.context? q.step.run with ⟨none, none'⟩ | ⟨c, d, context, context', same⟩
    · rw [claim_orphan (s := s) on top none, claim_orphan (s := t) on' top' none']
      exact .orphan q
    · rw [claim_top (s := s) on top context, claim_top (s := t) on' top' context', same.cancelled]
      split
      · exact .dropped q same
      · exact .ready q same

theorem same_prepare {c d : Context} (h : c.Same d) (t : Step) : prepare t c = prepare t d := by
  unfold prepare
  rw [h.digest, h.seed, h.flavor]

theorem same_carryOut (site : Web) (h : s.Same t) {q : Queued} {c d : Context} (r : Run)
    (same : c.Same d) (context : s.store.context? q.step.run = some c)
    (context' : t.store.context? q.step.run = some d) :
    Agree (carryOut site q c r s) (carryOut site q d r t) := by
  have visits := r.same_visit site q.step.node s.env same.progress
  generalize hv : r.visit site q.step.node c.progress s.env = v at visits
  generalize hw : r.visit site q.step.node d.progress s.env = w at visits
  obtain ⟨outcome, progress, env⟩ := visits
  have hw : w = r.visit site q.step.node d.progress t.env := by rw [← hw, h.env]
  obtain ⟨m, hm⟩ : ∃ m, m = (Memory.complete q.id
    (v.outcome.children.map q.step.child).reverse q.step.run
    { c with progress := v.progress, report := c.report.record v.outcome } s.store).2 := ⟨_, rfl⟩
  obtain ⟨k, hk⟩ : ∃ k, k = (Memory.complete q.id
    (w.outcome.children.map q.step.child).reverse q.step.run
    { d with progress := w.progress, report := d.report.record w.outcome } t.store).2 := ⟨_, rfl⟩
  have after : m.Same k := by
    rw [hm, hk, outcome]
    exact h.store.complete _ _ _ (same.noted progress (·.record w.outcome))
  refine agree_of (carryOut_view site hv.symm hm context) (carryOut_view site hw hk context') ?_
    ⟨after, env⟩
  rw [after.stepsOf, outcome]

theorem same_settle (site : Web) (h : s.Same t) :
    Agree (settle site (claim s) s) (settle site (claim t) t) := by
  have same := same_claim h
  generalize hs : claim s = x at same
  generalize ht : claim t = y at same
  cases same with
  | idle => exact ⟨rfl, h⟩
  | orphan q => exact ⟨rfl, h.store.discard _, h.env⟩
  | @dropped q c d same =>
    have context := context_of_claim (.inr hs)
    have context' := context_of_claim (.inr ht)
    refine agree_of (settleDropped_view context) (settleDropped_view context') rfl ⟨?_, h.env⟩
    exact (h.store.discard _).save _
      (same.noted same.progress fun report => { report with cancelled := true })
  | @ready q c d same =>
    have context := context_of_claim (.inl hs)
    have context' := context_of_claim (.inl ht)
    simp only [settle]
    rw [same_prepare same]
    cases prepare q.step d with
    | error why =>
      refine agree_of (abandon_view why context) (abandon_view why context') rfl ⟨?_, h.env⟩
      exact h.store.complete _ _ _
        (same.noted same.progress fun report => { report with incomplete := true })
    | ok r => exact same_carryOut site h r same context context'

theorem same_processStep (site : Web) (h : s.Same t) :
    Agree (processStep site s) (processStep site t) := by
  unfold processStep
  exact same_settle site h

theorem same_collect (h : s.Same t) (run : Int) : Agree (collect run s) (collect run t) := by
  have steps : s.store.stepsOf run = t.store.stepsOf run := h.store.stepsOf run
  have pending : Store.pending run s.store = Store.pending run t.store := by
    rw [pending_eq, pending_eq]
    exact congrArg List.length steps
  by_cases spent : s.store.stepsOf run = []
  · have spent' := steps ▸ spent
    rcases h.store.context? run with ⟨none, none'⟩ | ⟨c, d, context, context', same⟩
    · unfold collect
      rw [pending, load_none (s := s) none, load_none (s := t) none']
      split <;> exact ⟨rfl, h⟩
    · refine agree_of (collect_view (s := s) spent context) (collect_view (s := t) spent' context')
        ?_ ⟨h.store.remove run, h.env⟩
      rw [same.report]
  · have left : Store.pending run t.store > 0 := by
      rw [pending_eq]
      exact List.length_pos_iff.2 (steps ▸ spent)
    unfold collect
    rw [pending, if_pos left, if_pos left]
    exact ⟨rfl, h⟩

theorem same_cancelRun (h : s.Same t) (run : Int) : Agree (cancelRun run s) (cancelRun run t) := by
  rcases h.store.context? run with ⟨none, none'⟩ | ⟨c, d, context, context', same⟩
  · rw [cancelRun_none (s := s) none, cancelRun_none (s := t) none']
    exact ⟨rfl, h⟩
  · have cancelled : c.cancel.Same d.cancel :=
      ⟨same.seed, same.flavor, same.digest, same.progress, by simp [Context.cancel, same.report],
        rfl⟩
    have saved := h.store.save run cancelled
    refine agree_of (cancelRun_view (s := s) context) (cancelRun_view (s := t) context') ?_
      ⟨saved.discard run, h.env⟩
    rw [show (Memory.save run c.cancel s.view.store).2.stepsOf run = _ from saved.stepsOf run]
    rfl

theorem same_start (h : s.Same t) (c : Coordinator) (seed : String) (flavor : Flavor)
    (mode : Mode) : Agree (c.start seed flavor mode s) (c.start seed flavor mode t) := by
  unfold Coordinator.start
  cases Link.seed? seed with
  | error e => exact ⟨rfl, h⟩
  | ok u =>
    cases mode with
    | synchronous =>
      dsimp only
      rw [h.env]
      exact ⟨rfl, h.store, rfl⟩
    | batched =>
      have lastRun : s.view.store.lastRun = t.view.store.lastRun := h.store.lastRun
      have enqueued : Agree (c.enqueue u flavor s) (c.enqueue u flavor t) := by
        refine agree_of (enqueue_view c u flavor s) (enqueue_view c u flavor t) ?_
          ⟨h.store.begin _, h.env⟩
        rw [lastRun]
      dsimp only
      generalize c.enqueue u flavor s = x at enqueued
      generalize c.enqueue u flavor t = y at enqueued
      obtain ⟨a, s'⟩ := x
      obtain ⟨b, t'⟩ := y
      obtain ⟨rfl, after⟩ := enqueued
      cases a <;> exact ⟨rfl, after⟩

theorem Agree.reply {α : Type} {x y : α × Session Memory} (h : Agree x y) (reply : α → Reply) :
    Agree (reply x.1, x.2) (reply y.1, y.2) := ⟨congrArg reply h.answer, h.session⟩

/-- **A move does the same whatever the order of claims.** -/
theorem same_perform (site : Web) (h : s.Same t) (m : Move) :
    Agree (m.perform site s) (m.perform site t) := by
  cases m with
  | start settings seed flavor mode =>
    simp only [Move.perform]
    cases Profile.ofSettings settings with
    | error e => exact ⟨rfl, h⟩
    | ok p => exact (same_start h ⟨p, site⟩ seed flavor mode).reply .started
  | process => exact (same_settle site h).reply .processed
  | collect run => exact (same_collect h run).reply .collected
  | cancel run => exact (same_cancelRun h run).reply .cancelled
  | handOver cancelled cancelAt =>
    refine ⟨rfl, h.store, ?_⟩
    show { s.env with cancelled := cancelled, cancelAt := cancelAt } =
      { t.env with cancelled := cancelled, cancelAt := cancelAt }
    rw [h.env]

/-! ## Calls -/

theorem processStep_of_same {site : Web} {a : Except Failure (Option StepReport)}
    {s' : Session Memory} (h : s.Same t) (hs : processStep site s = (a, s')) :
    ∃ t', processStep site t = (a, t') ∧ s'.Same t' := by
  have step := same_processStep site h
  rw [hs] at step
  generalize processStep site t = y at step
  obtain ⟨b, t'⟩ := y
  obtain ⟨rfl, same⟩ := step
  exact ⟨t', rfl, same⟩

theorem same_runPending (site : Web) (h : s.Same t) (limit : Option Nat) :
    Agree (runPending site limit s) (runPending site limit t) := by
  fun_induction runPending site limit s generalizing t with
  | case1 s =>
    unfold runPending
    exact ⟨rfl, h⟩
  | case2 limit s more e s' hs =>
    obtain ⟨t', ht, same⟩ := processStep_of_same h hs
    rw [runPending_step more ht]
    exact ⟨rfl, same⟩
  | case3 limit s more s' hs =>
    obtain ⟨t', ht, same⟩ := processStep_of_same h hs
    rw [runPending_step more ht]
    exact ⟨rfl, same⟩
  | case4 limit s more o s' hs n s'' hn ih =>
    obtain ⟨t', ht, same⟩ := processStep_of_same h hs
    have rest := ih same
    rw [hn] at rest
    rw [runPending_step more ht]
    exact ⟨congrArg (Except.map (· + 1)) rest.answer, rest.session⟩

theorem same_call (site : Web) (h : s.Same t) (c : Call) :
    c.answer site s = c.answer site t ∧ (c.perform site s).Same (c.perform site t) := by
  cases c with
  | move m =>
    have moved := same_perform site h m
    exact ⟨congrArg Answer.reply moved.answer, moved.session⟩
  | processAll limit =>
    have processed := same_runPending site h limit
    exact ⟨congrArg Answer.processed processed.answer, processed.session⟩

/-- The sights differ at most in the order of claims. -/
structure Sight.Same (x y : Sight) : Prop where
  answer : x.answer = y.answer
  requests : x.requests = y.requests
  runs : SameRuns x.runs y.runs
  queue : x.queue = y.queue

theorem same_sight (site : Web) (h : s.Same t) (c : Call) :
    (c.sight site s).Same (c.sight site t) := by
  obtain ⟨answer, after⟩ := same_call site h c
  refine ⟨answer, ?_, after.store.runs, after.store.steps⟩
  show List.drop _ (c.perform site s).env.requests = List.drop _ (c.perform site t).env.requests
  rw [after.env, h.env]

/-- **All calls do the same whatever the order of claims.** -/
theorem same_sights (site : Web) (h : s.Same t) (calls : List Call) :
    List.Forall₂ Sight.Same (sights site calls s) (sights site calls t) := by
  induction calls generalizing s t with
  | nil => exact .nil
  | cons c cs ih =>
    obtain ⟨-, after⟩ := same_call site h c
    exact .cons (same_sight site h c) (ih after)

theorem same_work (site : Web) (h : s.Same t) (calls : List Call) :
    (work site calls s).Same (work site calls t) := by
  induction calls generalizing s t with
  | nil => exact h
  | cons c cs ih =>
    obtain ⟨-, after⟩ := same_call site h c
    exact ih after

end Batch

end SiteWalk
