import SiteWalk.Field.Population
import SiteWalk.Proofs.Batch.Drained
import SiteWalk.Proofs.Batch.Follow
import SiteWalk.Proofs.Batch.Lifecycle
import SiteWalk.Proofs.Crawl.Moment

/-!
# Fields that are populated later

A crawl for a field is done at once, or its run is put into a store and its results are put
into the field when the run is over.  Both come to the same: the same values in the same
field, and nothing else of the entity is touched.

    populate c granted m .synchronous e s = (.ok (.written n), e', s') →
    populate c granted m .batched e s = (.ok (.deferred run), e, s₁) → … →
      finish run m e (work site after s₁) = (.ok (some n), e', s₃)    (deferred_eq_immediate)
-/

namespace SiteWalk

namespace Crawl.Run

/-! ## Crawls in quiet -/

variable {r : Run} {site : Web} {s s' : State}

theorem holding_step (h : s.holding = s'.holding) (n : Node) (rest : List Node) :
    (r.step site n rest s).holding = (r.step site n rest s').holding := by
  obtain ⟨stack, progress, report, env⟩ := s
  obtain ⟨stack', progress', report', env'⟩ := s'
  obtain ⟨-, rfl, rfl⟩ := Holding.mk.inj h
  obtain ⟨outcome, claimed⟩ := r.visit_env site n progress env env'
  simp only [step, State.holding, outcome, claimed]

/-- A crawl that nothing calls off comes to the same at any time and after any requests. -/
theorem holding_drain (quiet : s.env.Quiet) (quiet' : s'.env.Quiet) (h : s.holding = s'.holding) :
    (r.drain site s).holding = (r.drain site s').holding := by
  have same : s.stack = s'.stack := congrArg Holding.stack h
  fun_induction Run.drain r site s generalizing s' with
  | case1 s empty =>
    rw [drain_nil (same.symm.trans empty)]
    exact h
  | case2 s n rest top off =>
    rw [quiet.1] at off
    cases off
  | case3 s n rest top on ih =>
    rw [drain_on (same.symm.trans top) quiet'.1]
    have next : (r.step site n rest s).holding = (r.step site n rest s').holding :=
      holding_step h n rest
    exact ih (quiet_visit quiet) (quiet_visit quiet') next (congrArg Holding.stack next)

theorem report_crawl {e e' : Env} (quiet : e.Quiet) (quiet' : e'.Quiet) :
    (r.crawl site e).report = (r.crawl site e').report := by
  have same : (r.drain site (.initial r.first e)).holding =
      (r.drain site (.initial r.first e')).holding := holding_drain quiet quiet' rfl
  exact congrArg Holding.report same

end Crawl.Run

namespace Batch

open Crawl

/-! ## Calls -/

variable {σ : Type} [Store σ] [LawfulStore σ] {site : Web} {s : Session σ} {r : Run} {run : Int}
  {J : List Entry}

/-- A run that follows its crawl goes on to do so. -/
theorem follows_calls (valid : Valid r) (sound : s.view.store.Sound)
    (old : run ≤ s.view.store.lastRun) (h : Follows r site run J s.view.store)
    (calls : List Call) :
    Follows r site run (J ++ journal site calls s) (work site calls s).view.store := by
  refine (work_induction (P := fun K s' => s'.view.store.Sound ∧ run ≤ s'.view.store.lastRun ∧
    Follows r site run (J ++ K) s'.view.store) ?_ ?_ calls).2.2
  · rw [List.append_nil]
    exact ⟨sound, old, h⟩
  · rintro K s' m ⟨sound, old, h⟩
    have eff : Effect site s'.view (m.entry site s') (m.perform site s').2.view :=
      effect site sound.closed m
    refine ⟨sound_effect sound eff, Int.le_trans old (lastRun_effect eff), ?_⟩
    rw [← List.append_assoc]
    exact follows_effect valid sound old h eff

/-- A run that has just been put into a store, and is neither called off nor collected, comes to
what its crawl comes to. -/
theorem begun_eq_crawl {e : Env} {m : Memory} (trail : Trail site e J s) (valid : Valid r)
    (sound : m.Sound) (begun : s.view.store = m.begin r) {calls : List Call}
    (kept : .move (.cancel (m.lastRun + 1)) ∉ calls)
    (left : .move (.collect (m.lastRun + 1)) ∉ calls) :
    let s' := work site calls s
    ∃ d, s'.view.store.context? (m.lastRun + 1) = some d ∧
      (s'.view.store.stepsOf (m.lastRun + 1) = [] →
        Url.parse r.seed.toText.toList = .ok r.seed → d.report = (r.crawl site {}).report) := by
  intro s'
  have old : m.lastRun + 1 ≤ s.view.store.lastRun := by
    rw [begun]
    exact Int.le_refl _
  have context : s.view.store.context? (m.lastRun + 1) = some (r.context {} {}) := by
    rw [begun, Memory.context?_begin sound, if_pos rfl]
  have stays : ∀ x ∈ journal site calls s, x.handsOut (m.lastRun + 1) = false := by
    intro x hx
    refine Bool.eq_false_iff.2 fun hand => left ?_
    have move := (Entry.collected_of_handsOut hand).1
    rw [← move]
    exact move_of_mem_journal hx (by simp [move])
  obtain ⟨d, context', -⟩ := (grows_calls trail old calls).2 _ context stays
  -- Its journal begins here: before, it may have been called off when there was no such run.
  have first : Follows r site (m.lastRun + 1) [] s.view.store := by
    rw [begun]
    exact follows_begin ⟨sound, List.forall_mem_nil _⟩
  have follows : Follows r site (m.lastRun + 1) (journal site calls s) s'.view.store :=
    follows_calls valid (kept_trail trail).sound old first calls
  have on : ∀ x ∈ journal site calls s, x.move ≠ .cancel (m.lastRun + 1) :=
    fun x hx off => kept (cancel_of_mem_journal hx off)
  exact ⟨d, context', fun spent readBack => follows.report_crawl readBack context' spent on⟩

/-- Calls to process all steps come to an empty queue. -/
theorem drained_calls (site : Web) (quiet : s.env.Quiet) :
    ∃ k, Store.queue (work site (List.replicate k (.processAll none)) s).store = [] := by
  refine Drives.drained (fun k => ?_) quiet
  rw [List.replicate_succ', work_append]
  exact drives_runPending site _

end Batch

namespace Field

open Batch Crawl

/-! ## Entities -/

theorem Entity.values_set_other {name field : String} (h : field ≠ name) (e : Entity)
    (vs : List Value) : (e.set name vs).values field = e.values field := by
  unfold set values
  rw [List.lookup_cons, beq_eq_false_iff_ne.2 h, lookup_filter, if_neg h]

theorem values_put (m : Mapping) (rep : Report) (e : Entity) :
    (put m rep e).2.values m.destination = results rep m.flavor := e.values_set _ _

/-- Results are put into no other field. -/
theorem values_put_other {field : String} (m : Mapping) (rep : Report) (e : Entity)
    (h : field ≠ m.destination) : (put m rep e).2.values field = e.values field :=
  Entity.values_set_other h e _

/-! ## Starting -/

variable {σ : Type} [Store σ] {p : Profile} {site : Web} {granted : List String} {m : Mapping}
  {e : Entity} {s : Session σ} {text : String} {u : Url}

theorem populate_granted (grants : crawlCapability ∈ granted)
    (found : seed e m.source = .ok text) (mode : Mode) (c : Coordinator) :
    populate c granted m mode e s =
      match c.start text m.flavor mode s with
      | (.error why, s) => (.error why, e, s)
      | (.ok (.deferred run), s) => (.ok (.deferred run), e, s)
      | (.ok (.done r), s) => (.ok (.written (put m r e).1), (put m r e).2, s) := by
  rcases started : c.start text m.flavor mode s with ⟨why | ⟨rep⟩ | ⟨run⟩, s'⟩ <;>
    simp [populate, grants, found, started]

theorem populate_synchronous (grants : crawlCapability ∈ granted)
    (found : seed e m.source = .ok text) (usable : Link.seed? text = .ok u) :
    let t := (Run.mk p u m.flavor).crawl site s.env
    populate ⟨p, site⟩ granted m .synchronous e s =
      (.ok (.written (put m t.report e).1), (put m t.report e).2, { s with env := t.env }) := by
  intro t
  rw [populate_granted grants found]
  unfold Coordinator.start
  rw [usable]

variable [LawfulStore σ]

/-- The run is put into the store as by anyone who starts it, and the entity is not touched. -/
theorem populate_batched (site : Web) (s : Session σ) {settings : Settings}
    (valid : Profile.ofSettings settings = .ok p) (grants : crawlCapability ∈ granted)
    (found : seed e m.source = .ok text) (usable : Link.seed? text = .ok u) :
    let s₁ := ((Move.start settings text m.flavor .batched).perform site s).2
    populate ⟨p, site⟩ granted m .batched e s =
        (.ok (.deferred (s.view.store.lastRun + 1)), e, s₁) ∧
      s₁.view = ⟨s.view.store.begin ⟨p, u, m.flavor⟩, s.env⟩ := by
  intro s₁
  obtain ⟨s', he, hv⟩ := enqueue_view ⟨p, site⟩ u m.flavor s
  have started : (Coordinator.mk p site).start text m.flavor .batched s =
      (.ok (.deferred (s.view.store.lastRun + 1)), s') := by
    unfold Coordinator.start
    rw [usable]
    dsimp only
    rw [he]
  have hs : s₁ = s' := by
    show ((Move.start settings text m.flavor .batched).perform site s).2 = s'
    unfold Move.perform
    dsimp only
    rw [valid]
    dsimp only
    rw [started]
  rw [hs, populate_granted grants found, started]
  exact ⟨rfl, hv⟩

/-! ## Finishing -/

variable {run : Int}

theorem finish_left (left : s.view.store.stepsOf run ≠ []) : finish run m e s = (.ok none, e, s) := by
  unfold finish
  rw [collect_left left]

theorem finish_spent {c : Context} (spent : s.view.store.stepsOf run = [])
    (context : s.view.store.context? run = some c) :
    ∃ s', finish run m e s =
      (.ok (some (put m c.report e).1), (put m c.report e).2, s') := by
  obtain ⟨s', he, -⟩ := collect_view spent context
  unfold finish
  rw [he]
  exact ⟨s', rfl⟩

/-- **A crawl for a field comes to the same now and later.**  Whatever was done with a store,
somebody who may crawl populates a field from a seed, and nothing calls work off.  At once,
what the crawl finds is put into the field.  In a batch, the entity is left alone and its run
put into the store, whose queue gets empty if all steps are processed again and again.  Whatever
else is done with the store, unless the run is called off or its report taken by others: while
steps of the run are queued, finishing it does nothing, and then it puts into the field as many
values as were put there at once, and the same.  No other field is changed.  The address of the
seed has to read back, as any does that is spelt in ASCII (`Link.parse_text_of_ascii`). -/
theorem deferred_eq_immediate (σ : Type) [Store σ] [LawfulStore σ] (site : Web) (env : Env)
    (before : List Call) (settings : Settings) (p : Profile) (granted : List String)
    (m : Mapping) (e : Entity) (text : String) (u : Url)
    (quiet : (work site before (⟨Store.empty, env⟩ : Session σ)).env.Quiet)
    (valid : Profile.ofSettings settings = .ok p) (grants : crawlCapability ∈ granted)
    (found : seed e m.source = .ok text) (usable : Link.seed? text = .ok u) :
    let s := work site before (⟨Store.empty, env⟩ : Session σ)
    let r : Run := ⟨p, u, m.flavor⟩
    ∃ n now s' run s₁,
      populate ⟨p, site⟩ granted m .synchronous e s = (.ok (.written n), now, s') ∧
      now.values m.destination = results (r.crawl site s.env).report m.flavor ∧
      (now.values m.destination).length = n ∧
      (∀ field ≠ m.destination, now.values field = e.values field) ∧
      populate ⟨p, site⟩ granted m .batched e s = (.ok (.deferred run), e, s₁) ∧
      (∃ k, Store.queue (work site (List.replicate k (.processAll none)) s₁).store = []) ∧
      ∀ after, .move (.cancel run) ∉ after → .move (.collect run) ∉ after →
        let s₂ := work site after s₁
        (Store.pending run s₂.store > 0 → finish run m e s₂ = (.ok none, e, s₂)) ∧
        (Store.pending run s₂.store = 0 → ∃ n' later s₃,
          finish run m e s₂ = (.ok (some n'), later, s₃) ∧
          (∀ field ≠ m.destination, later.values field = e.values field) ∧
          (Url.parse u.toText.toList = .ok u → n' = n ∧ later = now)) := by
  intro s r
  let run := s.view.store.lastRun + 1
  have trail : Trail site env (journal site before _) s := trail_journal site env before
  obtain ⟨deferred, begun⟩ := populate_batched site s valid grants found usable
  generalize hs₁ : ((Move.start settings text m.flavor .batched).perform site s).2 = s₁
    at deferred begun
  obtain ⟨J, trail₁⟩ : ∃ J, Trail site env J s₁ := ⟨_, hs₁ ▸ trail.move _⟩
  have store₁ : s₁.view.store = s.view.store.begin r := congrArg Session.store begun
  have env₁ : s₁.env = s.env := congrArg (fun x : Session Memory => x.env) begun
  refine ⟨_, _, _, run, s₁, populate_synchronous grants found usable, values_put m _ e,
    congrArg List.length (values_put m _ e), fun _ => values_put_other m _ e, deferred,
    drained_calls site (env₁ ▸ quiet), ?_⟩
  intro after kept uncollected s₂
  obtain ⟨c, context, final⟩ := begun_eq_crawl trail₁ (valid_of_ofSettings valid)
    (kept_trail trail).sound store₁ kept uncollected
  have pending : Store.pending run s₂.store = (s₂.view.store.stepsOf run).length :=
    pending_eq run s₂.store
  rw [pending]
  constructor
  · intro left
    exact finish_left (List.length_pos_iff.1 left)
  · intro none
    have spent : s₂.view.store.stepsOf run = [] := List.length_eq_zero_iff.1 none
    obtain ⟨s₃, done⟩ := finish_spent spent context
    refine ⟨_, _, s₃, done, fun _ => values_put_other m _ e, ?_⟩
    intro readBack
    have same : c.report = (r.crawl site s.env).report := by
      rw [final spent readBack]
      exact Run.report_crawl ⟨rfl, rfl⟩ quiet
    rw [same]
    exact ⟨rfl, rfl⟩

/-- The results replace the seed. -/
def inPlace : Mapping := ⟨"source", "source", .links⟩

/-- An entity with a seed behind a blank. -/
def seeded : Entity := ⟨[("title", [.text "Here"]), ("source", [.text " ", .link "http://[::1]/"])]⟩

theorem deferred_eq_immediate_loopback :
    let s : Session Memory := ⟨Store.empty, {}⟩
    let c : Coordinator := ⟨plainProfile, endless⟩
    ∃ n now s' run s₁ k s₃,
      populate c [crawlCapability] inPlace .synchronous seeded s = (.ok (.written n), now, s') ∧
      populate c [crawlCapability] inPlace .batched seeded s = (.ok (.deferred run), seeded, s₁) ∧
      finish run inPlace seeded (work endless (List.replicate k (.processAll none)) s₁) =
        (.ok (some n), now, s₃) := by
  intro s c
  obtain ⟨n, now, s', run, s₁, done, -, -, -, deferred, ⟨k, drained⟩, later⟩ :=
    deferred_eq_immediate Memory endless {} [] plainSettings plainProfile [crawlCapability]
      inPlace seeded "http://[::1]/" loopback ⟨rfl, rfl⟩ rfl List.mem_cons_self rfl rfl
  have others : ∀ m : Move, .move m ∉ List.replicate k (Call.processAll none) := by
    intro m hm
    cases List.eq_of_mem_replicate hm
  obtain ⟨n', now', s₃, finished, -, same⟩ := (later _ (others _) (others _)).2 (by
    unfold Store.pending
    rw [drained]
    rfl)
  obtain ⟨rfl, rfl⟩ := same loopback_readBack
  exact ⟨n', now', s', run, s₁, k, s₃, done, deferred, finished⟩

end Field

end SiteWalk
