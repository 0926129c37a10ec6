import SiteWalk.Proofs.Batch.Exit
import SiteWalk.Proofs.Batch.Runs

/-!
# Steps that do not fit their runs

Whoever has a store may do all that it offers: queue any steps, replace contexts, forget
runs.  Whatever was done, a step is only carried out if it fits the context of its run
(`Fits`), and then under its own settings.  One that does not fit (`Unfit`) leaves the
queue, its run is incomplete, and nothing else is touched.

    (LawfulStore.view (operate ops : σ)).Orderly                            (orderly_operate)
    prepare t c = .ok r ↔ Fits t c r                                         (prepare_ok_iff)
-/

namespace SiteWalk.Batch

open Crawl

/-! ## Operations -/

/-- What a store offers to everyone. -/
inductive Operation where
  | create (c : Context)
  | save (run : Int) (c : Context)
  | remove (run : Int)
  | enqueue (t : Step)
  | discard (run : Int)
  | complete (id : Int) (new : List Step) (run : Int) (c : Context)

section

variable {σ : Type} [Store σ]

/-- The store after an operation, which may have been refused. -/
def Operation.perform (s : σ) : Operation → σ
  | .create c => (Store.create c s).2
  | .save run c => (Store.save run c s).2
  | .remove run => (Store.remove run s).2
  | .enqueue t => (Store.enqueue t s).2
  | .discard run => Store.discard run s
  | .complete id new run c => (Store.complete id new run c s).2

/-- The store that operations make of an empty one. -/
def operate (ops : List Operation) : σ := ops.foldl Operation.perform Store.empty

end

/-- Whatever is done to such a store can be done to its view as well, by other operations
where one is refused or takes steps with it. -/
class LawfulOperations (σ : Type) [Store σ] [LawfulStore σ] : Prop where
  view_perform (s : σ) (o : Operation) :
    ∃ os : List Operation, LawfulStore.view (o.perform s) =
      os.foldl Operation.perform (LawfulStore.view s)

instance : LawfulOperations Memory where
  view_perform _ o := ⟨[o], rfl⟩

namespace Relational

theorem hasRun_of_insertAll {new : List Step} {db : Relational}
    (h : (insertAll new db).1 = .ok ()) : ∀ t ∈ new, hasRun t.run db.runs = true := by
  induction new generalizing db with
  | nil => simp
  | cons s new ih =>
    unfold insertAll insert at h
    by_cases hr : hasRun s.run db.runs = true
    · rw [if_pos hr] at h
      intro t ht
      rcases List.mem_cons.1 ht with rfl | ht
      · exact hr
      · exact ih h t ht
    · rw [if_neg hr] at h
      cases h

/-- A step is completed for good, or nothing is changed. -/
theorem complete_cases (id : Int) (new : List Step) (run : Int) (c : Context) (db : Relational) :
    (∀ t ∈ new, hasRun t.run db.runs = true) ∨ (complete id new run c db).2 = db := by
  unfold complete transaction update
  dsimp only
  by_cases hr : hasRun run db.runs = true
  · rw [if_pos hr]
    dsimp only
    generalize hx : insertAll new (deleteStep id { db with runs := replaced run c db.runs }) = x
    obtain ⟨a, db'⟩ := x
    cases a with
    | ok =>
      left
      intro t ht
      have h : hasRun t.run (replaced run c db.runs) = true :=
        hasRun_of_insertAll (congrArg Prod.fst hx) t ht
      rwa [hasRun_replaced] at h
    | error => exact .inr rfl
  · rw [if_neg hr]
    exact .inr rfl

instance : LawfulOperations Relational where
  view_perform db o := by
    cases o with
    | create c => exact ⟨[.create c], congrArg Prod.snd (LawfulStore.view_create c db)⟩
    | save run c => exact ⟨[.save run c], congrArg Prod.snd (LawfulStore.view_save run c db)⟩
    | discard run => exact ⟨[.discard run], LawfulStore.view_discard run db⟩
    | enqueue t =>
      by_cases hr : hasRun t.run db.runs = true
      · exact ⟨[.enqueue t], congrArg Prod.snd (view_insert hr)⟩
      · refine ⟨[], congrArg view ?_⟩
        show (insert t db).2 = db
        unfold insert
        rw [if_neg hr]
    | remove run =>
      by_cases hr : hasRun run db.runs = true
      · -- The steps of the run leave with it.
        refine ⟨[.remove run, .discard run], ?_⟩
        show view (remove run db).2 = (Memory.remove run db.view).2.discard run
        unfold remove Memory.remove
        simp only [hr, if_true, show hasRun run db.view.runs = true from hr]
        simp [view, deleteSteps, Memory.discard, List.filter_reverse]
      · refine ⟨[], congrArg view ?_⟩
        show (remove run db).2 = db
        unfold remove
        rw [if_neg hr]
    | complete id new run c =>
      rcases complete_cases id new run c db with h | h
      · exact ⟨[.complete id new run c], congrArg Prod.snd (view_complete h)⟩
      · exact ⟨[], congrArg view h⟩

end Relational

/-! ## Numbers of steps -/

namespace Memory

theorem Orderly.perform {m : Memory} (h : m.Orderly) (o : Operation) : (o.perform m).Orderly := by
  cases o with
  | create c => exact h.keep (List.Sublist.refl _) rfl
  | enqueue t => exact h.push t
  | discard run =>
    show (m.discard run).Orderly
    exact h.keep List.filter_sublist rfl
  | save run c =>
    show (save run c m).2.Orderly
    unfold save
    split
    · exact h.keep (List.Sublist.refl _) rfl
    · exact h
  | remove run =>
    show (remove run m).2.Orderly
    unfold remove
    split
    · exact h.keep (List.Sublist.refl _) rfl
    · exact h
  | complete id new run c =>
    show (complete id new run c m).2.Orderly
    unfold complete
    split
    · have hk : Orderly { m with
          runs := replaced run c m.runs
          steps := m.steps.filter fun q => q.id ≠ id } := h.keep List.filter_sublist rfl
      exact hk.pushAll new
    · exact h

theorem Orderly.operations {m : Memory} (h : m.Orderly) (os : List Operation) :
    (os.foldl Operation.perform m).Orderly := by
  induction os generalizing m with
  | nil => exact h
  | cons o os ih => exact ih (h.perform o)

/-- The step on top is completed, and no other. -/
theorem complete_top {m : Memory} {q : Queued} {rest : List Queued} {c c' : Context}
    (h : m.Orderly) (top : m.steps = q :: rest) (hc : m.context? q.step.run = some c')
    (new : List Step) : (complete q.id new q.step.run c m).2 =
      new.foldl push { m with steps := rest, runs := replaced q.step.run c m.runs } := by
  unfold complete
  rw [if_pos (hasRun_iff.2 ⟨c', hc⟩), h.filter_top top]

end Memory

variable {σ : Type} [Store σ] [LawfulStore σ]

theorem orderly_empty : (LawfulStore.view (Store.empty : σ)).Orderly := by
  rw [LawfulStore.view_empty]
  exact Memory.sound_empty.orderly

section

variable [LawfulOperations σ]

theorem orderly_perform {s : σ} (h : (LawfulStore.view s).Orderly) (o : Operation) :
    (LawfulStore.view (o.perform s)).Orderly := by
  obtain ⟨os, hos⟩ := LawfulOperations.view_perform s o
  rw [hos]
  exact h.operations os

/-- **Whatever operations were done, steps lie in the order of their numbers.** -/
theorem orderly_operate (ops : List Operation) :
    (LawfulStore.view (operate ops : σ)).Orderly := by
  have run : ∀ s : σ, (LawfulStore.view s).Orderly →
      (LawfulStore.view (ops.foldl Operation.perform s)).Orderly := by
    induction ops with
    | nil => exact fun _ h => h
    | cons o ops ih => exact fun s h => ih (o.perform s) (orderly_perform h o)
  exact run Store.empty orderly_empty

end

/-! ## Steps that fit -/

/-- A step fits the context of its run: its settings are the ones that the run was started
with, it says so itself, and they and the seed can be read.  It is carried out under its own
settings. -/
structure Fits (t : Step) (c : Context) (r : Run) : Prop where
  settings : t.settings.digest = c.digest
  digest : t.digest = c.digest
  profile : Profile.ofSettings t.settings = .ok r.profile
  seed : Url.parse c.seed.toList = .ok r.seed
  flavor : r.flavor = c.flavor

/-- Why a step does not fit; its settings are compared before they are read, and the seed is
read last. -/
inductive Unfit (t : Step) (c : Context) : Failure → Prop
  | mismatch (other : t.settings.digest ≠ c.digest ∨ t.digest ≠ c.digest) :
      Unfit t c (.store (.mismatch t.run c.digest t.settings.digest))
  | profile {e : ProfileError} (settings : t.settings.digest = c.digest)
      (digest : t.digest = c.digest) (bad : Profile.ofSettings t.settings = .error e) :
      Unfit t c (.profile e)
  | seed {p : Profile} {e : Url.ParseError} (settings : t.settings.digest = c.digest)
      (digest : t.digest = c.digest) (profile : Profile.ofSettings t.settings = .ok p)
      (bad : Url.parse c.seed.toList = .error e) : Unfit t c (.address e)

variable {t : Step} {c : Context} {r : Run}

theorem fits_or_unfit (t : Step) (c : Context) :
    (∃ r, prepare t c = .ok r ∧ Fits t c r) ∨ ∃ why, prepare t c = .error why ∧ Unfit t c why := by
  unfold prepare
  by_cases other : t.settings.digest ≠ c.digest ∨ t.digest ≠ c.digest
  · right
    dsimp only
    rw [if_pos other]
    exact ⟨_, rfl, .mismatch other⟩
  dsimp only
  rw [if_neg other]
  rw [not_or] at other
  have settings := Decidable.not_not.1 other.1
  have digest := Decidable.not_not.1 other.2
  cases profile : Profile.ofSettings t.settings with
  | error e => exact .inr ⟨_, rfl, .profile settings digest profile⟩
  | ok p =>
    cases seed : Url.parse c.seed.toList with
    | error e => exact .inr ⟨_, rfl, .seed settings digest profile seed⟩
    | ok u => exact .inl ⟨_, rfl, settings, digest, profile, seed, rfl⟩

theorem not_fits_of_unfit {why : Failure} (h : Unfit t c why) : ¬ Fits t c r := by
  intro f
  cases h with
  | mismatch other => exact other.elim (absurd f.settings) (absurd f.digest)
  | profile _ _ bad =>
    rw [f.profile] at bad
    cases bad
  | seed _ _ _ bad =>
    rw [f.seed] at bad
    cases bad

theorem Fits.unique {r' : Run} (h : Fits t c r) (h' : Fits t c r') : r = r' := by
  obtain ⟨p, u, flavor⟩ := r
  obtain ⟨p', u', flavor'⟩ := r'
  cases h.profile.symm.trans h'.profile
  cases h.seed.symm.trans h'.seed
  cases h.flavor.trans h'.flavor.symm
  rfl

theorem prepare_ok_iff : prepare t c = .ok r ↔ Fits t c r := by
  rcases fits_or_unfit t c with ⟨r', h, f⟩ | ⟨why, h, u⟩
  · rw [h, Except.ok.injEq]
    constructor
    · rintro rfl
      exact f
    · exact f.unique
  · rw [h]
    exact ⟨fun h => (nomatch h), fun f => absurd f (not_fits_of_unfit u)⟩

theorem Fits.settings_eq (h : Fits t c r) : r.profile.settings = t.settings :=
  Profile.settings_of_ofSettings h.profile

/-- What goes out with the request for a step is what its settings say. -/
theorem Fits.options (h : Fits t c r) : r.options = t.settings.request :=
  congrArg Settings.request h.settings_eq

/-- A step that does not pass one of the checks does not fit. -/
theorem unfit_of_fault (fault : t.settings.digest ≠ c.digest ∨ t.digest ≠ c.digest ∨
      (∃ e, Profile.ofSettings t.settings = .error e) ∨ ∃ e, Url.parse c.seed.toList = .error e) :
    ∃ why, prepare t c = .error why ∧ Unfit t c why := by
  rcases fits_or_unfit t c with ⟨r, -, f⟩ | h
  · exfalso
    rcases fault with h | h | ⟨e, h⟩ | ⟨e, h⟩
    · exact h f.settings
    · exact h f.digest
    · rw [f.profile] at h
      cases h
    · rw [f.seed] at h
      cases h
  · exact h

/-! ## What becomes of the step that is next -/

namespace Exit

variable {site : Web} {s s' : Session Memory} {a : Except Failure (Option StepReport)}
  {q : Queued} {rest : List Queued}

/-- Requests are made for a step that fits, in the visit of its node. -/
theorem asks (h : Exit site s a s') (asks : s'.env.requests ≠ s.env.requests) :
    ∃ q rest c r, s.store.steps = q :: rest ∧ s.store.context? q.step.run = some c ∧
      c.cancelled = false ∧ Fits q.step c r ∧
      s' = ⟨(Memory.complete q.id
          ((r.visit site q.step.node c.progress s.env).outcome.children.map q.step.child).reverse
          q.step.run { c with
            progress := (r.visit site q.step.node c.progress s.env).progress
            report := c.report.record (r.visit site q.step.node c.progress s.env).outcome }
          s.store).2, (r.visit site q.step.node c.progress s.env).env⟩ := by
  cases h with
  | idle | orphan | dropped | abandoned => exact absurd rfl asks
  | visited on top context kept good visit =>
    subst visit
    exact ⟨_, _, _, _, top, context, kept, prepare_ok_iff.1 good, rfl⟩

/-- A step of a run that is there and goes on is carried out or abandoned. -/
theorem prepared (h : Exit site s a s') (on : s.env.cancelled = false)
    (top : s.store.steps = q :: rest) (context : s.store.context? q.step.run = some c)
    (kept : c.cancelled = false) :
    (∃ r, Fits q.step c r ∧ s'.env = (r.visit site q.step.node c.progress s.env).env) ∨
      ∃ why, prepare q.step c = .error why ∧ a = .error why ∧
        s' = ⟨(Memory.complete q.id [] q.step.run
          { c with report := { c.report with incomplete := true } } s.store).2, s.env⟩ := by
  cases h with
  | idle none =>
    rw [on, top] at none
    rcases none with none | none <;> cases none
  | orphan _ top' unknown =>
    cases top.symm.trans top'
    rw [context] at unknown
    cases unknown
  | dropped _ top' context' off =>
    cases top.symm.trans top'
    cases context.symm.trans context'
    rw [kept] at off
    cases off
  | abandoned _ top' context' _ bad =>
    cases top.symm.trans top'
    cases context.symm.trans context'
    exact .inr ⟨_, bad, rfl, rfl⟩
  | visited _ top' context' _ good visit =>
    cases top.symm.trans top'
    cases context.symm.trans context'
    subst visit
    exact .inl ⟨_, prepare_ok_iff.1 good, rfl⟩

end Exit

variable {s s' : Session σ} {run : Int}

theorem runIds_replaced (run : Int) (c : Context) (runs : List (Int × Context)) :
    (replaced run c runs).map Prod.fst = runs.map Prod.fst := by
  unfold replaced
  rw [List.map_map]
  refine List.map_congr_left fun x _ => ?_
  by_cases hx : x.1 = run <;> simp [hx]

/-- A step that fits is carried out. -/
theorem processStep_fits (site : Web) {q : Queued} {rest : List Queued}
    (on : s.env.cancelled = false) (top : s.view.store.steps = q :: rest)
    (context : s.view.store.context? q.step.run = some c) (kept : c.cancelled = false)
    (fits : Fits q.step c r) :
    (processStep site s).2.env = (r.visit site q.step.node c.progress s.env).env := by
  rcases (exit site s).prepared on top context kept with ⟨r', fits', env⟩ | ⟨why, bad, -⟩
  · rw [fits.unique fits']
    exact env
  · rw [prepare_ok_iff.2 fits] at bad
    cases bad

/-- A step that does not fit leaves the queue, and its run is incomplete. -/
theorem processStep_unfit (site : Web) {q : Queued} {rest : List Queued} {why : Failure}
    (orderly : s.view.store.Orderly) (on : s.env.cancelled = false)
    (top : s.view.store.steps = q :: rest) (context : s.view.store.context? q.step.run = some c)
    (kept : c.cancelled = false) (bad : prepare q.step c = .error why) :
    (processStep site s).1 = .error why ∧
      (processStep site s).2.view =
        ⟨{ s.view.store with
            steps := rest
            runs := replaced q.step.run { c with report := { c.report with incomplete := true } }
              s.view.store.runs }, s.env⟩ := by
  rcases (exit site s).prepared on top context kept with ⟨r, fits, -⟩ | ⟨why', bad', err, hs⟩
  · rw [prepare_ok_iff.2 fits] at bad
    cases bad
  · cases bad.symm.trans bad'
    rw [Memory.complete_top orderly top context []] at hs
    exact ⟨err, hs⟩

/-- **Only steps that fit their runs are carried out.**  Whatever operations a store has been
through: when processing asks for a page, then the step that is next fits its run, and all
that is done is the visit of its node under its own settings; user agent, time limit,
credentials, headers and cookies of its one request are theirs as well.  When the step does
not fit and its run goes on, then processing says why, asks for nothing, takes the step and
no other off the queue and notes that the run is incomplete; the next step is the one
below. -/
theorem fits_or_leaves (σ : Type) [Store σ] [LawfulStore σ] [LawfulOperations σ] (site : Web)
    (ops : List Operation) (e : Env) :
    let s : Session σ := ⟨operate ops, e⟩
    let x := processStep site s
    (x.2.env.requests ≠ e.requests →
      ∃ q c r, Store.peek? s.store = some q ∧ Store.load q.step.run s.store = .ok c ∧
        c.cancelled = false ∧ Fits q.step c r ∧
        let v := r.visit site q.step.node c.progress e
        r.sees site = site.answer q.step.settings.request ∧
        x.2.env = v.env ∧
        x.2.env.requests = e.requests ++ [⟨q.step.node.url, q.step.settings.request, e.clock +
          (wait? q.step.settings.walk.coolDown c.progress.fetchCount).getD 0⟩] ∧
        Store.load q.step.run x.2.store =
          .ok { c with progress := v.progress, report := c.report.record v.outcome }) ∧
    ∀ q rest c, e.cancelled = false → Store.queue s.store = q :: rest →
      Store.load q.step.run s.store = .ok c → c.cancelled = false →
      (q.step.settings.digest ≠ c.digest ∨ q.step.digest ≠ c.digest ∨
        (∃ f, Profile.ofSettings q.step.settings = .error f) ∨
        ∃ f, Url.parse c.seed.toList = .error f) →
      (∃ why, x.1 = .error why ∧ Unfit q.step c why) ∧ x.2.env = e ∧
      Store.queue x.2.store = rest ∧ Store.runIds x.2.store = Store.runIds s.store ∧
      (∀ run, Store.load run x.2.store =
        if run = q.step.run then .ok { c with report := { c.report with incomplete := true } }
        else Store.load run s.store) ∧
      (claim x.2).step? = rest.head?.map Queued.step := by
  intro s x
  have ex : Exit site s.view x.1 x.2.view := exit site s
  constructor
  · intro asks
    obtain ⟨q, rest, c, r, top, context, kept, fits, hs⟩ := ex.asks asks
    have env : x.2.env = (r.visit site q.step.node c.progress e).env := congrArg Session.env hs
    have options : r.options = q.step.settings.request := fits.options
    refine ⟨q, c, r, ?_, load_some context, kept, fits, congrArg site.answer options, env, ?_,
      load_some ?_⟩
    · rw [peek?_eq, show (LawfulStore.view s.store).steps = q :: rest from top]
      rfl
    · rw [env, Run.requests_visit, options, fits.settings_eq] at asks ⊢
      split at asks
      · next fetched => rw [if_pos fetched]
      · rw [List.append_nil] at asks
        exact absurd rfl asks
    · rw [hs, Memory.context?_complete context, if_pos rfl]
      rfl
  · intro q rest c on queue load kept fault
    have top : s.view.store.steps = q :: rest := by
      rw [← queue]
      exact (LawfulStore.queue_eq _).symm
    have context := context_of_load load
    obtain ⟨why, bad, unfit⟩ := unfit_of_fault fault
    obtain ⟨err, hs⟩ := processStep_unfit site (orderly_operate ops) on top context kept bad
    have env : x.2.env = e := congrArg Session.env hs
    have left : x.2.view.store.steps = rest := congrArg (fun s => s.store.steps) hs
    have runs : x.2.view.store.runs = _ := congrArg (fun s => s.store.runs) hs
    refine ⟨⟨why, err, unfit⟩, env, (LawfulStore.queue_eq _).trans left, ?_, ?_, ?_⟩
    · unfold Store.runIds
      rw [LawfulStore.runs_eq, LawfulStore.runs_eq]
      exact (congrArg _ runs).trans (runIds_replaced _ _ _)
    · intro run
      have known : x.2.view.store.context? run = _ :=
        (congrArg (List.lookup run) runs).trans (lookup_replaced (hasRun_iff.2 ⟨c, context⟩))
      rw [load_eq, load_eq, known]
      by_cases hr : run = q.step.run
      · rw [if_pos hr, if_pos hr]
      · rw [if_neg hr, if_neg hr]
        rfl
    · have on' : ¬ x.2.env.cancelled = true := by
        rw [env, on]
        exact Bool.false_ne_true
      cases rest with
      | nil =>
        rw [claim_idle (.inr left)]
        rfl
      | cons q' rest => exact claim_step on' left

/-- A site that is there for robots only. -/
def guarded : Web where
  answer options url := if options.userAgent = "robot" then .ok "" else .error (.status url 403)

/-- A run that says that it is one. -/
def robot : Run where
  profile := { plainProfile with settings := { plainSettings with
    request := { Settings.Request.standard with userAgent := "robot" } } }
  seed := loopback
  flavor := .links

theorem robot_first : robot.first = ⟨"http://[::1]/", 1⟩ := by decide +kernel

theorem robot_prepared (run : Int) (n : Node) (p : Progress) (rep : Report) :
    prepare (robot.stepAt run n) (robot.context p rep) = .ok robot := by
  rw [prepare_stepAt (r := robot) rfl, show robot.seed = loopback from rfl, loopback_readBack]
  rfl

/-- A run as it is begun in a store that has `run - 1` already. -/
def untouched (r : Run) (run : Int) : List Operation :=
  [.create (r.context {} {}), .enqueue (r.stepAt run r.first)]

/-- A run whose context was replaced, and on top of its step another one with a false digest. -/
def tampered : List Operation :=
  [.create { robot.context {} {} with digest := "a" }, .enqueue (robot.stepAt 1 robot.first),
    .enqueue { robot.stepAt 1 robot.first with digest := "b" }]

theorem visit_robot : robot.visit guarded robot.first {} {} =
    ⟨{ url := "http://[::1]/", stage := .childrenScheduled, fetched := true },
      far ["http://[::1]/"], robot.ask "http://[::1]/" 0 {}⟩ := by
  decide +kernel

theorem untouched_asks :
    (processStep guarded
      (⟨operate (untouched robot 1), {}⟩ : Session Relational)).2.env.requests ≠ [] := by
  rw [processStep_fits guarded (q := ⟨1, robot.stepAt 1 robot.first⟩)
    (c := robot.context {} {}) (r := robot) rfl rfl rfl rfl
    (prepare_ok_iff.1 (robot_prepared 1 _ {} {}))]
  show (robot.visit guarded robot.first {} {}).env.requests ≠ []
  rw [visit_robot]
  exact List.cons_ne_nil _ _

/-- The step of the robot is carried out as a robot, and one that was tampered with is not. -/
theorem fits_or_leaves_loopback :
    (processStep guarded
      (⟨operate (untouched robot 1), {}⟩ : Session Relational)).2.env.requests =
        [⟨"http://[::1]/", robot.profile.settings.request, 0⟩] ∧
    Store.load 1 (processStep guarded
      (⟨operate (untouched robot 1), {}⟩ : Session Relational)).2.store =
        .ok (robot.context (far ["http://[::1]/"]) { pagesFetched := 1 }) ∧
    (∃ why, (processStep guarded (⟨operate tampered, {}⟩ : Session Relational)).1 = .error why) ∧
    Store.queue (processStep guarded (⟨operate tampered, {}⟩ : Session Relational)).2.store =
      [⟨1, robot.stepAt 1 robot.first⟩] := by
  obtain ⟨q, c, r, top, load, -, fits, -, -, requests, after⟩ :=
    (fits_or_leaves Relational guarded (untouched robot 1) {}).1 untouched_asks
  obtain rfl : ⟨1, robot.stepAt 1 robot.first⟩ = q := Option.some.inj top
  obtain rfl : robot.context {} {} = c := Except.ok.inj load
  obtain rfl : robot = r := (prepare_ok_iff.1 (robot_prepared 1 _ {} {})).unique fits
  obtain ⟨⟨why, err, -⟩, -, queue, -⟩ := (fits_or_leaves Relational guarded tampered {}).2
    ⟨2, { robot.stepAt 1 robot.first with digest := "b" }⟩
    [⟨1, robot.stepAt 1 robot.first⟩] { robot.context {} {} with digest := "a" }
    rfl rfl rfl rfl (.inr (.inl (by decide)))
  refine ⟨?_, ?_, ⟨why, err⟩, queue⟩
  · rw [requests, show (robot.stepAt 1 robot.first).node = _ from robot_first]
    rfl
  · have visit : robot.visit guarded (robot.stepAt 1 robot.first).node
        (robot.context {} {}).progress {} = _ := visit_robot
    rw [visit] at after
    exact after

end SiteWalk.Batch
