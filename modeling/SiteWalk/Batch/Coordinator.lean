import SiteWalk.Batch.Store
import SiteWalk.Crawl.Traversal
import SiteWalk.Failure

/-!
# Coordination of runs

A crawl is either done at once or put into a store as a batch run, whose steps
are then processed one by one, by anyone who has the store.  Processing a step
has two phases: claiming it, which changes nothing, and settling what was claimed.

A run is over when no step of it is queued; then its report may be collected.
-/

namespace SiteWalk.Batch

open Crawl

inductive Mode where
  | synchronous
  | batched
  deriving DecidableEq, Repr, Inhabited

namespace Mode

def name : Mode → String
  | .synchronous => "synchronous"
  | .batched => "batched"

def ofName? (s : String) : Option Mode := [synchronous, batched].find? fun m => m.name == s

end Mode

/-- A store, and the clock and requests of those who work on it. -/
structure Session (σ : Type) where
  store : σ
  env : Env := {}

/-- Something done in a session, which goes on also when it fails. -/
abbrev Action (σ α : Type) := Session σ → Except Failure α × Session σ

namespace Session

/-- A change of the store as an action. -/
def change {σ α : Type} (f : Change σ α) : Action σ α := fun s =>
  match f s.store with
  | (.ok a, store) => (.ok a, { s with store := store })
  | (.error e, store) => (.error (.store e), { s with store := store })

theorem store_of_change {σ α : Type} {f : Change σ α} {s : Session σ} {a : α} {s' : Session σ}
    (h : change f s = (.ok a, s')) :
    (f s.store).1 = .ok a ∧ s'.store = (f s.store).2 := by
  unfold change at h
  split at h
  · next b store heq =>
    simp only [Prod.mk.injEq, Except.ok.injEq] at h
    obtain ⟨rfl, rfl⟩ := h
    exact ⟨by rw [heq], by rw [heq]⟩
  · simp at h

end Session

/-- What starting a crawl came to. -/
inductive Started where
  | done (r : Report)
  | deferred (run : Int)
  deriving DecidableEq, Repr, Inhabited

/-- What processing a step came to. -/
structure StepReport where
  run : Int
  url : String
  stage : Stage
  scheduled : Nat := 0
  remaining : Nat := 0
  deriving DecidableEq, Repr, Inhabited

/-- A profile for new runs, and the site that is crawled. -/
structure Coordinator where
  profile : Profile
  site : Web

section

variable {σ : Type} [Store σ]

namespace Session

/-- The depths of the queued steps, the next one in front. -/
def depths (s : Session σ) : List Nat := (Store.queue s.store).map fun q => q.step.depth

end Session

/-! ## Starting -/

namespace Coordinator

/-- Adds a run with a step for its seed. -/
def enqueue (c : Coordinator) (seed : Url) (flavor : Flavor) : Action σ Int := fun s =>
  let settings := c.profile.settings
  let (run, store) := Store.create ⟨seed.toText, flavor, settings.digest, {}, {}, false⟩ s.store
  let step : Step := ⟨run, ⟨seed.toText, settings.walk.depth⟩, flavor, settings, settings.digest⟩
  match Session.change (Store.enqueue step) { s with store := store } with
  | (.ok (), s) => (.ok run, s)
  | (.error e, s) => (.error e, s)

/-- Starts a crawl from a seed. -/
def start (c : Coordinator) (seed : String) (flavor : Flavor) (mode : Mode) :
    Action σ Started := fun s =>
  match Link.seed? seed with
  | .error e => (.error (.seed e), s)
  | .ok u =>
    match mode with
    | .synchronous =>
      let state := (Run.mk c.profile u flavor).crawl c.site s.env
      (.ok (.done state.report), { s with env := state.env })
    | .batched =>
      match c.enqueue u flavor s with
      | (.ok run, s) => (.ok (.deferred run), s)
      | (.error e, s) => (.error e, s)

end Coordinator

/-! ## Processing a step -/

/-- The first phase of processing a step. -/
inductive Claim where
  /-- There is nothing to do, or work was called off. -/
  | idle
  /-- The run of the step is not there. -/
  | orphan (q : Queued)
  /-- The run of the step is called off. -/
  | dropped (q : Queued) (c : Context)
  | ready (q : Queued) (c : Context)
  deriving Inhabited

def claim (s : Session σ) : Claim :=
  if s.env.cancelled then .idle
  else
    match Store.peek? s.store with
    | none => .idle
    | some q =>
      match Store.load q.step.run s.store with
      | .error _ => .orphan q
      | .ok c => if c.cancelled then .dropped q c else .ready q c

/-- What a step runs under.  Its settings have to be those that the run was started
with. -/
def prepare (step : Step) (c : Context) : Except Failure Run :=
  let found := step.settings.digest
  if found ≠ c.digest ∨ step.digest ≠ c.digest then
    .error (.store (.mismatch step.run c.digest found))
  else
    match Profile.ofSettings step.settings with
    | .error e => .error (.profile e)
    | .ok p =>
      match Url.parse c.seed.toList with
      | .error e => .error (.address e)
      | .ok u => .ok ⟨p, u, c.flavor⟩

/-- Drops the steps of a run that is not there. -/
def settleOrphan (q : Queued) : Action σ (Option StepReport) := fun s =>
  (.ok (some { run := q.step.run, url := q.step.node.url, stage := .skipped }),
    { s with store := Store.discard q.step.run s.store })

/-- Drops the steps of a run that is called off. -/
def settleDropped (q : Queued) (c : Context) : Action σ (Option StepReport) := fun s =>
  let s := { s with store := Store.discard q.step.run s.store }
  let c := { c with report := { c.report with cancelled := true } }
  match Session.change (Store.save q.step.run c) s with
  | (.ok (), s) =>
    (.ok (some { run := q.step.run, url := q.step.node.url, stage := .skipped }), s)
  | (.error e, s) => (.error e, s)

/-- Gives a step up that cannot be carried out: its run is incomplete. -/
def abandon (q : Queued) (c : Context) (why : Failure) : Action σ (Option StepReport) := fun s =>
  let c := { c with report := { c.report with incomplete := true } }
  match Session.change (Store.complete q.id [] q.step.run c) s with
  | (.ok (), s) => (.error why, s)
  | (.error e, s) => (.error e, s)

/-- Visits the node of a step and puts its children on the queue, the first on top. -/
def carryOut (site : Web) (q : Queued) (c : Context) (r : Run) :
    Action σ (Option StepReport) := fun s =>
  let v := r.visit site q.step.node c.progress s.env
  let c := { c with progress := v.progress, report := c.report.record v.outcome }
  let new := (v.outcome.children.map q.step.child).reverse
  match Session.change (Store.complete q.id new q.step.run c) { s with env := v.env } with
  | (.ok (), s) =>
    (.ok (some {
      run := q.step.run
      url := v.outcome.url
      stage := v.outcome.stage
      scheduled := v.outcome.children.length
      remaining := Store.pending q.step.run s.store }), s)
  | (.error e, s) => (.error e, s)

/-- The second phase of processing a step. -/
def settle (site : Web) : Claim → Action σ (Option StepReport)
  | .idle => fun s => (.ok none, s)
  | .orphan q => settleOrphan q
  | .dropped q c => settleDropped q c
  | .ready q c =>
    match prepare q.step c with
    | .error why => abandon q c why
    | .ok r => carryOut site q c r

/-- Processes the step that is next. -/
def processStep (site : Web) : Action σ (Option StepReport) := fun s =>
  settle site (claim s) s

/-! ## Processing all steps -/

theorem queue_of_claim {s : Session σ} {q : Queued} (h : Store.peek? s.store = some q) :
    ∃ rest, Store.queue s.store = q :: rest := by
  unfold Store.peek? at h
  cases hq : Store.queue s.store with
  | nil => simp [hq] at h
  | cons a r =>
    refine ⟨r, ?_⟩
    simp [hq] at h
    rw [h]

/-- Without the steps of the run that is next, the queue has shrunk. -/
theorem discard_shrinks {s : Session σ} {q : Queued} {rest : List Queued}
    (h : Store.queue s.store = q :: rest) :
    Shrinks ((Store.queue (Store.discard q.step.run s.store)).map fun q => q.step.depth)
      s.depths := by
  rw [Store.queue_discard, Session.depths, h, List.filter_cons_of_neg (by simp), List.map_cons]
  exact @Shrinks.intro _ [] _ _ ((List.filter_sublist).map _) (by simp)

theorem carryOut_shrinks {site : Web} {q : Queued} {c : Context} {r : Run}
    {s s' : Session σ} {o : StepReport} {rest : List Queued}
    (hq : Store.queue s.store = q :: rest) (h : carryOut site q c r s = (.ok (some o), s')) :
    Shrinks s'.depths s.depths := by
  unfold carryOut at h
  dsimp only at h
  split at h
  · next s'' heq =>
    obtain ⟨hok, hs⟩ := Session.store_of_change heq
    simp only [Prod.mk.injEq] at h
    obtain ⟨-, rfl⟩ := h
    have hc := Store.queue_complete hok
    dsimp only at hok hs hc
    have : s''.depths = ((Store.queue s''.store).map Queued.step).map Step.depth := by
      simp [Session.depths, Function.comp_def]
    rw [this, hs, hc, Session.depths, hq, List.filter_cons_of_neg (by simp), List.map_append,
      List.map_cons, List.reverse_reverse, List.map_map, List.map_map]
    refine .intro ((List.filter_sublist).map _) fun m hm => ?_
    obtain ⟨n, hn, rfl⟩ := List.mem_map.1 hm
    exact Run.remaining_of_mem_visit hn
  · simp at h

theorem processStep_shrinks {site : Web} {s s' : Session σ} {o : StepReport}
    (h : processStep site s = (.ok (some o), s')) : Shrinks s'.depths s.depths := by
  unfold processStep claim at h
  split at h
  · simp [settle] at h
  · split at h
    · simp [settle] at h
    · next q hq =>
      obtain ⟨rest, hq⟩ := queue_of_claim hq
      split at h
      · simp only [settle, settleOrphan, Prod.mk.injEq] at h
        obtain ⟨-, rfl⟩ := h
        exact discard_shrinks hq
      · next c _ =>
        split at h
        · simp only [settle, settleDropped] at h
          split at h
          · next s'' heq =>
            obtain ⟨hok, hs⟩ := Session.store_of_change heq
            simp only [Prod.mk.injEq] at h
            obtain ⟨-, rfl⟩ := h
            have hd : s''.depths = (Session.mk (Store.discard q.step.run s.store) s.env).depths := by
              unfold Session.depths
              rw [hs, Store.queue_save hok]
            rw [hd]
            exact discard_shrinks hq
          · simp at h
        · cases hp : prepare q.step c with
          | error why =>
            simp only [settle, hp, abandon] at h
            split at h <;> simp at h
          | ok r =>
            simp only [settle, hp] at h
            exact carryOut_shrinks hq h

/-- Processes steps until none is left or as many as allowed are done, and says how
many. -/
def runPending (site : Web) (limit : Option Nat) (s : Session σ) :
    Except Failure Nat × Session σ :=
  if limit = some 0 then (.ok 0, s)
  else
    match _h : processStep site s with
    | (.error e, s') => (.error e, s')
    | (.ok none, s') => (.ok 0, s')
    | (.ok (some _), s') =>
      let (n, s') := runPending site (limit.map (· - 1)) s'
      (n.map (· + 1), s')
termination_by s.depths
decreasing_by exact processStep_shrinks _h

/-! ## Ending runs -/

/-- The report of a run, which is then forgotten; none while steps of it are queued. -/
def collect (run : Int) : Action σ (Option Report) := fun s =>
  if Store.pending run s.store > 0 then (.ok none, s)
  else
    match Store.load run s.store with
    | .error e => (.error (.store e), s)
    | .ok c =>
      match Session.change (Store.remove run) s with
      | (.ok (), s) => (.ok (some c.report), s)
      | (.error e, s) => (.error e, s)

/-- Calls a run off: its steps are dropped, its report may still be collected.  Says
how many steps were dropped. -/
def cancelRun (run : Int) : Action σ Nat := fun s =>
  match Store.load run s.store with
  | .error e => (.error (.store e), s)
  | .ok c =>
    match Session.change (Store.save run c.cancel) s with
    | (.error e, s) => (.error e, s)
    | (.ok (), s) =>
      (.ok (Store.pending run s.store), { s with store := Store.discard run s.store })

end

end SiteWalk.Batch
