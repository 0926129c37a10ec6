import SiteWalk.Proofs.Batch.Frame

/-!
# What is seen of a store

Those who work on a store see the answers to their calls, the requests that are made, and the
runs and the queue that are left.  Of two stores with the same view they see the same, for
every action of a coordinator does to the view of a session what it does to the session
itself, with the same answer.

    watched (m.perform site s) = m.perform site s.view                      (watched_perform)
    sights site calls s = sights site calls s.view                             (sights_view)
-/

namespace SiteWalk.Batch

open Crawl

/-! ## Sights -/

/-- The answer to a call. -/
inductive Answer where
  | reply (r : Reply)
  /-- How many steps were processed. -/
  | processed (a : Except Failure Nat)

/-- What is seen of a call. -/
structure Sight where
  answer : Answer
  /-- The requests that the call makes. -/
  requests : List Request
  /-- The runs that it leaves, with their contexts, -/
  runs : List (Int × Context)
  /-- and the queued steps with their numbers, the one that is next in front. -/
  queue : List Queued

section

variable {σ : Type} [Store σ]

def Call.answer (site : Web) (c : Call) (s : Session σ) : Answer :=
  match c with
  | .move m => .reply (m.perform site s).1
  | .processAll limit => .processed (runPending site limit s).1

def Call.sight (site : Web) (c : Call) (s : Session σ) : Sight where
  answer := c.answer site s
  requests := (c.perform site s).env.requests.drop s.env.requests.length
  runs := Store.runs (c.perform site s).store
  queue := Store.queue (c.perform site s).store

/-- The sights of all calls, oldest first. -/
def sights (site : Web) : List Call → Session σ → List Sight
  | [], _ => []
  | c :: cs, s => c.sight site s :: sights site cs (c.perform site s)

theorem sights_append (site : Web) (cs cs' : List Call) (s : Session σ) :
    sights site (cs ++ cs') s = sights site cs s ++ sights site cs' (work site cs s) := by
  induction cs generalizing s with
  | nil => rfl
  | cons c cs ih => exact congrArg (c.sight site s :: ·) (ih (c.perform site s))

/-- A sight shows the store that some of the calls lead to. -/
theorem work_of_mem_sights {site : Web} {calls : List Call} {s : Session σ} {x : Sight}
    (h : x ∈ sights site calls s) :
    ∃ done, x.runs = Store.runs (work site done s).store ∧
      x.queue = Store.queue (work site done s).store := by
  induction calls generalizing s with
  | nil => cases h
  | cons c cs ih =>
    rcases List.mem_cons.1 h with rfl | h
    · exact ⟨[c], rfl, rfl⟩
    · obtain ⟨done, runs, queue⟩ := ih h
      exact ⟨c :: done, runs, queue⟩

end

variable {σ : Type} [Store σ] [LawfulStore σ] {site : Web} {s : Session σ}

/-! ## Reading -/

/-- The answer to an action with the view of the session behind it. -/
def watched {α : Type} (x : α × Session σ) : α × Session Memory := (x.1, x.2.view)

theorem watched_eq {α : Type} {a : α} {m : Session Memory} {x : α × Session σ}
    {y : α × Session Memory} (hx : ∃ s', x = (a, s') ∧ s'.view = m)
    (hy : ∃ t, y = (a, t) ∧ t.view = m) : watched x = y := by
  obtain ⟨s', rfl, hs⟩ := hx
  obtain ⟨t, rfl, rfl⟩ := hy
  show (a, s'.view) = (a, t)
  rw [hs]
  rfl

theorem load_view (run : Int) (s : Session σ) :
    Store.load run s.store = Store.load run s.view.store :=
  (load_eq run s).trans (load_eq run s.view).symm

theorem claim_view (s : Session σ) : claim s = claim s.view := by
  have top : Store.peek? s.store = Store.peek? s.view.store := peek?_eq s.store
  unfold claim
  rw [top]
  show (if s.env.cancelled then Claim.idle else _) = if s.env.cancelled then Claim.idle else _
  congr 1
  cases Store.peek? s.view.store with
  | none => rfl
  | some q =>
    dsimp only
    rw [load_view]

/-- A run whose step is claimed for processing, or to be dropped, is there. -/
theorem context_of_claim {q : Queued} {c : Context}
    (h : claim s = .ready q c ∨ claim s = .dropped q c) :
    s.view.store.context? q.step.run = some c := by
  unfold claim at h
  split at h
  · rcases h with h | h <;> cases h
  · split at h
    · rcases h with h | h <;> cases h
    · next q' top =>
      split at h
      · rcases h with h | h <;> cases h
      · next c' load =>
        have context := context_of_load load
        split at h
        · rcases h with h | h
          · cases h
          · cases h
            exact context
        · rcases h with h | h
          · cases h
            exact context
          · cases h

/-! ## Moves -/

theorem watched_start (c : Coordinator) (seed : String) (flavor : Flavor) (mode : Mode)
    (s : Session σ) : watched (c.start seed flavor mode s) = c.start seed flavor mode s.view := by
  unfold Coordinator.start
  cases Link.seed? seed with
  | error e => rfl
  | ok u =>
    cases mode with
    | synchronous => rfl
    | batched =>
      have enqueued : watched (c.enqueue u flavor s) = c.enqueue u flavor s.view :=
        watched_eq (enqueue_view c u flavor s) (enqueue_view c u flavor s.view)
      dsimp only
      rw [← enqueued]
      generalize c.enqueue u flavor s = x
      obtain ⟨a, s'⟩ := x
      cases a <;> rfl

theorem watched_settle (site : Web) (s : Session σ) :
    watched (settle site (claim s) s) = settle site (claim s) s.view := by
  cases h : claim s with
  | idle => rfl
  | orphan q =>
    show (_, Session.view { s with store := Store.discard q.step.run s.store }) = _
    rw [Session.view_discard]
    rfl
  | dropped q c =>
    have context := context_of_claim (.inr h)
    exact watched_eq (settleDropped_view context) (settleDropped_view (s := s.view) context)
  | ready q c =>
    have context := context_of_claim (.inl h)
    simp only [settle]
    cases prepare q.step c with
    | error why =>
      exact watched_eq (abandon_view why context) (abandon_view (s := s.view) why context)
    | ok r =>
      exact watched_eq (carryOut_view site rfl rfl context)
        (carryOut_view (s := s.view) site rfl rfl context)

theorem watched_processStep (site : Web) (s : Session σ) :
    watched (processStep site s) = processStep site s.view := by
  unfold processStep
  rw [watched_settle, claim_view]

theorem watched_collect (run : Int) (s : Session σ) :
    watched (collect run s) = collect run s.view := by
  have pending : Store.pending run s.store = Store.pending run s.view.store :=
    (pending_eq run s.store).trans (pending_eq run s.view.store).symm
  by_cases spent : s.view.store.stepsOf run = []
  · cases context : s.view.store.context? run with
    | some c =>
      exact watched_eq (collect_view spent context) (collect_view (s := s.view) spent context)
    | none =>
      unfold collect
      rw [← pending, load_none context, load_none (s := s.view) context]
      split <;> rfl
  · have left : Store.pending run s.view.store > 0 := by
      rw [pending_eq]
      exact List.length_pos_iff.2 spent
    unfold collect
    rw [pending, if_pos left, if_pos left]
    rfl

theorem watched_cancelRun (run : Int) (s : Session σ) :
    watched (cancelRun run s) = cancelRun run s.view := by
  cases context : s.view.store.context? run with
  | some c => exact watched_eq (cancelRun_view context) (cancelRun_view (s := s.view) context)
  | none =>
    rw [cancelRun_none context, cancelRun_none (s := s.view) context]
    rfl

theorem watched_reply {α : Type} {x : α × Session σ} {y : α × Session Memory}
    (reply : α → Reply) (h : watched x = y) : watched (reply x.1, x.2) = (reply y.1, y.2) := by
  rw [← h]
  rfl

/-- **A move does to the view of a session what it does to the session**, with the same
reply. -/
theorem watched_perform (site : Web) (m : Move) (s : Session σ) :
    watched (m.perform site s) = m.perform site s.view := by
  cases m with
  | start settings seed flavor mode =>
    simp only [Move.perform]
    cases Profile.ofSettings settings with
    | error e => rfl
    | ok p => exact watched_reply .started (watched_start ⟨p, site⟩ seed flavor mode s)
  | process => exact watched_reply .processed (watched_processStep site s)
  | collect run => exact watched_reply .collected (watched_collect run s)
  | cancel run => exact watched_reply .cancelled (watched_cancelRun run s)
  | handOver cancelled cancelAt => rfl

/-! ## Calls -/

/-- The processing of all steps goes on where one step was processed. -/
theorem runPending_step {τ : Type} [Store τ] {limit : Option Nat} {t t' : Session τ}
    {a : Except Failure (Option StepReport)} (more : limit ≠ some 0)
    (h : processStep site t = (a, t')) :
    runPending site limit t = match a with
      | .error e => (.error e, t')
      | .ok none => (.ok 0, t')
      | .ok (some _) =>
        ((runPending site (limit.map (· - 1)) t').1.map (· + 1),
          (runPending site (limit.map (· - 1)) t').2) := by
  conv => lhs; unfold runPending
  rw [if_neg more]
  split
  · next heq =>
    cases h.symm.trans heq
    rfl
  · next heq =>
    cases h.symm.trans heq
    rfl
  · next heq =>
    cases h.symm.trans heq
    rfl

theorem processStep_view {a : Except Failure (Option StepReport)} {s' : Session σ}
    (h : processStep site s = (a, s')) : processStep site s.view = (a, s'.view) := by
  have step := watched_processStep site s
  rw [h] at step
  exact step.symm

theorem watched_runPending (site : Web) (limit : Option Nat) (s : Session σ) :
    watched (runPending site limit s) = runPending site limit s.view := by
  fun_induction runPending site limit s with
  | case1 s =>
    unfold runPending
    rfl
  | case2 limit s more e s' h =>
    rw [runPending_step more (processStep_view h)]
    rfl
  | case3 limit s more s' h =>
    rw [runPending_step more (processStep_view h)]
    rfl
  | case4 limit s more o s' h n s'' hn ih =>
    rw [hn] at ih
    rw [runPending_step more (processStep_view h)]
    dsimp only
    rw [← ih]
    rfl

theorem answer_view (site : Web) (c : Call) (s : Session σ) :
    c.answer site s = c.answer site s.view := by
  cases c with
  | move m => exact congrArg (Answer.reply ·.1) (watched_perform site m s)
  | processAll limit => exact congrArg (Answer.processed ·.1) (watched_runPending site limit s)

theorem perform_view (site : Web) (c : Call) (s : Session σ) :
    (c.perform site s).view = c.perform site s.view := by
  cases c with
  | move m => exact congrArg Prod.snd (watched_perform site m s)
  | processAll limit => exact congrArg Prod.snd (watched_runPending site limit s)

theorem sight_view (site : Web) (c : Call) (s : Session σ) :
    c.sight site s = c.sight site s.view := by
  unfold Call.sight
  rw [answer_view, ← perform_view, LawfulStore.runs_eq, LawfulStore.queue_eq]
  rfl

/-- **Of two stores with the same view the same is seen.** -/
theorem sights_view (site : Web) (calls : List Call) (s : Session σ) :
    sights site calls s = sights site calls s.view := by
  induction calls generalizing s with
  | nil => rfl
  | cons c cs ih =>
    unfold sights
    rw [sight_view, ih, perform_view]

theorem view_work (site : Web) (calls : List Call) (s : Session σ) :
    (work site calls s).view = work site calls s.view := by
  induction calls generalizing s with
  | nil => rfl
  | cons c cs ih =>
    show (work site cs (c.perform site s)).view = work site cs (c.perform site s.view)
    rw [ih, perform_view]

end SiteWalk.Batch
