import SiteWalk.Batch.Coordinator
import SiteWalk.Proofs.Crawl.Reached

/-!
# Journals

Those who share a store start runs, process steps, end runs and hand their work over
to others, in any order.  The journal of what they do has one entry for each move; the
processing of all steps is as many moves as it tries steps.

    (runPending site limit s).2 = performAll site (replicate (tries site limit s) .process) s
-/

namespace SiteWalk.Batch

open Crawl

/-! ## Moves -/

/-- What can be done with a store. -/
inductive Move where
  /-- A crawl is started by someone with these settings. -/
  | start (settings : Settings) (seed : String) (flavor : Flavor) (mode : Mode)
  /-- The step that is next is processed. -/
  | process
  | collect (run : Int)
  | cancel (run : Int)
  /-- The work goes to someone else, whose own work may be called off already, or at a
  later request. -/
  | handOver (cancelled : Bool) (cancelAt : Option Nat)

/-- The answer to a move. -/
inductive Reply where
  | started (a : Except Failure Started)
  | processed (a : Except Failure (Option StepReport))
  | collected (a : Except Failure (Option Report))
  | cancelled (a : Except Failure Nat)
  | handedOver

/-- The step that processing has claimed. -/
def Claim.step? : Claim → Option Step
  | .idle => none
  | .orphan q => some q.step
  | .dropped q _ => some q.step
  | .ready q _ => some q.step

/-- What one move did. -/
structure Entry where
  move : Move
  /-- The step that was processed, if one was. -/
  step : Option Step
  reply : Reply
  /-- The addresses asked for. -/
  asked : List String

namespace Entry

/-- The entry is about a step of a run. -/
def on (run : Int) (x : Entry) : Bool := x.step.any fun t => t.run == run

/-- A step of the run is processed, or its report handed out. -/
def Touches (run : Int) (x : Entry) : Prop :=
  x.on run = true ∨ x.move = .collect run ∧ ∃ rep, x.reply = .collected (.ok (some rep))

/-- The entry gives the number to a new run, or it is about the run of this number. -/
def Names (run : Int) (x : Entry) : Prop :=
  x.reply = .started (.ok (.deferred run)) ∨ x.Touches run

/-- The entry may be about the run. -/
def Concerns (run : Int) (x : Entry) : Prop :=
  x.Names run ∨ x.move = .collect run ∨ x.move = .cancel run

/-- What the log of a run notes of an entry: the node of its step and the stage that it
came to. -/
def mark? (run : Int) (x : Entry) : Option Mark :=
  match x.step, x.reply with
  | some t, .processed (.ok (some o)) => if t.run = run then some ⟨t.node, o.stage⟩ else none
  | _, _ => none

/-- The entry puts a run into the store. -/
def Starts (r : Run) (run : Int) (x : Entry) : Prop :=
  ∃ settings seed, x.move = .start settings seed r.flavor .batched ∧
    Profile.ofSettings settings = .ok r.profile ∧ Link.seed? seed = .ok r.seed ∧
    x.reply = .started (.ok (.deferred run))

end Entry

/-- The addresses that the steps of a run have asked for, oldest first. -/
def askedFor (run : Int) (J : List Entry) : List String :=
  (J.filter (·.on run)).flatMap Entry.asked

/-- The log of a run. -/
def marksOf (run : Int) (J : List Entry) : List Mark := J.filterMap (Entry.mark? run)

variable {σ : Type} [Store σ]

namespace Move

def perform (site : Web) (m : Move) (s : Session σ) : Reply × Session σ :=
  match m with
  | .start settings seed flavor mode =>
    match Profile.ofSettings settings with
    | .error e => (.started (.error (.profile e)), s)
    | .ok p =>
      let x := (Coordinator.mk p site).start seed flavor mode s
      (.started x.1, x.2)
  | .process =>
    let x := processStep site s
    (.processed x.1, x.2)
  | .collect run =>
    let x := Batch.collect run s
    (.collected x.1, x.2)
  | .cancel run =>
    let x := cancelRun run s
    (.cancelled x.1, x.2)
  | .handOver cancelled cancelAt =>
    (.handedOver, { s with env := { s.env with cancelled := cancelled, cancelAt := cancelAt } })

/-- The step that a move is about. -/
def step? (m : Move) (s : Session σ) : Option Step :=
  match m with
  | .process => (claim s).step?
  | _ => none

def entry (site : Web) (m : Move) (s : Session σ) : Entry :=
  let x := m.perform site s
  { move := m
    step := m.step? s
    reply := x.1
    asked := (x.2.env.requests.drop s.env.requests.length).map Request.url }

end Move

def performAll (site : Web) : List Move → Session σ → Session σ
  | [], s => s
  | m :: ms, s => performAll site ms (m.perform site s).2

def entries (site : Web) : List Move → Session σ → List Entry
  | [], _ => []
  | m :: ms, s => m.entry site s :: entries site ms (m.perform site s).2

/-- What is started when a run is put into the store. -/
theorem starts_of_deferred {site : Web} {settings : Settings} {seed : String} {flavor : Flavor}
    {s : Session σ} {run : Int}
    (started : ((Move.start settings seed flavor .batched).perform site s).1 =
      .started (.ok (.deferred run))) :
    ∃ r : Run, Profile.ofSettings settings = .ok r.profile ∧ Link.seed? seed = .ok r.seed ∧
      r.flavor = flavor ∧ ((Move.start settings seed flavor .batched).entry site s).Starts r run := by
  cases hp : Profile.ofSettings settings with
  | error why => simp [Move.perform, hp] at started
  | ok p =>
    cases hu : Link.seed? seed with
    | error why => simp [Move.perform, hp, Coordinator.start, hu] at started
    | ok u => exact ⟨⟨p, u, flavor⟩, rfl, rfl, rfl, settings, seed, rfl, hp, hu, started⟩

/-! ## Calls -/

/-- What is asked of those who work on a store. -/
inductive Call where
  | move (m : Move)
  /-- Steps are processed until none is left or as many as allowed are done. -/
  | processAll (limit : Option Nat)

/-- How many times the processing of all steps looks for a step. -/
def tries (site : Web) (limit : Option Nat) (s : Session σ) : Nat :=
  if limit = some 0 then 0
  else
    match _h : processStep site s with
    | (.error _, _) => 1
    | (.ok none, _) => 1
    | (.ok (some _), s') => tries site (limit.map (· - 1)) s' + 1
termination_by s.depths
decreasing_by exact processStep_shrinks _h

theorem tries_last {site : Web} {limit : Option Nat} {s : Session σ} (hl : limit ≠ some 0)
    (h : ∀ o, (processStep site s).1 ≠ .ok (some o)) : tries site limit s = 1 := by
  unfold tries
  rw [if_neg hl]
  split
  · rfl
  · rfl
  · next o s' heq => exact absurd (congrArg Prod.fst heq) (h o)

theorem tries_more {site : Web} {limit : Option Nat} {s s' : Session σ} {o : StepReport}
    (hl : limit ≠ some 0) (h : processStep site s = (.ok (some o), s')) :
    tries site limit s = tries site (limit.map (· - 1)) s' + 1 := by
  conv => lhs; unfold tries
  rw [if_neg hl]
  split
  · next heq => rw [h] at heq; cases heq
  · next heq => rw [h] at heq; cases heq
  · next heq =>
    rw [h] at heq
    cases heq
    rfl

theorem runPending_eq (site : Web) (limit : Option Nat) (s : Session σ) :
    (runPending site limit s).2 =
      performAll site (List.replicate (tries site limit s) .process) s := by
  fun_induction runPending site limit s with
  | case1 s =>
    unfold tries
    rw [if_pos rfl]
    rfl
  | case2 limit s hl e s' h =>
    rw [tries_last hl (by simp [h])]
    show s' = (processStep site s).2
    rw [h]
  | case3 limit s hl s' h =>
    rw [tries_last hl (by simp [h])]
    show s' = (processStep site s).2
    rw [h]
  | case4 limit s hl o s' h n s'' hn ih =>
    rw [tries_more hl h, List.replicate_succ]
    show s'' = performAll site _ (processStep site s).2
    rw [h, ← ih, hn]

namespace Call

def perform (site : Web) (c : Call) (s : Session σ) : Session σ :=
  match c with
  | .move m => (m.perform site s).2
  | .processAll limit => (runPending site limit s).2

/-- The moves that a call is made of. -/
def moves (site : Web) (c : Call) (s : Session σ) : List Move :=
  match c with
  | .move m => [m]
  | .processAll limit => List.replicate (tries site limit s) .process

theorem perform_eq (site : Web) (c : Call) (s : Session σ) :
    c.perform site s = performAll site (c.moves site s) s := by
  cases c with
  | move m => rfl
  | processAll limit => exact runPending_eq site limit s

end Call

/-- The session after all calls. -/
def work (site : Web) : List Call → Session σ → Session σ
  | [], s => s
  | c :: cs, s => work site cs (c.perform site s)

/-- The entries of all calls, oldest first. -/
def journal (site : Web) : List Call → Session σ → List Entry
  | [], _ => []
  | c :: cs, s => entries site (c.moves site s) s ++ journal site cs (c.perform site s)

theorem work_append (site : Web) (cs cs' : List Call) (s : Session σ) :
    work site (cs ++ cs') s = work site cs' (work site cs s) := by
  induction cs generalizing s with
  | nil => rfl
  | cons c cs ih => exact ih (c.perform site s)

theorem journal_append (site : Web) (cs cs' : List Call) (s : Session σ) :
    journal site (cs ++ cs') s = journal site cs s ++ journal site cs' (work site cs s) := by
  induction cs generalizing s with
  | nil => rfl
  | cons c cs ih =>
    show entries site (c.moves site s) s ++ journal site (cs ++ cs') (c.perform site s) = _
    rw [ih, ← List.append_assoc]
    rfl

/-- Calls lead from one session to another and leave a journal. -/
structure Does (site : Web) (calls : List Call) (s : Session σ) (J : List Entry)
    (s' : Session σ) : Prop where
  journal : journal site calls s = J
  work : work site calls s = s'

theorem Does.nil {site : Web} (s : Session σ) : Does site [] s [] s := ⟨rfl, rfl⟩

theorem Does.cons {site : Web} {m : Move} {s s₁ s' : Session σ} {x : Entry} {calls : List Call}
    {J : List Entry} (first : m.entry site s = x ∧ (m.perform site s).2 = s₁)
    (rest : Does site calls s₁ J s') : Does site (.move m :: calls) s (x :: J) s' := by
  obtain ⟨rfl, rfl⟩ := first
  obtain ⟨rfl, rfl⟩ := rest
  exact ⟨rfl, rfl⟩

/-- What holds before all calls and is kept by each move holds after them. -/
theorem work_induction {site : Web} {P : List Entry → Session σ → Prop} {s : Session σ}
    (start : P [] s)
    (step : ∀ K s (m : Move), P K s → P (K ++ [m.entry site s]) (m.perform site s).2)
    (calls : List Call) :
    P (journal site calls s) (work site calls s) := by
  have moves : ∀ ms K s, P K s → P (K ++ entries site ms s) (performAll site ms s) := by
    intro ms
    induction ms with
    | nil =>
      intro K s h
      unfold entries performAll
      rwa [List.append_nil]
    | cons m ms ih =>
      intro K s h
      have h := ih _ _ (step K s m h)
      rw [List.append_assoc] at h
      exact h
  have all : ∀ K s, P K s → P (K ++ journal site calls s) (work site calls s) := by
    induction calls with
    | nil =>
      intro K s h
      unfold journal work
      rwa [List.append_nil]
    | cons c calls ih =>
      intro K s h
      have h := moves (c.moves site s) K s h
      rw [← Call.perform_eq] at h
      have h := ih _ _ h
      rw [List.append_assoc] at h
      exact h
  exact all [] s start

/-! ## Trails -/

/-- The journals and sessions that moves lead to from an empty store. -/
inductive Trail (site : Web) (e : Env) : List Entry → Session σ → Prop
  | start : Trail site e [] ⟨Store.empty, e⟩
  | move {J : List Entry} {s : Session σ} (before : Trail site e J s) (m : Move) :
      Trail site e (J ++ [m.entry site s]) (m.perform site s).2

variable {site : Web} {e : Env}

theorem trail_calls {J : List Entry} {s : Session σ} (t : Trail site e J s) (calls : List Call) :
    Trail site e (J ++ journal site calls s) (work site calls s) := by
  refine work_induction (P := fun K s' => Trail site e (J ++ K) s') ?_ ?_ calls
  · rwa [List.append_nil]
  · intro K s' m h
    rw [← List.append_assoc]
    exact h.move m

/-- Calls leave a trail. -/
theorem trail_journal (site : Web) (e : Env) (calls : List Call) :
    Trail site e (journal site calls (⟨Store.empty, e⟩ : Session σ))
      (work site calls (⟨Store.empty, e⟩ : Session σ)) := by
  have h := trail_calls (σ := σ) (.start : Trail site e [] _) calls
  rwa [List.nil_append] at h

/-- An entry was written in the session that the entries before it lead to. -/
theorem Trail.split {J J₁ J₂ : List Entry} {x : Entry} {s : Session σ} (t : Trail site e J s)
    (h : J = J₁ ++ x :: J₂) :
    ∃ (s₁ : Session σ) (m : Move), Trail site e J₁ s₁ ∧ x = m.entry site s₁ := by
  induction t generalizing J₂ with
  | start => simp at h
  | @move J s before m ih =>
    rcases List.eq_nil_or_concat J₂ with rfl | ⟨J₃, y, rfl⟩
    · obtain ⟨rfl, hx⟩ := List.append_inj' h rfl
      cases hx
      exact ⟨s, m, before, rfl⟩
    · have h' : J ++ [m.entry site s] = (J₁ ++ x :: J₃) ++ [y] := by
        rw [h]
        simp
      exact ih (List.append_inj' h' rfl).1

/-! ## What is left out -/

theorem move_of_mem_entries {ms : List Move} {s : Session σ} {x : Entry}
    (h : x ∈ entries site ms s) : x.move ∈ ms := by
  induction ms generalizing s with
  | nil => cases h
  | cons m ms ih =>
    rcases List.mem_cons.1 h with rfl | h
    · exact List.mem_cons_self
    · exact List.mem_cons_of_mem _ (ih h)

/-- Nothing but steps is in the journal that was not asked for. -/
theorem move_of_mem_journal {calls : List Call} {s : Session σ} {x : Entry}
    (h : x ∈ journal site calls s) (hx : x.move ≠ .process) : .move x.move ∈ calls := by
  induction calls generalizing s with
  | nil => cases h
  | cons c calls ih =>
    rcases List.mem_append.1 h with h | h
    · have hm := move_of_mem_entries h
      cases c with
      | move m =>
        rw [List.mem_singleton.1 hm]
        exact List.mem_cons_self
      | processAll limit => exact absurd (List.eq_of_mem_replicate hm) hx
    · exact List.mem_cons_of_mem _ (ih h)

/-- The journal says of no run that it was called off, unless that was asked for. -/
theorem cancel_of_mem_journal {calls : List Call} {s : Session σ} {x : Entry} {run : Int}
    (h : x ∈ journal site calls s) (hx : x.move = .cancel run) : .move (.cancel run) ∈ calls := by
  rw [← hx]
  exact move_of_mem_journal h (by simp [hx])

end SiteWalk.Batch
