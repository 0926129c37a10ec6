import Mathlib.Data.List.Chain
import SiteWalk.Proofs.Batch.Runs
import SiteWalk.Proofs.Crawl.Pace

/-!
# The pace of runs

Those who share a store also share the clock, so a run may have to wait for others, but never
less than its own delay.  The count of its requests is kept with its context, and so it does
not matter who processes its steps or in how many calls.  A run that has the clock for itself
asks on the beat of a crawl.

    requestsFor run J R                the requests of a run among all that are noted in J
    KeepsPace delay run J e e' R       these are spaced, and on a beat if there are no others
-/

namespace SiteWalk.Batch

open Crawl

/-! ## The requests of a run -/

/-- The requests of a run among those that are noted in a journal. -/
def requestsFor (run : Int) : List Entry → List Request → List Request
  | [], _ => []
  | x :: J, R =>
    (if x.on run then R.take x.asked.length else []) ++ requestsFor run J (R.drop x.asked.length)

/-- The requests are those that a journal notes. -/
def Noted (J : List Entry) (R : List Request) : Prop := R.map Request.url = J.flatMap Entry.asked

variable {run : Int} {x : Entry} {J : List Entry} {R new : List Request}

theorem requestsFor_cons (own : new.map Request.url = x.asked) :
    requestsFor run (x :: J) (new ++ R) =
      (if x.on run then new else []) ++ requestsFor run J R := by
  have many : x.asked.length = new.length := by rw [← own, List.length_map]
  show (if x.on run then (new ++ R).take x.asked.length else []) ++
    requestsFor run J ((new ++ R).drop x.asked.length) = _
  rw [many, List.take_left, List.drop_left]

namespace Noted

theorem cons_inv (h : Noted (x :: J) R) :
    ∃ new R', R = new ++ R' ∧ new.map Request.url = x.asked ∧ Noted J R' :=
  List.map_eq_append_iff.1 h

theorem append (h : Noted J R) (own : new.map Request.url = x.asked) :
    Noted (J ++ [x]) (R ++ new) := by
  unfold Noted at h ⊢
  rw [List.map_append, List.flatMap_append, h, own]
  simp

theorem requestsFor_append (h : Noted J R) (own : new.map Request.url = x.asked) :
    requestsFor run (J ++ [x]) (R ++ new) =
      requestsFor run J R ++ if x.on run then new else [] := by
  induction J generalizing R with
  | nil =>
    obtain rfl : R = [] := List.map_eq_nil_iff.1 h
    have single : requestsFor run [x] (new ++ []) = (if x.on run then new else []) ++ [] :=
      requestsFor_cons own
    rw [List.append_nil, List.append_nil] at single
    exact single
  | cons y J ih =>
    obtain ⟨first, R, rfl, hy, h⟩ := h.cons_inv
    rw [List.cons_append, List.append_assoc, requestsFor_cons hy, requestsFor_cons hy, ih h,
      List.append_assoc]

/-- The requests of a run are for the addresses that its steps have asked for. -/
theorem urls_requestsFor (h : Noted J R) :
    (requestsFor run J R).map Request.url = askedFor run J := by
  induction J generalizing R with
  | nil => rfl
  | cons y J ih =>
    obtain ⟨first, R, rfl, hy, h⟩ := h.cons_inv
    rw [requestsFor_cons hy, List.map_append, ih h]
    unfold askedFor
    cases on : y.on run with
    | false => rw [List.filter_cons_of_neg (by simp [on])]; rfl
    | true => rw [List.filter_cons_of_pos on, List.flatMap_cons, ← hy]; rfl

/-- All requests are those of the run if none is noted for others. -/
theorem requestsFor_alone (h : Noted J R)
    (alone : ∀ y ∈ J, y.asked ≠ [] → y.on run = true) : requestsFor run J R = R := by
  induction J generalizing R with
  | nil => exact (List.map_eq_nil_iff.1 h).symm
  | cons y J ih =>
    obtain ⟨first, R, rfl, hy, h⟩ := h.cons_inv
    rw [requestsFor_cons hy, ih h fun z hz => alone z (List.mem_cons_of_mem y hz)]
    congr 1
    by_cases on : y.on run = true
    · rw [if_pos on]
    · have none : y.asked = [] := by
        by_contra some
        exact on (alone y List.mem_cons_self some)
      rw [none, List.map_eq_nil_iff] at hy
      rw [if_neg on, hy]

end Noted

/-! ## The clock -/

/-- Time passes from one environment to another, if only by the waits before requests. -/
structure Passes (e e' : Env) (R : List Request) : Prop where
  requests : e'.requests = e.requests ++ R
  clock : e.clock ≤ e'.clock
  still : R = [] → e'.clock = e.clock

variable {e e' e'' : Env} {site : Web} {delay : Nat}

theorem passes_refl (e : Env) : Passes e e [] :=
  ⟨(List.append_nil _).symm, Nat.le_refl _, fun _ => rfl⟩

theorem passes_request (e : Env) (url : String) (o : Settings.Request) (wait : Nat) :
    Passes e (e.request url o wait) [⟨url, o, e.clock + wait⟩] :=
  ⟨rfl, Nat.le_add_right _ _, fun none => nomatch none⟩

theorem passes_of_paced (h : Paced delay e e' R) : Passes e e' R where
  requests := h.requests
  clock := by
    rw [h.clock]
    exact Nat.le_add_right _ _
  still none := by
    rw [h.clock, none]
    simp

theorem env_change {σ α : Type} (f : Change σ α) (s : Session σ) :
    (Session.change f s).2.env = s.env := by
  unfold Session.change
  split <;> rfl

variable {σ : Type} [Store σ] {s : Session σ}

theorem env_collect (run : Int) (s : Session σ) : (collect run s).2.env = s.env := by
  unfold Batch.collect
  split
  · rfl
  · split
    · rfl
    · have same := env_change (Store.remove run) s
      split
      · next removed => rwa [removed] at same
      · next refused => rwa [refused] at same

theorem env_cancelRun (run : Int) (s : Session σ) : (cancelRun run s).2.env = s.env := by
  unfold cancelRun
  split
  · rfl
  · next c _ =>
    have same := env_change (Store.save run c.cancel) s
    split
    · next refused => rwa [refused] at same
    · next saved => rwa [saved] at same

theorem perform_atOnce (site : Web) {settings : Settings} {seed : String} {r : Run}
    (profile : Profile.ofSettings settings = .ok r.profile)
    (address : Link.seed? seed = .ok r.seed) (s : Session σ) :
    (Move.start settings seed r.flavor .synchronous).perform site s =
      (.started (.ok (.done (r.crawl site s.env).report)),
        { s with env := (r.crawl site s.env).env }) := by
  simp only [Move.perform, profile, Coordinator.start, address]

/-- What it comes to when a crawl is started that is to be done at once. -/
theorem perform_synchronous (site : Web) (settings : Settings) (seed : String) (flavor : Flavor)
    (s : Session σ) :
    (∃ why, (Move.start settings seed flavor .synchronous).perform site s =
      (.started (.error why), s)) ∨
    ∃ r : Run, Profile.ofSettings settings = .ok r.profile ∧ Link.seed? seed = .ok r.seed ∧
      r.flavor = flavor ∧
      (Move.start settings seed flavor .synchronous).perform site s =
        (.started (.ok (.done (r.crawl site s.env).report)),
          { s with env := (r.crawl site s.env).env }) := by
  cases hp : Profile.ofSettings settings with
  | error why => exact .inl ⟨.profile why, by simp [Move.perform, hp]⟩
  | ok p =>
    cases hu : Link.seed? seed with
    | error why => exact .inl ⟨.seed why, by simp [Move.perform, hp, Coordinator.start, hu]⟩
    | ok u =>
      exact .inr ⟨⟨p, u, flavor⟩, rfl, rfl, rfl, perform_atOnce (r := ⟨p, u, flavor⟩) site hp hu s⟩

variable [LawfulStore σ]

/-- Putting a run into the store takes no time. -/
theorem env_batched (site : Web) (settings : Settings) (seed : String) (flavor : Flavor)
    (s : Session σ) :
    ((Move.start settings seed flavor .batched).perform site s).2.env = s.env := by
  cases hp : Profile.ofSettings settings with
  | error why => simp [Move.perform, hp]
  | ok p =>
    cases hu : Link.seed? seed with
    | error why => simp [Move.perform, hp, Coordinator.start, hu]
    | ok u =>
      obtain ⟨s', he, hv⟩ := enqueue_view ⟨p, site⟩ u flavor s
      have same : s'.view.env = s.env := congrArg Session.env hv
      simp only [Move.perform, hp, Coordinator.start, hu, he]
      exact same

/-- Only the visits of nodes take time. -/
theorem Exit.passes {s s' : Session Memory} {a : Except Failure (Option StepReport)}
    (h : Exit site s a s') : ∃ R, Passes s.env s'.env R := by
  cases h with
  | idle | orphan | dropped | abandoned => exact ⟨[], passes_refl _⟩
  | visited on top context kept good visit =>
    subst visit
    rw [Run.env_visit]
    split
    · exact ⟨_, passes_request ..⟩
    · exact ⟨[], passes_refl _⟩

/-- **Time passes in every move**, and what is asked for is noted. -/
theorem passes_perform (site : Web) (m : Move) (s : Session σ) :
    ∃ R, Passes s.env (m.perform site s).2.env R ∧
      R.map Request.url = (m.entry site s).asked := by
  have passes : ∃ R, Passes s.env (m.perform site s).2.env R := by
    cases m with
    | start settings seed flavor mode =>
      cases mode with
      | synchronous =>
        rcases perform_synchronous site settings seed flavor s with ⟨why, he⟩ | ⟨r, -, -, -, he⟩
        · rw [he]
          exact ⟨[], passes_refl _⟩
        · obtain ⟨-, T, -, paced, -⟩ := r.paced_crawl site s.env
          rw [he]
          exact ⟨T, passes_of_paced paced⟩
      | batched =>
        rw [env_batched]
        exact ⟨[], passes_refl _⟩
    | process => exact (exit site s).passes
    | collect run =>
      show ∃ R, Passes s.env (Batch.collect run s).2.env R
      rw [env_collect]
      exact ⟨[], passes_refl _⟩
    | cancel run =>
      show ∃ R, Passes s.env (cancelRun run s).2.env R
      rw [env_cancelRun]
      exact ⟨[], passes_refl _⟩
    | handOver cancelled cancelAt => exact ⟨[], (List.append_nil _).symm, Nat.le_refl _, fun _ => rfl⟩
  obtain ⟨R, h⟩ := passes
  refine ⟨R, h, ?_⟩
  show _ = ((m.perform site s).2.env.requests.drop s.env.requests.length).map Request.url
  rw [h.requests, List.drop_left]

/-! ## Keeping pace -/

/-- What is true of the requests of a run since it was started: they are spaced, and if there
are no others they are on a beat. -/
structure KeepsPace (delay : Nat) (run : Int) (J : List Entry) (e e' : Env) (R : List Request) :
    Prop where
  requests : e'.requests = e.requests ++ R
  noted : Noted J R
  spaced : (requestsFor run J R).IsChain fun a b => a.time + delay ≤ b.time
  past : ∀ q ∈ requestsFor run J R, q.time ≤ e'.clock
  alone : (∀ x ∈ J, x.asked ≠ [] → x.on run = true) → Paced delay e e' R

namespace KeepsPace

theorem start (delay : Nat) (run : Int) (e : Env) : KeepsPace delay run [] e e [] where
  requests := (List.append_nil _).symm
  noted := rfl
  spaced := .nil
  past := List.forall_mem_nil _
  alone _ := paced_refl delay e

/-- What is asked for on behalf of others, or nothing at all. -/
theorem pass (h : KeepsPace delay run J e e' R) (passes : Passes e' e'' new)
    (own : new.map Request.url = x.asked) (off : x.on run = false ∨ new = []) :
    KeepsPace delay run (J ++ [x]) e e'' (R ++ new) := by
  have same : requestsFor run (J ++ [x]) (R ++ new) = requestsFor run J R := by
    rw [h.noted.requestsFor_append own]
    rcases off with off | none
    · rw [off]
      exact List.append_nil _
    · rw [none, ite_self, List.append_nil]
  refine ⟨?_, h.noted.append own, ?_, ?_, ?_⟩
  · rw [passes.requests, h.requests, List.append_assoc]
  · rw [same]
    exact h.spaced
  · rw [same]
    intro q hq
    exact Nat.le_trans (h.past q hq) passes.clock
  · intro alone
    have none : new = [] := by
      rcases off with off | none
      · by_contra some
        have asked : x.asked ≠ [] := by
          rw [← own]
          exact mt List.map_eq_nil_iff.1 some
        have on := alone x (List.mem_append_right _ List.mem_cons_self) asked
        rw [off] at on
        cases on
      · exact none
    obtain ⟨requests, beat, clock⟩ := h.alone fun y hy => alone y (List.mem_append_left _ hy)
    rw [none, List.append_nil]
    refine ⟨?_, beat, (passes.still none).trans clock⟩
    rw [passes.requests, none, List.append_nil, requests]

/-- The run asks for an address, and waits before if it has asked before. -/
theorem ask (h : KeepsPace delay run J e e' R) {url : String} (o : Settings.Request)
    (on : x.on run = true) (own : x.asked = [url]) :
    ∃ q, KeepsPace delay run (J ++ [x]) e
      (e'.request url o (if requestsFor run J R = [] then 0 else delay)) (R ++ [q]) := by
  have noted : [Request.mk url o (e'.clock + if requestsFor run J R = [] then 0 else delay)].map
      Request.url = x.asked := own.symm
  refine ⟨_, ?_, h.noted.append noted, ?_, ?_, ?_⟩
  · rw [Env.requests_request, h.requests, List.append_assoc]
  · rw [h.noted.requestsFor_append noted, if_pos on]
    refine h.spaced.append (.singleton _) ?_
    intro a ha b hb
    have mem := List.mem_of_getLast? ha
    have past := h.past a mem
    cases hb
    rw [if_neg (List.ne_nil_of_mem mem)]
    show a.time + delay ≤ e'.clock + delay
    omega
  · rw [h.noted.requestsFor_append noted, if_pos on]
    intro q hq
    rcases List.mem_append.1 hq with hq | hq
    · exact Nat.le_trans (h.past q hq) (Nat.le_add_right _ _)
    · rw [List.mem_singleton.1 hq]
      exact Nat.le_refl _
  · intro alone
    have before : ∀ y ∈ J, y.asked ≠ [] → y.on run = true :=
      fun y hy => alone y (List.mem_append_left _ hy)
    have count := (h.alone before).request rfl url o
    rw [h.noted.requestsFor_alone before]
    simp only [List.length_eq_zero_iff] at count
    exact count

end KeepsPace

/-! ## Runs -/

variable {r : Run} {t : Step}

/-- The step that is claimed is on top. -/
theorem top_of_claim (h : (claim s).step? = some t) :
    ∃ q rest, s.view.store.steps = q :: rest ∧ q.step = t := by
  by_cases idle : s.env.cancelled = true ∨ s.view.store.steps = []
  · rw [claim_idle idle] at h
    cases h
  · rw [not_or] at idle
    obtain ⟨q, rest, top⟩ := List.exists_cons_of_ne_nil idle.2
    rw [claim_step idle.1 top] at h
    exact ⟨q, rest, top, Option.some.inj h⟩

/-- A step waits for the delay of its run if the run has asked before. -/
theorem Exit.pace {s s' : Session Memory} {a : Except Failure (Option StepReport)} {q : Queued}
    {rest : List Queued} (h : Exit site s a s') (valid : Valid r) (top : s.store.steps = q :: rest)
    (replays : Replays r site q.step.run J s.store) :
    s'.env = s.env ∨ s'.env = s.env.request q.step.node.url r.options
      (if askedFor q.step.run J = [] then 0 else r.profile.settings.walk.coolDown) := by
  cases h with
  | idle | orphan | dropped | abandoned => exact .inl rfl
  | visited on top' context kept good visit =>
    cases top.symm.trans top'
    have count := (balanced_of_replays replays context).fetchCount_eq
    obtain ⟨t, -, -, st⟩ := replays
    obtain ⟨n, ns, -, hq, hctx, -, -⟩ := st.top top
    obtain rfl := Option.some.inj (context.symm.trans hctx)
    rw [hq] at good
    obtain ⟨rfl, -⟩ := stored_of_prepare valid good
    subst visit
    rw [Run.env_visit]
    split
    · right
      unfold Run.ask
      rw [wait?_getD, count]
      simp only [List.length_eq_zero_iff]
      rfl
    · exact .inl rfl

theorem pace_processStep (valid : Valid r) (replays : Replays r site run J s.view.store)
    (next : (claim s).step? = some t) (own : t.run = run) :
    (processStep site s).2.env = s.env ∨
      (processStep site s).2.env = s.env.request t.node.url r.options
        (if askedFor run J = [] then 0 else r.profile.settings.walk.coolDown) := by
  obtain ⟨q, rest, top, rfl⟩ := top_of_claim next
  subst own
  exact (exit site s).pace valid top replays

/-- **Every move lets a run keep its pace.** -/
theorem keepsPace_move {J₀ : List Entry} (valid : Valid r)
    (replays : Replays r site run (J₀ ++ J) s.view.store) (first : askedFor run J₀ = [])
    (h : KeepsPace r.profile.settings.walk.coolDown run J e s.env R) (m : Move) :
    ∃ R', KeepsPace r.profile.settings.walk.coolDown run (J ++ [m.entry site s]) e
      (m.perform site s).2.env R' := by
  obtain ⟨new, passes, own⟩ := passes_perform site m s
  cases on : (m.entry site s).on run with
  | false => exact ⟨_, h.pass passes own (.inl on)⟩
  | true =>
    cases m with
    | start | collect | cancel | handOver => cases on
    | process =>
      obtain ⟨t, next, mine⟩ := (Option.any_eq_true _ _).1 on
      have count : askedFor run (J₀ ++ J) = (requestsFor run J R).map Request.url := by
        rw [h.noted.urls_requestsFor, askedFor_append, first, List.nil_append]
      have paced := pace_processStep valid replays next (eq_of_beq mine)
      rw [count] at paced
      simp only [List.map_eq_nil_iff] at paced
      -- The requests after the move are those before it, and one more if it asks.
      rcases paced with still | asks
      · have none : new = [] := by
          have all : s.env.requests = s.env.requests ++ new := by
            rw [← passes.requests]
            exact congrArg Env.requests still.symm
          simpa using all
        exact ⟨_, h.pass passes own (.inr none)⟩
      · have one : [_] = new := List.append_cancel_left
          ((congrArg Env.requests asks).symm.trans passes.requests)
        subst one
        obtain ⟨q, kept⟩ := h.ask _ on own.symm
        exact ⟨_, asks ▸ kept⟩

/-- A run that is put into a store keeps its pace. -/
theorem keepsPace_calls {J₀ : List Entry} (valid : Valid r) (trail : Trail site e J₀ s)
    (hx : x ∈ J₀) (hs : x.Starts r run) (first : askedFor run J₀ = []) (calls : List Call) :
    ∃ R, KeepsPace r.profile.settings.walk.coolDown run (journal site calls s) s.env
      (work site calls s).env R := by
  refine (work_induction (P := fun K s' => Trail site e (J₀ ++ K) s' ∧
    ∃ R, KeepsPace r.profile.settings.walk.coolDown run K s.env s'.env R) ?_ ?_ calls).2
  · rw [List.append_nil]
    exact ⟨trail, [], .start _ run s.env⟩
  · rintro K s' m ⟨trail', R, h⟩
    have replays := replays_trail trail' (List.mem_append_left K hx) hs
    rw [← List.append_assoc]
    exact ⟨trail'.move m, keepsPace_move valid replays first h m⟩

/-- **The requests of a run keep its pace.**  A crawl that is done at once asks on the beat of
its delay, from the moment when it is started.  A run in a store asks first without a wait, and
then never sooner than one delay after its last request, whatever is done for other runs in
between; and if nothing is asked for on behalf of others, then it is on the beat as well,
however its steps are spread over calls and those who make them.  What counts are the nodes
that are claimed, whose pages are needed and whose addresses can be read, also if the site
fails to answer. -/
theorem requests_keep_pace (σ : Type) [Store σ] [LawfulStore σ] (site : Web)
    (settings : Settings) (seed : String) (flavor : Flavor) :
    let delay := settings.walk.coolDown
    (∀ (s : Session σ) rep,
      let x := (Move.start settings seed flavor .synchronous).perform site s
      x.1 = .started (.ok (.done rep)) →
      ∃ (r : Run) (log : List Mark) (T : List Request),
        Profile.ofSettings settings = .ok r.profile ∧ Link.seed? seed = .ok r.seed ∧
        r.flavor = flavor ∧ r.Reached site r.first s.env log (r.crawl site s.env) ∧
        rep = (r.crawl site s.env).report ∧
        T.map Request.url = ((claimedNodes log).filter r.asks).map Node.url ∧
        Paced delay s.env x.2.env T) ∧
    ∀ (e : Env) (before after : List Call) (run : Int),
      let s : Session σ := work site before ⟨Store.empty, e⟩
      let x := (Move.start settings seed flavor .batched).perform site s
      x.1 = .started (.ok (.deferred run)) →
      let J := journal site after x.2
      let s' := work site after x.2
      ∃ (r : Run) (R : List Request),
        Profile.ofSettings settings = .ok r.profile ∧ Link.seed? seed = .ok r.seed ∧
        r.flavor = flavor ∧ s'.env.requests = s.env.requests ++ R ∧ Noted J R ∧
        let T := requestsFor run J R
        T.map Request.url = ((claimedNodes (marksOf run J)).filter r.asks).map Node.url ∧
        T.IsChain (fun a b => a.time + delay ≤ b.time) ∧
        ((∀ y ∈ J, y.asked ≠ [] → y.on run = true) → T = R ∧ Paced delay s.env s'.env R) ∧
        ∀ t, (claim s').step? = some t → t.run = run →
          let e' := (processStep site s').2.env
          e' = s'.env ∨
            e' = s'.env.request t.node.url settings.request (if T = [] then 0 else delay) := by
  intro delay
  constructor
  · intro s rep x done
    rcases perform_synchronous site settings seed flavor s with ⟨why, he⟩ | ⟨r, hp, hu, hf, he⟩
    · have failed : x = _ := he
      rw [failed] at done
      cases done
    · have hx : x = _ := he
      obtain ⟨log, T, reached, paced, urls⟩ := r.paced_crawl site s.env
      rw [Profile.settings_of_ofSettings hp] at paced
      rw [hx] at done ⊢
      cases done
      exact ⟨r, log, T, hp, hu, hf, reached, rfl, urls, paced⟩
  · intro e before after run s x deferred J s'
    obtain ⟨r, hp, hu, hf, hs⟩ := starts_of_deferred deferred
    have trail := trail_journal (σ := σ) site e before
    have kept := kept_trail trail
    have eff := effect site kept.sound.closed (.start settings seed flavor .batched)
    obtain ⟨rfl, -⟩ := started_of_effect eff hs
    obtain ⟨marks, asked⟩ := unnoted kept
    have off := off_of_starts eff hs (s.view.store.lastRun + 1)
    have marks := (marksOf_off off).trans marks
    have asked := (askedFor_off off).trans asked
    have trail := trail.move (.start settings seed flavor .batched)
    have old : x.2.env = s.env := env_batched site settings seed flavor s
    obtain ⟨R, paced⟩ := keepsPace_calls hs.valid trail List.mem_concat_self hs asked after
    have replays := replays_trail (trail_calls trail after)
      (List.mem_append_left _ List.mem_concat_self) hs
    rw [Profile.settings_of_ofSettings hp] at paced
    refine ⟨r, R, hp, hu, hf, ?_, paced.noted, ?_, paced.spaced, ?_, ?_⟩
    · rw [← old]
      exact paced.requests
    · obtain ⟨t, reached, asked', -⟩ := replays
      rw [askedFor_append, asked, List.nil_append] at asked'
      rw [marksOf_append, marks, List.nil_append] at reached
      have urls := Run.asked_reached rfl reached
      rw [Run.asks_of_flavor r.flavor_stored, asked'] at urls
      rw [paced.noted.urls_requestsFor]
      exact urls
    · intro alone
      rw [← old]
      exact ⟨paced.noted.requestsFor_alone alone, paced.alone alone⟩
    · intro t next own
      have step := pace_processStep hs.valid replays next own
      unfold Run.options at step
      rw [askedFor_append, asked, List.nil_append, ← paced.noted.urls_requestsFor,
        Profile.settings_of_ofSettings hp] at step
      simp only [List.map_eq_nil_iff] at step
      exact step

/-- The steps of `wide` are processed by two who take turns. -/
def turns : List Call :=
  [.move .process, .move (.handOver false none), .move .process, .move .process]

theorem does_turns : ∃ J s, Does frayed turns begunWide J s ∧
    (∀ y ∈ J, y.asked ≠ [] → y.on 1 = true) ∧
    s.env.requests.map Request.url = wideUrls := by
  refine ⟨_, _,
    .cons (perform_visit frayed rfl rfl rfl rfl (wide_prepared 1 _ _ _) (visit_wide _))
    (.cons ⟨rfl, rfl⟩
    (.cons (perform_visit frayed rfl rfl rfl rfl (wide_prepared 1 _ _ _) (visit_missing _))
    (.cons (perform_visit frayed rfl rfl rfl rfl (wide_prepared 1 _ _ _) (visit_last _))
    (.nil _)))), ?_, rfl⟩
  have steps : ∀ t : Step, t.run = 1 → (t.run == 1) = true := fun t own => beq_iff_eq.2 own
  simp only [List.forall_mem_cons]
  refine ⟨fun _ => rfl, fun none => absurd rfl none, fun _ => rfl, fun _ => rfl, ?_⟩
  simp

/-- `wide` on its own, with `lost` between its steps, and by two who take turns. -/
theorem requests_keep_pace_loopback :
    let s : Session Memory := ⟨Store.empty, {}⟩
    let now :=
      (Move.start wide.profile.settings "http://[::1]/" .links .synchronous).perform frayed s
    let later := (startWide.perform frayed s).2
    (∃ T, Paced 500 {} now.2.env T ∧ T.map Request.url = wideUrls) ∧
    (∃ R, Noted (journal frayed meanwhile later) R ∧
      R.map (fun q => (q.url, q.time)) = [("http://[::1]/", 0), ("http://[::1]/c", 0),
        ("http://[::1]/a", 500), ("http://[::1]/b", 1000)] ∧
      let T := requestsFor 1 (journal frayed meanwhile later) R
      T.map Request.url = wideUrls ∧ T.IsChain (fun a b => a.time + 500 ≤ b.time)) ∧
    ∃ R, Noted (journal frayed turns later) R ∧ R.map Request.url = wideUrls ∧
      Paced 500 {} (work frayed turns later).env R := by
  intro s now later
  obtain ⟨atOnce, stored⟩ :=
    requests_keep_pace Memory frayed wide.profile.settings "http://[::1]/" .links
  have done : now = (.started (.ok (.done (wide.crawl frayed {}).report)),
      { s with env := (wide.crawl frayed {}).env }) :=
    perform_atOnce (r := wide) frayed rfl rfl s
  have deferred : (startWide.perform frayed s).1 = .started (.ok (.deferred 1)) :=
    congrArg Entry.reply perform_startWide.1
  have begun : later = begunWide := perform_startWide.2
  have same : ((Move.start wide.profile.settings "http://[::1]/" .links .batched).perform frayed
      (work frayed [] (⟨Store.empty, {}⟩ : Session Memory))).2 = later := rfl
  refine ⟨?_, ?_, ?_⟩
  · obtain ⟨t, reached, ended, -, -, requests⟩ := reached_wide
    obtain ⟨r, log, T, -, -, -, -, -, -, paced⟩ := atOnce s _ (congrArg Prod.fst done)
    have own : t.env.requests = T := by
      have env : now.2.env = (wide.crawl frayed {}).env := congrArg (·.2.env) done
      rw [← crawl_of_stack_nil reached ended, ← env]
      exact paced.requests
    exact ⟨T, paced, own ▸ requests⟩
  · obtain ⟨J, s', does, marks, -, -, requests, -⟩ := does_meanwhile
    obtain ⟨r, R, -, -, flavor, own, noted, urls, spaced, -⟩ := stored {} [] meanwhile 1 deferred
    rw [same] at own noted urls spaced
    rw [begun, does.work] at own
    have own : s'.env.requests = R := own
    refine ⟨R, noted, own ▸ requests, ?_, spaced⟩
    have asks : r.asks = wide.asks := Run.asks_of_flavor flavor
    rw [urls, begun, does.journal, marks, asks]
    decide +kernel
  · obtain ⟨J, s', does, lone, requests⟩ := does_turns
    obtain ⟨r, R, -, -, -, own, noted, -, -, alone, -⟩ := stored {} [] turns 1 deferred
    rw [same] at own noted alone
    rw [begun, does.work] at own
    have own : s'.env.requests = R := own
    refine ⟨R, noted, own ▸ requests, (alone ?_).2⟩
    rw [begun, does.journal]
    exact lone

end SiteWalk.Batch
