import SiteWalk.Proofs.Crawl.Flavors

/-!
# The pace of a crawl

A crawl waits before each of its requests but the first.  How long it waits is told by the
count of its requests, which goes from visit to visit and is raised by those that ask for a
page and by no others, whatever the answer.  So a crawl that has the clock for itself asks on
a beat.

    OnBeat delay start T ↔ ∀ j q, T[j]? = some q → q.time = start + j * delay
    Reached r site first e log s → Paced delay e s.env T                      (paced_reached)
-/

namespace SiteWalk.Crawl

variable {delay start fetches : Nat} {T : List Request} {q : Request} {e e' : Env}

/-! ## Beats -/

/-- The first request is made at the start, and each other one delay after the one before. -/
def OnBeat (delay start : Nat) (T : List Request) : Prop :=
  ∀ j q, T[j]? = some q → q.time = start + j * delay

theorem onBeat_nil : OnBeat delay start [] := by
  intro j q h
  cases h

theorem OnBeat.append (h : OnBeat delay start T) (next : q.time = start + T.length * delay) :
    OnBeat delay start (T ++ [q]) := by
  intro j q' hj
  rcases Nat.lt_or_ge j T.length with before | behind
  · rw [List.getElem?_append_left before] at hj
    exact h j q' hj
  · rw [List.getElem?_append_right behind] at hj
    obtain ⟨hlt, rfl⟩ := List.getElem?_eq_some_iff.1 hj
    obtain rfl : j = T.length := by
      simp only [List.length_singleton] at hlt
      omega
    simpa using next

/-- The beat after `fetches` requests comes one delay after the last of them. -/
theorem next_beat (delay start fetches : Nat) :
    start + (fetches - 1) * delay + (if fetches = 0 then 0 else delay) =
      start + fetches * delay := by
  cases fetches with
  | zero => rfl
  | succ k =>
    rw [if_neg (Nat.succ_ne_zero k), Nat.succ_mul]
    show start + k * delay + delay = _
    omega

/-- From one environment to another nothing took time but the waits before the requests of
one run. -/
structure Paced (delay : Nat) (e e' : Env) (T : List Request) : Prop where
  requests : e'.requests = e.requests ++ T
  beat : OnBeat delay e.clock T
  clock : e'.clock = e.clock + (T.length - 1) * delay

theorem paced_refl (delay : Nat) (e : Env) : Paced delay e e [] :=
  ⟨(List.append_nil _).symm, onBeat_nil, by simp⟩

/-- The next request is on the beat. -/
theorem Paced.request (h : Paced delay e e' T) (count : fetches = T.length) (url : String)
    (o : Settings.Request) :
    Paced delay e (e'.request url o (if fetches = 0 then 0 else delay))
      (T ++ [⟨url, o, e'.clock + if fetches = 0 then 0 else delay⟩]) := by
  have next : e'.clock + (if fetches = 0 then 0 else delay) = e.clock + T.length * delay := by
    rw [h.clock, count, next_beat]
  refine ⟨?_, h.beat.append next, ?_⟩
  · rw [Env.requests_request, h.requests, List.append_assoc]
  · rw [List.length_append, List.length_singleton, Nat.add_sub_cancel]
    exact next

/-! ## Crawls -/

namespace Run

variable {r : Run} {site : Web} {first : Node} {log : List Mark} {s : State}

/-- **A crawl asks on a beat**, and counts its requests. -/
theorem paced_reached (h : Reached r site first e log s) :
    ∃ T, Paced r.profile.settings.walk.coolDown e s.env T ∧
      s.progress.fetchCount = T.length := by
  induction h with
  | start => exact ⟨[], paced_refl _ e, rfl⟩
  | @visit log s n rest before top on ih =>
    obtain ⟨T, paced, count⟩ := ih
    show ∃ T, Paced _ e (r.visit site n s.progress s.env).env T ∧
      (r.visit site n s.progress s.env).progress.fetchCount = T.length
    rw [env_visit, fetchCount_visit]
    split
    · unfold ask
      rw [wait?_getD]
      exact ⟨_, paced.request count n.url _, by simp [count]⟩
    · exact ⟨T, paced, count⟩
  | stop before left off ih => exact ih

/-- The requests of a crawl, and the nodes that they are for. -/
theorem paced_crawl (r : Run) (site : Web) (e : Env) :
    ∃ log T, r.Reached site r.first e log (r.crawl site e) ∧
      Paced r.profile.settings.walk.coolDown e (r.crawl site e).env T ∧
      T.map Request.url = ((claimedNodes log).filter r.asks).map Node.url := by
  obtain ⟨log, reached⟩ := r.reached_crawl site e
  obtain ⟨T, paced, -⟩ := paced_reached reached
  refine ⟨log, T, reached, paced, ?_⟩
  have urls := urls_reached reached
  rw [paced.requests, List.map_append] at urls
  exact List.append_cancel_left urls

end Run

end SiteWalk.Crawl
