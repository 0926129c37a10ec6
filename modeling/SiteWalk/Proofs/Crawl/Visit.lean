import SiteWalk.Crawl.Traversal

/-!
# The courses of a visit

A visit takes one of six courses, and `Course` says for each of them all that the
visit leaves behind.  What follows about visits is read off the courses, so nothing
else has to look into the two halves of a visit.

    Course r site n p e (r.visit site n p e)                            (course)
-/

namespace SiteWalk.Crawl

/-! ## Claims -/

namespace Visited

theorem insert_of_mem {v : Visited} {url : String} (h : url ∈ v.urls) :
    v.insert url = (false, v) := by
  unfold insert
  rw [dif_pos h]

theorem insert_of_not_mem {v : Visited} {url : String} (h : url ∉ v.urls) :
    (v.insert url).1 = true ∧ (v.insert url).2.urls = url :: v.urls := by
  unfold insert
  rw [dif_neg h]
  exact ⟨rfl, rfl⟩

@[simp] theorem urls_empty : Visited.empty.urls = [] := rfl

end Visited

namespace Progress

/-- The progress after an address has been claimed. -/
def claim (p : Progress) (url : String) : Progress := { p with visited := (p.visited.insert url).2 }

/-- The progress after one more request. -/
def asked (p : Progress) : Progress := { p with fetchCount := p.fetchCount + 1 }

@[simp] theorem fetchCount_claim (p : Progress) (url : String) :
    (p.claim url).fetchCount = p.fetchCount := rfl

@[simp] theorem fetchCount_asked (p : Progress) : p.asked.fetchCount = p.fetchCount + 1 := rfl

@[simp] theorem visited_asked (p : Progress) : p.asked.visited = p.visited := rfl

theorem urls_claim {p : Progress} {url : String} (h : url ∉ p.visited.urls) :
    (p.claim url).visited.urls = url :: p.visited.urls :=
  (Visited.insert_of_not_mem h).2

end Progress

/-! ## Requests -/

namespace Env

/-- Nothing calls the crawl off, neither now nor at a later request. -/
def Quiet (e : Env) : Prop := e.cancelled = false ∧ e.cancelAt = none

theorem Quiet.request {e : Env} (h : e.Quiet) (url : String) (o : Settings.Request)
    (wait : Nat) : (e.request url o wait).Quiet := by
  obtain ⟨hc, ha⟩ := h
  unfold Env.request
  exact ⟨by simp [hc, ha], ha⟩

@[simp] theorem requests_request (e : Env) (url : String) (o : Settings.Request) (wait : Nat) :
    (e.request url o wait).requests = e.requests ++ [⟨url, o, e.clock + wait⟩] := rfl

end Env

/-- No time is waited before the first request, and the whole delay before all others. -/
theorem wait?_getD (delay fetches : Nat) :
    (wait? delay fetches).getD 0 = if fetches = 0 then 0 else delay := by
  unfold wait?
  by_cases first : fetches = 0
  · simp [first]
  · by_cases none : delay = 0 <;> simp [first, none]

namespace Run

/-- The environment after the request for an address, made after the wait that is due. -/
def ask (r : Run) (url : String) (fetches : Nat) (e : Env) : Env :=
  e.request url r.options ((wait? r.profile.settings.walk.coolDown fetches).getD 0)

/-- The page of a node is not needed: a link crawl lists an address at the last hop
without asking for it. -/
abbrev Bare (r : Run) (n : Node) : Prop := r.flavor = .links ∧ n.remaining = 0

/-! ## Courses -/

/-- What a visit of `n` leaves behind. -/
inductive Course (r : Run) (site : Web) (n : Node) (p : Progress) (e : Env) : Visit → Prop
  /-- The address was claimed before. -/
  | skipped (old : n.url ∈ p.visited.urls) :
      Course r site n p e ⟨{ url := n.url, stage := .skipped }, p, e⟩
  /-- The page is not needed. -/
  | bare (new : n.url ∉ p.visited.urls) (bare : r.Bare n) :
      Course r site n p e
        ⟨{ url := n.url, stage := .terminal, link := r.listed n.url }, p.claim n.url, e⟩
  /-- The address cannot be read. -/
  | unreadable {why : Url.ParseError} (new : n.url ∉ p.visited.urls) (needed : ¬ r.Bare n)
      (bad : Url.parse n.url.toList = .error why) :
      Course r site n p e
        ⟨{ url := n.url, stage := .fetchFailed, link := r.listed n.url }, p.claim n.url, e⟩
  /-- The request fails. -/
  | failed {address : Url} {why : FetchError} (new : n.url ∉ p.visited.urls)
      (needed : ¬ r.Bare n) (good : Url.parse n.url.toList = .ok address)
      (answer : r.sees site n.url = .error why) :
      Course r site n p e
        ⟨{ url := n.url, stage := .fetchFailed, fetched := true, link := r.listed n.url },
          (p.claim n.url).asked, r.ask n.url p.fetchCount e⟩
  /-- The page is got and no link of it may be followed. -/
  | last {address : Url} {page : String} (new : n.url ∉ p.visited.urls) (needed : ¬ r.Bare n)
      (good : Url.parse n.url.toList = .ok address) (answer : r.sees site n.url = .ok page)
      (ends : n.remaining = 0) :
      Course r site n p e
        ⟨{ url := n.url, stage := .terminal, fetched := true, content := r.unit? n.url page,
           link := r.listed n.url },
          (p.claim n.url).asked, r.ask n.url p.fetchCount e⟩
  /-- The page is got and its links are followed. -/
  | expanded {address : Url} {page : String} {k : Nat} (new : n.url ∉ p.visited.urls)
      (needed : ¬ r.Bare n) (good : Url.parse n.url.toList = .ok address)
      (answer : r.sees site n.url = .ok page) (more : n.remaining = k + 1) :
      Course r site n p e
        ⟨{ url := n.url, stage := .childrenScheduled, fetched := true,
           content := r.unit? n.url page, link := r.listed n.url,
           children := r.children address page (p.claim n.url).visited k },
          (p.claim n.url).asked, r.ask n.url p.fetchCount e⟩

theorem course (r : Run) (site : Web) (n : Node) (p : Progress) (e : Env) :
    Course r site n p e (r.visit site n p e) := by
  by_cases old : n.url ∈ p.visited.urls
  · have : r.visit site n p e = ⟨{ url := n.url, stage := .skipped }, p, e⟩ := by
      simp [visit, start, Visited.insert_of_mem old]
    rw [this]
    exact .skipped old
  · have free := (Visited.insert_of_not_mem old).1
    by_cases hb : r.Bare n
    · have : r.visit site n p e =
          ⟨{ url := n.url, stage := .terminal, link := r.listed n.url }, p.claim n.url, e⟩ := by
        simp [visit, start, free, hb.1, hb.2, Progress.claim]
      rw [this]
      exact .bare old hb
    · cases hu : Url.parse n.url.toList with
      | error why =>
        have : r.visit site n p e =
            ⟨{ url := n.url, stage := .fetchFailed, link := r.listed n.url }, p.claim n.url, e⟩ := by
          simp only [visit, start, free, Bool.not_true, Bool.false_eq_true, if_false, if_neg hb, hu]
          rfl
        rw [this]
        exact .unreadable old hb hu
      | ok address =>
        have hv : r.visit site n p e =
            ⟨r.finish n (p.claim n.url).visited address (r.sees site n.url), (p.claim n.url).asked,
              r.ask n.url p.fetchCount e⟩ := by
          simp only [visit, start, free, Bool.not_true, Bool.false_eq_true, if_false, if_neg hb, hu]
          rfl
        rw [hv]
        cases ha : r.sees site n.url with
        | error why => exact .failed old hb hu ha
        | ok page =>
          unfold finish
          cases hk : n.remaining with
          | zero => exact .last old hb hu ha hk
          | succ k => exact .expanded old hb hu ha hk

/-! ## Readings -/

variable {r : Run} {site : Web} {n : Node} {p : Progress} {e : Env}

/-- What a visit finds and claims does not depend on the clock, the requests of others or
the calling off of the crawl. -/
theorem visit_env (r : Run) (site : Web) (n : Node) (p : Progress) (e e' : Env) :
    (r.visit site n p e).outcome = (r.visit site n p e').outcome ∧
      (r.visit site n p e).progress = (r.visit site n p e').progress := by
  unfold visit
  split <;> exact ⟨rfl, rfl⟩

/-- A visit makes one request, for its own address and with the options of its run, or
none. -/
theorem requests_visit : (r.visit site n p e).env.requests =
    e.requests ++ if (r.visit site n p e).outcome.fetched then
      [⟨n.url, r.options, e.clock + (wait? r.profile.settings.walk.coolDown p.fetchCount).getD 0⟩]
      else [] := by
  have h := r.course site n p e
  generalize r.visit site n p e = v at h
  cases h <;> simp [ask]

/-- A visit counts its request, whatever the answer. -/
theorem fetchCount_visit : (r.visit site n p e).progress.fetchCount =
    p.fetchCount + if (r.visit site n p e).outcome.fetched then 1 else 0 := by
  have h := r.course site n p e
  generalize r.visit site n p e = v at h
  cases h <;> simp

/-- Nothing but its request happens in a visit. -/
theorem env_visit : (r.visit site n p e).env =
    if (r.visit site n p e).outcome.fetched then r.ask n.url p.fetchCount e else e := by
  have h := r.course site n p e
  generalize r.visit site n p e = v at h
  cases h <;> rfl

/-- A visit that asks for its page leaves the same behind in all environments but for the
request. -/
theorem visit_of_asked {o : Outcome} {q : Progress}
    (visit : r.visit site n p {} = ⟨o, q, r.ask n.url p.fetchCount {}⟩) (fetched : o.fetched = true)
    (e : Env) : r.visit site n p e = ⟨o, q, r.ask n.url p.fetchCount e⟩ := by
  obtain ⟨outcome, progress⟩ := r.visit_env site n p e {}
  have env : (r.visit site n p e).env = _ := env_visit
  generalize r.visit site n p e = v at outcome progress env
  obtain ⟨o', q', e'⟩ := v
  dsimp only at outcome progress env
  rw [visit] at outcome progress
  subst outcome progress
  rw [env, if_pos fetched]

theorem quiet_visit (h : e.Quiet) : (r.visit site n p e).env.Quiet := by
  have hc := r.course site n p e
  generalize r.visit site n p e = v at hc
  cases hc with
  | skipped | bare | unreadable => exact h
  | failed | last | expanded => exact h.request _ _ _

/-! ## Nodes that are claimed already and nodes that are not -/

/-- A visit claims its node. -/
theorem urls_visit : (r.visit site n p e).progress.visited.urls =
    if n.url ∈ p.visited.urls then p.visited.urls else n.url :: p.visited.urls := by
  have h := r.course site n p e
  generalize r.visit site n p e = v at h
  cases h with
  | skipped old => rw [if_pos old]
  | bare new | unreadable new | failed new | last new | expanded new =>
    rw [if_neg new]
    exact Progress.urls_claim new

theorem stage_visit : (r.visit site n p e).outcome.stage = .skipped ↔ n.url ∈ p.visited.urls := by
  have h := r.course site n p e
  generalize r.visit site n p e = v at h
  cases h with
  | skipped old => simpa using old
  | bare new | unreadable new | failed new | last new | expanded new => simpa using new

/-- A node that is claimed already is skipped. -/
theorem visit_of_old (old : n.url ∈ p.visited.urls) :
    r.visit site n p e = ⟨{ url := n.url, stage := .skipped }, p, e⟩ := by
  have h := r.course site n p e
  generalize r.visit site n p e = v at h
  cases h with
  | skipped => rfl
  | bare new | unreadable new | failed new | last new | expanded new => exact absurd old new

/-- The visit of a node that is free and has hops left. -/
theorem visit_of_new {k : Nat} (new : n.url ∉ p.visited.urls) (more : n.remaining = k + 1) :
    r.visit site n p e =
      match Url.parse n.url.toList with
      | .error _ =>
        ⟨{ url := n.url, stage := .fetchFailed, link := r.listed n.url }, p.claim n.url, e⟩
      | .ok address =>
        match r.sees site n.url with
        | .error _ =>
          ⟨{ url := n.url, stage := .fetchFailed, fetched := true, link := r.listed n.url },
            (p.claim n.url).asked, r.ask n.url p.fetchCount e⟩
        | .ok page =>
          ⟨{ url := n.url, stage := .childrenScheduled, fetched := true,
             content := r.unit? n.url page, link := r.listed n.url,
             children := r.children address page (p.claim n.url).visited k },
            (p.claim n.url).asked, r.ask n.url p.fetchCount e⟩ := by
  have h := r.course site n p e
  generalize r.visit site n p e = v at h
  cases h with
  | skipped old => exact absurd old new
  | bare _ bare => exact absurd bare.2 (by omega)
  | unreadable _ _ bad => rw [bad]
  | failed _ _ good answer => rw [good, answer]
  | last _ _ _ _ ends => omega
  | @expanded _ _ k' _ _ good answer more' =>
    obtain rfl : k = k' := by omega
    rw [good, answer]

end Run

end SiteWalk.Crawl
