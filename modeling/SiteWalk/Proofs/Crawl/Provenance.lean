import SiteWalk.Proofs.Crawl.Reached
import SiteWalk.Proofs.Link.Listed

/-!
# Where the nodes of a crawl come from

Every node that waits on the stack has been led to by links.  A `Chain` of `k` links
goes from the address of the first node to its own, each link stands on the page of
the address before it, and all addresses before its own were asked for and answered
with a page.  The hops that are left and the links of the chain make up the depth.

    Traced r site first asked (n :: rest) →
      Traced r site first (asked ++ …) (v.outcome.children ++ rest)       (traced_visit)
    Reached r site first e log s → Traced r site first … s.stack          (traced_reached)
-/

namespace SiteWalk

/-! ## Links -/

theorem Link.resolve?_spec {href : List Char} {page u : Url} (h : resolve? href page = some u) :
    u.isWeb = true ∧ u.host?.isSome = true ∧ u.fragment = none := by
  obtain ⟨-, v, -, web, host, rfl⟩ := resolve?_eq_some_iff.1 h
  exact ⟨web, host, rfl⟩

namespace Profile

/-- A text is the address of a page that a crawl from `seed` may follow a link to. -/
def Follows (p : Profile) (seed : Url) (url : String) : Prop :=
  ∃ u : Url, u.toText = url ∧ u.isWeb = true ∧ u.host?.isSome = true ∧ u.fragment = none ∧
    p.accepts seed u = true ∧ (p.settings.walk.hostOnly = true → Link.sameHost u seed = true)

theorem sameHost_of_accepts {p : Profile} {seed u : Url} (h : p.accepts seed u = true)
    (host : p.settings.walk.hostOnly = true) : Link.sameHost u seed = true := by
  unfold accepts at h
  simp only [Bool.and_eq_true, host] at h
  simpa using h.1.1.1.1

theorem follows_of_mem_links {p : Profile} {seed address : Url} {page : List Char} {url : String}
    (h : url ∈ p.links seed address page) : p.Follows seed url := by
  obtain ⟨href, -, u, hr, rfl, ha⟩ := mem_links.1 h
  obtain ⟨hw, hh, hf⟩ := Link.resolve?_spec hr
  exact ⟨u, rfl, hw, hh, hf, ha, sameHost_of_accepts ha⟩

end Profile

namespace Crawl.Run

/-! ## Chains -/

/-- The page of `a` is got, and `b` is among the links followed from it. -/
def Leads (r : Run) (site : Web) (a b : String) : Prop :=
  ∃ address page, Url.parse a.toList = .ok address ∧ r.sees site a = .ok page ∧
    b ∈ r.profile.links r.seed address page.toList

/-- `k` links lead from `first` to an address by way of addresses that were asked for. -/
inductive Chain (r : Run) (site : Web) (first : String) (asked : List String) :
    Nat → String → Prop
  | first : Chain r site first asked 0 first
  | link {k : Nat} {a b : String} (before : Chain r site first asked k a) (got : a ∈ asked)
      (leads : r.Leads site a b) : Chain r site first asked (k + 1) b

variable {r : Run} {site : Web} {first : Node} {asked : List String}

theorem Chain.mono {asked' : List String} {start : String} (h : asked ⊆ asked') {k : Nat}
    {u : String} (c : Chain r site start asked k u) : Chain r site start asked' k u := by
  induction c with
  | first => exact .first
  | link before got leads ih => exact .link ih (h got) leads

/-- What a chain leads to, if it is not the address that it starts from, may be followed. -/
theorem Chain.follows {start : String} {k : Nat} {u : String} (c : Chain r site start asked k u)
    (h : u ≠ start) : r.profile.Follows r.seed u := by
  cases c with
  | first => exact absurd rfl h
  | link before got leads =>
    obtain ⟨address, page, -, -, hm⟩ := leads
    exact Profile.follows_of_mem_links hm

/-- A node has been led to by the hops that it may go no more. -/
def Led (r : Run) (site : Web) (first : Node) (asked : List String) (n : Node) : Prop :=
  n.remaining ≤ first.remaining ∧
    Chain r site first.url asked (first.remaining - n.remaining) n.url

theorem Led.mono {asked' : List String} {n : Node} (h : asked ⊆ asked')
    (l : Led r site first asked n) : Led r site first asked' n :=
  ⟨l.1, l.2.mono h⟩

/-- All nodes that wait have been led to, and all addresses asked for were nodes that had. -/
structure Traced (r : Run) (site : Web) (first : Node) (asked : List String)
    (waiting : List Node) : Prop where
  waiting : ∀ n ∈ waiting, Led r site first asked n
  asked : ∀ u ∈ asked, ∃ k, k ≤ first.remaining ∧ Chain r site first.url asked k u

/-- Every address asked for is within the depth, and all but the first may be followed. -/
def InReach (r : Run) (site : Web) (first : Node) (asked : List String) : Prop :=
  ∀ u ∈ asked, (∃ k, k ≤ first.remaining ∧ Chain r site first.url asked k u) ∧
    (u ≠ first.url → r.profile.Follows r.seed u)

theorem Traced.inReach {waiting : List Node} (t : Traced r site first asked waiting) :
    InReach r site first asked := by
  intro u hu
  obtain ⟨k, hk, hc⟩ := t.asked u hu
  exact ⟨⟨k, hk, hc⟩, hc.follows⟩

/-! ## Steps and runs -/

theorem traced_first (r : Run) (site : Web) (first : Node) : Traced r site first [] [first] := by
  refine ⟨?_, by simp⟩
  intro n hn
  rw [List.mem_singleton.1 hn]
  refine ⟨Nat.le_refl _, ?_⟩
  rw [Nat.sub_self]
  exact .first

/-- The node that is next and all that wait below it are still led to after its request. -/
theorem Traced.ask {n : Node} {rest : List Node} (t : Traced r site first asked (n :: rest)) :
    Traced r site first (asked ++ [n.url]) (n :: rest) := by
  have hs : asked ⊆ asked ++ [n.url] := List.subset_append_left _ _
  refine ⟨fun m hm => (t.waiting m hm).mono hs, ?_⟩
  intro u hu
  rcases List.mem_append.1 hu with hu | hu
  · obtain ⟨k, hk, hc⟩ := t.asked u hu
    exact ⟨k, hk, hc.mono hs⟩
  · obtain ⟨hle, hc⟩ := t.waiting n List.mem_cons_self
    rw [List.mem_singleton.1 hu]
    exact ⟨_, Nat.sub_le _ _, hc.mono hs⟩

theorem Traced.rest {n : Node} {rest : List Node} (t : Traced r site first asked (n :: rest)) :
    Traced r site first asked rest :=
  ⟨fun m hm => t.waiting m (List.mem_cons_of_mem _ hm), t.asked⟩

/-- The children of an expanded node are one link further away than it is. -/
theorem Traced.children {n : Node} {rest : List Node} {address : Url} {page : String} {k : Nat}
    (t : Traced r site first asked (n :: rest)) (good : Url.parse n.url.toList = .ok address)
    (answer : r.sees site n.url = .ok page) (more : n.remaining = k + 1) (got : n.url ∈ asked)
    (v : Visited) : Traced r site first asked (r.children address page v k ++ rest) := by
  refine ⟨?_, t.asked⟩
  intro c hc
  rcases List.mem_append.1 hc with hc | hc
  · obtain ⟨u, hu, rfl⟩ := List.mem_map.1 hc
    obtain ⟨hle, hn⟩ := t.waiting n List.mem_cons_self
    have hd : first.remaining - k = first.remaining - n.remaining + 1 := by omega
    refine ⟨show k ≤ first.remaining by omega, ?_⟩
    show Chain r site first.url asked (first.remaining - k) u
    rw [hd]
    exact .link hn got ⟨address, page, good, answer, (List.mem_filter.1 hu).1⟩
  · exact t.rest.waiting c hc

/-- **A visit leaves only nodes that have been led to.** -/
theorem traced_visit {n : Node} {rest : List Node} (t : Traced r site first asked (n :: rest))
    (p : Progress) (e : Env) :
    Traced r site first
      (asked ++ if (r.visit site n p e).outcome.fetched then [n.url] else [])
      ((r.visit site n p e).outcome.children ++ rest) := by
  have hc := r.course site n p e
  generalize r.visit site n p e = v at hc
  cases hc with
  | skipped | bare | unreadable =>
    simp only [Bool.false_eq_true, if_false, List.append_nil, List.nil_append]
    exact t.rest
  | failed | last =>
    simp only [if_true, List.nil_append]
    exact t.ask.rest
  | expanded new needed good answer more =>
    simp only [if_true]
    exact t.ask.children good answer more (by simp) _

/-- **Every node that waits in a state of a crawl has been led to.** -/
theorem traced_reached {e : Env} (he : e.requests = []) {log : List Mark} {s : State}
    (h : Reached r site first e log s) :
    Traced r site first (s.env.requests.map Request.url) s.stack := by
  induction h with
  | start =>
    show Traced r site first (e.requests.map Request.url) [first]
    rw [he]
    exact traced_first r site first
  | @visit log s n rest before top on ih =>
    rw [top] at ih
    rw [urls_step]
    exact traced_visit ih s.progress s.env
  | stop before left off ih => exact ih

end Crawl.Run

end SiteWalk
