import SiteWalk.Proofs.Crawl.Provenance
import SiteWalk.Proofs.Crawl.Walk
import SiteWalk.Proofs.Crawl.Within

/-!
# What a crawl gets to

A link leads on from a page that is got.  A crawl claims every address that links lead
to within the depth, unless it comes to a page on the way with no hops left: an address
is claimed once, by the way that the crawl takes first, and that may be a long one.

    r.Way site r.seed.toText passed u → passed.length ≤ depth →
      u ∈ visited ∨ ∃ v ∈ passed, … ∧ ⟨v, 0⟩ is claimed                 (claimed_or_cut_off)

What is known, by being claimed or by waiting, stays known, and what an expanded page
links to is known; so at the end, when nothing waits, it is claimed (`Covered`).
-/

namespace SiteWalk.Crawl

/-- An address is claimed, or a node for it waits. -/
def State.Known (s : State) (u : String) : Prop :=
  u ∈ s.progress.visited.urls ∨ ∃ n ∈ s.stack, n.url = u

namespace Run

/-! ## Hops -/

/-- `k` links lead from one address to another, each from a page that is got. -/
inductive Hops (r : Run) (site : Web) (start : String) : Nat → String → Prop
  | start : Hops r site start 0 start
  | link {k : Nat} {a b : String} (before : Hops r site start k a) (leads : r.Leads site a b) :
      Hops r site start (k + 1) b

/-- A way along links from one address to another: the addresses that it passes before it
ends, in order, each with a link to the next one. -/
inductive Way (r : Run) (site : Web) (start : String) : List String → String → Prop
  | start : Way r site start [] start
  | link {passed : List String} {a b : String} (before : Way r site start passed a)
      (leads : r.Leads site a b) : Way r site start (passed ++ [a]) b

theorem Way.hops {r : Run} {site : Web} {start u : String} {passed : List String}
    (h : r.Way site start passed u) : r.Hops site start passed.length u := by
  induction h with
  | start => exact .start
  | link _ leads ih =>
    rw [List.length_append, List.length_singleton]
    exact .link ih leads

/-- A node is as many links away from the first one as hops are used up. -/
def Away (r : Run) (site : Web) (first n : Node) : Prop :=
  n.remaining ≤ first.remaining ∧ r.Hops site first.url (first.remaining - n.remaining) n.url

variable {r : Run} {site : Web} {first n : Node} {p : Progress} {e : Env} {log : List Mark}
  {s : State}

theorem away_first (r : Run) (site : Web) (first : Node) : r.Away site first first := by
  refine ⟨Nat.le_refl _, ?_⟩
  rw [Nat.sub_self]
  exact .start

theorem Away.link {c : Node} (h : r.Away site first n) (leads : r.Leads site n.url c.url)
    (less : n.remaining = c.remaining + 1) : r.Away site first c := by
  obtain ⟨hle, hn⟩ := h
  have hd : first.remaining - c.remaining = first.remaining - n.remaining + 1 := by omega
  refine ⟨by omega, ?_⟩
  rw [hd]
  exact .link hn leads

/-! ## Children of a visit -/

theorem leads_of_child {c : Node} (h : c ∈ (r.visit site n p e).outcome.children) :
    n.url ∉ p.visited.urls ∧ n.remaining = c.remaining + 1 ∧ r.Leads site n.url c.url := by
  have hc := r.course site n p e
  generalize r.visit site n p e = v at h hc
  cases hc with
  | skipped | bare | unreadable | failed | last => cases h
  | expanded new needed good answer more =>
    obtain ⟨u, hu, rfl⟩ := List.mem_map.1 h
    exact ⟨new, more, _, _, good, answer, (List.mem_filter.1 hu).1⟩

theorem child_of_leads {u : String} (new : n.url ∉ p.visited.urls) (more : 0 < n.remaining)
    (leads : r.Leads site n.url u) :
    u ∈ (r.visit site n p e).progress.visited.urls ∨
      ∃ c ∈ (r.visit site n p e).outcome.children, c.url = u := by
  obtain ⟨address, page, good, answer, hu⟩ := leads
  have hc := r.course site n p e
  generalize r.visit site n p e = v at hc
  cases hc with
  | skipped old => exact absurd old new
  | bare _ bare => exact absurd bare.2 (by omega)
  | unreadable _ _ bad =>
    rw [good] at bad
    cases bad
  | failed _ _ _ refused =>
    rw [answer] at refused
    cases refused
  | last _ _ _ _ ends => omega
  | @expanded address' page' k _ _ good' answer' _ =>
    obtain rfl : address = address' := Except.ok.inj (good.symm.trans good')
    obtain rfl : page = page' := Except.ok.inj (answer.symm.trans answer')
    by_cases old : u ∈ (p.claim n.url).visited.urls
    · exact .inl old
    · refine .inr ⟨⟨u, k⟩, List.mem_map.2 ⟨u, List.mem_filter.2 ⟨hu, ?_⟩, rfl⟩, rfl⟩
      simpa [Visited.contains] using old

theorem mem_claims_mark {m : Mark} : m ∈ claims (log ++ [r.mark site n s]) ↔
    m ∈ claims log ∨ n.url ∉ s.progress.visited.urls ∧ m = r.mark site n s := by
  have hs : (r.mark site n s).stage = .skipped ↔ n.url ∈ s.progress.visited.urls := stage_visit
  rw [claims_append, List.mem_append]
  unfold claims
  by_cases old : n.url ∈ s.progress.visited.urls
  · simp [hs.2 old, old]
  · simp [mt hs.1 old, old]

/-! ## Coverage -/

/-- What a state of a crawl with this log has come to. -/
structure Covered (r : Run) (site : Web) (first : Node) (log : List Mark) (s : State) :
    Prop where
  known : s.Known first.url
  claimed : ∀ u ∈ s.progress.visited.urls, ∃ m ∈ claims log, m.node.url = u
  /-- The links of a claimed page are known, unless no hops were left. -/
  onward : ∀ m ∈ claims log, 0 < m.node.remaining → ∀ u, r.Leads site m.node.url u → s.Known u
  away : ∀ n ∈ s.stack, r.Away site first n
  away_log : ∀ m ∈ log, r.Away site first m.node

theorem covered_start (r : Run) (site : Web) (first : Node) (e : Env) :
    r.Covered site first [] (.initial first e) where
  known := .inr ⟨first, List.mem_singleton_self first, rfl⟩
  claimed := fun u hu => nomatch hu
  onward := fun m hm => nomatch hm
  away := by
    intro n hn
    rw [List.mem_singleton.1 hn]
    exact away_first r site first
  away_log := fun m hm => nomatch hm

theorem claimed_step {rest : List Node} : (r.step site n rest s).progress.visited.urls =
    if n.url ∈ s.progress.visited.urls then s.progress.visited.urls
    else n.url :: s.progress.visited.urls := urls_visit

/-- A visit forgets nothing: its own node is claimed, and the others still wait. -/
theorem known_step {rest : List Node} {u : String} (top : s.stack = n :: rest) (h : s.Known u) :
    (r.step site n rest s).Known u := by
  unfold State.Known
  rw [claimed_step]
  rcases h with h | ⟨m, hm, rfl⟩
  · left
    split
    · exact h
    · exact List.mem_cons_of_mem _ h
  · rw [top] at hm
    rcases List.mem_cons.1 hm with rfl | hm
    · left
      split
      · assumption
      · exact List.mem_cons_self
    · exact .inr ⟨m, List.mem_append_right _ hm, rfl⟩

theorem covered_visit {rest : List Node} (h : r.Covered site first log s)
    (top : s.stack = n :: rest) :
    r.Covered site first (log ++ [r.mark site n s]) (r.step site n rest s) := by
  have hn : r.Away site first n := h.away n (by rw [top]; exact List.mem_cons_self)
  refine ⟨known_step top h.known, ?_, ?_, ?_, ?_⟩
  · intro u hu
    rw [claimed_step] at hu
    by_cases old : n.url ∈ s.progress.visited.urls
    · rw [if_pos old] at hu
      obtain ⟨m, hm, hmu⟩ := h.claimed u hu
      exact ⟨m, mem_claims_mark.2 (.inl hm), hmu⟩
    · rw [if_neg old] at hu
      rcases List.mem_cons.1 hu with rfl | hu
      · exact ⟨r.mark site n s, mem_claims_mark.2 (.inr ⟨old, rfl⟩), rfl⟩
      · obtain ⟨m, hm, hmu⟩ := h.claimed u hu
        exact ⟨m, mem_claims_mark.2 (.inl hm), hmu⟩
  · intro m hm more u leads
    rcases mem_claims_mark.1 hm with hm | ⟨new, rfl⟩
    · exact known_step top (h.onward m hm more u leads)
    · rcases child_of_leads (p := s.progress) (e := s.env) new more leads with hu | ⟨c, hc, hu⟩
      · exact .inl hu
      · exact .inr ⟨c, List.mem_append_left _ hc, hu⟩
  · intro c hc
    rcases List.mem_append.1 hc with hc | hc
    · obtain ⟨-, less, leads⟩ := leads_of_child hc
      exact hn.link leads less
    · exact h.away c (by rw [top]; exact List.mem_cons_of_mem _ hc)
  · intro m hm
    rcases List.mem_append.1 hm with hm | hm
    · exact h.away_log m hm
    · rw [List.mem_singleton.1 hm]
      exact hn

/-- **All states of a crawl are covered.** -/
theorem covered_reached (h : Reached r site first e log s) : r.Covered site first log s := by
  induction h with
  | start => exact covered_start r site first e
  | visit before top on ih => exact covered_visit ih top
  | stop before left off ih => exact ⟨ih.known, ih.claimed, ih.onward, ih.away, ih.away_log⟩

/-! ## Whole crawls -/

/-- Nothing waits at the end of a crawl that is not called off. -/
theorem stack_drain (h : (r.drain site s).report.cancelled = false) :
    (r.drain site s).stack = [] := by
  fun_induction Run.drain r site s with
  | case1 s hs => exact hs
  | case2 s n rest hs off => cases h
  | case3 s n rest hs on ih => exact ih h

/-- A crawl that nothing calls off is not called off. -/
theorem cancelled_crawl (r : Run) (site : Web) (quiet : e.Quiet) :
    (r.crawl site e).report.cancelled = false := by
  obtain ⟨log, reached⟩ := reached_crawl r site e
  exact (unmarked_of_reached quiet reached).1

/-- What is known at the end is claimed. -/
theorem claimed_of_known {u : String} (h : s.Known u) (spent : s.stack = []) :
    u ∈ s.progress.visited.urls := by
  rcases h with h | ⟨n, hn, -⟩
  · exact h
  · rw [spent] at hn
    cases hn

/-- A way to an address passes claimed pages only, or it passes one that was cut off. -/
theorem Covered.claimed_or {start u : String} {passed : List String}
    (h : r.Covered site first log s) (spent : s.stack = []) (way : r.Way site start passed u)
    (known : s.Known start) :
    u ∈ s.progress.visited.urls ∨ ∃ v ∈ passed, ∃ m ∈ claims log, m.node = ⟨v, 0⟩ := by
  induction way with
  | start => exact .inl (claimed_of_known known spent)
  | @link passed a b before leads ih =>
    rcases ih with ha | ⟨v, hv, cut⟩
    · obtain ⟨m, hm, rfl⟩ := h.claimed a ha
      by_cases more : 0 < m.node.remaining
      · exact .inl (claimed_of_known (h.onward m hm more b leads) spent)
      · refine .inr ⟨m.node.url, List.mem_concat_self, m, hm, ?_⟩
        rw [← Nat.eq_zero_of_not_pos more]
    · exact .inr ⟨v, List.mem_append_left _ hv, cut⟩

/-- **What is within the depth is claimed, unless a page on the way is cut off.**  Take any way
of at most as many links as the depth.  A crawl that is not called off claims the address at
its end, unless one of the pages that this way passes was claimed with no hops left.  The
crawl came to that page by another way, which is as long as the depth allows and longer than
this one up to there. -/
theorem claimed_or_cut_off (r : Run) (site : Web) (e : Env)
    (whole : (r.crawl site e).report.cancelled = false) :
    ∃ log, Reached r site r.first e log (r.crawl site e) ∧
      ∀ passed u, passed.length ≤ r.profile.settings.walk.depth →
        r.Way site r.seed.toText passed u →
        u ∈ (r.crawl site e).progress.visited.urls ∨
          ∃ v ∈ passed, r.Hops site r.seed.toText r.profile.settings.walk.depth v ∧
            ∃ m ∈ claims log, m.node = ⟨v, 0⟩ := by
  obtain ⟨log, reached⟩ := reached_crawl r site e
  have cover := covered_reached reached
  have spent : (r.crawl site e).stack = [] := stack_drain whole
  refine ⟨log, reached, ?_⟩
  intro passed u _ way
  rcases cover.claimed_or spent way cover.known with hu | ⟨v, hv, m, hm, hmv⟩
  · exact .inl hu
  · have away := (cover.away_log m (List.mem_filter.1 hm).1).2
    rw [hmv] at away
    exact .inr ⟨v, hv, away, m, hm, hmv⟩

/-! ## A way that is cut off -/

/-- A link crawl of the pages of this machine that leaves none out, `depth` hops far. -/
def plain (depth : Nat) : Run where
  profile := {
    settings := { Settings.standard with
      walk := { Settings.Walk.standard with depth := depth, excludedPages := "" } }
    excluded := []
    included? := none
    barred? := none
    selector := .body
    removed := ["script", "style"] }
  seed := {
    scheme := "http".toList
    authority := some { host := some (.ipv6 [0, 0, 0, 0, 0, 0, 0, 1]) }
    path := .segments [[]] }
  flavor := .links

/-- The first page links to `a` and `b`, but `a` links to `b` too, which comes first. -/
def detour : Site := fun u =>
  if u = "http://[::1]/" then .ok "<a href=a><a href=b>"
  else if u = "http://[::1]/a" then .ok "<a href=b>"
  else if u = "http://[::1]/b" then .ok "<a href=c>"
  else .error (.status u 404)

theorem seed_plain (depth : Nat) : (plain depth).seed.toText = "http://[::1]/" := by
  show (plain 0).seed.toText = _
  decide +kernel

/-- Two links lead to `c`, by way of `b`. -/
theorem way_detour : (plain 2).Way detour "http://[::1]/" ["http://[::1]/", "http://[::1]/b"]
    "http://[::1]/c" := by
  have toB : (plain 2).Leads detour "http://[::1]/" "http://[::1]/b" :=
    ⟨(plain 2).seed, _, rfl, rfl, by decide +kernel⟩
  have toC : (plain 2).Leads detour "http://[::1]/b" "http://[::1]/c" :=
    ⟨{ (plain 2).seed with path := .segments ["b".toList] }, _, rfl, rfl, by decide +kernel⟩
  exact .link (.link .start toB) toC

theorem claimed_detour : ((plain 2).crawl detour {}).progress.visited.urls =
    ["http://[::1]/b", "http://[::1]/a", "http://[::1]/"] := by
  have walked : ((plain 2).walk detour 2 (plain 2).seed.toText {}).claimed =
      ["http://[::1]/", "http://[::1]/a", "http://[::1]/b"] := by decide +kernel
  exact (crawl_eq_walk (plain 2) detour 0 []).2.2.trans (congrArg List.reverse walked)

/-- `c` is not claimed, so a page that the way over `b` passes was claimed too late. -/
theorem claimed_or_cut_off_detour :
    ((plain 2).crawl detour {}).report.cancelled = false ∧
      ∃ log, Reached (plain 2) detour (plain 2).first {} log ((plain 2).crawl detour {}) ∧
        ∃ v ∈ ["http://[::1]/", "http://[::1]/b"],
          (plain 2).Hops detour (plain 2).seed.toText 2 v ∧
            ∃ m ∈ claims log, m.node = ⟨v, 0⟩ := by
  have whole := cancelled_crawl (plain 2) detour (e := {}) ⟨rfl, rfl⟩
  obtain ⟨log, reached, h⟩ := claimed_or_cut_off (plain 2) detour {} whole
  have cut := h ["http://[::1]/", "http://[::1]/b"] "http://[::1]/c" (Nat.le_refl 2)
    ((seed_plain 2).symm ▸ way_detour)
  rw [claimed_detour] at cut
  exact ⟨whole, log, reached, cut.resolve_left (by decide)⟩

/-- `b` is claimed behind `a`, with no hops left, so `c` is never come to. -/
theorem not_claimed_behind_detour :
    (plain 2).profile.settings.walk.depth = 2 ∧
      (plain 2).Hops detour (plain 2).seed.toText 2 "http://[::1]/c" ∧
      ((plain 2).crawl detour {}).report.cancelled = false ∧
      "http://[::1]/c" ∉ ((plain 2).crawl detour {}).progress.visited.urls := by
  refine ⟨rfl, ?_, cancelled_crawl _ _ ⟨rfl, rfl⟩, ?_⟩
  · rw [seed_plain]
    exact way_detour.hops
  · rw [claimed_detour]
    decide

end Run

end SiteWalk.Crawl
