import SiteWalk.Proofs.Crawl.Books
import SiteWalk.Proofs.Crawl.Depth
import SiteWalk.Proofs.Link.Scope

/-!
# Addresses that fail

A page that is not got costs what stands on it and behind it, and nothing else.  Two sites
are compared that differ at some addresses only: one fails there (`broken`), the other has
pages without links (`whole`).  Crawls of both keep the same stack and make the same requests
at the same times; only what they report of those addresses differs (`Spared`).

    Outage lost (r.sees broken) (r.sees whole) → Spared lost s t →
      Spared lost (r.drain broken s) (r.drain whole t)                    (spared_drain)
-/

namespace SiteWalk.Crawl

/-- Two sites that differ at the lost addresses only: there one fails, and on the pages of
the other there is no link. -/
structure Outage (lost : String → Bool) (broken whole : Site) : Prop where
  fails : ∀ u, lost u = true → ∃ why, broken u = .error why
  bare : ∀ u, lost u = true → ∃ page, whole u = .ok page ∧ Link.hrefs page.toList = []
  same : ∀ u, lost u = false → broken u = whole u

/-- How many of the requests are for lost addresses. -/
def lostRequests (lost : String → Bool) (requests : List Request) : Nat :=
  ((requests.map Request.url).filter lost).length

theorem lostRequests_append (lost : String → Bool) (a b : List Request) :
    lostRequests lost (a ++ b) = lostRequests lost a + lostRequests lost b := by
  unfold lostRequests
  rw [List.map_append, List.filter_append, List.length_append]

/-! ## Reports -/

/-- One report is the other without what it has of the lost addresses, of which `m` were asked
for. -/
structure Report.Short (lost : String → Bool) (m : Nat) (a b : Report) : Prop where
  contents : a.contents = b.contents.filter fun c => !lost c.source
  links : a.links = b.links
  pages : b.pagesFetched = a.pagesFetched + m
  failures : a.fetchFailures = b.fetchFailures + m

namespace Report.Short

variable {lost : String → Bool} {m : Nat} {a b : Report}

theorem refl (lost : String → Bool) : Short lost 0 {} {} := ⟨rfl, rfl, rfl, rfl⟩

/-- An outcome that both have and that is not of a lost address. -/
theorem record (h : Short lost m a b) {o : Outcome}
    (kept : ∀ c ∈ o.content, lost c.source = false) : Short lost m (a.record o) (b.record o) := by
  have units : o.content.toList.filter (fun c => !lost c.source) = o.content.toList := by
    rw [List.filter_eq_self]
    intro c hc
    rw [kept c (Option.mem_toList.1 hc)]
    rfl
  refine ⟨?_, ?_, ?_, ?_⟩
  · show a.contents ++ o.content.toList = _
    rw [h.contents, Report.record, List.filter_append, units]
  · show a.links ++ o.link.toList = b.links ++ o.link.toList
    rw [h.links]
  · have := h.pages
    unfold Report.record
    dsimp only
    split <;> omega
  · have := h.failures
    unfold Report.record
    dsimp only
    split <;> omega

/-- The outcomes of a lost address: a failure, and a page. -/
theorem recordLost (h : Short lost m a b) {o o' : Outcome} (link : o.link = o'.link)
    (failed : o.stage = .fetchFailed) (none : o.content = none)
    (got : o'.stage.hasPage = true) (fetched : o'.fetched = true)
    (gone : ∀ c ∈ o'.content, lost c.source = true) :
    Short lost (m + 1) (a.record o) (b.record o') := by
  have units : o'.content.toList.filter (fun c => !lost c.source) = [] := by
    rw [List.filter_eq_nil_iff]
    intro c hc
    simp [gone c (Option.mem_toList.1 hc)]
  have stage : o'.stage ≠ .fetchFailed := by
    intro h
    rw [h] at got
    cases got
  refine ⟨?_, ?_, ?_, ?_⟩
  · show a.contents ++ o.content.toList = _
    rw [h.contents, Report.record, List.filter_append, units, none]
    rfl
  · show a.links ++ o.link.toList = b.links ++ o'.link.toList
    rw [h.links, link]
  · have := h.pages
    simp [Report.record, failed, got, fetched, show Stage.fetchFailed.hasPage = false from rfl]
    omega
  · have := h.failures
    simp [Report.record, failed, stage]
    omega

end Report.Short

/-! ## Visits -/

namespace Run

variable {r : Run} {lost : String → Bool} {broken whole site : Web} {n : Node} {rest : List Node}
  {s t : State} {p : Progress} {e : Env}

/-- What is settled without a page brings none in. -/
theorem settled_of_start {q : Progress} {o : Outcome} (h : r.start n p = (.settled o, q)) :
    o.fetched = false ∧ o.content = none := by
  unfold start at h
  dsimp only at h
  split at h
  · cases h
    exact ⟨rfl, rfl⟩
  · split at h
    · cases h
      exact ⟨rfl, rfl⟩
    · split at h
      · cases h
        exact ⟨rfl, rfl⟩
      · cases h

/-- A site is asked for the address of a node at the end of its visit, or not at all. -/
theorem visit_sites (r : Run) (n : Node) (p : Progress) (e : Env) :
    (∃ o q, o.fetched = false ∧ o.content = none ∧ ∀ site, r.visit site n p e = ⟨o, q, e⟩) ∨
      ∃ address q e', ∀ site,
        r.visit site n p e = ⟨r.finish n q.visited address (r.sees site n.url), q, e'⟩ := by
  unfold visit
  cases hs : r.start n p with
  | mk begun q =>
    cases begun with
    | settled o =>
      obtain ⟨fetched, content⟩ := settled_of_start hs
      exact .inl ⟨o, q, fetched, content, fun _ => rfl⟩
    | needs address =>
      exact .inr ⟨address, { q with fetchCount := q.fetchCount + 1 }, _, fun _ => rfl⟩

/-- What a page gives has its address. -/
theorem source_visit {c : ContentUnit} (h : c ∈ (r.visit site n p e).outcome.content) :
    c.source = n.url := by
  have hc := r.course site n p e
  generalize r.visit site n p e = v at hc h
  cases hc with
  | skipped | bare | unreadable | failed => cases h
  | last | expanded => exact source_of_unit h

/-- A page without links gives an outcome without children. -/
theorem finish_bare (v : Visited) (address : Url) {page : String}
    (h : Link.hrefs page.toList = []) :
    let o := r.finish n v address (.ok page)
    o.children = [] ∧ o.stage.hasPage = true ∧ o.fetched = true ∧ o.link = r.listed n.url ∧
      o.content = r.unit? n.url page := by
  unfold finish
  dsimp only
  split
  · exact ⟨rfl, rfl, rfl, rfl, rfl⟩
  · refine ⟨?_, rfl, rfl, rfl, rfl⟩
    unfold children
    rw [r.profile.links_of_nil _ _ h]
    rfl

/-- **A visit to a lost address differs in what is reported**, and in nothing else. -/
theorem short_visit (out : Outage lost (r.sees broken) (r.sees whole)) {m : Nat} {a b : Report}
    (h : a.Short lost m b) :
    let v := r.visit broken n p e
    let w := r.visit whole n p e
    v.outcome.children = w.outcome.children ∧ v.progress = w.progress ∧ v.env = w.env ∧
      (a.record v.outcome).Short lost
        (m + if v.outcome.fetched && lost n.url then 1 else 0) (b.record w.outcome) := by
  intro v w
  cases hn : lost n.url with
  | false =>
    have same : w = v := by
      have answers := out.same n.url hn
      rcases r.visit_sites n p e with ⟨o, q, -, -, hv⟩ | ⟨address, q, e', hv⟩
      · exact (hv whole).trans (hv broken).symm
      · refine (hv whole).trans (Eq.trans ?_ (hv broken).symm)
        rw [answers]
    rw [same, Bool.and_false]
    refine ⟨rfl, rfl, rfl, h.record fun c hc => ?_⟩
    rw [source_visit hc]
    exact hn
  | true =>
    rcases r.visit_sites n p e with ⟨o, q, fetched, content, hv⟩ | ⟨address, q, e', hv⟩
    · have same : w = v := (hv whole).trans (hv broken).symm
      have ho : v.outcome = o := congrArg Visit.outcome (hv broken)
      rw [same, ho, fetched, Bool.false_and]
      refine ⟨rfl, rfl, rfl, h.record fun c hc => ?_⟩
      rw [content] at hc
      cases hc
    · obtain ⟨why, fails⟩ := out.fails n.url hn
      obtain ⟨page, got, bare⟩ := out.bare n.url hn
      have hv' : v = _ := hv broken
      have hw : w = _ := hv whole
      rw [fails] at hv'
      rw [got] at hw
      obtain ⟨children, stage, fetched, link, content⟩ :=
        finish_bare (r := r) (n := n) q.visited address bare
      rw [hv', hw]
      refine ⟨children.symm, rfl, rfl, h.recordLost link.symm rfl rfl stage fetched fun c hc => ?_⟩
      rw [content] at hc
      rw [source_of_unit hc]
      exact hn

/-! ## Crawls -/

/-- Two crawls in step, one of the broken site and one of the whole. -/
structure Spared (lost : String → Bool) (s t : State) : Prop where
  stack : s.stack = t.stack
  progress : s.progress = t.progress
  env : s.env = t.env
  report : s.report.Short lost (lostRequests lost s.env.requests) t.report

theorem spared_step (out : Outage lost (r.sees broken) (r.sees whole)) (h : Spared lost s t) :
    Spared lost (r.step broken n rest s) (r.step whole n rest t) := by
  obtain ⟨children, progress, env, report⟩ :=
    short_visit (r := r) (n := n) (p := s.progress) (e := s.env) out h.report
  unfold step
  rw [← h.progress, ← h.env]
  refine ⟨?_, progress, env, ?_⟩
  · show _ ++ rest = _ ++ rest
    rw [children]
  · have asked : lostRequests lost (r.visit broken n s.progress s.env).env.requests =
        lostRequests lost s.env.requests +
          if (r.visit broken n s.progress s.env).outcome.fetched && lost n.url then 1 else 0 := by
      rw [requests_visit, lostRequests_append]
      congr 1
      unfold lostRequests
      cases (r.visit broken n s.progress s.env).outcome.fetched with
      | false => rfl
      | true =>
        rw [if_pos rfl, List.map_singleton, List.filter_singleton, Bool.true_and]
        cases lost n.url <;> rfl
    dsimp only
    rw [asked]
    exact report

/-- **Crawls of both sites stay in step.** -/
theorem spared_drain (out : Outage lost (r.sees broken) (r.sees whole)) (h : Spared lost s t) :
    Spared lost (r.drain broken s) (r.drain whole t) := by
  fun_induction Run.drain r broken s generalizing t with
  | case1 s hs =>
    rw [drain_nil (h.stack ▸ hs)]
    exact h
  | case2 s n rest hs off =>
    rw [drain_off (by rw [← h.stack, hs]; simp) (h.env ▸ off)]
    have hr := h.report
    exact ⟨h.stack, h.progress, h.env, ⟨hr.contents, hr.links, hr.pages, hr.failures⟩⟩
  | case3 s n rest hs on ih =>
    have top : t.stack = n :: rest := h.stack ▸ hs
    have on' : t.env.cancelled = false := by
      rw [← h.env]
      simpa using on
    rw [drain_on top on']
    exact ih (spared_step out h)

/-- **A failing page costs only its own subtree.**  Of two sites that a run sees differ at
the lost addresses, where one fails and the other has pages without links, its crawls make
the same requests at the same times, claim the same addresses and list the same links.  What the first
lacks are the contents of lost addresses, and each lost address that was asked for counts as
a failure and not as a page. -/
theorem crawl_outage (r : Run) (lost : String → Bool) (broken whole : Web)
    (out : Outage lost (r.sees broken) (r.sees whole)) (clock : Nat) :
    let a := r.crawl broken { clock := clock }
    let b := r.crawl whole { clock := clock }
    let m := ((a.env.requests.map Request.url).filter lost).length
    a.env = b.env ∧ a.progress.visited.urls = b.progress.visited.urls ∧
      a.report.links = b.report.links ∧
      a.report.contents = b.report.contents.filter (fun c => !lost c.source) ∧
      b.report.pagesFetched = a.report.pagesFetched + m ∧
      a.report.fetchFailures = b.report.fetchFailures + m := by
  intro a b m
  have start : Spared lost (.initial r.first { clock := clock })
      (.initial r.first { clock := clock }) := ⟨rfl, rfl, rfl, .refl lost⟩
  have h : Spared lost a b := spared_drain out start
  exact ⟨h.env, congrArg (fun p => p.visited.urls) h.progress, h.report.links, h.report.contents,
    h.report.pages, h.report.failures⟩

/-- The second page of the ring. -/
def isSecond (u : String) : Bool := u == "http://[::1]/a"

/-- The ring with its second page broken. -/
def brokenRing : Site := fun u => if isSecond u then .error (.status u 500) else ring u

/-- The ring with a second page that leads nowhere. -/
def openRing : Site := fun u => if isSecond u then .ok "<p>end</p>" else ring u

theorem outage_ring : Outage isSecond brokenRing openRing where
  fails u hu := ⟨_, if_pos hu⟩
  bare u hu := ⟨_, if_pos hu, by decide +kernel⟩
  same u hu := by
    unfold brokenRing openRing
    rw [hu]
    rfl

theorem crawl_outage_ring :
    Outage isSecond brokenRing openRing ∧
      ((plain 2).crawl brokenRing {}).env.requests.map Request.url =
        ["http://[::1]/", "http://[::1]/a"] ∧
      ((plain 2).crawl brokenRing {}).env = ((plain 2).crawl openRing {}).env ∧
      ((plain 2).crawl brokenRing {}).report.fetchFailures =
        ((plain 2).crawl openRing {}).report.fetchFailures + 1 := by
  have gathered : Gathers [] ((plain 2).walk brokenRing 2 (plain 2).seed.toText {}) _ _
      ((plain 2).crawl brokenRing {}).env :=
    walkAll_drain brokenRing [] (.initial (plain 2).first {}) {} ⟨rfl, rfl⟩
      ⟨rfl, rfl, rfl, rfl, rfl⟩
  have walked : ((plain 2).walk brokenRing 2 (plain 2).seed.toText {}).requests.map Request.url =
      ["http://[::1]/", "http://[::1]/a"] := by decide +kernel
  have asked : ((plain 2).crawl brokenRing {}).env.requests.map Request.url =
      ["http://[::1]/", "http://[::1]/a"] := by
    rw [gathered.requests, List.nil_append, walked]
  obtain ⟨env, -, -, -, -, failures⟩ :=
    crawl_outage (plain 2) isSecond brokenRing openRing outage_ring 0
  rw [asked] at failures
  exact ⟨outage_ring, asked, env, failures⟩

end Run

end SiteWalk.Crawl
