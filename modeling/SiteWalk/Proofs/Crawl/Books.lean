import SiteWalk.Proofs.Crawl.Reached

/-!
# The books of a run

What a run has on record must agree: the set of claimed addresses, the number of
requests, the report, and the log of what was visited and asked for.  `Balanced` says
how.  Every visit keeps the books balanced, whatever node it is given and whatever
the site answers, so they are balanced in all states of all crawls.

    Balanced r site log asked p rep → Balanced r site (log ++ …) (asked ++ …) v.progress
      (rep.record v.outcome)                                              (balanced_visit)
    Reached r site first e log s → Balanced r site log …                (balanced_reached)
-/

namespace SiteWalk.Crawl

namespace Run

/-- The page of a node is needed and its address cannot be read. -/
def unreadable (r : Run) (n : Node) : Bool :=
  !decide (r.Bare n) && !(Url.parse n.url.toList).isOk

/-- A link crawl lists this address: the seed only on demand. -/
def lists (r : Run) (url : String) : Bool :=
  url != r.seed.toText || r.profile.settings.walk.includeSource

/-- `log` holds the visits and `asked` the requested addresses of a run, both oldest first. -/
structure Balanced (r : Run) (site : Web) (log : List Mark) (asked : List String) (p : Progress)
    (rep : Report) : Prop where
  /-- No address is asked for twice. -/
  asked_nodup : asked.Nodup
  /-- What is asked for is claimed. -/
  asked_claimed : ∀ u ∈ asked, u ∈ p.visited.urls
  fetchCount_eq : p.fetchCount = asked.length
  /-- Pages are the requests that were answered. -/
  pages_eq : rep.pagesFetched = (asked.filter fun u => (r.sees site u).isOk).length
  /-- Failures are the requests that failed, and the claimed nodes whose address cannot be
  read. -/
  failures_eq : rep.fetchFailures =
    (asked.filter fun u => !(r.sees site u).isOk).length +
      ((claims log).filter fun m => r.unreadable m.node).length
  /-- The set holds what was claimed. -/
  visited_eq : p.visited.urls = ((claims log).map fun m => m.node.url).reverse
  size_eq : p.visited.size = (claims log).length
  /-- Contents come from pages that were got, in the order of the requests, -/
  sources_sublist : (rep.contents.map ContentUnit.source).Sublist
    (asked.filter fun u => (r.sees site u).isOk)
  /-- and no page gives two. -/
  sources_nodup : (rep.contents.map ContentUnit.source).Nodup
  /-- A link crawl lists what it claims, in that order. -/
  links_eq : r.flavor = .links →
    rep.links = ((claims log).map fun m => m.node.url).filter r.lists

/-! ## Lemmas -/

variable {r : Run} {site : Web} {log : List Mark} {asked : List String} {p : Progress}
  {rep : Report}

theorem listed_toList (r : Run) (url : String) :
    (r.listed url).toList = if r.flavor = .links ∧ r.lists url then [url] else [] := by
  unfold listed lists
  by_cases hf : r.flavor = .links
  · by_cases hu : url = r.seed.toText <;> simp [hf, hu]
    split <;> rfl
  · simp [hf]

theorem source_of_unit {url page : String} {c : ContentUnit} (h : r.unit? url page = some c) :
    c.source = url := by
  unfold unit? at h
  split at h
  · cases h
  · dsimp only at h
    split at h
    · cases h
    · split at h <;> cases h <;> rfl

theorem unreadable_of_ok {n : Node} {address : Url} (h : Url.parse n.url.toList = .ok address) :
    r.unreadable n = false := by
  unfold unreadable
  rw [h]
  simp [Except.isOk, Except.toBool]

theorem balanced_start (r : Run) (site : Web) : Balanced r site [] [] {} {} where
  asked_nodup := List.nodup_nil
  asked_claimed := by simp
  fetchCount_eq := rfl
  pages_eq := rfl
  failures_eq := rfl
  visited_eq := rfl
  size_eq := rfl
  sources_sublist := List.Sublist.refl _
  sources_nodup := List.nodup_nil
  links_eq := fun _ => rfl

/-- A node that was claimed before changes nothing. -/
theorem Balanced.skip (b : Balanced r site log asked p rep) (n : Node) :
    Balanced r site (log ++ [⟨n, .skipped⟩]) asked p rep := by
  have hc : claims (log ++ [⟨n, .skipped⟩]) = claims log := by
    rw [claims_append]
    simp [claims]
  refine ⟨b.asked_nodup, b.asked_claimed, b.fetchCount_eq, b.pages_eq, ?_, ?_, ?_,
    b.sources_sublist, b.sources_nodup, ?_⟩
  · rw [hc]; exact b.failures_eq
  · rw [hc]; exact b.visited_eq
  · rw [hc]; exact b.size_eq
  · rw [hc]; exact b.links_eq

/-- What a claim adds to the books, whatever comes of the node. -/
theorem Balanced.claim (b : Balanced r site log asked p rep) {n : Node} {t : Stage}
    (new : n.url ∉ p.visited.urls) (ht : t ≠ .skipped) :
    claims (log ++ [⟨n, t⟩]) = claims log ++ [⟨n, t⟩] ∧
      (∀ u ∈ asked, u ∈ (p.claim n.url).visited.urls) ∧
      (p.claim n.url).visited.urls =
        ((claims (log ++ [⟨n, t⟩])).map fun m => m.node.url).reverse ∧
      (p.claim n.url).visited.size = (claims (log ++ [⟨n, t⟩])).length ∧
      (r.flavor = .links → rep.links ++ (r.listed n.url).toList =
        ((claims (log ++ [⟨n, t⟩])).map fun m => m.node.url).filter r.lists) := by
  have hc : claims (log ++ [⟨n, t⟩]) = claims log ++ [⟨n, t⟩] := by
    rw [claims_append]
    simp [claims, ht]
  have hu := Progress.urls_claim new
  refine ⟨hc, ?_, ?_, ?_, ?_⟩
  · intro u h
    rw [hu]
    exact List.mem_cons_of_mem _ (b.asked_claimed u h)
  · rw [hu, hc, b.visited_eq]
    simp
  · have hs : p.visited.urls.length = (claims log).length := b.size_eq
    show (p.claim n.url).visited.urls.length = _
    rw [hu, hc, List.length_cons, List.length_append, hs]
    rfl
  · intro hf
    rw [hc, List.map_append, List.filter_append, ← b.links_eq hf, listed_toList]
    by_cases hl : r.lists n.url = true <;> simp [hf, hl]

/-- A node that is claimed without a request. -/
theorem Balanced.unasked (b : Balanced r site log asked p rep) {n : Node} {o : Outcome}
    (new : n.url ∉ p.visited.urls) (hs : o.stage ≠ .skipped) (hl : o.link = r.listed n.url)
    (hc : o.content = none) (hq : o.fetched = false)
    (hf : o.stage = .fetchFailed ↔ r.unreadable n = true) :
    Balanced r site (log ++ [⟨n, o.stage⟩]) asked (p.claim n.url) (rep.record o) := by
  obtain ⟨h1, h2, h3, h4, h5⟩ := b.claim new hs
  refine ⟨b.asked_nodup, h2, b.fetchCount_eq, ?_, ?_, h3, h4, ?_, ?_, ?_⟩
  · unfold Report.record
    simp [hq, b.pages_eq]
  · unfold Report.record
    rw [h1, List.filter_append]
    by_cases hu : r.unreadable n = true
    · simp [hf.2 hu, hu, b.failures_eq]
      omega
    · simp [mt hf.1 hu, hu, b.failures_eq]
  · unfold Report.record
    simpa [hc] using b.sources_sublist
  · unfold Report.record
    simpa [hc] using b.sources_nodup
  · intro hfl
    unfold Report.record
    rw [hl]
    exact h5 hfl

/-- A node that is claimed and asked for. -/
theorem Balanced.ask (b : Balanced r site log asked p rep) {n : Node} {o : Outcome}
    (new : n.url ∉ p.visited.urls) (hs : o.stage ≠ .skipped) (hl : o.link = r.listed n.url)
    (hu : r.unreadable n = false) (hc : ∀ c ∈ o.content, c.source = n.url ∧ (r.sees site n.url).isOk = true)
    (hp : (o.stage.hasPage && o.fetched) = (r.sees site n.url).isOk)
    (hf : o.stage = .fetchFailed ↔ (r.sees site n.url).isOk = false) :
    Balanced r site (log ++ [⟨n, o.stage⟩]) (asked ++ [n.url]) (p.claim n.url).asked
      (rep.record o) := by
  obtain ⟨h1, h2, h3, h4, h5⟩ := b.claim new hs
  have hn : (asked ++ [n.url]).Nodup := by
    rw [List.nodup_append]
    refine ⟨b.asked_nodup, by simp, ?_⟩
    intro u hu' v hv huv
    rw [List.mem_singleton.1 hv] at huv
    exact new (huv ▸ b.asked_claimed u hu')
  have hsub : ((rep.record o).contents.map ContentUnit.source).Sublist
      ((asked ++ [n.url]).filter fun u => (r.sees site u).isOk) := by
    unfold Report.record
    rw [List.map_append, List.filter_append]
    refine b.sources_sublist.append ?_
    cases ho : o.content with
    | none => exact List.nil_sublist _
    | some c =>
      obtain ⟨hcu, hok⟩ := hc c (by rw [ho]; rfl)
      simp [hcu, hok]
  refine ⟨hn, ?_, ?_, ?_, ?_, h3, h4, hsub, hsub.nodup (hn.filter _), ?_⟩
  · intro u hu'
    show u ∈ (p.claim n.url).visited.urls
    rcases List.mem_append.1 hu' with hu' | hu'
    · exact h2 u hu'
    · rw [List.mem_singleton.1 hu', Progress.urls_claim new]
      exact List.mem_cons_self
  · simp [b.fetchCount_eq]
  · unfold Report.record
    rw [hp, List.filter_append]
    cases hok : (r.sees site n.url).isOk <;> simp [hok, b.pages_eq]
  · unfold Report.record
    rw [h1, List.filter_append, List.filter_append]
    by_cases hok : (r.sees site n.url).isOk = false
    · simp [hf.2 hok, hok, hu, b.failures_eq]
      omega
    · simp [mt hf.1 hok, hok, hu, b.failures_eq]
  · intro hfl
    unfold Report.record
    rw [hl]
    exact h5 hfl

/-- **A visit keeps the books balanced.** -/
theorem balanced_visit (b : Balanced r site log asked p rep) (n : Node) (e : Env) :
    Balanced r site (log ++ [⟨n, (r.visit site n p e).outcome.stage⟩])
      (asked ++ if (r.visit site n p e).outcome.fetched then [n.url] else [])
      (r.visit site n p e).progress (rep.record (r.visit site n p e).outcome) := by
  have hc := r.course site n p e
  generalize r.visit site n p e = v at hc
  cases hc with
  | skipped old => simpa [Report.record, Stage.hasPage] using b.skip n
  | bare new hb =>
    simp only [Bool.false_eq_true, if_false, List.append_nil]
    refine b.unasked (o := { url := n.url, stage := .terminal, link := r.listed n.url }) new
      (by simp) rfl rfl rfl ?_
    simp [unreadable, hb]
  | unreadable new hb bad =>
    simp only [Bool.false_eq_true, if_false, List.append_nil]
    refine b.unasked (o := { url := n.url, stage := .fetchFailed, link := r.listed n.url }) new
      (by simp) rfl rfl rfl ?_
    simp [unreadable, bad, hb, Except.isOk, Except.toBool]
  | failed new hb good answer =>
    refine b.ask new (by simp) rfl (unreadable_of_ok good) (by simp) ?_ ?_ <;>
      simp [answer, Except.isOk, Except.toBool, Stage.hasPage]
  | last new hb good answer ends =>
    refine b.ask new (by simp) rfl (unreadable_of_ok good) ?_ ?_ ?_
    · intro c hc
      exact ⟨source_of_unit hc, by rw [answer]; rfl⟩
    · simp [answer, Except.isOk, Except.toBool, Stage.hasPage]
    · simp [answer, Except.isOk, Except.toBool]
  | expanded new hb good answer more =>
    refine b.ask new (by simp) rfl (unreadable_of_ok good) ?_ ?_ ?_
    · intro c hc
      exact ⟨source_of_unit hc, by rw [answer]; rfl⟩
    · simp [answer, Except.isOk, Except.toBool, Stage.hasPage]
    · simp [answer, Except.isOk, Except.toBool]

/-- The marks that a report carries besides what it counts do not matter. -/
theorem Balanced.congr {rep' : Report} (b : Balanced r site log asked p rep)
    (hc : rep'.contents = rep.contents) (hl : rep'.links = rep.links)
    (hp : rep'.pagesFetched = rep.pagesFetched) (hf : rep'.fetchFailures = rep.fetchFailures) :
    Balanced r site log asked p rep' :=
  ⟨b.asked_nodup, b.asked_claimed, b.fetchCount_eq, hp ▸ b.pages_eq, hf ▸ b.failures_eq,
    b.visited_eq, b.size_eq, hc ▸ b.sources_sublist, hc ▸ b.sources_nodup,
    fun h => hl ▸ b.links_eq h⟩

/-- **The books are balanced in every state of a crawl.** -/
theorem balanced_reached {first : Node} {e : Env} (he : e.requests = []) {s : State}
    (h : Reached r site first e log s) :
    Balanced r site log (s.env.requests.map Request.url) s.progress s.report := by
  induction h with
  | start =>
    show Balanced r site [] (e.requests.map Request.url) {} {}
    rw [he]
    exact balanced_start r site
  | @visit log s n rest before top on ih =>
    rw [urls_step]
    exact balanced_visit ih n s.env
  | stop before left off ih => exact ih.congr rfl rfl rfl rfl

end Run

end SiteWalk.Crawl
