import SiteWalk.Proofs.Crawl.Visit

/-!
# The crawl as a recursive walk

`walk` is the crawl said by recursion: a node that nobody has claimed is claimed,
asked for and recorded, and then every link of its page is walked in the order of
the page, one hop less far.  It keeps no stack and never asks whether a link is
still free before its turn comes.  The loop over the stack does the same:

    (r.crawl site e).report = (r.walk site depth seed {}).report        (crawl_eq_walk)

The loop drops links that are claimed when they are put on the stack.  The walk
passes over them when it gets there, and nothing that is claimed is ever given
free, so both come to the same (`foldl_walk_fresh`).
-/

namespace SiteWalk.Crawl

/-! ## Algorithm -/

/-- What a walk has gathered: the addresses that it has claimed and the requests that
it has made, oldest first, the time, and its report. -/
structure Haul where
  claimed : List String := []
  requests : List Request := []
  clock : Nat := 0
  report : Report := {}

namespace Haul

/-- Claims an address, and lists it where it is to be listed. -/
def claim (h : Haul) (url : String) (link : Option String) : Haul :=
  { h with
    claimed := h.claimed ++ [url]
    report := { h.report with links := h.report.links ++ link.toList } }

/-- Asks for a page; all requests but the first wait for the delay. -/
def ask (h : Haul) (url : String) (options : Settings.Request) (delay : Nat) : Haul :=
  let time := if h.requests = [] then h.clock else h.clock + delay
  { h with requests := h.requests ++ [⟨url, options, time⟩], clock := time }

/-- Counts a node that gave no page. -/
def fail (h : Haul) : Haul :=
  { h with report := { h.report with fetchFailures := h.report.fetchFailures + 1 } }

/-- Records a page. -/
def record (h : Haul) (unit : Option ContentUnit) : Haul :=
  { h with
    report := { h.report with
      contents := h.report.contents ++ unit.toList
      pagesFetched := h.report.pagesFetched + 1 } }

end Haul

namespace Run

/-- Walks an address and what its links lead to, `depth` hops far. -/
def walk (r : Run) (site : Web) : Nat → String → Haul → Haul
  | depth, url, h =>
    if url ∈ h.claimed then h
    else
      let h := h.claim url (r.listed url)
      if r.flavor = .links ∧ depth = 0 then h
      else
        match Url.parse url.toList with
        | .error _ => h.fail
        | .ok address =>
          let h := h.ask url r.options r.profile.settings.walk.coolDown
          match r.sees site url with
          | .error _ => h.fail
          | .ok page =>
            let h := h.record (r.unit? url page)
            match depth with
            | 0 => h
            | k + 1 =>
              (r.profile.links r.seed address page.toList).foldl (fun h u => r.walk site k u h) h

/-- Walks nodes one after the other. -/
def walkAll (r : Run) (site : Web) (nodes : List Node) (h : Haul) : Haul :=
  nodes.foldl (fun h n => r.walk site n.remaining n.url h) h

/-! ## Lemmas -/

variable (r : Run) (site : Web)

theorem walk_of_claimed {depth : Nat} {url : String} {h : Haul} (old : url ∈ h.claimed) :
    r.walk site depth url h = h := by
  unfold walk
  rw [if_pos old]

theorem walk_of_new {depth : Nat} {url : String} {h : Haul} (new : url ∉ h.claimed) :
    r.walk site depth url h =
      if r.flavor = .links ∧ depth = 0 then h.claim url (r.listed url)
      else
        match Url.parse url.toList with
        | .error _ => (h.claim url (r.listed url)).fail
        | .ok address =>
          let h := (h.claim url (r.listed url)).ask url r.options r.profile.settings.walk.coolDown
          match r.sees site url with
          | .error _ => h.fail
          | .ok page =>
            match depth with
            | 0 => h.record (r.unit? url page)
            | k + 1 =>
              (r.profile.links r.seed address page.toList).foldl (fun h u => r.walk site k u h)
                (h.record (r.unit? url page)) := by
  conv => lhs; unfold walk
  rw [if_neg new]

theorem foldl_walk_claimed {k : Nat}
    (ih : ∀ (url : String) (h : Haul), h.claimed ⊆ (r.walk site k url h).claimed)
    (links : List String) (h : Haul) :
    h.claimed ⊆ (links.foldl (fun h u => r.walk site k u h) h).claimed := by
  induction links generalizing h with
  | nil => exact fun _ hu => hu
  | cons u links ihl =>
    rw [List.foldl_cons]
    exact List.Subset.trans (ih u h) (ihl _)

/-- A walk gives nothing free that was claimed. -/
theorem claimed_subset_walk (depth : Nat) (url : String) (h : Haul) :
    h.claimed ⊆ (r.walk site depth url h).claimed := by
  have hc : ∀ (url : String) (h : Haul), h.claimed ⊆ h.claimed ++ [url] :=
    fun _ _ => List.subset_append_left _ _
  induction depth generalizing url h with
  | zero =>
    by_cases old : url ∈ h.claimed
    · rw [r.walk_of_claimed site old]
      exact fun _ hu => hu
    · rw [r.walk_of_new site old]
      split
      · exact hc url h
      · split
        · exact hc url h
        · dsimp only
          split <;> exact hc url h
  | succ k ih =>
    by_cases old : url ∈ h.claimed
    · rw [r.walk_of_claimed site old]
      exact fun _ hu => hu
    · rw [r.walk_of_new site old]
      split
      · exact hc url h
      · split
        · exact hc url h
        · dsimp only
          split
          · exact hc url h
          · refine List.Subset.trans ?_ (r.foldl_walk_claimed site ih _ _)
            exact hc url h

/-- Links that are claimed already may be left out of a walk. -/
theorem foldl_walk_fresh (k : Nat) (links seen : List String) (h : Haul) (hs : seen ⊆ h.claimed) :
    (links.filter (fun u => !seen.contains u)).foldl (fun h u => r.walk site k u h) h =
      links.foldl (fun h u => r.walk site k u h) h := by
  induction links generalizing h with
  | nil => rfl
  | cons u links ih =>
    rw [List.foldl_cons, List.filter_cons]
    by_cases hu : u ∈ seen
    · rw [r.walk_of_claimed site (hs hu), if_neg (by simp [hu])]
      exact ih h hs
    · rw [if_pos (by simp [hu]), List.foldl_cons]
      exact ih _ (List.Subset.trans hs (r.claimed_subset_walk site k u h))

/-- The loop has gathered what the walk has gathered, after the requests made before. -/
structure Gathers (before : List Request) (h : Haul) (p : Progress) (rep : Report) (e : Env) :
    Prop where
  claimed : p.visited.urls = h.claimed.reverse
  fetches : p.fetchCount = h.requests.length
  requests : e.requests = before ++ h.requests
  clock : e.clock = h.clock
  report : rep = h.report

variable {r site}

theorem Gathers.mem_claimed {before : List Request} {h : Haul} {p : Progress} {rep : Report}
    {e : Env} (g : Gathers before h p rep e) (u : String) : u ∈ h.claimed ↔ u ∈ p.visited.urls := by
  rw [g.claimed, List.mem_reverse]

theorem Gathers.claim {before : List Request} {h : Haul} {p : Progress} {rep : Report} {e : Env}
    (g : Gathers before h p rep e) {url : String} (new : url ∉ p.visited.urls)
    (link : Option String) :
    Gathers before (h.claim url link) (p.claim url) { rep with links := rep.links ++ link.toList }
      e := by
  refine ⟨?_, g.fetches, g.requests, g.clock, ?_⟩
  · rw [Progress.urls_claim new, g.claimed]
    simp [Haul.claim]
  · rw [g.report]
    rfl

theorem Gathers.ask {before : List Request} {h : Haul} {p : Progress} {rep : Report} {e : Env}
    (g : Gathers before h p rep e) (url : String) :
    Gathers before (h.ask url r.options r.profile.settings.walk.coolDown) p.asked rep
      (r.ask url p.fetchCount e) := by
  have ht : e.clock + (wait? r.profile.settings.walk.coolDown p.fetchCount).getD 0 =
      if h.requests = [] then h.clock else h.clock + r.profile.settings.walk.coolDown := by
    rw [wait?_getD, g.fetches, g.clock]
    by_cases hq : h.requests = [] <;> simp [hq]
  refine ⟨g.claimed, ?_, ?_, ?_, g.report⟩
  · simp [Haul.ask, g.fetches]
  · unfold Run.ask Haul.ask
    rw [Env.requests_request, ht, g.requests, List.append_assoc]
  · exact ht

theorem Gathers.fail {before : List Request} {h : Haul} {p : Progress} {rep : Report} {e : Env}
    (g : Gathers before h p rep e) :
    Gathers before h.fail p { rep with fetchFailures := rep.fetchFailures + 1 } e :=
  ⟨g.claimed, g.fetches, g.requests, g.clock, by rw [g.report]; rfl⟩

theorem Gathers.record {before : List Request} {h : Haul} {p : Progress} {rep : Report} {e : Env}
    (g : Gathers before h p rep e) (unit : Option ContentUnit) :
    Gathers before (h.record unit) p
      { rep with contents := rep.contents ++ unit.toList, pagesFetched := rep.pagesFetched + 1 } e :=
  ⟨g.claimed, g.fetches, g.requests, g.clock, by rw [g.report]; rfl⟩

variable (site) in
/-- The visit of a node and the walk from it begin alike, and what is left of the walk is
to walk the children of the visit. -/
theorem walk_node {before : List Request} {h : Haul} {p : Progress} {rep : Report} {e : Env}
    (n : Node) (g : Gathers before h p rep e) :
    ∃ h', Gathers before h' (r.visit site n p e).progress (rep.record (r.visit site n p e).outcome)
        (r.visit site n p e).env ∧
      r.walk site n.remaining n.url h =
        r.walkAll site (r.visit site n p e).outcome.children h' := by
  have hc := r.course site n p e
  generalize r.visit site n p e = v at hc
  cases hc with
  | skipped old =>
    refine ⟨h, by simpa [Report.record, Stage.hasPage] using g, ?_⟩
    exact r.walk_of_claimed site ((g.mem_claimed _).2 old)
  | bare new hb =>
    refine ⟨_, by simpa [Report.record, Stage.hasPage] using g.claim new (r.listed n.url), ?_⟩
    rw [r.walk_of_new site (fun hu => new ((g.mem_claimed _).1 hu)), if_pos hb]
    rfl
  | unreadable new hb bad =>
    refine ⟨_, by simpa [Report.record, Stage.hasPage] using (g.claim new (r.listed n.url)).fail, ?_⟩
    rw [r.walk_of_new site (fun hu => new ((g.mem_claimed _).1 hu)), if_neg hb, bad]
    rfl
  | failed new hb good answer =>
    refine ⟨_, by
      simpa [Report.record, Stage.hasPage] using
        ((g.claim new (r.listed n.url)).ask (r := r) n.url).fail, ?_⟩
    rw [r.walk_of_new site (fun hu => new ((g.mem_claimed _).1 hu)), if_neg hb, good]
    simp only [answer]
    rfl
  | @last address page new hb good answer ends =>
    refine ⟨_, by
      simpa [Report.record, Stage.hasPage] using
        ((g.claim new (r.listed n.url)).ask (r := r) n.url).record (r.unit? n.url page), ?_⟩
    rw [r.walk_of_new site (fun hu => new ((g.mem_claimed _).1 hu)), if_neg hb, good]
    simp only [answer, ends]
    rfl
  | @expanded address page k new hb good answer more =>
    have g' := ((g.claim new (r.listed n.url)).ask (r := r) n.url).record (r.unit? n.url page)
    refine ⟨_, by simpa [Report.record, Stage.hasPage] using g', ?_⟩
    rw [r.walk_of_new site (fun hu => new ((g.mem_claimed _).1 hu)), if_neg hb, good]
    simp only [answer, more]
    unfold walkAll children
    rw [List.foldl_map]
    -- What is claimed when the links are scheduled is claimed when their turn comes.
    exact (r.foldl_walk_fresh site k _ (p.claim n.url).visited.urls _
      (fun u hu => (g'.mem_claimed u).2 hu)).symm

variable (site) in
/-- The stack of the loop is what is left of the walk. -/
theorem walkAll_drain (before : List Request) (s : State) (h : Haul) (quiet : s.env.Quiet)
    (g : Gathers before h s.progress s.report s.env) :
    Gathers before (r.walkAll site s.stack h) (r.drain site s).progress (r.drain site s).report
      (r.drain site s).env := by
  fun_induction Run.drain r site s generalizing h with
  | case1 s hs =>
    rw [hs]
    exact g
  | case2 s n rest hs off => simp [quiet.1] at off
  | case3 s n rest hs on ih =>
    obtain ⟨h', g', hw⟩ := walk_node site n g
    have hr : r.walkAll site s.stack h = r.walkAll site (r.step site n rest s).stack h' := by
      rw [hs]
      unfold walkAll at hw ⊢
      rw [List.foldl_cons, hw]
      simp [step, List.foldl_append]
    rw [hr]
    exact ih h' (quiet_visit quiet) g'

/-! ## The crawl -/

/-- **The crawl is the walk.**  If nothing calls it off, a crawl reports what the walk from
the seed reports, makes its requests at the same times and in the same order after those
made before, and has claimed the same addresses in the same order, the last one first. -/
theorem crawl_eq_walk (r : Run) (site : Web) (clock : Nat) (before : List Request) :
    let s := r.crawl site { clock := clock, requests := before }
    let w := r.walk site r.profile.settings.walk.depth r.seed.toText { clock := clock }
    s.report = w.report ∧ s.env.requests = before ++ w.requests ∧
      s.progress.visited.urls = w.claimed.reverse := by
  have g : Gathers before { clock := clock } {} {} { clock := clock, requests := before } :=
    ⟨rfl, rfl, by simp, rfl, rfl⟩
  have hg := walkAll_drain (r := r) site before
    { stack := [⟨r.seed.toText, r.profile.settings.walk.depth⟩]
      env := { clock := clock, requests := before } } { clock := clock } ⟨rfl, rfl⟩ g
  unfold walkAll at hg
  rw [List.foldl_cons, List.foldl_nil] at hg
  unfold crawl
  exact ⟨hg.report, hg.requests, hg.claimed⟩

end Run

end SiteWalk.Crawl
