import SiteWalk.Proofs.Crawl.Flavors

/-!
# What a visit may do

A node that was claimed before is skipped, and nothing happens.  Any other visit claims the
address of its node and nothing else, comes to an end, counts the request that it makes, and
leads on only to addresses that nobody has claimed, each once and one link less far.

    n.url ∈ p.visited.urls → r.visit site n p e = ⟨{ url, stage := .skipped }, p, e⟩
    n.url ∉ p.visited.urls → r.HasRoom n p →
      Settled r site n p e (r.visit site n p e)                           (skipped_or_settled)
-/

namespace SiteWalk

namespace Crawl.Run

variable {r : Run} {site : Web} {n c : Node} {p : Progress} {e : Env}

/-! ## What is made of a node -/

theorem full_of_unit {url page : String} {c : ContentUnit} (h : r.unit? url page = some c) :
    r.flavor = .content ∧ c.text ≠ "" := by
  unfold unit? at h
  split at h
  · cases h
  · next other =>
    have flavor : r.flavor = .content := by
      cases hf : r.flavor with
      | content => rfl
      | links => exact absurd hf other
    refine ⟨flavor, ?_⟩
    dsimp only at h
    split at h
    · cases h
    · next full =>
      -- the address on top is text of its own
      split at h
      · cases h
        simp
      · cases h
        simpa using full

theorem flavor_of_listed {url u : String} (h : r.listed url = some u) : r.flavor = .links := by
  unfold listed at h
  split at h
  · next which => exact which.1
  · cases h

theorem nodup_children (r : Run) (address : Url) (page : String) (v : Visited) (k : Nat) :
    ((r.children address page v k).map Node.url).Nodup := by
  unfold children
  rw [List.map_map, show Node.url ∘ (fun u => Node.mk u k) = id from rfl, List.map_id]
  exact (Profile.nodup_firsts _ _).filter _

theorem of_mem_children {address : Url} {page : String} {v : Visited} {k : Nat}
    (h : c ∈ r.children address page v k) : c.url ∉ v.urls ∧ c.remaining = k := by
  obtain ⟨u, hu, rfl⟩ := List.mem_map.1 h
  have free := (List.mem_filter.1 hu).2
  exact ⟨by simpa [Visited.contains] using free, rfl⟩

/-! ## Children -/

/-- Only a page that is got and whose links are followed leads on. -/
theorem child_of_visit (h : c ∈ (r.visit site n p e).outcome.children) :
    (r.visit site n p e).outcome.stage = .childrenScheduled ∧
      c.url ∉ (r.visit site n p e).progress.visited.urls ∧ c.remaining + 1 = n.remaining := by
  have hv := r.course site n p e
  generalize r.visit site n p e = v at hv h
  cases hv with
  | skipped | bare | unreadable | failed | last => cases h
  | expanded new needed good answer more =>
    obtain ⟨free, left⟩ := of_mem_children h
    refine ⟨rfl, free, ?_⟩
    omega

theorem nodup_children_visit : ((r.visit site n p e).outcome.children.map Node.url).Nodup := by
  have hv := r.course site n p e
  generalize r.visit site n p e = v at hv
  cases hv with
  | skipped | bare | unreadable | failed | last => exact List.nodup_nil
  | expanded => exact nodup_children r _ _ _ _

/-! ## The terms of a visit -/

/-- One more request can be counted, or there is none to count.  Where a counter of 64 bits
is full, the next request is beyond what is said here. -/
def HasRoom (r : Run) (n : Node) (p : Progress) : Prop :=
  p.fetchCount + (if r.asks n then 1 else 0) < bound64

/-- What the visit of a node leaves behind if nobody has claimed the node before. -/
structure Settled (r : Run) (site : Web) (n : Node) (p : Progress) (e : Env) (v : Visit) :
    Prop where
  /-- The address is claimed, and no other. -/
  claimed : v.progress.visited.urls = n.url :: p.visited.urls
  /-- Nothing more will be done with the node. -/
  ended : v.outcome.stage = .fetchFailed ∨ v.outcome.stage = .terminal ∨
    v.outcome.stage = .childrenScheduled
  /-- The links are followed if there are hops left and the page is got. -/
  scheduled : v.outcome.stage = .childrenScheduled ↔
    0 < n.remaining ∧ v.outcome.fetched = true ∧ (r.sees site n.url).isOk = true
  /-- The page is asked for if it is needed and the address can be read, -/
  fetched : v.outcome.fetched = r.asks n
  /-- which is one request, and counted, -/
  asked : v.outcome.fetched = true → v.progress.fetchCount = p.fetchCount + 1 ∧
    ∃ t, v.env.requests = e.requests ++ [⟨n.url, r.options, t⟩]
  /-- and else there is none. -/
  unasked : v.outcome.fetched = false → v.progress.fetchCount = p.fetchCount ∧ v.env = e
  /-- The count is one of 64 bits still. -/
  counted : v.progress.fetchCount < bound64
  /-- Every child is free, and may be followed one link less far. -/
  child : ∀ c ∈ v.outcome.children, v.outcome.stage = .childrenScheduled ∧
    c.url ∉ v.progress.visited.urls ∧ c.remaining + 1 = n.remaining
  distinct : (v.outcome.children.map Node.url).Nodup
  content : ∀ c, v.outcome.content = some c → r.flavor = .content ∧ c.text ≠ ""
  link : ∀ u, v.outcome.link = some u → r.flavor = .links

theorem ended_visit (new : n.url ∉ p.visited.urls) :
    (r.visit site n p e).outcome.stage = .fetchFailed ∨
      (r.visit site n p e).outcome.stage = .terminal ∨
      (r.visit site n p e).outcome.stage = .childrenScheduled := by
  have hv := r.course site n p e
  generalize r.visit site n p e = v at hv
  cases hv with
  | skipped old => exact absurd old new
  | bare | last => exact .inr (.inl rfl)
  | unreadable | failed => exact .inl rfl
  | expanded => exact .inr (.inr rfl)

theorem scheduled_visit : (r.visit site n p e).outcome.stage = .childrenScheduled ↔
    0 < n.remaining ∧ (r.visit site n p e).outcome.fetched = true ∧
      (r.sees site n.url).isOk = true := by
  have hv := r.course site n p e
  generalize r.visit site n p e = v at hv
  cases hv with
  | skipped | bare | unreadable => simp
  | failed new needed good answer => simp [answer, Except.isOk, Except.toBool]
  | last new needed good answer ends => simp [ends]
  | expanded new needed good answer more => simp [answer, more, Except.isOk, Except.toBool]

theorem content_visit {c : ContentUnit} (h : (r.visit site n p e).outcome.content = some c) :
    r.flavor = .content ∧ c.text ≠ "" := by
  have hv := r.course site n p e
  generalize r.visit site n p e = v at hv h
  cases hv with
  | skipped | bare | unreadable | failed => cases h
  | last | expanded => exact full_of_unit h

theorem link_visit {u : String} (h : (r.visit site n p e).outcome.link = some u) :
    r.flavor = .links := by
  have hv := r.course site n p e
  generalize r.visit site n p e = v at hv h
  cases hv with
  | skipped => cases h
  | bare | unreadable | failed | last | expanded => exact flavor_of_listed h

/-- A node that nobody has claimed is asked for if that is needed and possible. -/
theorem fetched_of_new (new : n.url ∉ p.visited.urls) :
    (r.visit site n p e).outcome.fetched = r.asks n := by
  rw [fetched_visit, decide_eq_false new]
  rfl

theorem settled_visit (new : n.url ∉ p.visited.urls) (room : r.HasRoom n p) :
    Settled r site n p e (r.visit site n p e) where
  claimed := by rw [urls_visit, if_neg new]
  ended := ended_visit new
  scheduled := scheduled_visit
  fetched := fetched_of_new new
  asked := by
    intro asked
    rw [fetchCount_visit, requests_visit, if_pos asked, if_pos asked]
    exact ⟨rfl, _, rfl⟩
  unasked := by
    intro unasked
    rw [fetchCount_visit, env_visit, unasked]
    exact ⟨rfl, rfl⟩
  counted := by
    rw [fetchCount_visit, fetched_of_new new]
    exact room
  child := fun _ => child_of_visit
  distinct := nodup_children_visit
  content := fun _ => content_visit
  link := fun _ => link_visit

/-- **A visit skips its node or settles it.**  A node whose address was claimed before is
skipped: there is no content, link or child, the progress stays as it was and nothing is asked
for.  Any other node is claimed and settled, as long as its request can be counted. -/
theorem skipped_or_settled (r : Run) (site : Web) (n : Node) (p : Progress) (e : Env) :
    (n.url ∈ p.visited.urls →
      r.visit site n p e = ⟨{ url := n.url, stage := .skipped }, p, e⟩) ∧
    (n.url ∉ p.visited.urls → r.HasRoom n p → Settled r site n p e (r.visit site n p e)) :=
  ⟨visit_of_old, settled_visit⟩

/-- As many requests are counted as can be without the next one. -/
def nearlyFull : Progress := { fetchCount := bound64 - 2 }

/-- The first page of `detour`, visited twice, by a run that can count one more request. -/
theorem skipped_or_settled_detour :
    let n := (plain 2).first
    let v := (plain 2).visit detour n nearlyFull {}
    n.url ∉ nearlyFull.visited.urls ∧ (plain 2).HasRoom n nearlyFull ∧
      Settled (plain 2) detour n nearlyFull {} v ∧
      v.outcome.fetched = true ∧ v.progress.fetchCount = bound64 - 1 ∧
      n.url ∈ v.progress.visited.urls ∧
      (plain 2).visit detour n v.progress {} =
        ⟨{ url := n.url, stage := .skipped }, v.progress, {}⟩ := by
  intro n v
  have new : n.url ∉ nearlyFull.visited.urls := List.not_mem_nil
  have asks : (plain 2).asks n = true := by decide +kernel
  have room : (plain 2).HasRoom n nearlyFull := by
    unfold HasRoom
    rw [asks]
    decide
  have settled := (skipped_or_settled (plain 2) detour n nearlyFull {}).2 new room
  have fetched : v.outcome.fetched = true := settled.fetched.trans asks
  have old : n.url ∈ v.progress.visited.urls := by
    rw [settled.claimed]
    exact List.mem_cons_self
  exact ⟨new, room, settled, fetched, (settled.asked fetched).1, old,
    (skipped_or_settled (plain 2) detour n _ {}).1 old⟩

end Crawl.Run

end SiteWalk
