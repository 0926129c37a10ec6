import Mathlib.Data.Finset.Card
import Mathlib.Logic.Relation
import SiteWalk.Proofs.Crawl.Coverage

/-!
# Depths that are as good as any

Where links lead to finitely many addresses only, a depth of their number is as good as
any greater one.  A waiting node has lost one hop for each page expanded on the way to it,
and these are claimed; so the hops that are left and the claimed addresses make up the
depth at least, and a node that can still be claimed has hops left (`Deep`).

    Deep closure s → s.stack = n :: rest → n.url ∉ visited → 0 < n.remaining
    Alike s t → Alike (r.step site n rest s) (r.step site m rest' t)
    closure.card ≤ depth → (u ∈ visited ↔ u ∈ closure)                     (closure_of_deep)

Two crawls that start with different depths then do the same all the way, only that their
nodes have different hops left (`Alike`).
-/

namespace SiteWalk.Crawl

namespace Run

/-- The run with another depth. -/
def withDepth (r : Run) (depth : Nat) : Run :=
  { r with
    profile := { r.profile with
      settings := { r.profile.settings with
        walk := { r.profile.settings.walk with depth := depth } } } }

/-- The addresses that links lead to from the seed, the seed itself being one. -/
abbrev Within (r : Run) (site : Web) (u : String) : Prop :=
  Relation.ReflTransGen (r.Leads site) r.seed.toText u

variable {r : Run} {site : Web} {first n n' : Node} {rest rest' : List Node} {p : Progress}
  {e : Env} {log : List Mark} {s t : State} {closure : Finset String}

/-! ## Hops enough -/

/-- All that waits or is claimed is in the closure, and no waiting node has lost more hops
than addresses are claimed. -/
structure Deep (closure : Finset String) (s : State) : Prop where
  waiting : ∀ n ∈ s.stack, n.url ∈ closure
  claimed : ∀ u ∈ s.progress.visited.urls, u ∈ closure
  left : ∀ n ∈ s.stack, closure.card ≤ n.remaining + s.progress.visited.size

theorem Deep.remaining_pos (d : Deep closure s) (top : s.stack = n :: rest)
    (new : n.url ∉ s.progress.visited.urls) : 0 < n.remaining := by
  have hn : n ∈ s.stack := by rw [top]; exact List.mem_cons_self
  have once : (n.url :: s.progress.visited.urls).Nodup :=
    List.nodup_cons.2 ⟨new, s.progress.visited.once⟩
  have inside : (n.url :: s.progress.visited.urls).toFinset ⊆ closure := by
    intro u hu
    rcases List.mem_cons.1 (List.mem_toFinset.1 hu) with rfl | hu
    · exact d.waiting n hn
    · exact d.claimed u hu
  have few : s.progress.visited.size + 1 ≤ closure.card := by
    have h := Finset.card_le_card inside
    rwa [List.toFinset_card_of_nodup once] at h
  have := d.left n hn
  omega

theorem deep_start (seed : first.url ∈ closure) (deep : closure.card ≤ first.remaining) (e : Env) :
    Deep closure (.initial first e) := by
  refine ⟨?_, List.forall_mem_nil _, ?_⟩
  · intro n hn
    rw [List.mem_singleton.1 hn]
    exact seed
  · intro n hn
    rw [List.mem_singleton.1 hn]
    exact Nat.le_add_right_of_le deep

theorem deep_step (onward : ∀ a ∈ closure, ∀ b, r.Leads site a b → b ∈ closure)
    (d : Deep closure s) (top : s.stack = n :: rest) : Deep closure (r.step site n rest s) := by
  have hn : n ∈ s.stack := by rw [top]; exact List.mem_cons_self
  have hrest : ∀ m ∈ rest, m ∈ s.stack := fun m hm => by
    rw [top]
    exact List.mem_cons_of_mem _ hm
  have grows : s.progress.visited.size ≤ (r.step site n rest s).progress.visited.size := by
    unfold Visited.size
    rw [claimed_step]
    split
    · exact Nat.le_refl _
    · exact Nat.le_succ _
  refine ⟨?_, ?_, ?_⟩
  · intro c hc
    rcases List.mem_append.1 hc with hc | hc
    · exact onward _ (d.waiting n hn) _ (leads_of_child hc).2.2
    · exact d.waiting c (hrest c hc)
  · intro u hu
    rw [claimed_step] at hu
    split at hu
    · exact d.claimed u hu
    · rcases List.mem_cons.1 hu with rfl | hu
      · exact d.waiting n hn
      · exact d.claimed u hu
  · intro c hc
    rcases List.mem_append.1 hc with hc | hc
    · -- The hop that a child has lost is made up for by the claim of its parent.
      obtain ⟨new, less, -⟩ := leads_of_child hc
      have := d.left n hn
      unfold Visited.size at this ⊢
      rw [claimed_step, if_neg new, List.length_cons]
      omega
    · have := d.left c (hrest c hc)
      omega

/-- **No node is ever claimed with its hops used up.** -/
theorem deep_reached (onward : ∀ a ∈ closure, ∀ b, r.Leads site a b → b ∈ closure)
    (seed : first.url ∈ closure) (deep : closure.card ≤ first.remaining)
    (h : Reached r site first e log s) :
    Deep closure s ∧ ∀ m ∈ claims log, 0 < m.node.remaining := by
  induction h with
  | start => exact ⟨deep_start seed deep e, fun m hm => nomatch hm⟩
  | visit before top on ih =>
    obtain ⟨d, marks⟩ := ih
    refine ⟨deep_step onward d top, ?_⟩
    intro m hm
    rcases mem_claims_mark.1 hm with hm | ⟨new, rfl⟩
    · exact marks m hm
    · exact d.remaining_pos top new
  | stop before left off ih => exact ⟨⟨ih.1.waiting, ih.1.claimed, ih.1.left⟩, ih.2⟩

/-- A crawl that never runs out of hops claims what links lead to. -/
theorem claimed_of_within (cover : r.Covered site r.first log s) (spent : s.stack = [])
    (far : ∀ m ∈ claims log, 0 < m.node.remaining) {u : String} (h : r.Within site u) :
    u ∈ s.progress.visited.urls := by
  induction h with
  | refl => exact claimed_of_known cover.known spent
  | tail before leads ih =>
    obtain ⟨m, hm, rfl⟩ := cover.claimed _ ih
    exact claimed_of_known (cover.onward m hm (far m hm) _ leads) spent

/-! ## Two depths -/

/-- Two states that differ only in the hops that their nodes have left. -/
structure Alike (s t : State) : Prop where
  urls : s.stack.map Node.url = t.stack.map Node.url
  progress : s.progress = t.progress
  report : s.report = t.report
  env : s.env = t.env

/-- Hops do not matter to a visit as long as there are some. -/
theorem alike_visit (r : Run) (site : Web) (e : Env) (same : n.url = n'.url)
    (far : n.url ∉ p.visited.urls → 0 < n.remaining ∧ 0 < n'.remaining) :
    let v := r.visit site n p e
    let v' := r.visit site n' p e
    v.outcome.children.map Node.url = v'.outcome.children.map Node.url ∧
      v.progress = v'.progress ∧ v.env = v'.env ∧
      ∀ rep : Report, rep.record v.outcome = rep.record v'.outcome := by
  by_cases old : n.url ∈ p.visited.urls
  · rw [visit_of_old old, visit_of_old (same ▸ old), same]
    exact ⟨rfl, rfl, rfl, fun _ => rfl⟩
  · obtain ⟨hn, hn'⟩ := far old
    obtain ⟨k, hk⟩ := Nat.exists_eq_add_one_of_ne_zero (Nat.ne_of_gt hn)
    obtain ⟨k', hk'⟩ := Nat.exists_eq_add_one_of_ne_zero (Nat.ne_of_gt hn')
    rw [visit_of_new old hk, visit_of_new (same ▸ old) hk', ← same]
    split
    · exact ⟨rfl, rfl, rfl, fun _ => rfl⟩
    · split
      · exact ⟨rfl, rfl, rfl, fun _ => rfl⟩
      · refine ⟨?_, rfl, rfl, fun _ => rfl⟩
        simp [children, Function.comp_def]

theorem alike_step (h : Alike s t) (ds : Deep closure s) (dt : Deep closure t)
    (top : s.stack = n :: rest) (top' : t.stack = n' :: rest') :
    Alike (r.step site n rest s) (r.step site n' rest' t) := by
  have hu := h.urls
  rw [top, top', List.map_cons, List.map_cons] at hu
  obtain ⟨same, below⟩ := List.cons.inj hu
  have far : n.url ∉ s.progress.visited.urls → 0 < n.remaining ∧ 0 < n'.remaining := by
    intro new
    refine ⟨ds.remaining_pos top new, dt.remaining_pos top' ?_⟩
    rwa [← h.progress, ← same]
  obtain ⟨hc, hp, he, hr⟩ := alike_visit r site s.env same far
  refine ⟨?_, ?_, ?_, ?_⟩
  · unfold step
    dsimp only
    rw [List.map_append, List.map_append, hc, below, h.progress, h.env]
  · unfold step
    dsimp only
    rw [hp, h.progress, h.env]
  · unfold step
    dsimp only
    rw [hr, h.report, h.progress, h.env]
  · unfold step
    dsimp only
    rw [he, h.progress, h.env]

/-- **Crawls that start alike end alike.** -/
theorem alike_drain (onward : ∀ a ∈ closure, ∀ b, r.Leads site a b → b ∈ closure)
    (h : Alike s t) (ds : Deep closure s) (dt : Deep closure t) :
    Alike (r.drain site s) (r.drain site t) := by
  fun_induction Run.drain r site s generalizing t with
  | case1 s hs =>
    have ht : t.stack = [] := by
      have hu := h.urls
      rw [hs] at hu
      exact List.map_eq_nil_iff.1 hu.symm
    rw [drain_nil ht]
    exact h
  | case2 s n rest hs off =>
    have ht : t.stack ≠ [] := by
      intro ht
      have hu := h.urls
      rw [hs, ht] at hu
      cases hu
    rw [drain_off ht (h.env ▸ off)]
    exact ⟨h.urls, h.progress, by rw [h.report]; rfl, h.env⟩
  | case3 s n rest hs on ih =>
    cases ht : t.stack with
    | nil =>
      have hu := h.urls
      rw [hs, ht] at hu
      cases hu
    | cons n' rest' =>
      rw [drain_on ht (by rw [← h.env]; simpa using on)]
      exact ih (alike_step h ds dt hs ht) (deep_step onward ds hs) (deep_step onward dt ht)

/-- The depth tells only how far the first node may be followed. -/
theorem drain_withDepth (r : Run) (site : Web) (depth : Nat) (s : State) :
    (r.withDepth depth).drain site s = r.drain site s := by
  fun_induction Run.drain r site s with
  | case1 s hs => exact drain_nil hs
  | case2 s n rest hs off => exact drain_off (by simp [hs]) off
  | case3 s n rest hs on ih =>
    rw [drain_on hs (by simpa using on)]
    exact ih

theorem crawl_withDepth (r : Run) (site : Web) (depth : Nat) (e : Env) :
    (r.withDepth depth).crawl site e = r.drain site (.initial ⟨r.seed.toText, depth⟩ e) :=
  drain_withDepth r site depth _

/-- **A depth of the number of addresses is as good as any greater one.**  If links lead from
the seed to the addresses of a finite set, a crawl whose depth is at least their number
claims just these, unless it is called off; and with any two such depths, crawls report the
same and make the same requests at the same times. -/
theorem closure_of_deep (r : Run) (site : Web) (closure : Finset String)
    (closed : ∀ u, u ∈ closure ↔ r.Within site u) :
    (∀ e, closure.card ≤ r.profile.settings.walk.depth →
      (r.crawl site e).report.cancelled = false →
      ∀ u, u ∈ (r.crawl site e).progress.visited.urls ↔ u ∈ closure) ∧
    ∀ e d d', closure.card ≤ d → closure.card ≤ d' →
      ((r.withDepth d).crawl site e).report = ((r.withDepth d').crawl site e).report ∧
      ((r.withDepth d).crawl site e).env = ((r.withDepth d').crawl site e).env ∧
      ((r.withDepth d).crawl site e).progress = ((r.withDepth d').crawl site e).progress := by
  have seed : r.seed.toText ∈ closure := (closed _).2 .refl
  have onward : ∀ a ∈ closure, ∀ b, r.Leads site a b → b ∈ closure :=
    fun a ha b leads => (closed b).2 (((closed a).1 ha).tail leads)
  constructor
  · intro e deep whole u
    obtain ⟨log, reached⟩ := reached_crawl r site e
    obtain ⟨d, far⟩ := deep_reached onward seed deep reached
    refine ⟨d.claimed u, fun hu => ?_⟩
    exact claimed_of_within (covered_reached reached) (stack_drain whole) far ((closed u).1 hu)
  · intro e d d' hd hd'
    have start : Alike (.initial ⟨r.seed.toText, d⟩ e) (.initial ⟨r.seed.toText, d'⟩ e) :=
      ⟨rfl, rfl, rfl, rfl⟩
    have h := alike_drain onward start (deep_start seed hd e) (deep_start seed hd' e)
    rw [crawl_withDepth, crawl_withDepth]
    exact ⟨h.report, h.env, h.progress⟩

/-- Two pages that link to each other. -/
def ring : Site := fun u =>
  if u = "http://[::1]/" then .ok "<a href=a>"
  else if u = "http://[::1]/a" then .ok "<a href=/>"
  else .error (.status u 404)

theorem leads_ring {d : Nat} {a b : String} (h : (plain d).Leads ring a b) :
    a = "http://[::1]/" ∧ b = "http://[::1]/a" ∨ a = "http://[::1]/a" ∧ b = "http://[::1]/" := by
  obtain ⟨address, page, good, answer, hb⟩ := h
  have answer : ring a = .ok page := answer
  unfold ring at answer
  split at answer
  · next ha =>
    subst ha
    cases answer
    obtain rfl : address = (plain 0).seed := (Except.ok.inj good).symm
    have links : (plain 0).profile.links (plain 0).seed (plain 0).seed "<a href=a>".toList =
        ["http://[::1]/a"] := by decide +kernel
    exact .inl ⟨rfl, List.mem_singleton.1 (links ▸ hb)⟩
  · split at answer
    · next ha =>
      subst ha
      cases answer
      obtain rfl : address = { (plain 0).seed with path := .segments ["a".toList] } :=
        (Except.ok.inj good).symm
      have links : (plain 0).profile.links (plain 0).seed
          { (plain 0).seed with path := .segments ["a".toList] } "<a href=/>".toList =
            ["http://[::1]/"] := by decide +kernel
      exact .inr ⟨rfl, List.mem_singleton.1 (links ▸ hb)⟩
    · cases answer

theorem within_ring (u : String) : u ∈ ({"http://[::1]/", "http://[::1]/a"} : Finset String) ↔
    (plain 2).Within ring u := by
  have hs : (plain 2).seed.toText = "http://[::1]/" := by decide +kernel
  rw [Finset.mem_insert, Finset.mem_singleton]
  unfold Within
  rw [hs]
  constructor
  · rintro (rfl | rfl)
    · exact .refl
    · exact .single ⟨(plain 2).seed, _, rfl, rfl, by decide +kernel⟩
  · intro h
    induction h with
    | refl => exact .inl rfl
    | tail before leads ih =>
      rcases leads_ring leads with ⟨-, hb⟩ | ⟨-, hb⟩
      · exact .inr hb
      · exact .inl hb

theorem closure_of_deep_ring :
    (∀ u, u ∈ ({"http://[::1]/", "http://[::1]/a"} : Finset String) ↔ (plain 2).Within ring u) ∧
      (∀ u, u ∈ ((plain 2).crawl ring {}).progress.visited.urls ↔
        u ∈ ({"http://[::1]/", "http://[::1]/a"} : Finset String)) ∧
      (((plain 2).withDepth 2).crawl ring {}).report =
        (((plain 2).withDepth 7).crawl ring {}).report :=
  ⟨within_ring,
    (closure_of_deep (plain 2) ring _ within_ring).1 {} (by decide)
      (cancelled_crawl _ _ ⟨rfl, rfl⟩),
    ((closure_of_deep (plain 2) ring _ within_ring).2 {} 2 7 (by decide) (by decide)).1⟩

end Run

end SiteWalk.Crawl
