import Mathlib.Data.List.Nodup
import SiteWalk.Proofs.Crawl.Books
import SiteWalk.Proofs.Crawl.Coverage

/-!
# Content crawls and link crawls

A crawl of either flavor walks the same way.  A link crawl asks for fewer pages, namely for
none at the last hop; but no link of such a page is followed by a content crawl either.  So
both have the same nodes on their stacks and claim the same ones (`Abreast`), and which pages
a crawl has asked for can be told from the nodes that it has claimed.

    Reached r site first e log s →
      s.env.requests.map url = ((claims log).map node).filter r.asks …      (asked_reached)
    Reached (r.as f) site first e log s →
      ∃ log' t, Reached (r.as f') site first e' log' t ∧ Abreast log s log' t
                                                                          (abreast_reached)
-/

namespace SiteWalk.Crawl

/-- The nodes that were claimed, in that order. -/
def claimedNodes (log : List Mark) : List Node := (claims log).map Mark.node

namespace Run

/-- The run with another flavor. -/
def as (r : Run) (flavor : Flavor) : Run := { r with flavor := flavor }

/-- The page of a node is needed, and its address can be read. -/
def asks (r : Run) (n : Node) : Bool := !decide (r.Bare n) && (Url.parse n.url.toList).isOk

variable {r : Run} {site : Web} {first n : Node} {rest : List Node} {p q : Progress}
  {e e' : Env} {log : List Mark} {s t : State}

/-- Which pages are asked for is a matter of the flavor. -/
theorem asks_of_flavor {r r' : Run} (same : r.flavor = r'.flavor) : r.asks = r'.asks := by
  funext n
  unfold asks Bare
  rw [same]

/-! ## Visits -/

theorem visited_visit :
    (r.visit site n p e).progress.visited = (p.visited.insert n.url).2 := by
  have hc := r.course site n p e
  generalize r.visit site n p e = v at hc
  cases hc with
  | skipped old =>
    rw [Visited.insert_of_mem old]
  | bare | unreadable | failed | last | expanded => rfl

/-- A page is asked for if its node is claimed and it is needed. -/
theorem fetched_visit : (r.visit site n p e).outcome.fetched =
    (!decide (n.url ∈ p.visited.urls) && r.asks n) := by
  have hc := r.course site n p e
  generalize r.visit site n p e = v at hc
  unfold asks
  cases hc with
  | skipped old => simp [old]
  | bare new hb => simp [hb]
  | unreadable new hb bad => simp [bad, Except.isOk, Except.toBool]
  | failed new hb good | last new hb good | expanded new hb good =>
    simp [new, hb, good, Except.isOk, Except.toBool]

/-- Which links are followed does not depend on the flavor: at the last hop there are none. -/
theorem children_as (r : Run) (site : Web) (f f' : Flavor) (n : Node) (e e' : Env)
    (same : p.visited = q.visited) :
    ((r.as f).visit site n p e).outcome.children =
      ((r.as f').visit site n q e').outcome.children := by
  by_cases old : n.url ∈ p.visited.urls
  · rw [visit_of_old old, visit_of_old (same ▸ old)]
  · cases hk : n.remaining with
    | zero =>
      have none : ∀ (f : Flavor) (p : Progress) (e : Env),
          ((r.as f).visit site n p e).outcome.children = [] := by
        intro f p e
        rw [List.eq_nil_iff_forall_not_mem]
        intro c hc
        have := remaining_of_mem_visit hc
        omega
      rw [none, none]
    | succ k =>
      have seen : (r.as f').sees site = (r.as f).sees site := rfl
      rw [visit_of_new old hk, visit_of_new (same ▸ old) hk, seen]
      split
      · rfl
      · split
        · rfl
        · show children _ _ _ (p.visited.insert n.url).2 k =
            children _ _ _ (q.visited.insert n.url).2 k
          rw [same]
          rfl

/-- A visit claims its node unless the address was claimed before. -/
theorem claimedNodes_step (r : Run) (site : Web) (n : Node) (log : List Mark) (s : State) :
    claimedNodes (log ++ [r.mark site n s]) =
      claimedNodes log ++ if n.url ∈ s.progress.visited.urls then [] else [n] := by
  have stage : (r.mark site n s).stage = .skipped ↔ n.url ∈ s.progress.visited.urls := stage_visit
  unfold claimedNodes
  rw [claims_append, List.map_append]
  congr 1
  unfold claims
  rw [List.filter_singleton]
  by_cases old : n.url ∈ s.progress.visited.urls
  · rw [if_pos old, stage.2 old]
    rfl
  · rw [if_neg old, decide_eq_true (mt stage.1 old)]
    rfl

/-! ## Requests -/

/-- **The requests of a crawl are those for the nodes that it has claimed**, in that order,
except where the page is not needed or the address cannot be read. -/
theorem urls_reached (h : Reached r site first e log s) : s.env.requests.map Request.url =
    e.requests.map Request.url ++ ((claimedNodes log).filter r.asks).map Node.url := by
  induction h with
  | start => exact (List.append_nil _).symm
  | @visit log s n rest before top on ih =>
    rw [urls_step, claimedNodes_step, List.filter_append, List.map_append, ← List.append_assoc, ← ih,
      fetched_visit]
    congr 1
    by_cases old : n.url ∈ s.progress.visited.urls
    · rw [if_pos old, decide_eq_true old]
      rfl
    · rw [if_neg old, decide_eq_false old, List.filter_singleton]
      cases r.asks n <;> rfl
  | stop before left off ih => exact ih

theorem asked_reached (he : e.requests = []) (h : Reached r site first e log s) :
    s.env.requests.map Request.url = ((claimedNodes log).filter r.asks).map Node.url := by
  rw [urls_reached h, he]
  rfl

/-! ## Crawls -/

/-- Two crawls that have the same nodes before them and behind them. -/
structure Abreast (log : List Mark) (s : State) (log' : List Mark) (t : State) : Prop where
  stack : s.stack = t.stack
  visited : s.progress.visited = t.progress.visited
  nodes : claimedNodes log = claimedNodes log'

theorem abreast_step {f f' : Flavor} {log' : List Mark} (h : Abreast log s log' t)
    (n : Node) (rest : List Node) :
    Abreast (log ++ [(r.as f).mark site n s]) ((r.as f).step site n rest s)
      (log' ++ [(r.as f').mark site n t]) ((r.as f').step site n rest t) := by
  refine ⟨?_, ?_, ?_⟩
  · show _ ++ rest = _ ++ rest
    rw [r.children_as site f f' n s.env t.env h.visited]
  · show ((r.as f).visit site n s.progress s.env).progress.visited =
      ((r.as f').visit site n t.progress t.env).progress.visited
    rw [visited_visit, visited_visit, h.visited]
  · rw [claimedNodes_step, claimedNodes_step, h.nodes, h.visited]

/-- **A crawl of one flavor is abreast of the crawl of the other** in all its states. -/
theorem abreast_reached {f : Flavor} (f' : Flavor) (quiet : e.Quiet) (quiet' : e'.Quiet)
    (h : Reached (r.as f) site first e log s) :
    ∃ log' t, Reached (r.as f') site first e' log' t ∧ Abreast log s log' t := by
  induction h with
  | start => exact ⟨[], _, .start, rfl, rfl, rfl⟩
  | @visit log s n rest before top on ih =>
    obtain ⟨log', t, reached, abreast⟩ := ih
    have on' : t.env.cancelled = false := (quiet_of_reached quiet' reached).1
    exact ⟨_, _, reached.visit (abreast.stack ▸ top) on', abreast_step abreast n rest⟩
  | stop before left off ih =>
    rw [(quiet_of_reached quiet before).1] at off
    cases off

/-- The crawl that nothing calls off ends when its stack is empty. -/
theorem crawl_of_spent (quiet : e.Quiet) (h : Reached r site r.first e log s)
    (spent : s.stack = []) : r.crawl site e = s := by
  have hd := drain_of_reached quiet h
  rw [drain_nil spent] at hd
  exact hd.symm

/-! ## What a link crawl leaves out -/

/-- No address is claimed twice. -/
theorem nodup_claimedNodes (he : e.requests = []) (h : Reached r site first e log s) :
    ((claimedNodes log).map Node.url).Nodup := by
  have hv := (balanced_reached he h).visited_eq
  have once := s.progress.visited.once
  rw [hv, List.nodup_reverse] at once
  unfold claimedNodes
  rw [List.map_map]
  exact once

/-- Of nodes with different addresses, some may be told by these. -/
theorem map_filter_of_nodup {nodes : List Node} (once : (nodes.map Node.url).Nodup)
    (keep : Node → Bool) (leaf : Node → Bool) :
    (nodes.filter fun n => keep n && !leaf n).map Node.url =
      ((nodes.filter keep).map Node.url).filter fun u =>
        !((nodes.filter leaf).map Node.url).contains u := by
  rw [List.filter_map, List.filter_filter]
  congr 1
  refine List.filter_congr fun n hn => ?_
  have told : ((nodes.filter leaf).map Node.url).contains n.url = leaf n := by
    rw [Bool.eq_iff_iff, List.contains_iff_mem]
    constructor
    · intro h
      obtain ⟨m, hm, same⟩ := List.mem_map.1 h
      obtain ⟨hm, hl⟩ := List.mem_filter.1 hm
      rwa [← List.inj_on_of_nodup_map once hm hn same]
    · intro hl
      exact List.mem_map_of_mem (List.mem_filter.2 ⟨hn, hl⟩)
  show _ = (!List.contains _ n.url && keep n)
  rw [told, Bool.and_comm]

/-- A node at the last hop. -/
def atLastHop (n : Node) : Bool := n.remaining == 0

theorem asks_links (r : Run) (n : Node) :
    (r.as .links).asks n = ((r.as .content).asks n && !atLastHop n) := by
  have content : ¬ (r.as .content).Bare n := by
    rintro ⟨hf, -⟩
    cases hf
  have links : (r.as .links).Bare n ↔ n.remaining = 0 := by
    constructor
    · exact And.right
    · intro h
      exact ⟨rfl, h⟩
  unfold asks atLastHop
  simp only [content, links, decide_false, Bool.not_false, Bool.true_and]
  rw [Bool.and_comm]
  rfl

/-- **A link crawl walks the way of the content crawl.**  With the same settings, and if
nothing calls them off, both claim the same nodes in the same order, which is to say the same
addresses with the same hops left.  The link crawl makes the requests of the content crawl
without those for the nodes that were claimed at the last hop, and what it lists are the
claimed addresses in their order, the seed only on demand. -/
theorem flavors_abreast (r : Run) (site : Web) (clock : Nat) :
    let e : Env := { clock := clock }
    let content := (r.as .content).crawl site e
    let links := (r.as .links).crawl site e
    ∃ log log', (r.as .content).Reached site r.first e log content ∧
      (r.as .links).Reached site r.first e log' links ∧
      claimedNodes log = claimedNodes log' ∧
      content.progress.visited = links.progress.visited ∧
      links.env.requests.map Request.url =
        (content.env.requests.map Request.url).filter (fun u =>
          !(((claimedNodes log).filter atLastHop).map Node.url).contains u) ∧
      links.report.links =
        if r.profile.settings.walk.includeSource then (claimedNodes log).map Node.url
        else ((claimedNodes log).map Node.url).filter (· != r.seed.toText) := by
  intro e content links
  have quiet : e.Quiet := ⟨rfl, rfl⟩
  obtain ⟨log, reached⟩ := (r.as .content).reached_crawl site e
  have spent : content.stack = [] := stack_drain (cancelled_crawl _ _ quiet)
  obtain ⟨log', t, reached', abreast⟩ :=
    abreast_reached .links quiet quiet reached
  have ht : links = t := crawl_of_spent quiet reached' (abreast.stack ▸ spent)
  subst ht
  refine ⟨log, log', reached, reached', abreast.nodes, abreast.visited, ?_, ?_⟩
  · rw [asked_reached rfl reached', asked_reached rfl reached, ← abreast.nodes,
      ← map_filter_of_nodup (nodup_claimedNodes rfl reached)]
    congr 1
    exact List.filter_congr fun n _ => r.asks_links n
  · have listed := (balanced_reached rfl reached').links_eq rfl
    have urls : (claims log').map (fun m => m.node.url) = (claimedNodes log).map Node.url := by
      rw [abreast.nodes]
      unfold claimedNodes
      rw [List.map_map]
      rfl
    rw [listed, urls]
    split
    · next all =>
      refine List.filter_eq_self.2 fun u _ => ?_
      show (u != r.seed.toText || r.profile.settings.walk.includeSource) = true
      rw [all, Bool.or_true]
    · next some =>
      refine List.filter_congr fun u _ => ?_
      show (u != r.seed.toText || r.profile.settings.walk.includeSource) = _
      rw [eq_false_of_ne_true some, Bool.or_false]

end Run

end SiteWalk.Crawl
