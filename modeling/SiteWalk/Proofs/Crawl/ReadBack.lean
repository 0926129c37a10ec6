import SiteWalk.Crawl.Form
import SiteWalk.Proofs.Settings.ReadBack

/-!
# Progress and reports are read back

Reports are read back from what is written of them, and so is progress, but for the order in
which its addresses were claimed: they are written in the order of their texts.

    r.InRange → Report.ofDatum? r.toDatum = some r                (Report.ofDatum?_toDatum)
    p.fetchCount < bound64 →
      ∃ q, Progress.ofDatum? p.toDatum = some q ∧ q.Same p      (Progress.ofDatum?_toDatum)
-/

namespace SiteWalk.Crawl

open Datum

/-! ## Claimed addresses -/

namespace Visited

/-- The same addresses are claimed. -/
def Same (v w : Visited) : Prop := ∀ u, u ∈ v.urls ↔ u ∈ w.urls

theorem mem_insert {v : Visited} {url u : String} :
    u ∈ (v.insert url).2.urls ↔ u = url ∨ u ∈ v.urls := by
  unfold insert
  split
  · next old =>
    constructor
    · exact .inr
    · rintro (rfl | h)
      · exact old
      · exact h
  · exact List.mem_cons

theorem mem_ofList {urls : List String} {u : String} : u ∈ (ofList urls).urls ↔ u ∈ urls := by
  have fold : ∀ v : Visited, u ∈ (urls.foldl (fun v u => (v.insert u).2) v).urls ↔
      u ∈ v.urls ∨ u ∈ urls := by
    induction urls with
    | nil => simp
    | cons url urls ih =>
      intro v
      rw [List.foldl_cons, ih, mem_insert, List.mem_cons, or_left_comm, or_assoc]
  rw [ofList, fold]
  simp [empty]

theorem ofDatum?_toDatum (v : Visited) :
    ofDatum? v.toDatum = some (ofList v.sorted) := by
  have urls : list? text? (texts v.sorted) = some v.sorted := list?_map fun _ _ => rfl
  simp [ofDatum?, toDatum, fields?, required?, given?, urls]

theorem same_sorted (v : Visited) : (ofList v.sorted).Same v := by
  intro u
  rw [mem_ofList]
  unfold sorted
  exact List.mem_mergeSort

end Visited

/-! ## Progress -/

namespace Progress

/-- As many fetches, and the same claimed addresses. -/
structure Same (p q : Progress) : Prop where
  visited : p.visited.Same q.visited
  fetchCount : p.fetchCount = q.fetchCount

theorem ofDatum?_toDatum {p : Progress} (h : p.fetchCount < bound64) :
    ∃ q, ofDatum? p.toDatum = some q ∧ q.Same p := by
  refine ⟨⟨Visited.ofList p.visited.sorted, p.fetchCount⟩, ?_, ⟨p.visited.same_sorted, rfl⟩⟩
  simp [ofDatum?, toDatum, fields?, required?, given?, Visited.ofDatum?_toDatum, nat?_int h]

theorem plain_toDatum {p : Progress} (h : p.fetchCount < bound64) : Json.Plain p.toDatum := by
  have visited : Json.Plain p.visited.toDatum := by
    refine .record ?_
    simp only [List.forall_mem_cons]
    exact ⟨plain_list fun u _ => .text u, List.forall_mem_nil _⟩
  refine .record ?_
  simp only [List.forall_mem_cons]
  exact ⟨visited, plain_nat h, List.forall_mem_nil _⟩

end Progress

/-! ## Reports -/

theorem Flavor.ofDatum?_toDatum (f : Flavor) : ofDatum? f.toDatum = some f := by
  cases f <;> rfl

theorem ContentUnit.ofDatum?_toDatum (c : ContentUnit) : ofDatum? c.toDatum = some c := by
  simp [ofDatum?, toDatum, fields?, required?, given?, text?]

namespace Report

/-- The numbers are of 64 bits. -/
structure InRange (r : Report) : Prop where
  pagesFetched : r.pagesFetched < bound64
  fetchFailures : r.fetchFailures < bound64

theorem ofDatum?_toDatum {r : Report} (h : r.InRange) : ofDatum? r.toDatum = some r := by
  have contents : list? ContentUnit.ofDatum? (.list (r.contents.map ContentUnit.toDatum)) =
      some r.contents := list?_map fun c _ => c.ofDatum?_toDatum
  have links : list? text? (texts r.links) = some r.links := list?_map fun _ _ => rfl
  simp [ofDatum?, toDatum, fields?, required?, orDefault?, given?, contents, links,
    nat?_int h.pagesFetched, nat?_int h.fetchFailures, bool?]

theorem plain_toDatum {r : Report} (h : r.InRange) : Json.Plain r.toDatum := by
  have contents : Json.Plain (.list (r.contents.map ContentUnit.toDatum)) := by
    refine plain_list fun c _ => .record ?_
    simp only [List.forall_mem_cons]
    exact ⟨.text _, .text _, List.forall_mem_nil _⟩
  refine .record ?_
  simp only [List.forall_mem_cons]
  exact ⟨contents, plain_list fun u _ => .text u, plain_nat h.pagesFetched,
    plain_nat h.fetchFailures, .bool _, .bool _, List.forall_mem_nil _⟩

end Report

end SiteWalk.Crawl
