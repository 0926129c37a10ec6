import SiteWalk.Proofs.Crawl.Reached

/-!
# Reports on the way

What a crawl has collected at some time is the beginning of what it collects in the end,
and how many nodes it has visited by then says which state it is in.

    s.report.Within (r.drain site s).report
-/

namespace SiteWalk.Crawl

/-! ## Parts of reports -/

/-- What one report has collected is the beginning of what the other has. -/
structure Report.Within (a b : Report) : Prop where
  contents : a.contents <+: b.contents
  links : a.links <+: b.links
  pages : a.pagesFetched ≤ b.pagesFetched
  failures : a.fetchFailures ≤ b.fetchFailures

namespace Report.Within

variable {a b c : Report}

theorem refl (a : Report) : a.Within a :=
  ⟨List.prefix_rfl, List.prefix_rfl, Nat.le_refl _, Nat.le_refl _⟩

theorem trans (h : a.Within b) (h' : b.Within c) : a.Within c :=
  ⟨h.contents.trans h'.contents, h.links.trans h'.links, Nat.le_trans h.pages h'.pages,
    Nat.le_trans h.failures h'.failures⟩

theorem record (a : Report) (o : Outcome) : a.Within (a.record o) where
  contents := List.prefix_append _ _
  links := List.prefix_append _ _
  pages := by
    show _ ≤ if o.stage.hasPage && o.fetched then a.pagesFetched + 1 else a.pagesFetched
    split <;> omega
  failures := by
    show _ ≤ if o.stage = .fetchFailed then a.fetchFailures + 1 else a.fetchFailures
    split <;> omega

end Report.Within

namespace Run

variable {r : Run} {site : Web} {first : Node} {e : Env} {log log' : List Mark} {s s' : State}

/-- What is collected is never given up. -/
theorem within_drain (s : State) : s.report.Within (r.drain site s).report := by
  fun_induction Run.drain r site s with
  | case1 s hs => exact .refl _
  | case2 s n rest hs off => exact ⟨List.prefix_rfl, List.prefix_rfl, Nat.le_refl _, Nat.le_refl _⟩
  | case3 s n rest hs on ih => exact (Report.Within.record s.report _).trans ih

/-- What a quiet crawl has collected is the beginning of what it comes to. -/
theorem within_crawl (quiet : e.Quiet) (h : Reached r site r.first e log s) :
    s.report.Within (r.crawl site e).report := by
  have hd := drain_of_reached quiet h
  have hw : s.report.Within (r.drain site s).report := within_drain s
  rw [hd] at hw
  exact hw

/-! ## States of quiet crawls -/

/-- As long as nothing calls a crawl off, its states follow one another. -/
theorem reached_unique (quiet : e.Quiet) (h : Reached r site first e log s)
    (h' : Reached r site first e log' s') (same : log.length = log'.length) : s = s' := by
  induction h generalizing log' s' with
  | start =>
    cases h' with
    | start => rfl
    | visit before' => simp at same
    | stop before' left off =>
      rw [(quiet_of_reached quiet before').1] at off
      cases off
  | @visit log s n rest before top on ih =>
    cases h' with
    | start => simp at same
    | @visit log' s' n' rest' before' top' on' =>
      obtain rfl : s = s' := ih before' (by simpa using same)
      rw [top] at top'
      cases top'
      rfl
    | stop before' left off =>
      rw [(quiet_of_reached quiet before').1] at off
      cases off
  | stop before left off =>
    rw [(quiet_of_reached quiet before).1] at off
    cases off

/-- A crawl that nothing calls off has neither mark on its report. -/
theorem unmarked_of_reached (quiet : e.Quiet) (h : Reached r site first e log s) :
    s.report.cancelled = false ∧ s.report.incomplete = false := by
  induction h with
  | start => exact ⟨rfl, rfl⟩
  | visit before top on ih => exact ih
  | stop before left off ih =>
    rw [(quiet_of_reached quiet before).1] at off
    cases off

end Run

end SiteWalk.Crawl
