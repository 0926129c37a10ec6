import SiteWalk.Proofs.Crawl.Within

/-!
# Crawls that are cut short

A crawl may be called off while one of its requests is being answered.  Until then it goes
the way of the crawl that nothing calls off (`State.hushed`), and from then on it asks for
nothing.  Whether the mark on its report is set depends on what is left: nodes that need no
request may come after the last one that does.

    (r.crawl site (.start (some k))).env.requests = (r.crawl site {}).env.requests.take k
-/

namespace SiteWalk.Crawl

/-! ## Environments -/

namespace Env

/-- The environment in which nothing calls the crawl off. -/
def hushed (e : Env) : Env := { e with cancelled := false, cancelAt := none }

@[simp] theorem requests_hushed (e : Env) : e.hushed.requests = e.requests := rfl

theorem hushed_request (e : Env) (url : String) (o : Settings.Request) (wait : Nat) :
    (e.request url o wait).hushed = e.hushed.request url o wait := by
  simp [hushed, request]

/-- The crawl is called off at the request number `k`, and not before. -/
structure Due (k : Nat) (e : Env) : Prop where
  cancelAt_eq : e.cancelAt = some k
  length_le : e.requests.length ≤ k
  cancelled_iff : e.cancelled = true ↔ e.requests.length = k

theorem due_start (k : Nat) : (start (some k)).Due k where
  cancelAt_eq := rfl
  length_le := Nat.zero_le k
  cancelled_iff := by
    show ((some k == some 0) = true) ↔ 0 = k
    rw [beq_iff_eq, Option.some_inj]
    exact eq_comm

theorem Due.request {k : Nat} {e : Env} (h : e.Due k) (on : e.cancelled = false) (url : String)
    (o : Settings.Request) (wait : Nat) : (e.request url o wait).Due k := by
  have hne : e.requests.length ≠ k := by
    intro hk
    rw [h.cancelled_iff.2 hk] at on
    cases on
  have hle := h.length_le
  have hlen : (e.request url o wait).requests.length = e.requests.length + 1 := by simp
  refine ⟨h.cancelAt_eq, by omega, ?_⟩
  rw [hlen]
  show ((e.cancelled || e.cancelAt == some (e.request url o wait).requests.length) = true) ↔ _
  rw [on, h.cancelAt_eq, hlen, Bool.false_or, beq_iff_eq, Option.some_inj]
  exact eq_comm

end Env

/-! ## States -/

/-- The same state of the crawl that nothing calls off. -/
def State.hushed (s : State) : State := { s with env := s.env.hushed }

/-- One crawl is the beginning of the other, which nothing calls off. -/
structure CutShort (k : Nat) (cut whole : State) : Prop where
  requests : cut.env.requests = whole.env.requests.take k
  report : cut.report.Within whole.report
  /-- Unless the report is marked, nothing is missing. -/
  same_or : cut.report = whole.report ∨
    cut.report.cancelled = true ∧ k ≤ whole.env.requests.length

namespace Run

variable {r : Run} {site : Web} {n : Node} {p : Progress} {e : Env} {s : State} {k : Nat}

theorem env_visit_hushed : (r.visit site n p e).env.hushed = (r.visit site n p e.hushed).env := by
  unfold visit
  split
  · rfl
  · exact Env.hushed_request _ _ _ _

theorem due_visit (h : e.Due k) (on : e.cancelled = false) : (r.visit site n p e).env.Due k := by
  have hc := r.course site n p e
  generalize r.visit site n p e = v at hc
  cases hc with
  | skipped | bare | unreadable => exact h
  | failed | last | expanded => exact h.request on _ _ _

theorem hushed_step (n : Node) (rest : List Node) (s : State) :
    (r.step site n rest s).hushed = r.step site n rest s.hushed := by
  obtain ⟨ho, hp⟩ := r.visit_env site n s.progress s.env s.env.hushed
  have he : (r.visit site n s.progress s.env).env.hushed =
      (r.visit site n s.progress s.env.hushed).env := env_visit_hushed
  unfold step State.hushed
  dsimp only
  rw [ho, hp, he]

/-- **What is left of a crawl that will be called off** is the beginning of what is left of
it otherwise. -/
theorem cutShort_drain (due : s.env.Due k) :
    CutShort k (r.drain site s) (r.drain site s.hushed) := by
  fun_induction Run.drain r site s with
  | case1 s hs =>
    have hw : r.drain site s.hushed = s.hushed := drain_nil hs
    rw [hw]
    refine ⟨?_, .refl _, .inl rfl⟩
    exact (List.take_of_length_le due.length_le).symm
  | case2 s n rest hs off =>
    have hk : s.env.requests.length = k := due.cancelled_iff.1 off
    -- The requests made until now are the first ones of the whole crawl.
    have hp : s.env.requests <+: (r.drain site s.hushed).env.requests := requests_drain s.hushed
    have hw : s.report.Within (r.drain site s.hushed).report := within_drain s.hushed
    refine ⟨?_, ⟨hw.contents, hw.links, hw.pages, hw.failures⟩, .inr ⟨rfl, ?_⟩⟩
    · rw [← hk]
      exact List.prefix_iff_eq_take.1 hp
    · rw [← hk]
      exact hp.length_le
  | case3 s n rest hs on ih =>
    have on : s.env.cancelled = false := by simpa using on
    have hw : r.drain site s.hushed = r.drain site (r.step site n rest s).hushed := by
      rw [hushed_step]
      exact drain_on hs rfl
    rw [hw]
    exact ih (due_visit due on)

/-- **A crawl that is called off is the beginning of the whole crawl.**  If it is called off
while the request number `k` is being answered, or before it begins for `k = 0`, its requests
are the first `k` of the whole crawl, or all if there are fewer, made at the same times.
What it has collected by then is the beginning of what the whole crawl collects.  Only if its
report is marked as called off can something be missing, and then `k` requests were made. -/
theorem crawl_cutShort (r : Run) (site : Web) (k : Nat) :
    let whole := r.crawl site (.start none)
    let cut := r.crawl site (.start (some k))
    cut.env.requests = whole.env.requests.take (min k whole.env.requests.length) ∧
      cut.env.requests.length = min k whole.env.requests.length ∧
      cut.report.contents <+: whole.report.contents ∧ cut.report.links <+: whole.report.links ∧
      cut.report.pagesFetched ≤ whole.report.pagesFetched ∧
      cut.report.fetchFailures ≤ whole.report.fetchFailures ∧
      (cut.report = whole.report ∨
        cut.report.cancelled = true ∧ k ≤ whole.env.requests.length) := by
  intro whole cut
  have h : CutShort k cut whole := cutShort_drain (s := .initial r.first (.start (some k)))
    (Env.due_start k)
  have hr : cut.env.requests = whole.env.requests.take (min k whole.env.requests.length) := by
    rw [h.requests, List.take_eq_take_min]
  refine ⟨hr, ?_, h.report.contents, h.report.links, h.report.pages, h.report.failures, h.same_or⟩
  rw [h.requests, List.length_take]

end Run

end SiteWalk.Crawl
