import SiteWalk.Proofs.Crawl.Visit

/-!
# The states of a crawl

`Reached r site first e log s` says that a crawl from the node `first` in the
environment `e` passes the state `s`, and that `log` holds the nodes visited until
then with the stages that they came to.  A crawl that is called off ends in the
state it has reached, marked as called off.

    ∃ log, Reached r site r.first e log (r.crawl site e)                (reached_crawl)
    e.Quiet → Reached r site first e log s →
      r.drain site s = r.drain site (State.initial first e)             (drain_of_reached)
-/

namespace SiteWalk.Crawl

/-- A visited node and the stage that it came to. -/
structure Mark where
  node : Node
  stage : Stage
  deriving DecidableEq

/-- The visits that claimed their node. -/
def claims (log : List Mark) : List Mark := log.filter fun m => m.stage ≠ .skipped

theorem claims_append (a b : List Mark) : claims (a ++ b) = claims a ++ claims b := by
  unfold claims
  rw [List.filter_append]

namespace State

/-- A crawl that has only its first node. -/
def initial (first : Node) (e : Env) : State := { stack := [first], env := e }

/-- The state of a crawl that is called off. -/
def calledOff (s : State) : State := { s with report := { s.report with cancelled := true } }

end State

namespace Run

/-- The node that a crawl begins with. -/
def first (r : Run) : Node := ⟨r.seed.toText, r.profile.settings.walk.depth⟩

/-- What the log notes of the visit of `n` in a state. -/
def mark (r : Run) (site : Web) (n : Node) (s : State) : Mark :=
  ⟨n, (r.visit site n s.progress s.env).outcome.stage⟩

inductive Reached (r : Run) (site : Web) (first : Node) (e : Env) : List Mark → State → Prop
  | start : Reached r site first e [] (.initial first e)
  | visit {log : List Mark} {s : State} {n : Node} {rest : List Node}
      (before : Reached r site first e log s) (top : s.stack = n :: rest)
      (on : s.env.cancelled = false) :
      Reached r site first e (log ++ [r.mark site n s]) (r.step site n rest s)
  | stop {log : List Mark} {s : State} (before : Reached r site first e log s)
      (left : s.stack ≠ []) (off : s.env.cancelled = true) :
      Reached r site first e log s.calledOff

variable {r : Run} {site : Web} {first : Node} {e : Env}

/-- The state after a visit whose result is known. -/
theorem Reached.visited {log : List Mark} {s : State} {n : Node} {rest : List Node} {v : Visit}
    (before : Reached r site first e log s) (top : s.stack = n :: rest)
    (on : s.env.cancelled = false) (visit : r.visit site n s.progress s.env = v) :
    Reached r site first e (log ++ [⟨n, v.outcome.stage⟩])
      ⟨v.outcome.children ++ rest, v.progress, s.report.record v.outcome, v.env⟩ := by
  subst visit
  exact before.visit top on

theorem drain_nil {s : State} (h : s.stack = []) : r.drain site s = s := by
  unfold drain
  split
  · rfl
  · next heq => rw [h] at heq; cases heq

theorem drain_off {s : State} (h : s.stack ≠ []) (off : s.env.cancelled = true) :
    r.drain site s = s.calledOff := by
  unfold drain
  split
  · next heq => exact absurd heq h
  · rw [if_pos off]
    rfl

theorem drain_on {s : State} {n : Node} {rest : List Node} (h : s.stack = n :: rest)
    (on : s.env.cancelled = false) :
    r.drain site s = r.drain site (r.step site n rest s) := by
  conv => lhs; unfold drain
  split
  · next heq => rw [h] at heq; cases heq
  · next heq =>
    rw [h] at heq
    cases heq
    rw [if_neg (by simp [on])]

/-- A crawl ends in a state that it reaches. -/
theorem reached_drain {log : List Mark} {s : State} (h : Reached r site first e log s) :
    ∃ log', Reached r site first e (log ++ log') (r.drain site s) := by
  fun_induction Run.drain r site s generalizing log with
  | case1 s hs => exact ⟨[], by rwa [List.append_nil]⟩
  | case2 s n rest hs off =>
    exact ⟨[], by rw [List.append_nil]; exact h.stop (by simp [hs]) off⟩
  | case3 s n rest hs on ih =>
    obtain ⟨log', h'⟩ := ih (h.visit hs (by simpa using on))
    exact ⟨r.mark site n s :: log', by simpa using h'⟩

/-- The whole crawl is one of the states reached. -/
theorem reached_crawl (r : Run) (site : Web) (e : Env) :
    ∃ log, Reached r site r.first e log (r.crawl site e) := by
  have h₀ : Reached r site r.first e [] (.initial r.first e) := .start
  obtain ⟨log, h⟩ := reached_drain h₀
  rw [List.nil_append] at h
  exact ⟨log, h⟩

/-- A quiet crawl stays quiet. -/
theorem quiet_of_reached {log : List Mark} {s : State} (quiet : e.Quiet)
    (h : Reached r site first e log s) : s.env.Quiet := by
  induction h with
  | start => exact quiet
  | visit before top on ih => exact quiet_visit ih
  | stop before left off ih => rw [ih.1] at off; cases off

/-- What is left to do in a state that a quiet crawl reaches leads to the end of the crawl. -/
theorem drain_of_reached {log : List Mark} {s : State} (quiet : e.Quiet)
    (h : Reached r site first e log s) :
    r.drain site s = r.drain site (.initial first e) := by
  induction h with
  | start => rfl
  | visit before top on ih => rw [← ih, drain_on top on]
  | stop before left off ih =>
    rw [(quiet_of_reached quiet before).1] at off
    cases off

/-- The addresses asked for after a step: that of the node joins them if its page was asked
for. -/
theorem urls_step (n : Node) (rest : List Node) (s : State) :
    (r.step site n rest s).env.requests.map Request.url =
      s.env.requests.map Request.url ++
        if (r.visit site n s.progress s.env).outcome.fetched then [n.url] else [] := by
  show (r.visit site n s.progress s.env).env.requests.map Request.url = _
  rw [requests_visit]
  split <;> simp

theorem requests_step (n : Node) (rest : List Node) (s : State) :
    s.env.requests <+: (r.step site n rest s).env.requests := by
  show s.env.requests <+: (r.visit site n s.progress s.env).env.requests
  rw [requests_visit]
  exact List.prefix_append _ _

/-- Requests are only added. -/
theorem requests_drain (s : State) :
    s.env.requests <+: (r.drain site s).env.requests := by
  fun_induction Run.drain r site s with
  | case1 s hs => exact List.prefix_rfl
  | case2 s n rest hs off => exact List.prefix_rfl
  | case3 s n rest hs on ih => exact (requests_step n rest s).trans ih

end Run

end SiteWalk.Crawl
