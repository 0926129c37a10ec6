import SiteWalk.Crawl.Descent
import SiteWalk.Crawl.Visit

/-!
# Traversal

A crawl takes nodes from a stack.  The children of a node go on top in the order
of the page, so parents come before their children and a link's whole subtree
before the next link.
-/

namespace SiteWalk.Crawl

/-- A crawl on its way. -/
structure State where
  stack : List Node
  progress : Progress := {}
  report : Report := {}
  env : Env := {}

namespace State

/-- How far each waiting node may still be followed, top first. -/
def depths (s : State) : List Nat := s.stack.map Node.remaining

end State

namespace Run

/-- The state after the visit of `n`, with `rest` below it on the stack. -/
def step (r : Run) (site : Web) (n : Node) (rest : List Node) (s : State) : State :=
  let v := r.visit site n s.progress s.env
  { stack := v.outcome.children ++ rest
    progress := v.progress
    report := s.report.record v.outcome
    env := v.env }

theorem step_shrinks (r : Run) (site : Web) (n : Node) (rest : List Node) (s : State) :
    Shrinks (r.step site n rest s).depths (n.remaining :: rest.map Node.remaining) := by
  unfold step State.depths
  simp only [List.map_append]
  refine .intro (List.Sublist.refl _) fun m hm => ?_
  obtain ⟨c, hc, rfl⟩ := List.mem_map.1 hm
  exact remaining_of_mem_visit hc

/-- Visits nodes until none is left or the crawl is called off. -/
def drain (r : Run) (site : Web) (s : State) : State :=
  match _h : s.stack with
  | [] => s
  | n :: rest =>
    if s.env.cancelled then { s with report := { s.report with cancelled := true } }
    else r.drain site (r.step site n rest s)
termination_by s.depths
decreasing_by
  have := r.step_shrinks site n rest s
  simpa [State.depths, _h] using this

/-- A whole crawl from the seed. -/
def crawl (r : Run) (site : Web) (e : Env) : State :=
  r.drain site
    { stack := [⟨r.seed.toText, r.profile.settings.walk.depth⟩], env := e }

end Run

end SiteWalk.Crawl
