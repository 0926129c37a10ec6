import Mathlib.Logic.Function.Iterate
import SiteWalk.Proofs.Crawl.Reached

/-!
# Work moment by moment

Those who visit nodes look for one and claim its address, wait, ask for the page and make
an outcome of the answer.  The work may be called off between any two of these moments, but
only who looks for a node takes notice.  So a page whose node was claimed by then is still
asked for, after the whole wait, and no other is (`Loop.Ceases`).

    (l.advance site)^[j] ⟨.looking s.holding, s.env⟩ =
      ⟨.ended (r.drain site s).holding, (r.drain site s).env⟩     for some j  (ended_drain)
    l.Ceases site m last                                         for some last  (ceases)
-/

namespace SiteWalk.Crawl

/-! ## Loops -/

/-- What comes of looking for a node. -/
inductive Look (σ ρ : Type) where
  | ended (result : ρ)
  /-- Something else than a visit was done. -/
  | on (s : σ)
  /-- A node is to be visited; `after` says what becomes of its outcome. -/
  | visit (r : Run) (n : Node) (p : Progress) (after : Outcome → Progress → ρ ⊕ σ)

/-- A loop that visits nodes until it is over. -/
structure Loop (σ ρ : Type) where
  /-- Looks for a node; `off` if the work was called off. -/
  look (off : Bool) (s : σ) : Look σ ρ
  ends (s : σ) : ∃ result, look true s = .ended result

/-- A node whose page is needed. -/
structure Job (σ ρ : Type) where
  run : Run
  node : Node
  address : Url
  /-- The address is claimed in it. -/
  progress : Progress
  after : Outcome → Progress → ρ ⊕ σ

namespace Job

variable {σ ρ : Type}

/-- The time to wait before the request. -/
def wait (j : Job σ ρ) : Nat :=
  (wait? j.run.profile.settings.walk.coolDown j.progress.fetchCount).getD 0

end Job

inductive Phase (σ ρ : Type) where
  | looking (s : σ)
  /-- The address is claimed, the wait is to come. -/
  | waiting (j : Job σ ρ)
  /-- The wait is over, the request is to come. -/
  | due (j : Job σ ρ)
  /-- The request is made, the answer is to come. -/
  | asked (j : Job σ ρ)
  | ended (result : ρ)

structure Moment (σ ρ : Type) where
  phase : Phase σ ρ
  env : Env

namespace Phase

variable {σ ρ : Type}

/-- The loop goes on, or it is over. -/
def resume : ρ ⊕ σ → Phase σ ρ
  | .inl result => .ended result
  | .inr s => .looking s

/-- The node that is claimed and not asked for yet. -/
def begun? : Phase σ ρ → Option Node
  | .waiting j => some j.node
  | .due j => some j.node
  | _ => none

theorem begun?_resume (x : ρ ⊕ σ) : (resume x).begun? = none := by
  cases x <;> rfl

end Phase

namespace Env

/-- Time passes. -/
def pass (e : Env) (wait : Nat) : Env := { e with clock := e.clock + wait }

end Env

section

variable {σ ρ : Type}

/-- The work is called off. -/
def Moment.callOff (m : Moment σ ρ) : Moment σ ρ :=
  { m with env := { m.env with cancelled := true } }

namespace Loop

/-- The next moment. -/
def advance (l : Loop σ ρ) (site : Web) (m : Moment σ ρ) : Moment σ ρ :=
  match m.phase with
  | .looking s =>
    match l.look m.env.cancelled s with
    | .ended result => { m with phase := .ended result }
    | .on s => { m with phase := .looking s }
    | .visit r n p after =>
      match r.start n p with
      | (.settled o, p) => { m with phase := .resume (after o p) }
      | (.needs address, p) => { m with phase := .waiting ⟨r, n, address, p, after⟩ }
  | .waiting j => ⟨.due j, m.env.pass j.wait⟩
  | .due j => ⟨.asked j, m.env.request j.node.url j.run.options 0⟩
  | .asked j =>
    let answer := j.run.sees site j.node.url
    let o := j.run.finish j.node j.progress.visited j.address answer
    { m with phase := .resume (j.after o j.progress.asked) }
  | .ended _ => m

/-! ## Visits -/

variable (l : Loop σ ρ) (site : Web) {m : Moment σ ρ}

/-- **The moments of a visit make up the visit.** -/
theorem advance_visit {s : σ} {e : Env} {r : Run} {n : Node} {p : Progress}
    {after : Outcome → Progress → ρ ⊕ σ} (h : l.look e.cancelled s = .visit r n p after) :
    let v := r.visit site n p e
    ∃ j, (l.advance site)^[j] ⟨.looking s, e⟩ = ⟨.resume (after v.outcome v.progress), v.env⟩ := by
  intro v
  have first : l.advance site ⟨.looking s, e⟩ =
      match r.start n p with
      | (.settled o, p) => ⟨.resume (after o p), e⟩
      | (.needs address, p) => ⟨.waiting ⟨r, n, address, p, after⟩, e⟩ := by
    simp only [advance, h]
  have hv : v = r.visit site n p e := rfl
  unfold Run.visit at hv
  cases hb : r.start n p with
  | mk begun q =>
    rw [hb] at first hv
    cases begun with
    | settled o =>
      refine ⟨1, ?_⟩
      rw [hv]
      exact first
    | needs address =>
      refine ⟨4, ?_⟩
      rw [hv, Function.iterate_succ_apply, first]
      rfl

/-! ## Calling off -/

/-- What comes of calling the work off at a moment: the page of the node that is begun is
still asked for, if there is one, and then the loop is over. -/
structure Ceases (l : Loop σ ρ) (site : Web) (m : Moment σ ρ) (last : List Request) : Prop where
  urls : last.map Request.url = (m.phase.begun?.map Node.url).toList
  requests : ∀ j, ((l.advance site)^[j] m.callOff).env.requests <+: m.env.requests ++ last
  all : ∀ j, 2 ≤ j → ((l.advance site)^[j] m.callOff).env.requests = m.env.requests ++ last
  ended : ∀ j, 4 ≤ j → ∃ result, ((l.advance site)^[j] m.callOff).phase = .ended result

/-- Without a node that is begun, nothing more is asked for. -/
theorem advance_off (off : m.env.cancelled = true) (free : m.phase.begun? = none) :
    (l.advance site m).env = m.env ∧ (l.advance site m).phase.begun? = none := by
  obtain ⟨phase, e⟩ := m
  cases phase with
  | looking s =>
    obtain ⟨result, h⟩ := l.ends s
    have off : e.cancelled = true := off
    have ended : l.advance site ⟨.looking s, e⟩ = ⟨.ended result, e⟩ := by
      simp only [advance, off, h]
    rw [ended]
    exact ⟨rfl, rfl⟩
  | waiting j | due j => cases free
  | asked j => exact ⟨rfl, Phase.begun?_resume _⟩
  | ended result => exact ⟨rfl, rfl⟩

theorem iterate_off (off : m.env.cancelled = true) (free : m.phase.begun? = none) (j : Nat) :
    ((l.advance site)^[j] m).env = m.env := by
  induction j generalizing m with
  | zero => rfl
  | succ j ih =>
    obtain ⟨he, hb⟩ := advance_off l site off free
    rw [Function.iterate_succ_apply, ih (by rw [he]; exact off) hb, he]

theorem advance_ended {result : ρ} (h : m.phase = .ended result) : l.advance site m = m := by
  unfold advance
  rw [h]

/-- Where a loop goes on, it is over with the next look. -/
theorem ended_of_resume {x : ρ ⊕ σ} (off : m.env.cancelled = true) (h : m.phase = .resume x) :
    ∃ result, (l.advance site m).phase = .ended result := by
  obtain ⟨phase, e⟩ := m
  obtain rfl : phase = .resume x := h
  cases x with
  | inl result => exact ⟨result, rfl⟩
  | inr s =>
    obtain ⟨result, hl⟩ := l.ends s
    have off : e.cancelled = true := off
    exact ⟨result, by simp only [advance, Phase.resume, off, hl]⟩

theorem ended_of_asked {j : Job σ ρ} (off : m.env.cancelled = true) (h : m.phase = .asked j) :
    ∃ result, ((l.advance site)^[2] m).phase = .ended result := by
  obtain ⟨phase, e⟩ := m
  obtain rfl : phase = .asked j := h
  exact ended_of_resume l site (m := l.advance site ⟨.asked j, e⟩) off rfl

theorem ended_of_due {j : Job σ ρ} (off : m.env.cancelled = true) (h : m.phase = .due j) :
    ∃ result, ((l.advance site)^[3] m).phase = .ended result := by
  obtain ⟨phase, e⟩ := m
  obtain rfl : phase = .due j := h
  have off : e.cancelled = true := off
  refine ended_of_asked l site (m := l.advance site ⟨.due j, e⟩) ?_ rfl
  show (e.cancelled || _) = true
  rw [off, Bool.true_or]

/-- Work that was called off is over after four moments. -/
theorem ended_of_off (off : m.env.cancelled = true) {i : Nat} (hi : 4 ≤ i) :
    ∃ result, ((l.advance site)^[i] m).phase = .ended result := by
  have early : ∃ k, k ≤ 4 ∧ ∃ result, ((l.advance site)^[k] m).phase = .ended result := by
    obtain ⟨phase, e⟩ := m
    cases phase with
    | looking s => exact ⟨1, by omega, ended_of_resume l site (x := .inr s) off rfl⟩
    | waiting j =>
      exact ⟨4, by omega, ended_of_due l site (m := l.advance site ⟨.waiting j, e⟩) off rfl⟩
    | due j => exact ⟨3, by omega, ended_of_due l site off rfl⟩
    | asked j => exact ⟨2, by omega, ended_of_asked l site off rfl⟩
    | ended result => exact ⟨0, by omega, result, rfl⟩
  obtain ⟨k, hk, result, h⟩ := early
  have hik : i = i - k + k := by omega
  refine ⟨result, ?_⟩
  rw [hik, Function.iterate_add_apply, Function.iterate_fixed (advance_ended l site h)]
  exact h

/-- **Of work that is called off, one request is left at most**, that for the node which is
begun. -/
theorem ceases (m : Moment σ ρ) : ∃ last, l.Ceases site m last := by
  obtain ⟨phase, e⟩ := m
  have ended := fun j => ended_of_off l site (m := (Moment.mk phase e).callOff) rfl (i := j)
  -- What is asked for is settled as soon as no node is begun.
  cases phase with
  | looking | asked | ended =>
    refine ⟨[], rfl, ?_, ?_, ended⟩
    · intro j
      rw [iterate_off l site rfl rfl, List.append_nil]
      exact List.prefix_rfl
    · intro j _
      rw [iterate_off l site rfl rfl, List.append_nil]
      rfl
  | due job =>
    have settled : ∀ j, ((l.advance site)^[j + 1] (Moment.mk (.due job) e).callOff).env.requests =
        e.requests ++ [⟨job.node.url, job.run.options, e.clock⟩] := by
      intro j
      rw [Function.iterate_succ_apply, iterate_off l site rfl rfl]
      rfl
    refine ⟨[⟨job.node.url, job.run.options, e.clock⟩], rfl, ?_, ?_, ended⟩
    · intro j
      cases j with
      | zero => exact List.prefix_append _ _
      | succ j => exact (settled j).symm ▸ List.prefix_rfl
    · intro j hj
      rw [show j = j - 1 + 1 by omega]
      exact settled _
  | waiting job =>
    have settled : ∀ j, ((l.advance site)^[j + 2] (Moment.mk (.waiting job) e).callOff).env.requests =
        e.requests ++ [⟨job.node.url, job.run.options, e.clock + job.wait⟩] := by
      intro j
      rw [Function.iterate_add_apply, iterate_off l site rfl rfl]
      rfl
    refine ⟨[⟨job.node.url, job.run.options, e.clock + job.wait⟩], rfl, ?_, ?_, ended⟩
    · intro j
      match j with
      | 0 | 1 => exact List.prefix_append _ _
      | j + 2 => exact (settled j).symm ▸ List.prefix_rfl
    · intro j hj
      rw [show j = j - 2 + 2 by omega]
      exact settled _

end Loop

end

/-! ## Crawls -/

/-- What a crawl has on its hands between two nodes. -/
structure Holding where
  stack : List Node
  progress : Progress
  report : Report

def State.holding (s : State) : Holding := ⟨s.stack, s.progress, s.report⟩

namespace Run

/-- The loop of a crawl. -/
def loop (r : Run) : Loop Holding Holding where
  look off h :=
    match h.stack with
    | [] => .ended h
    | n :: rest =>
      if off then .ended { h with report := { h.report with cancelled := true } }
      else .visit r n h.progress fun o p => .inr ⟨o.children ++ rest, p, h.report.record o⟩
  ends h := by
    cases hs : h.stack with
    | nil => exact ⟨h, rfl⟩
    | cons n rest => exact ⟨_, if_pos rfl⟩

/-- The moment at which a crawl begins. -/
def begin (r : Run) (e : Env) : Moment Holding Holding :=
  ⟨.looking (State.initial r.first e).holding, e⟩

/-- **The moments of a crawl make up the crawl**, as long as nobody calls it off between
them. -/
theorem ended_drain (r : Run) (site : Web) (s : State) :
    ∃ j, (r.loop.advance site)^[j] ⟨.looking s.holding, s.env⟩ =
      ⟨.ended (r.drain site s).holding, (r.drain site s).env⟩ := by
  fun_induction Run.drain r site s with
  | case1 s hs =>
    have hl : r.loop.look s.env.cancelled s.holding = .ended s.holding := by
      simp [loop, State.holding, hs]
    refine ⟨1, ?_⟩
    simp only [Function.iterate_one, Loop.advance, hl]
  | case2 s n rest hs off =>
    have hl : r.loop.look s.env.cancelled s.holding =
        .ended { s.holding with report := { s.report with cancelled := true } } := by
      simp [loop, State.holding, hs, off]
    refine ⟨1, ?_⟩
    simp only [Function.iterate_one, Loop.advance, hl]
    rfl
  | case3 s n rest hs on ih =>
    have hl : r.loop.look s.env.cancelled s.holding = .visit r n s.progress fun o p =>
        .inr ⟨o.children ++ rest, p, s.report.record o⟩ := by
      simp [loop, State.holding, hs, on]
    obtain ⟨i, hi⟩ := Loop.advance_visit r.loop site hl
    obtain ⟨j, hj⟩ := ih
    refine ⟨j + i, ?_⟩
    rw [Function.iterate_add_apply, hi]
    exact hj

end Run

end SiteWalk.Crawl
