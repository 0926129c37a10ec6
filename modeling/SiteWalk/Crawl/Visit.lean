import SiteWalk.Crawl.Basic
import SiteWalk.Crawl.Site
import SiteWalk.Profile

/-!
# Visiting a node

A visit has two halves.  The first claims the address and says whether its page
is needed; the second makes an outcome of the answer.  A child may be followed
one link less far than its parent.
-/

namespace SiteWalk.Crawl

/-- What holds for all nodes of a run. -/
structure Run where
  profile : Profile
  seed : Url
  flavor : Flavor

namespace Run

/-- What goes out with every request of a run. -/
def options (r : Run) : Settings.Request := r.profile.settings.request

/-- What a run gets to see. -/
def sees (r : Run) (site : Web) : Site := site.answer r.options

/-- What a link crawl lists for an address: all but the seed, and the seed on demand. -/
def listed (r : Run) (url : String) : Option String :=
  if r.flavor = .links ∧ (url ≠ r.seed.toText ∨ r.profile.settings.walk.includeSource) then
    some url
  else none

/-- What a content crawl takes from a page. -/
def unit? (r : Run) (url page : String) : Option ContentUnit :=
  if r.flavor = .links then none
  else
    let text := String.ofList (r.profile.content page.toList)
    if text.isEmpty then none
    else if r.profile.settings.content.urlOnTop then
      some ⟨url, "Source: " ++ url ++ "<br>\n" ++ text⟩
    else some ⟨url, text⟩

/-- The first half of a visit: an outcome, or the address of a page that is needed. -/
inductive Begun where
  | settled (o : Outcome)
  | needs (address : Url)

/-- Claims the address of a node. -/
def start (r : Run) (n : Node) (p : Progress) : Begun × Progress :=
  let (free, visited) := p.visited.insert n.url
  let p := { p with visited := visited }
  if !free then (.settled { url := n.url, stage := .skipped }, p)
  else if r.flavor = .links ∧ n.remaining = 0 then
    (.settled { url := n.url, stage := .terminal, link := r.listed n.url }, p)
  else
    match Url.parse n.url.toList with
    | .error _ =>
      (.settled { url := n.url, stage := .fetchFailed, link := r.listed n.url }, p)
    | .ok address => (.needs address, p)

/-- The nodes that the links of a page lead to and that nobody has claimed. -/
def children (r : Run) (address : Url) (page : String) (v : Visited) (remaining : Nat) :
    List Node :=
  ((r.profile.links r.seed address page.toList).filter (!v.contains ·)).map
    fun u => ⟨u, remaining⟩

/-- The second half of a visit, once the page has been asked for. -/
def finish (r : Run) (n : Node) (v : Visited) (address : Url) (answer : Answer) : Outcome :=
  let o : Outcome := { url := n.url, stage := .fetchFailed, fetched := true, link := r.listed n.url }
  match answer with
  | .error _ => o
  | .ok page =>
    let o := { o with content := r.unit? n.url page }
    match n.remaining with
    | 0 => { o with stage := .terminal }
    | k + 1 => { o with stage := .childrenScheduled, children := r.children address page v k }

/-- What a visit leaves behind. -/
structure Visit where
  outcome : Outcome
  progress : Progress
  env : Env
  deriving DecidableEq

/-- Visits a node: both halves, with the request between them after the wait that is
due. -/
def visit (r : Run) (site : Web) (n : Node) (p : Progress) (e : Env) : Visit :=
  match r.start n p with
  | (.settled o, p) => ⟨o, p, e⟩
  | (.needs address, p) =>
    let wait := (wait? r.profile.settings.walk.coolDown p.fetchCount).getD 0
    ⟨r.finish n p.visited address (r.sees site n.url),
      { p with fetchCount := p.fetchCount + 1 }, e.request n.url r.options wait⟩

/-! ## Lemmas -/

theorem children_of_start_settled {r : Run} {n : Node} {p q : Progress} {o : Outcome}
    (h : r.start n p = (.settled o, q)) : o.children = [] := by
  unfold start at h
  dsimp only at h
  split at h
  · cases h; rfl
  · split at h
    · cases h; rfl
    · split at h
      · cases h; rfl
      · cases h

theorem remaining_of_mem_finish {r : Run} {n c : Node} {v : Visited} {address : Url}
    {answer : Answer} (h : c ∈ (r.finish n v address answer).children) :
    c.remaining < n.remaining := by
  unfold finish at h
  cases answer with
  | error e => simp at h
  | ok page =>
    dsimp only at h
    split at h
    · simp at h
    · next k hk =>
      simp only [children, List.mem_map] at h
      obtain ⟨u, -, rfl⟩ := h
      show k < n.remaining
      omega

/-- The children of a visit may be followed less far than its node. -/
theorem remaining_of_mem_visit {r : Run} {site : Web} {n c : Node} {p : Progress} {e : Env}
    (h : c ∈ (r.visit site n p e).outcome.children) : c.remaining < n.remaining := by
  unfold visit at h
  split at h
  · next o q heq =>
    rw [children_of_start_settled heq] at h
    cases h
  · exact remaining_of_mem_finish h

end Run

end SiteWalk.Crawl
