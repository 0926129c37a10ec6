import SiteWalk.Proofs.Batch.Runs
import SiteWalk.Proofs.Link.Excluded

/-!
# Pages that are left out

No run asks for an address that has one of the excluded words among its segments, unless it
begins there.  A word is excluded as the settings have it, and the segment for a page of that
name is the word only if it is ASCII; no address has any other word among its segments.

    Link.hasSegmentIn r.profile.excluded u = true → u.toText ≠ r.seed.toText →
      r.Avoids u.toText                                             (avoids_of_hasSegmentIn)
-/

namespace SiteWalk

namespace Crawl.Run

variable {r : Run} {site : Web} {start : String} {asked : List String} {k : Nat} {u : Url}

/-- A chain leads to no address with an excluded segment, unless it starts there. -/
theorem Chain.not_excluded (web : u.isWeb = true) (tidy : u.Tidy)
    (barred : Link.hasSegmentIn r.profile.excluded u = true) (other : u.toText ≠ start) :
    ¬ Chain r site start asked k u.toText := by
  intro chain
  generalize same : u.toText = url at chain
  cases chain with
  | first => exact other same
  | link before got leads =>
    obtain ⟨address, page, read, -, listed⟩ := leads
    obtain ⟨href, -, v, link, sameV, may⟩ := Profile.mem_links.1 listed
    obtain ⟨webV, tidyV⟩ := Link.tidy_of_resolve? read link
    rw [Link.hasSegmentIn_congr web tidy webV tidyV (same.trans sameV.symm)] at barred
    rw [Profile.accepts_of_hasSegmentIn barred] at may
    cases may

theorem InReach.not_mem {first : Node} (reach : InReach r site first asked)
    (web : u.isWeb = true) (tidy : u.Tidy)
    (barred : Link.hasSegmentIn r.profile.excluded u = true) (other : u.toText ≠ first.url) :
    u.toText ∉ asked := by
  intro there
  obtain ⟨⟨k, -, chain⟩, -⟩ := reach _ there
  exact chain.not_excluded web tidy barred other

open Batch in
/-- The run never asks for the address, neither when it is done at once nor when its steps are
processed between the steps of others. -/
def Avoids (r : Run) (url : String) : Prop :=
  (∀ site e, e.requests = [] → ∀ log s, r.Reached site r.first e log s →
    url ∉ s.env.requests.map Request.url) ∧
  ∀ (σ : Type) [Store σ] [LawfulStore σ] (site : Web) (e : Env) (calls : List Call) (run : Int),
    (∃ y ∈ journal site calls (⟨Store.empty, e⟩ : Session σ), y.Starts r run) →
    url ∉ askedFor run (journal site calls (⟨Store.empty, e⟩ : Session σ))

/-- **No run asks for an address with an excluded segment**, unless it begins there. -/
theorem avoids_of_hasSegmentIn (web : u.isWeb = true) (tidy : u.Tidy)
    (barred : Link.hasSegmentIn r.profile.excluded u = true) (other : u.toText ≠ r.seed.toText) :
    r.Avoids u.toText := by
  constructor
  · intro site e he log s reached
    exact (traced_reached he reached).inReach.not_mem web tidy barred other
  · intro σ _ _ site e calls run started
    obtain ⟨y, hy, starts⟩ := started
    have replays := Batch.replays_trail (Batch.trail_journal (σ := σ) site e calls) hy starts
    obtain ⟨s, -, traced⟩ := Batch.traced_of_replays replays
    exact traced.inReach.not_mem web tidy barred other

end Crawl.Run

namespace Profile

open Crawl

/-- **An excluded word leaves its page out just if it is ASCII.**  The address that a link to `/w`
leads to has an excluded segment if the words of the settings have the encoded form of `w`.  That
is `w` itself if `w` is ASCII: then its page may not be followed from any seed, and no run asks
for it unless it begins there.  Any other word is a segment of no address that a link leads to. -/
theorem page_of_word {s : Settings} {p : Profile} (valid : ofSettings s = .ok p) {w : String}
    (listed : w ∈ Link.wordList s.walk.excludedPages)
    (name : ∀ c ∈ w.toList, Link.isNameChar c = true) {raw : List Char} {page u : Url}
    (read : Url.parse raw = .ok page) (web : page.isWeb = true)
    (leads : Link.resolve? ('/' :: w.toList) page = some u) :
    (Link.hasSegmentIn p.excluded u = true ↔ Link.segmentOf w ∈ p.excluded) ∧
    ((∀ c ∈ w.toList, c.toNat < 128) → (∀ seed, p.accepts seed u = false) ∧
      ∀ r : Run, r.profile = p → u.toText ≠ r.seed.toText → r.Avoids u.toText) ∧
    ((∃ c ∈ w.toList, 128 ≤ c.toNat) → ∀ raw page href v, Url.parse raw = .ok page →
      Link.resolve? href page = some v → Link.hasSegmentIn [w] v = false) := by
  have segment : Link.hasSegmentIn p.excluded u = true ↔ Link.segmentOf w ∈ p.excluded :=
    Link.hasSegmentIn_name name web leads
  refine ⟨segment, ?_, ?_⟩
  · intro ascii
    have barred : Link.hasSegmentIn p.excluded u = true := by
      rw [segment, (Link.segmentOf_eq_iff name).2 ascii, excluded_of_ofSettings valid]
      exact listed
    obtain ⟨webU, tidy⟩ := Link.tidy_of_resolve? read leads
    refine ⟨accepts_of_hasSegmentIn barred, ?_⟩
    rintro r rfl other
    exact Run.avoids_of_hasSegmentIn webU tidy barred other
  · intro other raw page href v read leads
    refine Link.hasSegmentIn_of_tidy (Link.tidy_of_resolve? read leads).2 ?_
    intro x hx
    rw [List.mem_singleton.1 hx]
    exact other

/-- The page that the link `/a` leads to on this machine. -/
def nearbyA : Url := { nearby with path := .segments ["a".toList] }

theorem nearby_read : Url.parse "http://[::1]/".toList = .ok nearby := rfl

theorem page_of_word_nearby :
    withoutA.accepts nearby nearbyA = false ∧
      Run.Avoids ⟨withoutA, nearby, .links⟩ "http://[::1]/a" := by
  have leads : Link.resolve? ('/' :: "a".toList) nearby = some nearbyA := by decide +kernel
  have text : nearbyA.toText = "http://[::1]/a" := by decide +kernel
  obtain ⟨-, out, -⟩ := page_of_word (s := withoutA.settings) (p := withoutA) (w := "a")
    rfl (by decide +kernel) (List.all_eq_true.1 (by decide)) nearby_read rfl leads
  obtain ⟨barred, avoids⟩ := out (by simp)
  refine ⟨barred nearby, ?_⟩
  rw [← text]
  exact avoids ⟨withoutA, nearby, .links⟩ rfl (by decide +kernel)

/-- A crawl that leaves the page `é` out. -/
def withoutE : Profile where
  settings := { Settings.standard with
    walk := { Settings.Walk.standard with excludedPages := "é" } }
  excluded := ["é"]
  included? := none
  barred? := none
  selector := .body
  removed := ["script", "style"]

/-- The page of an excluded word that is no ASCII is followed. -/
theorem page_of_word_followed : ofSettings withoutE.settings = .ok withoutE ∧
    "é" ∈ Link.wordList withoutE.settings.walk.excludedPages ∧
    (∀ c ∈ "é".toList, Link.isNameChar c = true) ∧
    Url.parse "http://[::1]/".toList = .ok nearby ∧
    Link.resolve? "/é".toList nearby = some { nearby with path := .segments ["%C3%A9".toList] } ∧
    withoutE.accepts nearby { nearby with path := .segments ["%C3%A9".toList] } = true ∧
    "http://[::1]/%C3%A9" ∈ withoutE.links nearby nearby "<a href=/é>".toList :=
  ⟨rfl, by decide +kernel, List.all_eq_true.1 (by decide), nearby_read, by decide +kernel, by decide +kernel,
    by decide +kernel⟩

end Profile

end SiteWalk
