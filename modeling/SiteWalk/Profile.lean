import SiteWalk.Link.Category
import SiteWalk.Link.Href
import SiteWalk.Pattern.Basic
import SiteWalk.Settings.Check

/-!
# Profiles

Settings that keep all rules, with their word lists, patterns and selector read.
A profile is what a crawl runs under.
-/

namespace SiteWalk

open Text

/-- Why settings make no profile. -/
inductive ProfileError where
  | fault (f : Settings.Fault)
  | pattern (text : String)
  | selector (text : String) (why : Extract.SelectorError)
  deriving DecidableEq, Repr, Inhabited

def ProfileError.message : ProfileError → String
  | .fault f => "Validation error: " ++ f.message
  | .pattern text => "Invalid pattern: '" ++ text ++ "'"
  | .selector text why => "Invalid selector tag: '" ++ text ++ "': " ++ why.message

structure Profile where
  settings : Settings
  excluded : List String
  included? : Option Pattern
  barred? : Option Pattern
  selector : Extract.Selector
  removed : List String

namespace Profile

/-! ## Reading settings -/

/-- The pattern of a text; a blank text is none. -/
def pattern? (text : Option String) : Except ProfileError (Option Pattern) :=
  match text.map trimmed with
  | none => .ok none
  | some t =>
    if t.toList.isEmpty then .ok none
    else
      match Pattern.ofText? t with
      | some p => .ok (some p)
      | none => .error (.pattern t)

/-- The selector of a text; blanks around it do not count. -/
def readSelector (text : String) : Except ProfileError Extract.Selector :=
  (Extract.Selector.parse? (trim text.toList)).mapError (.selector (trimmed text))

/-- The selector that a mode works with.  A text that cannot be read matters only where
the mode uses it. -/
def selector? (mode : Extract.Mode) (text : String) : Except ProfileError Extract.Selector :=
  match readSelector text with
  | .ok s => .ok s
  | .error e => if mode == .selector then .error e else .ok .body

/-- The names of tags, one a line. -/
def tagNames (text : String) : List String :=
  (((lines text.toList).map fun l => lower (trim l)).filter (!·.isEmpty)).map String.ofList

/-- The profile of settings. -/
def ofSettings (s : Settings) : Except ProfileError Profile := do
  if let some f := s.fault? then throw (.fault f)
  let included? ← pattern? s.walk.includePattern
  let barred? ← pattern? s.walk.excludePattern
  let selector ← selector? s.content.mode s.content.selector
  return {
    settings := s
    excluded := Link.wordList s.walk.excludedPages
    included? := included?
    barred? := barred?
    selector := selector
    removed := tagNames s.content.removedTags }

/-- Settings make a profile if they keep all rules and their texts can be read. -/
theorem ofSettings_eq_ok_iff {s : Settings} {p : Profile} :
    ofSettings s = .ok p ↔ s.fault? = none ∧ ∃ included? barred? selector,
      pattern? s.walk.includePattern = .ok included? ∧
      pattern? s.walk.excludePattern = .ok barred? ∧
      selector? s.content.mode s.content.selector = .ok selector ∧
      p = {
        settings := s
        excluded := Link.wordList s.walk.excludedPages
        included? := included?
        barred? := barred?
        selector := selector
        removed := tagNames s.content.removedTags } := by
  unfold ofSettings
  constructor
  · intro h
    simp only [bind, Except.bind, throw, throwThe, MonadExceptOf.throw, pure, Except.pure] at h
    split at h
    · cases h
    next valid =>
    split at h
    · cases h
    next included =>
    split at h
    · cases h
    next barred =>
    split at h
    · cases h
    next read =>
    cases h
    exact ⟨Option.eq_none_iff_forall_ne_some.2 valid, _, _, _, included, barred, read, rfl⟩
  · rintro ⟨valid, included?, barred?, selector, included, barred, read, rfl⟩
    rw [valid, included, barred, read]
    rfl

/-- What a profile has of the settings that it was read from. -/
theorem read_of_ofSettings {s : Settings} {p : Profile} (h : ofSettings s = .ok p) :
    p.settings = s ∧ selector? s.content.mode s.content.selector = .ok p.selector := by
  obtain ⟨-, _, _, selector, -, -, read, rfl⟩ := ofSettings_eq_ok_iff.1 h
  exact ⟨rfl, read⟩

theorem settings_of_ofSettings {s : Settings} {p : Profile} (h : ofSettings s = .ok p) :
    p.settings = s := (read_of_ofSettings h).1

/-! ## Sets -/

/-- The texts in order, each once. -/
def ordered (xs : List String) : List String := go (xs.mergeSort (· ≤ ·))
where
  go : List String → List String
    | a :: b :: r => if a = b then go (b :: r) else a :: go (b :: r)
    | l => l

def excludedPages (p : Profile) : List String := ordered p.excluded

def categoryNames (p : Profile) : List String :=
  ordered (p.settings.walk.categories.map Link.Category.name)

/-! ## Links -/

/-- A link of a crawl from `seed` may be followed. -/
def accepts (p : Profile) (seed : Url) (u : Url) : Bool :=
  let w := p.settings.walk
  (!w.hostOnly || Link.sameHost u seed) &&
    !Link.hasSegmentIn p.excluded u &&
    p.included?.all (·.matchesIn u.text) &&
    !p.barred?.any (·.matchesIn u.text) &&
    w.categories.contains (Link.category u)

/-- The part of a page that links are looked for in. -/
def scope (p : Profile) (page : List Char) : List Char :=
  if p.settings.walk.bodyOnly then Link.bodyScope page else page

/-- The members of a list, each where it stands first. -/
def firsts {α : Type} [BEq α] (seen : List α) : List α → List α
  | [] => []
  | a :: r => if seen.contains a then firsts seen r else a :: firsts (a :: seen) r

/-- The addresses that the links of a page lead to and that may be followed, each once. -/
def links (p : Profile) (seed : Url) (address : Url) (page : List Char) : List String :=
  firsts []
    ((((Link.hrefs (p.scope page)).filterMap fun h => Link.resolve? h address).filter
      (p.accepts seed)).map Url.toText)

/-! ## Content -/

/-- The text of a page. -/
def content (p : Profile) (page : List Char) : List Char :=
  Extract.text p.settings.content.mode p.selector p.removed page

/-! ## Requests -/

/-- The value of the header that carries the cookies; none if there are no cookies. -/
def cookieHeader? (p : Profile) : Option String :=
  match p.settings.request.cookies.entries with
  | [] => none
  | es => some ("; ".intercalate (es.map fun e => e.1 ++ "=" ++ e.2))

end Profile

end SiteWalk
