import SiteWalk.Profile
import SiteWalk.Proofs.Text.Search

/-!
# Names in selectors

A class or identifier of a style sheet begins with a letter or an underscore, after at most
one dash.  The reader of selectors lets two kinds of names through that do not: a lone dash,
and a dash before a digit other than zero.  A selector that has such a name matches nothing.

    isName s → Identifier s ∨ Stray s                                   (name_of_isName)
    isIdentifier s ↔ Identifier s                                     (isIdentifier_iff)
    parse? raw = .ok s → (s.isValid ↔ no name of s is stray)       (identifier_or_stray)
-/

namespace SiteWalk.Extract.Selector

open Text

/-! ## Names -/

/-- A character that an identifier may begin with. -/
def isFirst (c : Char) : Bool := isLetter c || c == '_'

/-- The identifiers of style sheets. -/
inductive Identifier : List Char → Prop
  | plain {c : Char} {r : List Char} (first : isFirst c = true)
      (rest : r.all isNameChar = true) : Identifier (c :: r)
  | dashed {c : Char} {r : List Char} (first : isFirst c = true)
      (rest : r.all isNameChar = true) : Identifier ('-' :: c :: r)

/-- The other names that are let through. -/
inductive Stray : List Char → Prop
  | dash : Stray ['-']
  | number {d : Char} {r : List Char} (digit : isDigit d = true) (nonzero : d ≠ '0')
      (rest : r.all isNameChar = true) : Stray ('-' :: d :: r)

theorem isFirst_of_isDigit {d : Char} (h : isDigit d = true) : isFirst d = false := by
  have high : d ≤ '9' := of_decide_eq_true (Bool.and_eq_true_iff.1 h).2
  have beyond {c : Char} (above : ¬ c ≤ '9') : ¬ c ≤ d := fun low => above (Char.le_trans low high)
  have upper : ¬ 'A' ≤ d := beyond (by decide)
  have lower : ¬ 'a' ≤ d := beyond (by decide)
  have line : d ≠ '_' := fun same => beyond (c := '_') (by decide) (same ▸ Char.le_refl _)
  simp [isFirst, isLetter, isUpperAscii, isLowerAscii, upper, lower, line]

theorem isFirst_dash : isFirst '-' = false := by decide

theorem isNameChar_of_isFirst {c : Char} (h : isFirst c = true) : isNameChar c = true := by
  unfold isFirst at h
  unfold isNameChar isAlnum
  grind

theorem all_of_isFirst {c : Char} {r : List Char} (first : isFirst c = true)
    (rest : r.all isNameChar = true) : (c :: r).all isNameChar = true :=
  Bool.and_eq_true_iff.2 ⟨isNameChar_of_isFirst first, rest⟩

/-- A character of a name that does not begin one is a digit or a dash. -/
theorem isDigit_or_dash {c : Char} (h : isNameChar c = true) (other : isFirst c = false) :
    isDigit c = true ∨ c = '-' := by
  unfold isNameChar isAlnum at h
  unfold isFirst at other
  grind

theorem isIdentifier_iff {s : List Char} : isIdentifier s = true ↔ Identifier s := by
  constructor
  · intro h
    unfold isIdentifier at h
    split at h
    · next r =>
      cases r with
      | nil => cases h
      | cons c r =>
        obtain ⟨first, rest⟩ := Bool.and_eq_true_iff.1 h
        exact .dashed first (Bool.and_eq_true_iff.1 rest).2
    · next plain =>
      cases s with
      | nil => cases h
      | cons c r =>
        obtain ⟨first, rest⟩ := Bool.and_eq_true_iff.1 h
        exact .plain first (Bool.and_eq_true_iff.1 rest).2
  · intro h
    cases h with
    | @plain c r first rest =>
      have other : c ≠ '-' := by
        rintro rfl
        rw [isFirst_dash] at first
        cases first
      unfold isIdentifier
      split
      · next r' same => exact absurd (List.cons.inj same).1 other
      · exact Bool.and_eq_true_iff.2 ⟨first, all_of_isFirst first rest⟩
    | dashed first rest =>
      exact Bool.and_eq_true_iff.2 ⟨first, all_of_isFirst first rest⟩

theorem not_identifier_of_stray {s : List Char} (h : Stray s) : ¬ Identifier s := by
  rw [← isIdentifier_iff]
  cases h with
  | dash => decide
  | @number d r digit _ _ =>
    intro h
    have first : isFirst d = true := (Bool.and_eq_true_iff.1 h).1
    rw [isFirst_of_isDigit digit] at first
    cases first

theorem isName_dash {r : List Char} : isName ('-' :: r) = true ↔
    r.all isNameChar = true ∧ r.head? ≠ some '-' ∧ r.head? ≠ some '0' := by
  have dash : isNameChar '-' = true := by decide
  simp [isName, dash]

theorem isName_other {c : Char} {r : List Char} (other : c ≠ '-') :
    isName (c :: r) = true ↔ isFirst c = true ∧ r.all isNameChar = true := by
  have dash : (c == '-') = false := beq_eq_false_iff_ne.2 other
  have whole : isName (c :: r) = (isFirst c && (isNameChar c && r.all isNameChar)) := by
    simp [isName, isFirst, dash]
  rw [whole, Bool.and_eq_true_iff, Bool.and_eq_true_iff]
  exact and_congr_right fun first => and_iff_right (isNameChar_of_isFirst first)

theorem name_of_isName {s : List Char} (h : isName s = true) : Identifier s ∨ Stray s := by
  cases s with
  | nil => cases h
  | cons c r =>
    by_cases dash : c = '-'
    · subst dash
      obtain ⟨all, notDash, notZero⟩ := isName_dash.1 h
      cases r with
      | nil => exact .inr .dash
      | cons d r =>
        obtain ⟨own, rest⟩ := Bool.and_eq_true_iff.1 all
        by_cases first : isFirst d = true
        · exact .inl (.dashed first rest)
        · rcases isDigit_or_dash own (Bool.eq_false_iff.2 first) with digit | again
          · exact .inr (.number digit (fun zero => notZero (congrArg some zero)) rest)
          · exact absurd (congrArg some again) notDash
    · obtain ⟨first, rest⟩ := (isName_other dash).1 h
      exact .inl (.plain first rest)

theorem isName_of_identifier {s : List Char} (h : Identifier s) : isName s = true := by
  cases h with
  | plain first rest =>
    refine (isName_other ?_).2 ⟨first, rest⟩
    rintro rfl
    cases first
  | @dashed c r first rest =>
    refine isName_dash.2 ⟨all_of_isFirst first rest, ?_⟩
    constructor <;> (rintro ⟨⟩; cases first)

theorem isName_of_stray {s : List Char} (h : Stray s) : isName s = true := by
  cases h with
  | dash => decide
  | @number d r digit nonzero rest =>
    have own : isNameChar d = true := by simp [isNameChar, isAlnum, digit]
    refine isName_dash.2 ⟨Bool.and_eq_true_iff.2 ⟨own, rest⟩, ?_, ?_⟩
    · rintro ⟨⟩
      cases digit
    · exact fun zero => nonzero (Option.some.inj zero)

/-! ## Selectors -/

/-- The selector asks for this class or identifier. -/
def Names (s : Selector) (n : String) : Prop := s.cls = some n ∨ s.id = some n

theorem isValid_iff {s : Selector} : s.isValid = true ↔ ∀ n, s.Names n → Identifier n.toList := by
  unfold isValid
  rw [Bool.and_eq_true_iff, Option.all_eq_true, Option.all_eq_true]
  simp only [isIdentifier_iff]
  exact ⟨fun ⟨cls, id⟩ n named => named.elim (cls n) (id n),
    fun all => ⟨fun n named => all n (.inl named), fun n named => all n (.inr named)⟩⟩

/-- What is read before the names of a selector is kept, and all names are let through. -/
structure Read (s s' : Selector) : Prop where
  tag : s'.tag = s.tag
  names : ∀ n, s'.Names n → s.Names n ∨ isName n.toList = true

theorem read_addPart {s s' : Selector} {part : Char × List Char} (h : addPart s part = .ok s') :
    Read s s' := by
  unfold addPart at h
  dsimp only at h
  split at h
  · cases h
  split at h
  · cases h
  next good =>
    have good : isName (String.ofList part.2).toList = true := by simpa using good
    repeat' split at h
    all_goals cases h
    · refine ⟨rfl, ?_⟩
      rintro n (own | other)
      · exact .inr (Option.some.inj own ▸ good)
      · exact .inl (.inr other)
    · refine ⟨rfl, ?_⟩
      rintro n (other | own)
      · exact .inl (.inl other)
      · exact .inr (Option.some.inj own ▸ good)

theorem read_foldlM {parts : List (Char × List Char)} {s s' : Selector}
    (h : parts.foldlM addPart s = .ok s') : Read s s' := by
  induction parts generalizing s with
  | nil =>
    cases h
    exact ⟨rfl, fun n named => .inl named⟩
  | cons part parts ih =>
    rw [List.foldlM_cons] at h
    cases first : addPart s part with
    | error e =>
      rw [first] at h
      cases h
    | ok t =>
      rw [first] at h
      have before := read_addPart first
      have after := ih h
      refine ⟨after.tag.trans before.tag, fun n named => ?_⟩
      exact (after.names n named).elim (before.names n) .inr

/-! ## Tags -/

theorem isTagName_lower {tag : List Char} (h : isTagName tag = true) :
    isTagName (lower tag) = true := by
  cases tag with
  | nil => cases h
  | cons c r =>
    obtain ⟨first, rest⟩ := Bool.and_eq_true_iff.1 h
    refine Bool.and_eq_true_iff.2 ⟨isLetter_lowerChar first, ?_⟩
    rw [List.all_map]
    rw [List.all_eq_true] at rest ⊢
    intro d hd
    have own := rest d hd
    dsimp only [Function.comp_apply]
    cases letter : isLetter d with
    | true => simp [isAlnum, isLetter_lowerChar letter]
    | false => rwa [lowerChar_of_not_letter letter]

/-- A tag name is an identifier. -/
theorem identifier_of_isTagName {tag : List Char} (h : isTagName tag = true) :
    Identifier tag := by
  cases tag with
  | nil => cases h
  | cons c r =>
    obtain ⟨first, rest⟩ := Bool.and_eq_true_iff.1 h
    refine .plain (by simp [isFirst, first]) ?_
    rw [List.all_eq_true] at rest ⊢
    intro d hd
    unfold isNameChar
    rcases Bool.or_eq_true_iff.1 (rest d hd) with h | h <;> simp [h]

theorem parse?_ok {raw : List Char} {s : Selector} (h : parse? raw = .ok s) :
    Identifier s.tag.toList ∧ ∀ n, s.Names n → isName n.toList = true := by
  unfold parse? at h
  dsimp only at h
  split at h
  · cases h
  split at h
  · cases h
  next tag =>
    have tag : isTagName (cutParts raw).1 = true := by simpa using tag
    have read := read_foldlM h
    constructor
    · rw [read.tag, String.toList_ofList]
      exact identifier_of_isTagName (isTagName_lower tag)
    · intro n named
      rcases read.names n named with h | h
      · rcases h with h | h <;> cases h
      · exact h

/-! ## What is let through -/

/-- A text without markers is not cut. -/
theorem cutParts_append {s : List Char} (plain : ∀ c ∈ s, c ≠ '.' ∧ c ≠ '#') (r : List Char) :
    cutParts (s ++ r) = (s ++ (cutParts r).1, (cutParts r).2) := by
  induction s with
  | nil => rfl
  | cons c s ih =>
    obtain ⟨dot, hash⟩ := plain c List.mem_cons_self
    rw [List.cons_append, cutParts, ih fun d hd => plain d (List.mem_cons_of_mem _ hd)]
    simp [dot, hash]

theorem no_marker_of_isNameChar {c : Char} (h : isNameChar c = true) : c ≠ '.' ∧ c ≠ '#' := by
  constructor <;> (rintro rfl; cases h)

theorem isNameChar_of_isName {n : List Char} (h : isName n = true) :
    ∀ c ∈ n, isNameChar c = true := by
  cases n with
  | nil => exact List.forall_mem_nil _
  | cons c r =>
    unfold isName at h
    simp only [Bool.and_eq_true, List.all_eq_true] at h
    exact h.1.2

variable {tag n : List Char} {mark : Char}

theorem parse?_part (tagName : isTagName tag = true) (name : isName n = true)
    (marker : mark = '.' ∨ mark = '#') :
    parse? (tag ++ mark :: n) = addPart ⟨String.ofList (lower tag), none, none⟩ (mark, n) := by
  have plain {s : List Char} (h : isName s = true) : ∀ c ∈ s, c ≠ '.' ∧ c ≠ '#' :=
    fun c hc => no_marker_of_isNameChar (isNameChar_of_isName h c hc)
  have body : cutParts n = (n, []) := by
    have uncut := cutParts_append (plain name) []
    rwa [cutParts, List.append_nil] at uncut
  have part : cutParts (mark :: n) = ([], [(mark, n)]) := by
    rw [cutParts, body]
    rcases marker with rfl | rfl <;> rfl
  have whole : cutParts (tag ++ mark :: n) = (tag, [(mark, n)]) := by
    have tagPlain := plain (isName_of_identifier (identifier_of_isTagName tagName))
    rw [cutParts_append tagPlain, part, List.append_nil]
  have some_ : tag.isEmpty = false := by
    cases tag with
    | nil => cases tagName
    | cons => rfl
  unfold parse?
  rw [whole]
  simp [some_, tagName]

/-- Any name that is let through may be given as a class or as an identifier. -/
theorem parse?_named (tagName : isTagName tag = true) (name : isName n = true) :
    parse? (tag ++ '.' :: n) = .ok ⟨String.ofList (lower tag), some (String.ofList n), none⟩ ∧
    parse? (tag ++ '#' :: n) = .ok ⟨String.ofList (lower tag), none, some (String.ofList n)⟩ := by
  have given : n.isEmpty = false := by
    cases n with
    | nil => cases name
    | cons => rfl
  rw [parse?_part tagName name (.inl rfl), parse?_part tagName name (.inr rfl)]
  simp [addPart, given, name]

/-! ## Profiles -/

/-- **A selector that is read works unless a name in it is stray.**  The tag and the names of a
selector that is read are identifiers of style sheets, but for names that are a lone dash or a
dash before a digit other than zero: each of these is let through, as a class and as an
identifier, and a selector that asks for one matches nothing.  A profile that is made for
extraction by such a selector extracts nothing from any page. -/
theorem identifier_or_stray {raw : List Char} {s : Selector} (h : parse? raw = .ok s) :
    Identifier s.tag.toList ∧
    (∀ n, s.Names n → Identifier n.toList ∨ Stray n.toList) ∧
    (s.isValid = true ↔ ∀ n, s.Names n → ¬ Stray n.toList) ∧
    (∀ tag n, isTagName tag = true → Stray n →
      parse? (tag ++ '.' :: n) = .ok ⟨String.ofList (lower tag), some (String.ofList n), none⟩ ∧
      parse? (tag ++ '#' :: n) = .ok ⟨String.ofList (lower tag), none, some (String.ofList n)⟩) ∧
    ∀ settings p, Profile.ofSettings settings = .ok p → settings.content.mode = .selector →
      trim settings.content.selector.toList = raw →
        p.selector = s ∧ ((∃ n, s.Names n ∧ Stray n.toList) → ∀ page, p.content page = []) := by
  obtain ⟨tag, names⟩ := parse?_ok h
  have valid : s.isValid = true ↔ ∀ n, s.Names n → ¬ Stray n.toList := by
    rw [isValid_iff]
    refine ⟨fun all n named stray => not_identifier_of_stray stray (all n named), ?_⟩
    intro none n named
    exact (name_of_isName (names n named)).resolve_right (none n named)
  refine ⟨tag, fun n named => name_of_isName (names n named), valid, ?_, ?_⟩
  · exact fun tag n tagName stray => parse?_named tagName (isName_of_stray stray)
  · intro settings p accepted mode text
    obtain ⟨same, read⟩ := Profile.read_of_ofSettings accepted
    have own : p.selector = s := by
      unfold Profile.selector? Profile.readSelector at read
      rw [text, h] at read
      exact (Except.ok.inj read).symm
    refine ⟨own, ?_⟩
    rintro ⟨n, named, stray⟩ page
    have off : ¬ s.isValid = true := fun on => valid.1 on n named stray
    unfold Profile.content Extract.text selected
    rw [same, mode, own]
    exact if_neg off

/-- A selector with the class `-1`, and settings for extraction by it. -/
def numbered : Selector := ⟨"div", some "-1", none⟩

def numberedSettings : Settings where
  walk := { Settings.Walk.standard with excludedPages := "" }
  content :=
    { Settings.Content.standard with mode := .selector, selector := "div.-1", removedTags := "" }
  request := .standard

def numberedProfile : Profile := ⟨numberedSettings, [], none, none, numbered, []⟩

theorem parse?_numbered : parse? "div.-1".toList = .ok numbered := by rfl

theorem stray_numbered : numbered.Names "-1" ∧ Stray "-1".toList :=
  ⟨.inl rfl, .number (d := '1') (r := []) (by decide) (by decide) rfl⟩

theorem identifier_or_stray_numbered :
    parse? "div.-1".toList = .ok numbered ∧
      Profile.ofSettings numberedSettings = .ok numberedProfile ∧
      numbered.isValid = false ∧ ∀ page, numberedProfile.content page = [] := by
  obtain ⟨-, -, valid, -, profile⟩ := identifier_or_stray parse?_numbered
  obtain ⟨named, stray⟩ := stray_numbered
  have accepted : Profile.ofSettings numberedSettings = .ok numberedProfile := by rfl
  have invalid : numbered.isValid = false :=
    Bool.eq_false_iff.2 fun on => valid.1 on "-1" named stray
  have text : trim numberedSettings.content.selector.toList = "div.-1".toList := by decide
  exact ⟨parse?_numbered, accepted, invalid,
    (profile numberedSettings numberedProfile accepted rfl text).2 ⟨"-1", named, stray⟩⟩

/-- Not all names that are let through are identifiers, and not every profile for extraction by
a selector has one that works. -/
theorem not_identifier_numbered :
    (¬ ∀ raw s, parse? raw = .ok s → ∀ n, s.Names n → Identifier n.toList) ∧
    ¬ ∀ settings p, Profile.ofSettings settings = .ok p → settings.content.mode = .selector →
      p.selector.isValid = true := by
  obtain ⟨named, stray⟩ := stray_numbered
  constructor
  · intro names
    exact not_identifier_of_stray stray (names _ _ parse?_numbered "-1" named)
  · intro works
    have valid := works numberedSettings numberedProfile (by rfl) rfl
    exact not_identifier_of_stray stray (isValid_iff.1 valid "-1" named)

end SiteWalk.Extract.Selector
