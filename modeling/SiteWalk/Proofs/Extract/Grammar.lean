import SiteWalk.Proofs.Extract.Identifier
import SiteWalk.Proofs.Text.Offset
import SiteWalk.Proofs.Text.Pieces

/-!
# The grammar of selectors

A selector is written as a tag with at most one class and at most one identifier behind it, in
either order and each with its mark.  The reader accepts just these texts, and what it makes of
one is written back as a text of the same kind.  It cuts the text at the offsets of the marks,
and no cut is inside of a character.

    parseCut? raw = some (parse? raw)                                      (parseCut?_eq_some)
    parse? raw = .ok s ↔ ∃ w : Words, w.Writes raw ∧ s = w.selector         (parse?_eq_ok_iff)
    parse? (trim w.selector.toCss.toList) = .ok w.selector                  (parse?_toCss)
-/

namespace SiteWalk.Extract.Selector

open Text

/-! ## Parts -/

/-- A character that begins a part. -/
def isMark (c : Char) : Bool := c == '.' || c == '#'

/-- The text of parts, each behind its mark. -/
def spell (parts : List (Char × List Char)) : List Char :=
  parts.flatMap fun part => part.1 :: part.2

/-- The part with this mark, if there is a name for it. -/
def given (mark : Char) (name : Option (List Char)) : List (Char × List Char) :=
  name.toList.map fun n => (mark, n)

variable {raw tag : List Char} {parts : List (Char × List Char)} {s t : Selector}

theorem isMark_iff {c : Char} : isMark c = true ↔ c = '.' ∨ c = '#' := by
  simp [isMark]

theorem cutParts_mark {mark : Char} (h : isMark mark = true) (r : List Char) :
    cutParts (mark :: r) = ([], (mark, (cutParts r).1) :: (cutParts r).2) := by
  unfold isMark at h
  rw [cutParts]
  exact if_pos h

theorem cutParts_other {c : Char} (h : isMark c = false) (r : List Char) :
    cutParts (c :: r) = (c :: (cutParts r).1, (cutParts r).2) := by
  unfold isMark at h
  rw [cutParts, h]
  rfl

/-- The text is cut at its marks. -/
theorem eq_of_cutParts (raw : List Char) :
    raw = (cutParts raw).1 ++ spell (cutParts raw).2 ∧
      ∀ part ∈ (cutParts raw).2, isMark part.1 = true := by
  induction raw with
  | nil => exact ⟨rfl, List.forall_mem_nil _⟩
  | cons c r ih =>
    obtain ⟨whole, marks⟩ := ih
    cases mark : isMark c with
    | true =>
      rw [cutParts_mark mark]
      refine ⟨?_, List.forall_mem_cons.2 ⟨mark, marks⟩⟩
      show c :: r = c :: ((cutParts r).1 ++ spell (cutParts r).2)
      rw [← whole]
    | false =>
      rw [cutParts_other mark]
      refine ⟨?_, marks⟩
      show c :: r = c :: ((cutParts r).1 ++ spell (cutParts r).2)
      rw [← whole]

/-! ## Cuts by offsets -/

theorem cutParts_eq (raw : List Char) : cutParts raw =
    ((cutBefore isMark raw).1, (cutParts (cutBefore isMark raw).2).2) := by
  induction raw with
  | nil => rfl
  | cons c r ih =>
    cases mark : isMark c with
    | true =>
      have here : cutBefore isMark (c :: r) = ([], c :: r) := by simp [cutBefore, mark]
      rw [here, cutParts_mark mark]
    | false =>
      have later : cutBefore isMark (c :: r) =
          (c :: (cutBefore isMark r).1, (cutBefore isMark r).2) := by simp [cutBefore, mark]
      rw [later, cutParts_other mark, ih]

/-- Adds the parts of a text that begins with a mark.  Each part is cut off at the offset of
the next mark; none if the text cannot be cut there. -/
def addParts? (s : Selector) (text : List Char) : Option (Except SelectorError Selector) :=
  match text with
  | [] => some (.ok s)
  | mark :: r =>
    match _h : splitAt? 1 (mark :: r) with
    | none => none
    | some (_front, body) =>
      match _h' : splitAt? ((find? (startsIn isMark) body).getD (byteSize body)) body with
      | none => none
      | some (name, rest) =>
        match addPart s (mark, name) with
        | .error e => some (.error e)
        | .ok s => addParts? s rest
termination_by text.length
decreasing_by
  obtain ⟨whole, one⟩ := splitAt?_eq_some_iff.1 _h
  obtain ⟨inner, -⟩ := splitAt?_eq_some_iff.1 _h'
  cases _front with
  | nil => cases one
  | cons c front =>
    rw [whole, inner]
    simp only [List.length_append, List.length_cons]
    omega

/-- Reads a text by the offsets of its marks; none if the text cannot be cut at one. -/
def parseCut? (raw : List Char) : Option (Except SelectorError Selector) := do
  let (tag, parts) ← splitAt? ((find? (startsIn isMark) raw).getD (byteSize raw)) raw
  if tag.isEmpty then return .error .missingTag
  else if !isTagName tag then return .error .badTag
  else addParts? ⟨String.ofList (lower tag), none, none⟩ parts

theorem addParts?_mark {mark : Char} (h : isMark mark = true) (s : Selector) (r : List Char) :
    addParts? s (mark :: r) =
      match addPart s (mark, (cutBefore isMark r).1) with
      | .error e => some (.error e)
      | .ok s => addParts? s (cutBefore isMark r).2 := by
  have own : mark.utf8Size = 1 := by
    rcases isMark_iff.1 h with rfl | rfl <;> decide
  have first : splitAt? 1 (mark :: r) = some ([mark], r) := by
    rw [splitAt?_eq_some_iff]
    refine ⟨rfl, ?_⟩
    rw [byteSize_cons, own]
    rfl
  rw [addParts?]
  split
  · next failed =>
    rw [first] at failed
    cases failed
  · next before body cut =>
    rw [first] at cut
    cases cut
    split
    · next failed =>
      rw [splitAt?_find?] at failed
      cases failed
    · next name rest cut =>
      rw [splitAt?_find?] at cut
      rw [Option.some.inj cut]

theorem addParts?_eq_some (s : Selector) : (text : List Char) →
    (∀ c ∈ text.head?, isMark c = true) →
      addParts? s text = some ((cutParts text).2.foldlM addPart s)
  | [], _ => by
    unfold addParts?
    rfl
  | mark :: r, marked => by
    have here : isMark mark = true := marked mark rfl
    rw [addParts?_mark here, cutParts_mark here, List.foldlM_cons, cutParts_eq r]
    cases added : addPart s (mark, (cutBefore isMark r).1) with
    | error e => rfl
    -- what is left begins with a mark again
    | ok t => exact addParts?_eq_some t _ (head_cutBefore isMark r)
termination_by text => text.length
decreasing_by exact Nat.lt_succ_of_le (length_dropWhile_le _ r)

/-- **No cut at the offset of a mark fails**, and what is read by these offsets is what is
read. -/
theorem parseCut?_eq_some (raw : List Char) : parseCut? raw = some (parse? raw) := by
  have stops := head_cutBefore isMark raw
  unfold parseCut? parse?
  rw [splitAt?_find?, cutParts_eq raw]
  generalize cutBefore isMark raw = cut at stops ⊢
  obtain ⟨tag, parts⟩ := cut
  show (if tag.isEmpty = true then _ else _) = _
  dsimp only
  by_cases empty : tag.isEmpty = true
  · rw [if_pos empty, if_pos empty]
    rfl
  · rw [if_neg empty, if_neg empty]
    by_cases bad : (!isTagName tag) = true
    · rw [if_pos bad, if_pos bad]
      rfl
    · rw [if_neg bad, if_neg bad]
      exact addParts?_eq_some _ parts stops

/-! ## What is written -/

/-- The words that a selector is written with. -/
structure Words where
  tag : List Char
  cls : Option (List Char)
  id : Option (List Char)
  tag_name : isTagName tag = true
  cls_name : ∀ n ∈ cls, isName n = true
  id_name : ∀ n ∈ id, isName n = true

namespace Words

/-- The selector that the words stand for. -/
def selector (w : Words) : Selector :=
  ⟨String.ofList (lower w.tag), w.cls.map String.ofList, w.id.map String.ofList⟩

/-- The text is made of the words, the class and the identifier in either order. -/
inductive Writes (w : Words) : List Char → Prop
  | classFirst : Writes w (w.tag ++ spell (given '.' w.cls ++ given '#' w.id))
  | idFirst : Writes w (w.tag ++ spell (given '#' w.id ++ given '.' w.cls))

end Words

/-! ## Reading what is written -/

/-- What the part with this mark gave. -/
def slot (s : Selector) (mark : Char) : Option String := if mark = '.' then s.cls else s.id

def fill (s : Selector) (mark : Char) (name : Option String) : Selector :=
  if mark = '.' then { s with cls := name } else { s with id := name }

theorem fill_none {mark : Char} (free : s.slot mark = none) : s.fill mark none = s := by
  unfold slot at free
  unfold fill
  split at free
  · next dot => rw [if_pos dot, ← free]
  · next other => rw [if_neg other, ← free]

@[simp] theorem slot_fill (s : Selector) (mark : Char) (name : Option String) :
    (s.fill mark name).slot mark = name := by
  unfold slot fill
  split <;> rfl

theorem slot_fill_other {c d : Char} (hc : isMark c = true) (hd : isMark d = true) (apart : c ≠ d)
    (s : Selector) (name : Option String) : (s.fill c name).slot d = s.slot d := by
  rcases isMark_iff.1 hc with rfl | rfl <;> rcases isMark_iff.1 hd with rfl | rfl
  · exact absurd rfl apart
  · rfl
  · rfl
  · exact absurd rfl apart

theorem addPart_eq_ok_iff {part : Char × List Char} : addPart s part = .ok t ↔
    isName part.2 = true ∧ s.slot part.1 = none ∧
      t = s.fill part.1 (some (String.ofList part.2)) := by
  unfold addPart slot fill
  dsimp only
  by_cases empty : part.2.isEmpty = true
  · rw [if_pos empty, List.isEmpty_iff.1 empty]
    simp [isName]
  · rw [if_neg empty, eq_comm (a := t)]
    cases name : isName part.2 with
    | false => simp
    | true =>
      by_cases dot : part.1 = '.'
      · cases slot : s.cls <;> simp [dot]
      · cases slot : s.id <;> simp [dot]

theorem foldlM_cons_ok {part : Char × List Char} :
    (part :: parts).foldlM addPart s = .ok t ↔
      ∃ u, addPart s part = .ok u ∧ parts.foldlM addPart u = .ok t := by
  rw [List.foldlM_cons]
  cases addPart s part <;> simp [bind, Except.bind]

/-- A part is read if there is none with its mark before. -/
theorem foldlM_given {mark : Char} {name : Option (List Char)} (free : s.slot mark = none)
    (isName_name : ∀ n ∈ name, isName n = true) :
    (given mark name).foldlM addPart s = .ok (s.fill mark (name.map String.ofList)) := by
  cases name with
  | none =>
    rw [Option.map_none, fill_none free]
    rfl
  | some n =>
    exact foldlM_cons_ok.2 ⟨_, addPart_eq_ok_iff.2 ⟨isName_name n rfl, free, rfl⟩, rfl⟩

/-- No part is read after both a class and an identifier. -/
theorem nil_of_full (marks : ∀ part ∈ parts, isMark part.1 = true)
    (full : ∀ c, isMark c = true → (s.slot c).isSome) (h : parts.foldlM addPart s = .ok t) :
    parts = [] ∧ t = s := by
  cases parts with
  | nil => exact ⟨rfl, (Except.ok.inj h).symm⟩
  | cons part parts =>
    obtain ⟨u, first, -⟩ := foldlM_cons_ok.1 h
    obtain ⟨-, free, -⟩ := addPart_eq_ok_iff.1 first
    have taken := full part.1 (marks part List.mem_cons_self)
    rw [free] at taken
    cases taken

/-- Behind a part of one kind there is at most one of the other kind. -/
theorem given_of_foldlM {c d : Char} (hc : isMark c = true) (hd : isMark d = true) (apart : c ≠ d)
    (taken : (s.slot c).isSome) (free : s.slot d = none)
    (marks : ∀ part ∈ parts, isMark part.1 = true) (h : parts.foldlM addPart s = .ok t) :
    ∃ name : Option (List Char), (∀ n ∈ name, isName n = true) ∧ parts = given d name ∧
      t = s.fill d (name.map String.ofList) := by
  have two (e : Char) (he : isMark e = true) : e = c ∨ e = d := by
    rw [isMark_iff] at hc hd he
    grind
  cases parts with
  | nil =>
    cases h
    exact ⟨none, by simp, rfl, (fill_none free).symm⟩
  | cons part parts =>
    obtain ⟨own, others⟩ := List.forall_mem_cons.1 marks
    obtain ⟨u, first, rest⟩ := foldlM_cons_ok.1 h
    obtain ⟨mark, n⟩ := part
    obtain ⟨isName_n, unused, rfl⟩ := addPart_eq_ok_iff.1 first
    rcases two mark own with rfl | rfl
    -- a second part of the first kind is refused
    · rw [unused] at taken
      cases taken
    -- and a part of the other kind leaves no slot for a third one
    · have full (e : Char) (he : isMark e = true) :
          ((s.fill mark (some (String.ofList n))).slot e).isSome = true := by
        rcases two e he with rfl | rfl
        · rwa [slot_fill_other hd hc apart.symm]
        · rw [slot_fill]
          rfl
      obtain ⟨rfl, rfl⟩ := nil_of_full others full rest
      exact ⟨some n, by simpa using isName_n, rfl, rfl⟩

/-- Two parts at most are read, one of each kind. -/
theorem parts_of_foldlM {name : String} (marks : ∀ part ∈ parts, isMark part.1 = true)
    (h : parts.foldlM addPart ⟨name, none, none⟩ = .ok t) :
    ∃ cls id : Option (List Char), (∀ n ∈ cls, isName n = true) ∧ (∀ n ∈ id, isName n = true) ∧
      (parts = given '.' cls ++ given '#' id ∨ parts = given '#' id ++ given '.' cls) ∧
      t = ⟨name, cls.map String.ofList, id.map String.ofList⟩ := by
  cases parts with
  | nil =>
    cases h
    exact ⟨none, none, by simp, by simp, .inl rfl, rfl⟩
  | cons part parts =>
    obtain ⟨own, others⟩ := List.forall_mem_cons.1 marks
    obtain ⟨u, first, rest⟩ := foldlM_cons_ok.1 h
    obtain ⟨mark, n⟩ := part
    obtain ⟨isName_n, -, rfl⟩ := addPart_eq_ok_iff.1 first
    rcases isMark_iff.1 own with rfl | rfl
    · obtain ⟨id, id_name, rfl, rfl⟩ :=
        given_of_foldlM (c := '.') (d := '#') rfl rfl (by decide) rfl rfl others rest
      exact ⟨some n, id, by simpa using isName_n, id_name, .inl rfl, rfl⟩
    · obtain ⟨cls, cls_name, rfl, rfl⟩ :=
        given_of_foldlM (c := '#') (d := '.') rfl rfl (by decide) rfl rfl others rest
      exact ⟨cls, some n, cls_name, by simpa using isName_n, .inr rfl, rfl⟩

/-! ## Cuts of what is written -/

/-- Parts with plain names are cut as they are written. -/
theorem cutParts_spell (tag_plain : ∀ c ∈ tag, isNameChar c = true)
    (marks : ∀ part ∈ parts, isMark part.1 = true)
    (plain : ∀ part ∈ parts, ∀ c ∈ part.2, isNameChar c = true) :
    cutParts (tag ++ spell parts) = (tag, parts) := by
  have front (n r : List Char) (h : ∀ c ∈ n, isNameChar c = true) :
      cutParts (n ++ r) = (n ++ (cutParts r).1, (cutParts r).2) :=
    cutParts_append (fun c hc => no_marker_of_isNameChar (h c hc)) r
  have body : cutParts (spell parts) = ([], parts) := by
    induction parts with
    | nil => rfl
    | cons part parts ih =>
      obtain ⟨own, marks⟩ := List.forall_mem_cons.1 marks
      obtain ⟨name, plain⟩ := List.forall_mem_cons.1 plain
      show cutParts (part.1 :: (part.2 ++ spell parts)) = _
      rw [cutParts_mark own, front _ _ name, ih marks plain, List.append_nil]
  rw [front _ _ tag_plain, body, List.append_nil]

theorem isNameChar_of_isTagName (h : isTagName tag = true) : ∀ c ∈ tag, isNameChar c = true :=
  isNameChar_of_isName (isName_of_identifier (identifier_of_isTagName h))

/-- A tag with parts behind it is read part by part. -/
theorem parse?_spell (tag_name : isTagName tag = true)
    (marks : ∀ part ∈ parts, isMark part.1 = true)
    (names : ∀ part ∈ parts, isName part.2 = true) :
    parse? (tag ++ spell parts) = parts.foldlM addPart ⟨String.ofList (lower tag), none, none⟩ := by
  have cut := cutParts_spell (isNameChar_of_isTagName tag_name) marks fun part hp =>
    isNameChar_of_isName (names part hp)
  have some_ : tag.isEmpty = false := by
    cases tag with
    | nil => cases tag_name
    | cons => rfl
  unfold parse?
  rw [cut]
  simp [some_, tag_name]

theorem eq_of_parse? (h : parse? raw = .ok s) :
    ∃ tag parts, raw = tag ++ spell parts ∧ (∀ part ∈ parts, isMark part.1 = true) ∧
      isTagName tag = true ∧
      parts.foldlM addPart ⟨String.ofList (lower tag), none, none⟩ = .ok s := by
  obtain ⟨whole, marks⟩ := eq_of_cutParts raw
  refine ⟨(cutParts raw).1, (cutParts raw).2, whole, marks, ?_⟩
  unfold parse? at h
  dsimp only at h
  split at h
  · cases h
  split at h
  · cases h
  next good => exact ⟨by simpa using good, h⟩

theorem forall_given {c : Char} {name : Option (List Char)} (hc : isMark c = true)
    (hn : ∀ n ∈ name, isName n = true) :
    ∀ part ∈ given c name, isMark part.1 = true ∧ isName part.2 = true := by
  intro part hp
  unfold given at hp
  simp only [List.mem_map, Option.mem_toList] at hp
  obtain ⟨n, own, rfl⟩ := hp
  exact ⟨hc, hn n own⟩

/-- Parts of both kinds are read in either order. -/
theorem parse?_given {c d : Char} {m n : Option (List Char)} (tag_name : isTagName tag = true)
    (hc : isMark c = true) (hd : isMark d = true) (apart : c ≠ d)
    (hm : ∀ k ∈ m, isName k = true) (hn : ∀ k ∈ n, isName k = true) :
    parse? (tag ++ spell (given c m ++ given d n)) =
      .ok ((fill ⟨String.ofList (lower tag), none, none⟩ c (m.map String.ofList)).fill d
        (n.map String.ofList)) := by
  have good := List.forall_mem_append.2 ⟨forall_given hc hm, forall_given hd hn⟩
  have free (e : Char) : slot ⟨String.ofList (lower tag), none, none⟩ e = none := ite_self _
  rw [parse?_spell tag_name (fun part hp => (good part hp).1) fun part hp => (good part hp).2,
    List.foldlM_append, foldlM_given (free c) hm]
  refine foldlM_given ?_ hn
  rw [slot_fill_other hc hd apart, free]

/-- **A text is read as a selector just if it is written with the words of that selector.** -/
theorem parse?_eq_ok_iff : parse? raw = .ok s ↔ ∃ w : Words, w.Writes raw ∧ s = w.selector := by
  constructor
  · intro h
    obtain ⟨tag, parts, rfl, marks, tag_name, read⟩ := eq_of_parse? h
    obtain ⟨cls, id, cls_name, id_name, order, rfl⟩ := parts_of_foldlM marks read
    refine ⟨⟨tag, cls, id, tag_name, cls_name, id_name⟩, ?_, rfl⟩
    rcases order with rfl | rfl
    · exact .classFirst
    · exact .idFirst
  · rintro ⟨w, written, rfl⟩
    cases written with
    | classFirst => exact parse?_given w.tag_name rfl rfl (by decide) w.cls_name w.id_name
    | idFirst => exact parse?_given w.tag_name rfl rfl (by decide) w.id_name w.cls_name

/-! ## Writing -/

/-- The words that a selector is written back with. -/
def Words.lowered (w : Words) : Words :=
  ⟨lower w.tag, w.cls, w.id, isTagName_lower w.tag_name, w.cls_name, w.id_name⟩

theorem Words.selector_lowered (w : Words) : w.lowered.selector = w.selector := by
  unfold selector lowered
  rw [lower_lower]

/-- A selector is written with the tag in lower case and the class before the identifier. -/
theorem Words.writes_toCss (w : Words) : w.lowered.Writes w.selector.toCss.toList := by
  have text : w.selector.toCss.toList =
      lower w.tag ++ spell (given '.' w.cls ++ given '#' w.id) := by
    unfold selector toCss given spell
    cases w.cls <;> cases w.id <;> simp
  rw [text]
  exact .classFirst

/-- The characters of names are visible ones of ASCII. -/
theorem isBlank_of_isNameChar {c : Char} (h : isNameChar c = true) : isBlank c = false := by
  have within {low high : Char} (first : 33 ≤ low.toNat) (last : high.toNat < 128)
      (h : (decide (low ≤ c) && decide (c ≤ high)) = true) : 33 ≤ c.toNat ∧ c.toNat < 128 := by
    have above : low.toNat ≤ c.toNat := of_decide_eq_true (Bool.and_eq_true_iff.1 h).1
    have below : c.toNat ≤ high.toNat := of_decide_eq_true (Bool.and_eq_true_iff.1 h).2
    omega
  have seen : 33 ≤ c.toNat ∧ c.toNat < 128 := by
    unfold isNameChar isAlnum isLetter at h
    simp only [Bool.or_eq_true] at h
    obtain (((upper | lower) | digit) | line) | dash := h
    · exact within (by decide) (by decide) upper
    · exact within (by decide) (by decide) lower
    · exact within (by decide) (by decide) digit
    · rw [eq_of_beq line]
      decide
    · rw [eq_of_beq dash]
      decide
  unfold isBlank
  simp only [Bool.or_eq_false_iff, Bool.and_eq_false_iff, decide_eq_false_iff_not,
    beq_eq_false_iff_ne]
  omega

theorem isBlank_of_spell (good : ∀ part ∈ parts, isMark part.1 = true ∧ isName part.2 = true) :
    ∀ c ∈ spell parts, isBlank c = false := by
  intro c hc
  obtain ⟨part, hp, own⟩ := List.mem_flatMap.1 hc
  obtain ⟨mark, name⟩ := good part hp
  rcases List.mem_cons.1 own with rfl | inside
  · rcases isMark_iff.1 mark with same | same <;> (rw [same]; decide)
  · exact isBlank_of_isNameChar (isNameChar_of_isName name c inside)

/-- No blank is written. -/
theorem Words.isBlank_of_writes {w : Words} (h : w.Writes raw) : ∀ c ∈ raw, isBlank c = false := by
  have tag : ∀ c ∈ w.tag, isBlank c = false := fun c hc =>
    isBlank_of_isNameChar (isNameChar_of_isTagName w.tag_name c hc)
  have cls := isBlank_of_spell (forall_given (c := '.') rfl w.cls_name)
  have id := isBlank_of_spell (forall_given (c := '#') rfl w.id_name)
  cases h <;> simp only [spell, List.flatMap_append, List.forall_mem_append] at cls id ⊢
  · exact ⟨tag, cls, id⟩
  · exact ⟨tag, id, cls⟩

/-- What is written back is read again. -/
theorem Words.parse?_toCss (w : Words) :
    parse? (trim w.selector.toCss.toList) = .ok w.selector := by
  rw [trim_of_forall (isBlank_of_writes w.writes_toCss)]
  exact parse?_eq_ok_iff.2 ⟨w.lowered, w.writes_toCss, w.selector_lowered.symm⟩

/-! ## Texts of settings -/

theorem readSelector_eq_ok_iff {text : String} :
    Profile.readSelector text = .ok s ↔ parse? (trim text.toList) = .ok s := by
  unfold Profile.readSelector
  cases parse? (trim text.toList) with
  | error e => exact iff_of_false nofun nofun
  | ok t =>
    constructor <;> intro h <;> cases h <;> rfl

/-- **The texts of selectors are those that are written with words.**  No cut at the offset of
a mark fails.  A text is read just if, but for the blanks around it, it is a tag with at most
one class and one identifier behind it, all of them proper names and in either order; what is
read is the tag in lower case and these names, so the order does not matter; and a selector
that is read is written back as a text that is read as the same selector. -/
theorem readSelector_written (text : String) :
    parseCut? (trim text.toList) = some (parse? (trim text.toList)) ∧
    (∀ s, Profile.readSelector text = .ok s ↔
      ∃ w : Words, w.Writes (trim text.toList) ∧ s = w.selector) ∧
    (∀ (w : Words) (other : String), w.Writes (trim text.toList) → w.Writes (trim other.toList) →
      Profile.readSelector text = Profile.readSelector other) ∧
    ∀ s, Profile.readSelector text = .ok s → Profile.readSelector s.toCss = .ok s := by
  refine ⟨parseCut?_eq_some _, ?_, ?_, ?_⟩
  · intro s
    rw [readSelector_eq_ok_iff, parse?_eq_ok_iff]
  · intro w other written written'
    have read {text : String} (h : w.Writes (trim text.toList)) :
        Profile.readSelector text = .ok w.selector :=
      readSelector_eq_ok_iff.2 (parse?_eq_ok_iff.2 ⟨w, h, rfl⟩)
    rw [read written, read written']
  · intro s h
    obtain ⟨w, -, rfl⟩ := parse?_eq_ok_iff.1 (readSelector_eq_ok_iff.1 h)
    exact readSelector_eq_ok_iff.2 w.parse?_toCss

/-- The words of a selector with both parts. -/
def mainWords : Words where
  tag := "DIV".toList
  cls := some "x".toList
  id := some "main".toList
  tag_name := by decide
  cls_name := by rintro n ⟨⟩; decide
  id_name := by rintro n ⟨⟩; decide

theorem readSelector_written_main :
    Profile.readSelector " DIV#main.x " = .ok ⟨"div", some "x", some "main"⟩ ∧
      Profile.readSelector " DIV#main.x " = Profile.readSelector "DIV.x#main" ∧
      Profile.readSelector "div.x#main" = .ok ⟨"div", some "x", some "main"⟩ := by
  obtain ⟨-, grammar, order, again⟩ := readSelector_written " DIV#main.x "
  have behind : mainWords.Writes (trim " DIV#main.x ".toList) := .idFirst
  have before : mainWords.Writes (trim "DIV.x#main".toList) := .classFirst
  have read : Profile.readSelector " DIV#main.x " = .ok ⟨"div", some "x", some "main"⟩ :=
    (grammar _).2 ⟨mainWords, behind, rfl⟩
  have css : toCss ⟨"div", some "x", some "main"⟩ = "div.x#main" := by rfl
  have back := again _ read
  rw [css] at back
  exact ⟨read, order mainWords "DIV.x#main" behind before, back⟩

end SiteWalk.Extract.Selector
