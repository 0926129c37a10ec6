import SiteWalk.Profile
import SiteWalk.Proofs.Text.Pieces
import SiteWalk.Proofs.Text.Search

/-!
# Parts of pages

Links are looked for in a part of the page only, if the settings say so.  That part begins
behind the end of a tag or where the page begins, and it may end anywhere.  So it holds no
attribute where the page as a whole holds none.

    bodyScope page = page ∨ bodyScope page = [] ∨
      ∃ front back, page = front ++ '>' :: (bodyScope page ++ back)        (bodyScope_cases)
    hrefs page = [] → hrefs (p.scope page) = []                        (hrefs_scope_of_nil)
-/

namespace SiteWalk

namespace Link

open Text

/-! ## The part between the tags -/

/-- The part of a page that lies between the tags of its body. -/
theorem bodyScope_cases (page : List Char) :
    bodyScope page = page ∨ bodyScope page = [] ∨
      ∃ front back, page = front ++ '>' :: (bodyScope page ++ back) := by
  unfold bodyScope
  split
  · exact .inl rfl
  · next front tag cut =>
    right
    have hp := append_of_cutAtLower? cut
    cases hd : tag.dropWhile (· != '>') with
    | nil => exact .inl rfl
    | cons c inner =>
      right
      have hc : c = '>' := by
        have := List.head_dropWhile_not (· != '>') (l := tag) (by simp [hd])
        simpa [hd] using this
      have ht : tag = tag.takeWhile (· != '>') ++ '>' :: inner := by
        conv => lhs; rw [← List.takeWhile_append_dropWhile (p := (· != '>')) (l := tag), hd, hc]
      have inside : (beforeLastLower? "</body".toList inner).getD inner <+: inner := by
        cases hb : beforeLastLower? "</body".toList inner with
        | none => exact List.prefix_rfl
        | some s => exact prefix_of_beforeLastLower? hb
      obtain ⟨back, hback⟩ := inside
      refine ⟨front ++ tag.takeWhile (· != '>'), back, ?_⟩
      simp only [List.drop_one, List.tail_cons]
      rw [hback, List.append_assoc, ← ht]
      exact hp

/-! ## Attributes -/

variable {s : List Char}

theorem quotedValue?_append {q : Char} (t : List Char) (h : (quotedValue? q s).isSome = true) :
    (quotedValue? q (s ++ t)).isSome = true := by
  unfold quotedValue? at h ⊢
  cases hd : s.dropWhile (· != q) with
  | nil =>
    rw [hd] at h
    cases h
  | cons c r =>
    rw [List.dropWhile_append, hd]
    rfl

/-- A bare value is any character that does not end one, and more of them. -/
theorem value?_bare {c : Char} (hq : c ≠ '"') (hs : c ≠ '\'') (r : List Char) :
    (value? (c :: r)).isSome = !endsBare c := by
  unfold value?
  split
  · next heq => exact absurd (List.cons.inj heq).1 hq
  · next heq => exact absurd (List.cons.inj heq).1 hs
  · cases he : endsBare c <;> simp [he]

/-- A text that has a value in front has one however it goes on. -/
theorem value?_append (t : List Char) (h : (value? s).isSome = true) :
    (value? (s ++ t)).isSome = true := by
  cases s with
  | nil => cases h
  | cons c r =>
    by_cases hq : c = '"'
    · subst hq
      exact quotedValue?_append t h
    · by_cases hs : c = '\''
      · subst hs
        exact quotedValue?_append t h
      · rw [value?_bare hq hs] at h
        rw [List.cons_append, value?_bare hq hs]
        exact h

theorem href?_append (t : List Char) (h : (href? s).isSome = true) :
    (href? (s ++ t)).isSome = true := by
  unfold href? at h ⊢
  split at h
  · next word =>
    have long : "href".toList.length ≤ s.length := length_of_startsWithLower word
    have word' : startsWithLower "href".toList (s ++ t) = true := by
      unfold startsWithLower at word ⊢
      rwa [List.take_append_of_le_length long]
    have rest : (s ++ t).drop 4 = s.drop 4 ++ t := List.drop_append_of_le_length long
    rw [if_pos word', rest]
    cases hr : trimLeft (s.drop 4) with
    | nil =>
      rw [hr] at h
      cases h
    | cons c r =>
      rw [trimLeft_append (by simp [hr]), hr, List.cons_append]
      rw [hr] at h
      split at h
      · next r' heq =>
        cases heq
        have full : trimLeft r ≠ [] := by
          intro none
          rw [none] at h
          cases h
        show (value? (trimLeft (r ++ t))).isSome = true
        rw [trimLeft_append full]
        exact value?_append t h
      · cases h
  · cases h

/-! ## Scans -/

theorem scan_cons (inWord : Bool) (c : Char) (r : List Char) :
    scan inWord (c :: r) =
      if inWord then scan (Unicode.isWordChar c) r
      else
        match href? (c :: r) with
        | some (v, rest) => v :: scan false rest
        | none => scan (Unicode.isWordChar c) r := by
  conv => lhs; unfold scan
  split
  · rfl
  · split
    · next h => rw [h]
    · next h => rw [h]

/-- A text holds no attribute just if there is none in front and none behind the first
character. -/
theorem scan_eq_nil {inWord : Bool} {c : Char} {r : List Char} :
    scan inWord (c :: r) = [] ↔
      (inWord = false → href? (c :: r) = none) ∧ scan (Unicode.isWordChar c) r = [] := by
  rw [scan_cons]
  cases inWord with
  | true => simp
  | false =>
    cases hh : href? (c :: r) with
    | none => simp
    | some x => simp

/-- What stands behind a character is scanned like the whole. -/
theorem scan_behind {inWord : Bool} {front : List Char} {c : Char}
    (h : scan inWord (front ++ c :: s) = []) : scan (Unicode.isWordChar c) s = [] := by
  induction front generalizing inWord with
  | nil => exact (scan_eq_nil.1 h).2
  | cons d front ih => exact ih (scan_eq_nil.1 h).2

/-- What ends early holds no more than the whole. -/
theorem scan_before {inWord : Bool} {t : List Char} (h : scan inWord (s ++ t) = []) :
    scan inWord s = [] := by
  induction s generalizing inWord with
  | nil =>
    unfold scan
    rfl
  | cons c s ih =>
    rw [List.cons_append] at h
    obtain ⟨none, rest⟩ := scan_eq_nil.1 h
    refine scan_eq_nil.2 ⟨fun out => ?_, ih rest⟩
    cases hh : href? (c :: s) with
    | none => rfl
    | some x =>
      have longer := href?_append t (s := c :: s) (by rw [hh]; rfl)
      rw [List.cons_append, none out] at longer
      cases longer

/-- **A page without attributes has a body without attributes.** -/
theorem hrefs_bodyScope_of_nil {page : List Char} (h : hrefs page = []) :
    hrefs (bodyScope page) = [] := by
  rcases bodyScope_cases page with whole | none | ⟨front, back, hp⟩
  · rw [whole]
    exact h
  · rw [none]
    unfold hrefs scan
    rfl
  · unfold hrefs at h ⊢
    rw [hp] at h
    have behind := scan_behind h
    have gap : Unicode.isWordChar '>' = false := by decide
    rw [gap] at behind
    exact scan_before behind

end Link

namespace Profile

theorem hrefs_scope_of_nil (p : Profile) {page : List Char} (h : Link.hrefs page = []) :
    Link.hrefs (p.scope page) = [] := by
  unfold scope
  split
  · exact Link.hrefs_bodyScope_of_nil h
  · exact h

/-- A page without attributes leads nowhere. -/
theorem links_of_nil (p : Profile) (seed address : Url) {page : List Char}
    (h : Link.hrefs page = []) : p.links seed address page = [] := by
  unfold links
  rw [p.hrefs_scope_of_nil h]
  rfl

end Profile

end SiteWalk
