import Mathlib.Data.List.TakeWhile
import SiteWalk.Proofs.Text.Search
import SiteWalk.Text.Utf8

/-!
# Byte offsets

A place in a text may be given by the number of bytes before it.  A text can be cut there only
if it is long enough and no character lies across that place.  Lower case does not move any
place, so what is found in the lower-cased copy of a text stands at the same offset in the
text, and the text can be cut there.

    splitAt? i s = some (front, back) ↔ s = front ++ back ∧ byteSize front = i
                                                                   (splitAt?_eq_some_iff)
    find? p.isPrefixOf (lower s) = (cutAtLower? p s).map fun cut => byteSize cut.1
                                                                            (find?_lower)
-/

namespace SiteWalk.Text

/-! ## Sizes and cuts -/

/-- The number of bytes of a text in UTF-8. -/
def byteSize (s : List Char) : Nat := (bytes s).length

/-- The two parts of a text before and behind byte `i`; none if byte `i` is inside of a
character or beyond the end. -/
def splitAt? : Nat → List Char → Option (List Char × List Char)
  | 0, s => some ([], s)
  | _ + 1, [] => none
  | i + 1, c :: s =>
    if c.utf8Size ≤ i + 1 then
      (splitAt? (i + 1 - c.utf8Size) s).map fun (front, back) => (c :: front, back)
    else none

variable {s front back : List Char}

@[simp] theorem byteSize_nil : byteSize [] = 0 := rfl

@[simp] theorem byteSize_cons (c : Char) (s : List Char) :
    byteSize (c :: s) = c.utf8Size + byteSize s := by
  simp [byteSize, bytes]

@[simp] theorem byteSize_append (s t : List Char) :
    byteSize (s ++ t) = byteSize s + byteSize t := by
  simp [byteSize, bytes]

theorem splitAt?_byteSize (front back : List Char) :
    splitAt? (byteSize front) (front ++ back) = some (front, back) := by
  induction front with
  | nil => cases back <;> rfl
  | cons c front ih =>
    have pos := c.utf8Size_pos
    obtain ⟨i, hi⟩ : ∃ i, byteSize (c :: front) = i + 1 := by
      refine ⟨byteSize (c :: front) - 1, ?_⟩
      rw [byteSize_cons]
      omega
    have left : i + 1 - c.utf8Size = byteSize front := by
      rw [byteSize_cons] at hi
      omega
    rw [hi, List.cons_append, splitAt?, if_pos, left, ih]
    · rfl
    · rw [byteSize_cons] at hi
      omega

/-- A text can be cut only between two of its characters. -/
theorem splitAt?_eq_some_iff {i : Nat} :
    splitAt? i s = some (front, back) ↔ s = front ++ back ∧ byteSize front = i := by
  constructor
  · intro h
    induction s generalizing i front with
    | nil =>
      cases i with
      | zero =>
        cases h
        exact ⟨rfl, rfl⟩
      | succ => cases h
    | cons c s ih =>
      cases i with
      | zero =>
        cases h
        exact ⟨rfl, rfl⟩
      | succ i =>
        unfold splitAt? at h
        split at h
        · next fits =>
          obtain ⟨⟨front', back'⟩, cut, e⟩ := Option.map_eq_some_iff.1 h
          cases e
          obtain ⟨whole, size⟩ := ih cut
          rw [whole, byteSize_cons, size]
          exact ⟨rfl, by omega⟩
        · cases h
  · rintro ⟨rfl, rfl⟩
    exact splitAt?_byteSize front back

/-! ## Searches -/

/-- The offset of the first place where what is left of the text is as wanted. -/
def find? (here : List Char → Bool) : List Char → Option Nat
  | [] => if here [] then some 0 else none
  | c :: s => if here (c :: s) then some 0 else (find? here s).map (c.utf8Size + ·)

/-- The offset of the last such place. -/
def rfind? (here : List Char → Bool) : List Char → Option Nat
  | [] => if here [] then some 0 else none
  | c :: s =>
    match rfind? here s with
    | some i => some (c.utf8Size + i)
    | none => if here (c :: s) then some 0 else none

/-- A text that starts with a character of a class. -/
def startsIn (m : Char → Bool) (s : List Char) : Bool := s.head?.any m

theorem find?_startsIn (m : Char → Bool) (s : List Char) :
    find? (startsIn m) s = if s.any m then some (byteSize (cutBefore m s).1) else none := by
  induction s with
  | nil => rfl
  | cons c s ih =>
    unfold find? cutBefore
    by_cases here : m c = true
    · simp [startsIn, here]
    · rw [ih]
      by_cases later : s.any m = true <;> simp [startsIn, here, later, cutBefore]

/-- A text can be cut at the first character of a class. -/
theorem splitAt?_find? (m : Char → Bool) (s : List Char) :
    splitAt? ((find? (startsIn m) s).getD (byteSize s)) s = some (cutBefore m s) := by
  have whole : s = (cutBefore m s).1 ++ (cutBefore m s).2 := List.takeWhile_append_dropWhile.symm
  have place : (find? (startsIn m) s).getD (byteSize s) = byteSize (cutBefore m s).1 := by
    rw [find?_startsIn]
    by_cases found : s.any m = true
    · rw [if_pos found]
      rfl
    · have none : ∀ c ∈ s, (!m c) = true := by simpa using found
      rw [if_neg found, cutBefore, List.takeWhile_eq_self_iff.2 none]
      rfl
  rw [place]
  exact splitAt?_eq_some_iff.2 ⟨whole, rfl⟩

theorem rfind?_of_some {here : List Char → Bool} {t : List Char} {i : Nat} (s : List Char)
    (h : rfind? here t = some i) : rfind? here (s ++ t) = some (byteSize s + i) := by
  induction s with
  | nil => simpa using h
  | cons c s ih =>
    rw [List.cons_append, rfind?, ih, byteSize_cons, Nat.add_assoc]

theorem lt_of_rfind? {here : List Char → Bool} {s t : List Char} {i : Nat}
    (none : rfind? here t = none) (h : rfind? here (s ++ t) = some i) : i < byteSize s := by
  induction s generalizing i with
  | nil =>
    rw [List.nil_append, none] at h
    cases h
  | cons c s ih =>
    have pos := c.utf8Size_pos
    rw [byteSize_cons]
    rw [List.cons_append, rfind?] at h
    split at h
    · next j found =>
      have := ih found
      cases h
      omega
    · split at h
      · cases h
        omega
      · cases h

/-- The last place in two parts, if it is not in the first, is the last one in the second. -/
theorem rfind?_append (here : List Char → Bool) (s t : List Char) :
    (rfind? here (s ++ t)).filter (byteSize s ≤ ·) = (rfind? here t).map (byteSize s + ·) := by
  cases found : rfind? here t with
  | some i => simp [rfind?_of_some s found]
  | none =>
    rw [Option.map_none, Option.filter_eq_none_iff]
    intro i hi
    have := lt_of_rfind? found hi
    simp
    omega

/-! ## Lower case -/

theorem utf8Size_of_lt : ∀ n < 128, (Char.ofNat n).utf8Size = 1 := by decide

theorem utf8Size_lowerChar (c : Char) : (lowerChar c).utf8Size = c.utf8Size := by
  cases upper : isUpperAscii c with
  | true =>
    have high : c.toNat ≤ 90 := of_decide_eq_true (Bool.and_eq_true_iff.1 upper).2
    have own := utf8Size_of_lt c.toNat (by omega)
    rw [Char.ofNat_toNat] at own
    unfold lowerChar
    rw [if_pos upper, own]
    exact utf8Size_of_lt _ (by omega)
  | false => rw [lowerChar_of_not_upper upper]

@[simp] theorem byteSize_lower (s : List Char) : byteSize (lower s) = byteSize s := by
  induction s with
  | nil => rfl
  | cons c s ih => rw [lower_cons, byteSize_cons, byteSize_cons, utf8Size_lowerChar, ih]

/-- A class that does not tell letters by their case is found at the same place. -/
theorem find?_startsIn_lower {m : Char → Bool} (same : ∀ c, m (lowerChar c) = m c)
    (s : List Char) : find? (startsIn m) (lower s) = find? (startsIn m) s := by
  induction s with
  | nil => rfl
  | cons c s ih =>
    have here : startsIn m (lowerChar c :: lower s) = startsIn m (c :: s) := same c
    rw [lower_cons, find?, find?, here, ih, utf8Size_lowerChar]

variable {p : List Char}

theorem find?_lower (some_ : p ≠ []) (s : List Char) :
    find? p.isPrefixOf (lower s) = (cutAtLower? p s).map fun cut => byteSize cut.1 := by
  induction s with
  | nil =>
    cases p with
    | nil => exact absurd rfl some_
    | cons c p => rfl
  | cons c s ih =>
    have same : p.isPrefixOf (lowerChar c :: lower s) = startsWithLower p (c :: s) := by
      rw [Bool.eq_iff_iff, List.isPrefixOf_iff_prefix, startsWithLower_iff, lower_cons]
    rw [lower_cons, find?, cutAtLower?, same, ih, utf8Size_lowerChar]
    by_cases here : startsWithLower p (c :: s) = true
    · rw [if_pos here, if_pos here]
      rfl
    · rw [if_neg here, if_neg here]
      cases cutAtLower? p s <;> simp

theorem rfind?_lower (some_ : p ≠ []) (s : List Char) :
    rfind? p.isPrefixOf (lower s) = (beforeLastLower? p s).map byteSize := by
  induction s with
  | nil =>
    cases p with
    | nil => exact absurd rfl some_
    | cons c p => rfl
  | cons c s ih =>
    have same : p.isPrefixOf (lowerChar c :: lower s) = startsWithLower p (c :: s) := by
      rw [Bool.eq_iff_iff, List.isPrefixOf_iff_prefix, startsWithLower_iff, lower_cons]
    rw [lower_cons, rfind?, beforeLastLower?, same, ih, utf8Size_lowerChar]
    cases beforeLastLower? p s with
    | some front => simp
    | none => by_cases here : startsWithLower p (c :: s) = true <;> simp [here]

end SiteWalk.Text
