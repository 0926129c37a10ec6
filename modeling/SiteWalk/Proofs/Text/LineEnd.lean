import SiteWalk.Text.LineEnd

/-!
# Marks and line ends

What taking a byte order mark off and unifying line ends leave alone, and what they may add.
-/

namespace SiteWalk.Text

variable {s : List Char}

/-! ## The mark -/

theorem dropMark_cons (c : Char) (r : List Char) :
    dropMark (c :: r) = if c = mark then r else c :: r := rfl

theorem dropMark_eq_self_iff : dropMark s = s ↔ s.head? ≠ some mark := by
  cases s with
  | nil => simp [dropMark]
  | cons c r =>
    rw [dropMark_cons]
    split
    · next h => simp [h]
    · next h => simp [h]

theorem dropMark_subset (s : List Char) : dropMark s ⊆ s := by
  cases s with
  | nil => exact List.Subset.refl _
  | cons c r =>
    rw [dropMark_cons]
    split
    · exact List.subset_cons_self c r
    · exact List.Subset.refl _

/-! ## Line ends -/

theorem unifyLineEnds_of_not_mem (h : '\r' ∉ s) : unifyLineEnds s = s := by
  fun_induction unifyLineEnds s with
  | case1 => rfl
  | case2 r _ => exact absurd List.mem_cons_self h
  | case3 r _ _ => exact absurd List.mem_cons_self h
  | case4 c r _ _ ih => rw [ih fun later => h (List.mem_cons_of_mem c later)]

/-- Nothing but line feeds is added. -/
theorem of_mem_unifyLineEnds {c : Char} (h : c ∈ unifyLineEnds s) : c = '\n' ∨ c ∈ s := by
  fun_induction unifyLineEnds s with
  | case1 => cases h
  | case2 r ih => grind
  | case3 r _ ih => grind
  | case4 d r _ _ ih => grind

/-- The first character of a class without line ends is the same, if line ends count as others. -/
theorem find?_unifyLineEnds {p : Char → Bool} {d : Char} (newLine : p '\n' = true)
    (returns : p '\r' = true) (other : d ≠ '\n' ∧ d ≠ '\r') :
    (unifyLineEnds s).find? p = some d ↔ s.find? p = some d := by
  fun_induction unifyLineEnds s with
  | case1 => exact Iff.rfl
  | case2 r _ => simp [newLine, returns, Ne.symm other.1, Ne.symm other.2]
  | case3 r _ _ => simp [newLine, returns, Ne.symm other.1, Ne.symm other.2]
  | case4 c r _ _ ih =>
    rw [List.find?_cons, List.find?_cons]
    cases p c with
    | true => exact Iff.rfl
    | false => exact ih

end SiteWalk.Text
