/-!
# Line ends

A line may end in a line feed, a carriage return, or both in this order.

    unifyLineEnds s holds no carriage return                  (not_mem_unifyLineEnds)
-/

namespace SiteWalk.Text

/-- The byte order mark. -/
def mark : Char := '\uFEFF'

/-- `s` without one byte order mark at its start. -/
def dropMark : List Char → List Char
  | c :: r => if c = mark then r else c :: r
  | [] => []

/-- Every line end becomes one line feed. -/
def unifyLineEnds : List Char → List Char
  | [] => []
  | '\r' :: '\n' :: r => '\n' :: unifyLineEnds r
  | '\r' :: r => '\n' :: unifyLineEnds r
  | c :: r => c :: unifyLineEnds r

theorem not_mem_unifyLineEnds (s : List Char) : '\r' ∉ unifyLineEnds s := by
  fun_induction unifyLineEnds s with
  | case1 => exact List.not_mem_nil
  | case2 r ih => simp [ih]
  | case3 r _ ih => simp [ih]
  | case4 c r _ alone ih =>
    have other : c ≠ '\r' := fun h => by simp_all
    simp [ih, Ne.symm other]

end SiteWalk.Text
