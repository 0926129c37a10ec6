import SiteWalk.Text.Ascii
import SiteWalk.Text.Blank

/-!
# Tables of a property

A property that has one value for each code point is written as the row of its
runs from U+0000 on.  A run is its value, followed by a point and its length if
it is longer than one.
-/

namespace SiteWalk.Unicode

open Text

/-- A run of code points with one value. -/
structure Run where
  first : Nat
  last : Nat
  value : String
  deriving Inhabited, Repr

/-- The runs that a table writes. -/
def runsOf (table : List String) : List Run :=
  ((table.flatMap fun line => words line.toList).foldl
    (fun (acc : Nat × List Run) entry =>
      let (value, length) := cutBefore (· == '.') entry
      let n := (decimal? (length.drop 1)).getD 1
      (acc.1 + n, ⟨acc.1, acc.1 + n - 1, String.ofList value⟩ :: acc.2))
    (0, [])).2.reverse

/-- The value of a code point. -/
def valueAt (runs : List Run) (n : Nat) : String :=
  match runs.find? fun r => n ≤ r.last with
  | some r => r.value
  | none => ""

/-- Intervals of code points, in order. -/
abbrev Ranges := List (Nat × Nat)

/-- The interval that holds `n` exists.  Intervals in order are searched up to `n`. -/
def Ranges.has : Ranges → Nat → Bool
  | [], _ => false
  | (a, b) :: r, n => if n < a then false else n ≤ b || has r n

/-- The code points whose value is one of these. -/
def rangesOf (runs : List Run) (values : List String) : Ranges :=
  (runs.filter fun r => values.contains r.value).map fun r => (r.first, r.last)

/-- A set of code points that a table writes as hexadecimal intervals. -/
def intervals (table : List String) : Ranges :=
  (table.flatMap fun line => words line.toList).map fun entry =>
    let (a, b) := cutBefore (· == '-') entry
    let number (s : List Char) : Nat := ofDigits 16 (s.filterMap hexValue?)
    (number a, if b.isEmpty then number a else number (b.drop 1))

end SiteWalk.Unicode
