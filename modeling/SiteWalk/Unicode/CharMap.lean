import Std.Data.HashMap
import SiteWalk.Unicode.Runs

/-!
# Tables of mappings

A mapping from code points to texts is written as entries `from=to`.  The left
side is a code point, an interval `a-b`, or every second one of an interval
`a:b`; the right side is the text of the first, and those after it move along.
-/

namespace SiteWalk.Unicode

open Text

/-- The mappings of one entry. -/
def mappingEntry (entry : List Char) : List (Nat × List Nat) :=
  let (key, target) := cutBefore (· == '=') entry
  let number (s : List Char) : Nat := ofDigits 16 (s.filterMap hexValue?)
  let values := (pieces (· == '+') (target.drop 1)).map number
  let (first, rest) := cutBefore (fun c => c == '-' || c == ':') key
  match rest with
  | [] => [(number first, values)]
  | sep :: last =>
    let step := if sep == ':' then 2 else 1
    (List.range ((number last - number first) / step + 1)).map fun i =>
      (number first + i * step, values.map (· + i * step))

def mappings (table : List String) : Std.HashMap Nat (List Nat) :=
  (table.flatMap fun line => words line.toList).foldl
    (fun m entry => (mappingEntry entry).foldl (fun m e => m.insert e.1 e.2) m) {}

end SiteWalk.Unicode
