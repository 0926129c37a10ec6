import SiteWalk.Unicode.Folding
import SiteWalk.Unicode.Runs

/-!
# Sets of characters

A set of code points as a list of intervals that are in order and do not touch.

    has (union a b) n = (has a n || has b n)
-/

namespace SiteWalk.Pattern

open Unicode

namespace CharSet

def last : Nat := 0x10FFFF

/-- The set that the intervals of any list cover. -/
def ofIntervals (is : Ranges) : Ranges :=
  (is.mergeSort fun x y => x.1 ≤ y.1).foldr absorb []
where
  /-- Adds an interval in front, with all that it reaches. -/
  absorb (i : Nat × Nat) : Ranges → Ranges
    | [] => [i]
    | j :: r => if i.2 + 1 < j.1 then i :: j :: r else absorb (i.1, max i.2 j.2) r

def union (a b : Ranges) : Ranges := ofIntervals (a ++ b)

/-- The code points from `low` to `top` that are not in the set. -/
def gaps (top low : Nat) : Ranges → Ranges
  | [] => if low ≤ top then [(low, top)] else []
  | (a, b) :: r => if low < a then (low, a - 1) :: gaps top (b + 1) r else gaps top (b + 1) r

def complement (top : Nat) (a : Ranges) : Ranges := gaps top 0 a

/-- The part of both sets that lies in one interval of each. -/
def inter (a b : Ranges) : Ranges :=
  ofIntervals (a.flatMap fun i => b.filterMap fun j =>
    let low := max i.1 j.1
    let high := min i.2 j.2
    if low ≤ high then some (low, high) else none)

def diff (a b : Ranges) : Ranges := inter a (complement last b)

def symmDiff (a b : Ranges) : Ranges := union (diff a b) (diff b a)

def isAscii (a : Ranges) : Bool := a.all fun i => i.2 < 128

/-- The set with all characters that differ from a member in case alone. -/
def fold (a : Ranges) : Ranges :=
  let classes := foldClasses.toList.filterMap fun (target, others) =>
    let members := target :: others
    if members.any a.has then some (members.map fun n => (n, n)) else none
  union a classes.flatten

/-- The set with the other case of its ASCII letters. -/
def foldAscii (a : Ranges) : Ranges :=
  let other := (List.range 26).flatMap fun i =>
    (if a.has (65 + i) then [(97 + i, 97 + i)] else []) ++
      (if a.has (97 + i) then [(65 + i, 65 + i)] else [])
  union a other

end CharSet

end SiteWalk.Pattern
