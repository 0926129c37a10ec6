import SiteWalk.Bound
import SiteWalk.Text.Ascii

/-!
# Punycode

A label of any characters as a label of ASCII letters, digits and dashes: the
ASCII characters as they stand, then after a dash the others as numbers that say
which character comes where.  Numbers are written with digits whose weights
depend on the bias, which follows the size of the numbers so far.
-/

namespace SiteWalk.Url.Punycode

open Text

def base : Nat := 36

/-- The threshold of the digit at place `k`. -/
def threshold (bias k : Nat) : Nat :=
  if k ≤ bias then 1 else if bias + 26 ≤ k then 26 else k - bias

/-- The bias after a number, from its size and how many characters are placed. -/
def adapt (delta points : Nat) (first : Bool) : Nat :=
  let d := if first then delta / 700 else delta / 2
  go (d + d / points) 0
where
  go (d k : Nat) : Nat :=
    if h : d > 455 then go (d / 35) (k + base) else k + 36 * d / (d + 38)
  termination_by d
  decreasing_by exact Nat.div_lt_self (by omega) (by omega)

/-! ## Writing -/

/-- The digit of value `n < 36`. -/
def digit (n : Nat) : Char := if n < 26 then Char.ofNat (97 + n) else Char.ofNat (22 + n)

/-- A number as digits, from place `k` on. -/
def number (bias k n : Nat) : List Char :=
  let t := threshold bias k
  if n < t then [digit n]
  else
    digit (t + (n - t) % (base - t)) :: number bias (k + base) ((n - t) / (base - t))
termination_by n
decreasing_by
  have h1 : 1 ≤ threshold bias k := by unfold threshold; split <;> (try split) <;> omega
  have h2 := Nat.div_le_self (n - threshold bias k) (base - threshold bias k)
  omega

/-- What the writer carries from one character to the next. -/
structure Writer where
  delta : Nat := 0
  bias : Nat := 72
  placed : Nat
  first : Bool := true
  out : List Char := []

/-- One pass over the label for the code point `n`. -/
def Writer.pass (n : Nat) (w : Writer) (label : List Nat) : Writer :=
  label.foldl
    (fun w c =>
      if c < n then { w with delta := w.delta + 1 }
      else if c = n then
        { delta := 0, bias := adapt w.delta (w.placed + 1) w.first, placed := w.placed + 1,
          first := false, out := w.out ++ number w.bias base w.delta }
      else w)
    w

/-- A sorted list with each member once. -/
def once : List Nat → List Nat
  | a :: b :: r => if a = b then once (b :: r) else a :: once (b :: r)
  | l => l

/-- The characters from 128 on, each once and in order. -/
def rounds (label : List Nat) : List Nat := once ((label.filter (128 ≤ ·)).mergeSort (· ≤ ·))

/-- The ASCII form of a label. -/
def encode (label : List Char) : List Char :=
  let points := label.map Char.toNat
  let plain := label.filter (·.toNat < 128)
  let start : Writer := { placed := plain.length }
  let (w, _) := (rounds points).foldl
    (fun (acc : Writer × Nat) n =>
      let w := { acc.1 with delta := acc.1.delta + (n - acc.2) * (acc.1.placed + 1) }
      let w := w.pass n points
      ({ w with delta := w.delta + 1 }, n + 1))
    (start, 128)
  (if plain.isEmpty then [] else plain ++ ['-']) ++ w.out

/-! ## Reading -/

def digitValue? (c : Char) : Option Nat :=
  if isLetter c then some ((lowerChar c).toNat - 97)
  else if isDigit c then some (c.toNat - 22)
  else none

/-- Numbers beyond this are refused. -/
def limit : Nat := bound32

/-- What the reader carries: the label so far, the place and code point of the next
character, and the number being read with its weight and place. -/
structure Reader where
  label : List Nat
  place : Nat := 0
  point : Nat := 128
  bias : Nat := 72
  first : Bool := true
  value : Nat := 0
  weight : Nat := 1
  k : Nat := 36

def Reader.next (r : Reader) (c : Char) : Option Reader := do
  let d ← digitValue? c
  let value := r.value + d * r.weight
  if value ≥ limit then none
  let t := threshold r.bias r.k
  if d < t then
    let count := r.label.length + 1
    let place := r.place + value
    let point := r.point + place / count
    if point > 0x10FFFF || (0xD800 ≤ point && point < 0xE000) then none
    let at' := place % count
    return { label := r.label.take at' ++ point :: r.label.drop at'
             place := at' + 1
             point := point
             bias := adapt value count r.first
             first := false }
  else
    let weight := r.weight * (base - t)
    if weight ≥ limit then none
    return { r with value := value, weight := weight, k := r.k + base }

/-- The label that an ASCII form writes. -/
def decode? (s : List Char) : Option (List Char) := do
  let (plain, digits) := match cutLast? '-' s with
    | some (front, back) => (front, back)
    | none => ([], s)
  if !plain.all (·.toNat < 128) then none
  let r ← digits.foldlM Reader.next { label := plain.map Char.toNat }
  if r.k ≠ base then none
  return r.label.map Char.ofNat

end SiteWalk.Url.Punycode
