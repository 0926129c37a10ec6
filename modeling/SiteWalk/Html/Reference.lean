import SiteWalk.Html.NamedCharacter

/-!
# Character references of HTML

A reference is an ampersand with a number or a name after it.  The longest name
of the table wins.  A name without its semicolon is read in text wherever the
table allows it; in an attribute value only if neither a letter, a digit nor an
equals sign follows.
-/

namespace SiteWalk.Html

open Text

/-! ## Numbers -/

/-- The characters that the numbers 128 to 159 stand for. -/
def c1Characters : List Nat :=
  [0x20AC, 0x81, 0x201A, 0x192, 0x201E, 0x2026, 0x2020, 0x2021, 0x2C6, 0x2030, 0x160, 0x2039,
   0x152, 0x8D, 0x17D, 0x8F, 0x90, 0x2018, 0x2019, 0x201C, 0x201D, 0x2022, 0x2013, 0x2014,
   0x2DC, 0x2122, 0x161, 0x203A, 0x153, 0x9D, 0x17E, 0x178]

def replacement : Char := '\uFFFD'

/-- The character of a number: the replacement character for zero, surrogates
and numbers beyond the last code point. -/
def numberedChar (n : Nat) : Char :=
  if n = 0 ∨ 0x10FFFF < n ∨ (0xD800 ≤ n ∧ n < 0xE000) then replacement
  else if 0x80 ≤ n ∧ n < 0xA0 then Char.ofNat (c1Characters.getD (n - 0x80) n)
  else Char.ofNat n

/-- A number in `base`, its semicolon optional: the character, and how many
characters of `s` write it. -/
def numbered? (base : Nat) (digit? : Char → Option Nat) (s : List Char) :
    Option (List Char × Nat) :=
  let ds := s.takeWhile fun c => (digit? c).isSome
  if ds.isEmpty then none
  else
    let n := ofDigits base (ds.filterMap digit?)
    let semicolon := (s.drop ds.length).head? == some ';'
    some ([numberedChar n], ds.length + if semicolon then 1 else 0)

def digitValue? (c : Char) : Option Nat := if isDigit c then some (c.toNat - 48) else none

/-! ## Names -/

/-- Longer than every name of the table. -/
def nameLimit : Nat := 40

/-- The longest name without semicolon that `s` starts with, of at most `k`
characters. -/
def longestBare? (s : List Char) : Nat → Option (List Char × Nat)
  | 0 => none
  | k + 1 =>
    match bareNamed? (s.take (k + 1)) with
    | some cs => some (cs, k + 1)
    | none => longestBare? s k

/-- A name: its characters, and how many characters of `s` write it. -/
def nameReference? (inValue : Bool) (s : List Char) : Option (List Char × Nat) :=
  let run := (s.take nameLimit).takeWhile isAlnum
  let rest := s.drop run.length
  let closed := if rest.head? == some ';' then named? run else none
  match closed with
  | some cs => some (cs, run.length + 1)
  | none =>
    match longestBare? run run.length with
    | none => none
    | some (cs, k) =>
      let follows := match (s.drop k).head? with
        | some c => c == '=' || isAlnum c
        | none => false
      if inValue && follows then none else some (cs, k)

/-! ## Text -/

/-- What follows an ampersand, read as a reference. -/
def reference? (inValue : Bool) : List Char → Option (List Char × Nat)
  | '#' :: 'x' :: r => (numbered? 16 hexValue? r).map fun p => (p.1, p.2 + 2)
  | '#' :: 'X' :: r => (numbered? 16 hexValue? r).map fun p => (p.1, p.2 + 2)
  | '#' :: r => (numbered? 10 digitValue? r).map fun p => (p.1, p.2 + 1)
  | s => nameReference? inValue s

/-- `s` with every reference replaced by what it stands for. -/
def decodeReferences (inValue : Bool) (s : List Char) : List Char :=
  match s with
  | [] => []
  | c :: r =>
    if c == '&' then
      match reference? inValue r with
      | some (cs, n) => cs ++ decodeReferences inValue (r.drop n)
      | none => c :: decodeReferences inValue r
    else c :: decodeReferences inValue r
termination_by s.length
decreasing_by all_goals simp; try omega

/-! ## Strict reading -/

/-- A number and the semicolon that closes it; it has to be the number of a character. -/
def closedNumber? (base : Nat) (digit? : Char → Option Nat) (s : List Char) :
    Option (List Char × Nat) :=
  let ds := s.takeWhile fun c => (digit? c).isSome
  let n := ofDigits base (ds.filterMap digit?)
  if !ds.isEmpty && (s.drop ds.length).head? == some ';' && n.isValidChar then
    some ([Char.ofNat n], ds.length + 1)
  else none

/-- What follows an ampersand, if it is a reference closed by a semicolon. -/
def closedReference? : List Char → Option (List Char × Nat)
  | '#' :: 'x' :: r => (closedNumber? 16 hexValue? r).map fun p => (p.1, p.2 + 2)
  | '#' :: 'X' :: r => (closedNumber? 16 hexValue? r).map fun p => (p.1, p.2 + 2)
  | '#' :: r => (closedNumber? 10 digitValue? r).map fun p => (p.1, p.2 + 1)
  | s =>
    let name := (s.take nameLimit).takeWhile isAlnum
    if (s.drop name.length).head? == some ';' then
      (named? name).map fun cs => (cs, name.length + 1)
    else none

/-- `s` with every closed reference replaced by what it stands for; an open one and
one of no character stay as they are. -/
def decodeClosed (s : List Char) : List Char :=
  match s with
  | [] => []
  | c :: r =>
    if c == '&' then
      match closedReference? r with
      | some (cs, n) => cs ++ decodeClosed (r.drop n)
      | none => c :: decodeClosed r
    else c :: decodeClosed r
termination_by s.length
decreasing_by all_goals simp; try omega

end SiteWalk.Html
