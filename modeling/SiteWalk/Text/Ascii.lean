/-!
# ASCII

The classes and the case map that formats defined on ASCII use.  Letters
outside ASCII are in no class and have no other case here.
-/

namespace SiteWalk.Text

def isUpperAscii (c : Char) : Bool := 'A' ≤ c && c ≤ 'Z'

def isLowerAscii (c : Char) : Bool := 'a' ≤ c && c ≤ 'z'

def isLetter (c : Char) : Bool := isUpperAscii c || isLowerAscii c

def isDigit (c : Char) : Bool := '0' ≤ c && c ≤ '9'

def isAlnum (c : Char) : Bool := isLetter c || isDigit c

/-- The lower case of an ASCII letter; any other character is its own. -/
def lowerChar (c : Char) : Char := if isUpperAscii c then Char.ofNat (c.toNat + 32) else c

def lower (s : List Char) : List Char := s.map lowerChar

def lowerString (s : String) : String := String.ofList (lower s.toList)

/-- The value of a hexadecimal digit of either case. -/
def hexValue? (c : Char) : Option Nat :=
  if isDigit c then some (c.toNat - 48)
  else if 'a' ≤ c && c ≤ 'f' then some (c.toNat - 87)
  else if 'A' ≤ c && c ≤ 'F' then some (c.toNat - 55)
  else none

def isHex (c : Char) : Bool := (hexValue? c).isSome

/-- The digit of value `n < 16`, in lower case. -/
def hexDigit (n : Nat) : Char :=
  if n < 10 then Char.ofNat (48 + n) else Char.ofNat (87 + n)

/-- The digit of value `n < 16`, in upper case. -/
def hexDigitUpper (n : Nat) : Char :=
  if n < 10 then Char.ofNat (48 + n) else Char.ofNat (55 + n)

/-- The number that digits write in `base`, most significant first. -/
def ofDigits (base : Nat) (ds : List Nat) : Nat := ds.foldl (fun n d => n * base + d) 0

/-- The digits of `n` in `base`, most significant first; at least one. -/
def toDigits (base : Nat) (n : Nat) : List Nat :=
  if _h : 2 ≤ base ∧ base ≤ n then toDigits base (n / base) ++ [n % base] else [n]
termination_by n
decreasing_by exact Nat.div_lt_self (by omega) (by omega)

/-- `n` in decimal. -/
def decimal (n : Nat) : List Char := (toDigits 10 n).map fun d => Char.ofNat (48 + d)

/-- The number that a run of decimal digits writes; none if empty or if a
character is no digit. -/
def decimal? (s : List Char) : Option Nat :=
  if s.isEmpty || !s.all isDigit then none
  else some (ofDigits 10 (s.map fun c => c.toNat - 48))

/-! ## Search -/

/-- `s` starts with `p`, whose letters are lower case, in any case of letters. -/
def startsWithLower (p : List Char) (s : List Char) : Bool := lower (s.take p.length) == p

theorem length_dropWhile_le {α : Type} (p : α → Bool) (s : List α) :
    (s.dropWhile p).length ≤ s.length :=
  (List.dropWhile_suffix p).length_le

/-- Cuts before the first character in the class. -/
def cutBefore (p : Char → Bool) (s : List Char) : List Char × List Char :=
  (s.takeWhile (!p ·), s.dropWhile (!p ·))

/-- The text holds `needle` somewhere. -/
def contains (needle : List Char) : List Char → Bool
  | [] => needle.isEmpty
  | c :: r => needle.isPrefixOf (c :: r) || contains needle r

/-- Cuts at the last character equal to `c`; none if there is none. -/
def cutLast? (c : Char) (s : List Char) : Option (List Char × List Char) :=
  let r := s.reverse
  match r.dropWhile (· != c) with
  | [] => none
  | _ :: front => some (front.reverse, (r.takeWhile (· != c)).reverse)

/-- Cuts before the first place that starts with `p` in any case of letters. -/
def cutAtLower? (p : List Char) : List Char → Option (List Char × List Char)
  | [] => none
  | c :: r =>
    if startsWithLower p (c :: r) then some ([], c :: r)
    else (cutAtLower? p r).map fun (front, back) => (c :: front, back)

/-- The text before the last place that starts with `p` in any case of letters. -/
def beforeLastLower? (p : List Char) : List Char → Option (List Char)
  | [] => none
  | c :: r =>
    match beforeLastLower? p r with
    | some front => some (c :: front)
    | none => if startsWithLower p (c :: r) then some [] else none

end SiteWalk.Text
