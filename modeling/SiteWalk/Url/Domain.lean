import SiteWalk.Text.Utf8
import SiteWalk.Unicode.Category
import SiteWalk.Unicode.Direction
import SiteWalk.Unicode.HostMapping
import SiteWalk.Unicode.Joining
import SiteWalk.Url.Punycode

/-!
# International host names

The ASCII form of a host name.  Characters are mapped and composed; a label that
then holds others than ASCII is written in Punycode behind `xn--`, and a label
that came in Punycode has to be one that this would have written.
-/

namespace SiteWalk.Url.Domain

open Text Unicode

/-! ## Labels -/

/-- An ASCII character that no host name may hold. -/
def isForbidden (c : Char) : Bool :=
  c.toNat ≤ 32 || c.toNat = 127 || "%#/:<>?@[\\]^|".toList.contains c

def isAscii (s : List Char) : Bool := s.all (·.toNat < 128)

def aceMark : List Char := "xn--".toList

/-- Joiners stand after a virama, or (the non-joiner) between letters that would
join.  `before` holds the characters before, last first. -/
def joinersOk (before : List Char) : List Char → Bool
  | [] => true
  | c :: r =>
    let afterVirama := match before with
      | p :: _ => combiningClass p == 9
      | [] => false
    let skipped (s : List Char) : Option Char :=
      (s.dropWhile fun d => joiningType d == "T").head?
    let ok :=
      if c == '\u200d' then afterVirama
      else if c == '\u200c' then
        afterVirama ||
          ((skipped before).any fun d => ["L", "D"].contains (joiningType d)) &&
            (skipped r).any fun d => ["R", "D"].contains (joiningType d)
      else true
    ok && joinersOk (c :: before) r

/-- A label that may stand in a host name once it is mapped and composed. -/
def isLabel (s : List Char) : Bool :=
  match s with
  | [] => true
  | c :: _ => !isMark c && joinersOk [] s && !s.any fun d => d.toNat < 128 && isForbidden d

/-! ## Directions -/

/-- The text has a character that is written from right to left, as none of ASCII is. -/
def isRightToLeft (s : List Char) : Bool :=
  s.any fun c => 128 ≤ c.toNat && ["R", "AL", "AN"].contains (direction c)

/-- The rule for labels of host names with text from right to left. -/
def directionOk (s : List Char) : Bool :=
  let ds := s.map direction
  let last := (ds.reverse.dropWhile (· == "NSM")).head?
  match ds.head? with
  | none => true
  | some first =>
    if first == "R" || first == "AL" then
      ds.all (["R", "AL", "AN", "EN", "ES", "CS", "ET", "ON", "BN", "NSM"].contains ·) &&
        last.any (["R", "AL", "EN", "AN"].contains ·) &&
        !(ds.contains "EN" && ds.contains "AN")
    else if first == "L" then
      ds.all (["L", "EN", "ES", "CS", "ET", "ON", "BN", "NSM"].contains ·) &&
        last.any (["L", "EN"].contains ·)
    else false

/-! ## Host names -/

/-- A mapped label as the characters it shows and as it is written. -/
def label? (s : List Char) : Option (List Char × List Char) :=
  if aceMark.isPrefixOf s then
    match Punycode.decode? (s.drop 4) with
    | none => none
    | some shown =>
      if isAscii shown || mapHost? shown != some shown || !isLabel shown then none
      else some (shown, s)
  else if isAscii s then if s.any isForbidden then none else some (s, s)
  else if isLabel s then some (s, aceMark ++ Punycode.encode s)
  else none

/-- The ASCII form of a host name. -/
def toAscii? (s : List Char) : Option (List Char) := do
  let mapped ← mapHost? s
  let labels ← (pieces (· == '.') mapped).mapM label?
  let shown := labels.map Prod.fst
  if shown.any isRightToLeft && !shown.all directionOk then none
  return join ['.'] (labels.map Prod.snd)

end SiteWalk.Url.Domain
