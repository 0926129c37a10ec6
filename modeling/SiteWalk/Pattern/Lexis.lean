import SiteWalk.Bound
import SiteWalk.Pattern.Expr

/-!
# Signs of patterns

What one sign of a pattern stands for: escapes, properties, numbers and flags.
Under the flag `x` blanks and comments between the signs do not count.
-/

namespace SiteWalk.Pattern

open Unicode Text

/-- How the signs that follow are meant. -/
structure Flags where
  ignoreCase : Bool := false
  multiLine : Bool := false
  dotAll : Bool := false
  crlf : Bool := false
  unicode : Bool := true
  verbose : Bool := false
  deriving DecidableEq, Repr, Inhabited

/-! ## Blanks and comments -/

/-- The text behind blanks and comments. -/
def skipBlank : Bool → List Char → List Char
  | _, [] => []
  | true, c :: r => skipBlank (c != '\n') r
  | false, c :: r =>
    if isBlank c then skipBlank false r else if c == '#' then skipBlank true r else c :: r

def Flags.skip (f : Flags) (s : List Char) : List Char :=
  if f.verbose then skipBlank false s else s

/-- The text up to the closing brace, and what follows it. -/
def Flags.untilBrace? (f : Flags) (comment : Bool) : List Char → Option (List Char × List Char)
  | [] => none
  | c :: r =>
    if comment then f.untilBrace? (c != '\n') r
    else if c == '\x7d' then some ([], r)
    else if f.verbose && isBlank c then f.untilBrace? false r
    else if f.verbose && c == '#' then f.untilBrace? true r
    else (f.untilBrace? false r).map fun (body, rest) => (c :: body, rest)

/-- The digits that `s` starts with. -/
def Flags.digits (f : Flags) (comment : Bool) : List Char → List Char × List Char
  | [] => ([], [])
  | c :: r =>
    if comment then f.digits (c != '\n') r
    else if isDigit c then
      let (ds, rest) := f.digits false r
      (c :: ds, rest)
    else if f.verbose && isBlank c then f.digits false r
    else if f.verbose && c == '#' then f.digits true r
    else ([], c :: r)

/-! ## Numbers -/

/-- A count, with blanks around it allowed in any case. -/
def Flags.count? (f : Flags) (s : List Char) : Option (Nat × List Char) := do
  let (ds, rest) := f.digits false (trimLeft s)
  let n ← decimal? ds
  if n < bound32 then some (n, f.skip (trimLeft rest)) else none

/-- The bounds of a counted repetition, from behind its opening brace; the mark of a
lazy one is taken too. -/
def Flags.bounds? (f : Flags) (s : List Char) : Option (Nat × Option Nat × List Char) := do
  let (least, r) ← f.count? (f.skip s)
  let (most, r) ← match r with
    | ',' :: r =>
      match f.skip r with
      | '\x7d' :: r => some (none, '\x7d' :: r)
      | r => (f.count? r).map fun (n, r) => (some n, r)
    | _ => some (some least, r)
  let r ← match r with
    | '\x7d' :: r => some (f.skip r)
    | _ => none
  let r := match r with
    | '?' :: r => r
    | _ => r
  if most.any (· < least) then none else some (least, most, r)

/-- The character that `n` hexadecimal digits or a number in braces say. -/
def charOfHex? (ds : List Char) : Option Char := do
  let n := ofDigits 16 (← ds.mapM hexValue?)
  if ds.isEmpty || !n.isValidChar then none else some (Char.ofNat n)

/-- Exactly `n` hexadecimal digits. -/
def Flags.hexDigits? (f : Flags) : Nat → List Char → Option (List Char × List Char)
  | 0, s => some ([], s)
  | _ + 1, [] => none
  | n + 1, c :: r =>
    if isHex c then (f.hexDigits? n (f.skip r)).map fun (ds, rest) => (c :: ds, rest) else none

/-! ## Sets with a name -/

/-- Cuts before the first `mark`, and drops it. -/
def cutAround? (mark : List Char) : List Char → Option (List Char × List Char)
  | [] => none
  | c :: r =>
    if mark.isPrefixOf (c :: r) then some ([], (c :: r).drop mark.length)
    else (cutAround? mark r).map fun (front, back) => (c :: front, back)

/-- The set of a property, written as its name or as a name and a value; `!=` turns
the set around. -/
def property? (body : List Char) : Option (Bool × Ranges) :=
  let valued (turned : Bool) (p : List Char × List Char) : Option (Bool × Ranges) :=
    (byValue? (plainName p.1) (plainName p.2)).map fun r => (turned, r)
  match cutAround? ['!', '='] body with
  | some p => valued true p
  | none =>
    match cutAround? [':'] body with
    | some p => valued false p
    | none =>
      match cutAround? ['='] body with
      | some p => valued false p
      | none => (byName? (plainName body)).map fun r => (false, r)

/-- The set of a named class between `[:` and `:]`. -/
def asciiClass? (name : List Char) : Option Ranges :=
  match String.ofList name with
  | "alnum" => some [(48, 57), (65, 90), (97, 122)]
  | "alpha" => some [(65, 90), (97, 122)]
  | "ascii" => some [(0, 127)]
  | "blank" => some [(9, 9), (32, 32)]
  | "cntrl" => some [(0, 31), (127, 127)]
  | "digit" => some [(48, 57)]
  | "graph" => some [(33, 126)]
  | "lower" => some [(97, 122)]
  | "print" => some [(32, 126)]
  | "punct" => some [(33, 47), (58, 64), (91, 96), (123, 126)]
  | "space" => some [(9, 13), (32, 32)]
  | "upper" => some [(65, 90)]
  | "word" => some [(48, 57), (65, 90), (95, 95), (97, 122)]
  | "xdigit" => some [(48, 57), (65, 70), (97, 102)]
  | _ => none

/-- The set of `\d`, `\s` or `\w`. -/
def Flags.perlClass (f : Flags) (c : Char) : Ranges :=
  if c == 'd' then if f.unicode then decimalDigits else [(48, 57)]
  else if c == 's' then if f.unicode then whiteSpace else [(9, 13), (32, 32)]
  else if f.unicode then CharSet.ofIntervals wordChars
  else [(48, 57), (65, 90), (95, 95), (97, 122)]

/-- A set as the flags have it.  Without the flag `u` a set may hold ASCII alone. -/
def Flags.set? (f : Flags) (turned : Bool) (set : Ranges) : Option Ranges :=
  let folded :=
    if f.ignoreCase then if f.unicode then CharSet.fold set else CharSet.foldAscii set
    else CharSet.ofIntervals set
  let all := if turned then CharSet.complement CharSet.last folded else folded
  if f.unicode || CharSet.isAscii all then some all else none

/-! ## Escapes -/

/-- What stands for one character, a set or a place. -/
inductive Sign where
  | char (c : Char) (byte : Bool)
  | set (s : Ranges)
  | edge (e : Edge)

/-- The characters that mean something in a pattern. -/
def isMeta (c : Char) : Bool := "\\.+*?()|[]\x7b\x7d^$#&-~".toList.contains c

/-- The character stands for itself behind a backslash. -/
def isEscapable (c : Char) : Bool :=
  isMeta c || (c.toNat < 128 && !isAlnum c && c != '<' && c != '>')

def namedEdge? (u : Bool) (name : List Char) : Option Edge :=
  match String.ofList name with
  | "start" => some (.wordStart u)
  | "end" => some (.wordEnd u)
  | "start-half" => some (.wordStartHalf u)
  | "end-half" => some (.wordEndHalf u)
  | _ => none

/-- A character by its number, from behind the letter of the escape. -/
def Flags.hex? (f : Flags) (kind : Char) (s : List Char) : Option (Sign × List Char) := do
  match f.skip s with
  | '\x7b' :: r =>
    let (body, rest) ← f.untilBrace? false r
    return (.char (← charOfHex? body) false, rest)
  | r =>
    let n := if kind == 'x' then 2 else if kind == 'u' then 4 else 8
    let (ds, rest) ← f.hexDigits? n r
    return (.char (← charOfHex? ds) (kind == 'x'), rest)

/-- The set of a property, from behind the letter of the escape. -/
def Flags.propertySign? (f : Flags) (turned : Bool) (s : List Char) :
    Option (Sign × List Char) := do
  if !f.unicode then none
  let (body, rest) ← match f.skip s with
    | '\x7b' :: r => f.untilBrace? false r
    | '\\' :: _ => none
    | c :: r => some ([c], r)
    | [] => none
  let (other, set) ← property? body
  return (.set (← f.set? (turned != other) set), rest)

/-- The edge of a word, from behind `\b`: on which side, if braces say so. -/
def Flags.wordEdge? (f : Flags) (s : List Char) : Option (Sign × List Char) :=
  match s with
  | '\x7b' :: r =>
    match f.skip r with
    | [] => none
    | c :: _ =>
      if isLetter c || c == '-' then do
        let (body, rest) ← f.untilBrace? false r
        return (.edge (← namedEdge? f.unicode body), rest)
      else some (.edge (.word f.unicode), s)
  | _ => some (.edge (.word f.unicode), s)

/-- The sign behind a backslash. -/
def Flags.escape? (f : Flags) (s : List Char) : Option (Sign × List Char) :=
  match s with
  | [] => none
  | c :: r =>
    if isDigit c then none
    else if c == 'x' || c == 'u' || c == 'U' then f.hex? c r
    else if c == 'p' || c == 'P' then f.propertySign? (c == 'P') r
    else if "dswDSW".toList.contains c then
      let set := f.perlClass (lowerChar c)
      if !isUpperAscii c then some (.set set, r)
      else if f.unicode then some (.set (CharSet.complement CharSet.last set), r)
      else none
    else if isEscapable c then some (.char c false, r)
    else
      match c with
      | 'a' => some (.char '\x07' false, r)
      | 'f' => some (.char '\x0c' false, r)
      | 't' => some (.char '\t' false, r)
      | 'n' => some (.char '\n' false, r)
      | 'r' => some (.char '\r' false, r)
      | 'v' => some (.char '\x0b' false, r)
      | 'A' => some (.edge .textStart, r)
      | 'z' => some (.edge .textEnd, r)
      | 'b' => f.wordEdge? r
      | 'B' => some (.edge (.notWord f.unicode), r)
      | '<' => some (.edge (.wordStart f.unicode), r)
      | '>' => some (.edge (.wordEnd f.unicode), r)
      | _ => none

/-! ## Flags -/

def Flags.put (f : Flags) (on : Bool) (c : Char) : Flags :=
  match c with
  | 'i' => { f with ignoreCase := on }
  | 'm' => { f with multiLine := on }
  | 's' => { f with dotAll := on }
  | 'R' => { f with crlf := on }
  | 'u' => { f with unicode := on }
  | 'x' => { f with verbose := on }
  | _ => f

/-- The flags that letters turn on, and those behind a dash that they turn off; no
sign may stand twice, nor the dash last. -/
def Flags.change? (f : Flags) (letters : List Char) : Option Flags :=
  let known := letters.all fun c => c == '-' || "imsRuxU".toList.contains c
  if !known || letters.eraseDups.length != letters.length || letters.getLast? == some '-' then
    none
  else
    let on := letters.takeWhile (· != '-')
    let off := letters.dropWhile (· != '-')
    some (off.foldl (·.put false) (on.foldl (·.put true) f))

end SiteWalk.Pattern
