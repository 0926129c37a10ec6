import SiteWalk.Datum
import SiteWalk.Text.Ascii

/-!
# Signs of TOML

Strings, numbers, dates and keys.  Each reader takes what its form needs from the
front of the text and gives back the rest; whether the rest may follow is for the
line to say.
-/

namespace SiteWalk.Toml

open Text

/-! ## Blanks and comments -/

def isSpace (c : Char) : Bool := c == ' ' || c == '\t'

def skipSpace (s : List Char) : List Char := s.dropWhile isSpace

/-- A character that a comment or string may hold as it stands. -/
def isPlain (c : Char) : Bool := c == '\t' || (32 ≤ c.toNat && c.toNat != 127)

/-- The text behind one line end. -/
def newLine? : List Char → Option (List Char)
  | '\n' :: r => some r
  | '\r' :: '\n' :: r => some r
  | _ => none

/-- The text behind the end of a line on which nothing but a comment follows. -/
def lineEnd? (s : List Char) : Option (List Char) :=
  let s := skipSpace s
  let s := match s with
    | '#' :: r => r.dropWhile isPlain
    | _ => s
  if s.isEmpty then some [] else newLine? s

/-- The text behind blanks, line ends and comments. -/
def skipLines? (comment : Bool) : List Char → Option (List Char)
  | [] => some []
  | c :: r =>
    if c == '\n' then skipLines? false r
    else if c == '\r' then if r.head? == some '\n' then skipLines? false r else none
    else if comment then if isPlain c then skipLines? true r else none
    else if isSpace c then skipLines? false r
    else if c == '#' then skipLines? true r
    else some (c :: r)

/-! ## Strings -/

def hexChar? (ds : List Char) : Option Char := do
  let n := ofDigits 16 (← ds.mapM hexValue?)
  if n.isValidChar then some (Char.ofNat n) else none

/-- The character that a letter behind a backslash stands for. -/
def escaped? : Char → Option Char
  | 'b' => some '\x08'
  | 't' => some '\t'
  | 'n' => some '\n'
  | 'f' => some '\x0c'
  | 'r' => some '\r'
  | '"' => some '"'
  | '\\' => some '\\'
  | _ => none

/-- Puts a character in front of what has been read. -/
def prepend (c : Char) (p : Option (List Char × List Char)) : Option (List Char × List Char) :=
  p.map fun (cs, rest) => (c :: cs, rest)

/-- A string with escapes, from behind its quote. -/
def basic? : List Char → Option (List Char × List Char)
  | [] => none
  | '"' :: r => some ([], r)
  | '\\' :: 'u' :: a :: b :: c :: d :: r =>
    (hexChar? [a, b, c, d]).bind fun x => prepend x (basic? r)
  | '\\' :: 'U' :: a :: b :: c :: d :: e :: f :: g :: h :: r =>
    (hexChar? [a, b, c, d, e, f, g, h]).bind fun x => prepend x (basic? r)
  | '\\' :: c :: r => (escaped? c).bind fun x => prepend x (basic? r)
  | c :: r => if isPlain c && c != '\\' then prepend c (basic? r) else none

/-- A string with escapes over several lines, from behind its quotes; `skipping` after
a backslash at the end of a line. -/
def longBasic? (skipping : Bool) : List Char → Option (List Char × List Char)
  | [] => none
  | '\r' :: r =>
    if r.head? != some '\n' then none else longBasic? skipping r
  | '\n' :: r => if skipping then longBasic? true r else prepend '\n' (longBasic? false r)
  | '"' :: '"' :: '"' :: '"' :: '"' :: r => some (['"', '"'], r)
  | '"' :: '"' :: '"' :: '"' :: r => some (['"'], r)
  | '"' :: '"' :: '"' :: r => some ([], r)
  | '\\' :: 'u' :: a :: b :: c :: d :: r =>
    (hexChar? [a, b, c, d]).bind fun x => prepend x (longBasic? false r)
  | '\\' :: 'U' :: a :: b :: c :: d :: e :: f :: g :: h :: r =>
    (hexChar? [a, b, c, d, e, f, g, h]).bind fun x => prepend x (longBasic? false r)
  | '\\' :: c :: r =>
    if isSpace c || c == '\n' || c == '\r' then
      if (newLine? (skipSpace (c :: r))).isSome then longBasic? true (c :: r) else none
    else (escaped? c).bind fun x => prepend x (longBasic? false r)
  | c :: r =>
    if skipping && isSpace c then longBasic? true r
    else if isPlain c && c != '\\' then prepend c (longBasic? false r)
    else none

/-- A string as it stands, from behind its apostrophe. -/
def literal? (s : List Char) : Option (List Char × List Char) :=
  let body := s.takeWhile fun c => isPlain c && c != '\''
  match s.drop body.length with
  | '\'' :: r => some (body, r)
  | _ => none

/-- A string as it stands over several lines, from behind its apostrophes. -/
def longLiteral? : List Char → Option (List Char × List Char)
  | [] => none
  | '\r' :: r => if r.head? != some '\n' then none else longLiteral? r
  | '\n' :: r => prepend '\n' (longLiteral? r)
  | '\'' :: '\'' :: '\'' :: '\'' :: '\'' :: r => some (['\'', '\''], r)
  | '\'' :: '\'' :: '\'' :: '\'' :: r => some (['\''], r)
  | '\'' :: '\'' :: '\'' :: r => some ([], r)
  | c :: r => if isPlain c then prepend c (longLiteral? r) else none

/-- A string on several lines does not hold the line end right behind its quotes. -/
def dropNewLine (s : List Char) : List Char := (newLine? s).getD s

/-- A string of any kind. -/
def string? : List Char → Option (List Char × List Char)
  | '"' :: '"' :: '"' :: r => longBasic? false (dropNewLine r)
  | '"' :: r => basic? r
  | '\'' :: '\'' :: '\'' :: r => longLiteral? (dropNewLine r)
  | '\'' :: r => literal? r
  | _ => none

/-! ## Keys -/

def isBare (c : Char) : Bool := isAlnum c || c == '_' || c == '-'

def keyPart? (s : List Char) : Option (List Char × List Char) :=
  match s with
  | '"' :: r => basic? r
  | '\'' :: r => literal? r
  | _ =>
    let name := s.takeWhile isBare
    if name.isEmpty then none else some (name, s.drop name.length)

/-- The parts of a key with dots between them, in at most `fuel` parts. -/
def key? : Nat → List Char → Option (List String × List Char)
  | 0, _ => none
  | fuel + 1, s => do
    let (name, r) ← keyPart? (skipSpace s)
    match skipSpace r with
    | '.' :: r =>
      let (names, r) ← key? fuel r
      return (String.ofList name :: names, r)
    | r => return ([String.ofList name], r)

/-! ## Numbers -/

/-- The digits in front, with single underscores between digits dropped. -/
def digitRun (p : Char → Bool) (behind : Bool) : List Char → List Char × List Char
  | [] => ([], [])
  | c :: r =>
    if p c then
      let (ds, rest) := digitRun p true r
      (c :: ds, rest)
    else if c == '_' && behind && r.head?.any p then digitRun p false r
    else ([], c :: r)

/-- The sign in front: whether it is a minus, and the rest. -/
def sign : List Char → Bool × List Char
  | '+' :: r => (false, r)
  | '-' :: r => (true, r)
  | s => (false, s)

/-- Digits without a zero in front of others. -/
def whole? (s : List Char) : Option (List Char × List Char) :=
  match s with
  | '0' :: r => some (['0'], r)
  | _ =>
    let (ds, r) := digitRun isDigit false s
    if ds.isEmpty then none else some (ds, r)

/-- A number behind `0x`, `0o` or `0b`. -/
def based? (base : Nat) (s : List Char) : Option (Datum × List Char) := do
  let p (c : Char) : Bool := (hexValue? c).any (· < base)
  let (ds, r) := digitRun p false s
  let n := ofDigits base (ds.filterMap hexValue?)
  if ds.isEmpty || !isSigned64 n then none else some (.int n, r)

def integer? (s : List Char) : Option (Datum × List Char) :=
  match s with
  | '0' :: 'x' :: r => based? 16 r
  | '0' :: 'o' :: r => based? 8 r
  | '0' :: 'b' :: r => based? 2 r
  | _ => do
    let (minus, r) := sign s
    let (ds, r) ← whole? r
    let n : Int := (← decimal? ds)
    let n := if minus then -n else n
    if isSigned64 n then some (.int n, r) else none

/-- The digits behind a dot. -/
def fraction? (s : List Char) : Option (List Char × List Char) :=
  match s with
  | '.' :: r =>
    let (ds, r) := digitRun isDigit false r
    if ds.isEmpty then none else some ('.' :: ds, r)
  | _ => none

def exponent? (s : List Char) : Option (List Char × List Char) :=
  match s with
  | c :: r =>
    if c == 'e' || c == 'E' then
      let (minus, r) := sign r
      let (ds, r) := digitRun isDigit false r
      if ds.isEmpty then none else some ('e' :: (if minus then '-' :: ds else ds), r)
    else none
  | [] => none

/-- A number with a fraction, an exponent or both, and the names of those that are none. -/
def float? (s : List Char) : Option (Datum × List Char) :=
  let (minus, r) := sign s
  let mark := if minus then ['-'] else []
  match r with
  | 'i' :: 'n' :: 'f' :: r => some (.decimal (String.ofList (mark ++ "inf".toList)), r)
  | 'n' :: 'a' :: 'n' :: r => some (.decimal (String.ofList (mark ++ "nan".toList)), r)
  | _ => do
    let (ds, r) ← whole? r
    let (frac, r') := (fraction? r).getD ([], r)
    let (exp, r'') := (exponent? r').getD ([], r')
    if frac.isEmpty && exp.isEmpty then none
    else some (.decimal (String.ofList (mark ++ ds ++ frac ++ exp)), r'')

/-! ## Dates -/

/-- A number of exactly `n` digits, within bounds. -/
def fixed? (n low high : Nat) (s : List Char) : Option (Nat × List Char) := do
  let ds := s.take n
  let x ← decimal? ds
  if ds.length == n && low ≤ x && x ≤ high then some (x, s.drop n) else none

def char? (c : Char) (s : List Char) : Option (List Char) :=
  match s with
  | d :: r => if c == d then some r else none
  | [] => none

def daysIn (year month : Nat) : Nat :=
  if month == 2 then
    if year % 4 == 0 && (year % 100 != 0 || year % 400 == 0) then 29 else 28
  else if month == 4 || month == 6 || month == 9 || month == 11 then 30
  else 31

/-- The text behind a date. -/
def date? (s : List Char) : Option (List Char) := do
  let (year, r) ← fixed? 4 0 9999 s
  let (month, r) ← fixed? 2 1 12 (← char? '-' r)
  let (_, r) ← fixed? 2 1 (daysIn year month) (← char? '-' r)
  return r

/-- The text behind a time of day. -/
def time? (s : List Char) : Option (List Char) := do
  let (_, r) ← fixed? 2 0 23 s
  let (_, r) ← fixed? 2 0 59 (← char? ':' r)
  let (_, r) ← fixed? 2 0 60 (← char? ':' r)
  match r with
  | '.' :: d :: r => if isDigit d then some (r.dropWhile isDigit) else none
  | _ => some r

/-- The text behind the distance from universal time. -/
def zone? (s : List Char) : Option (List Char) :=
  match s with
  | c :: r =>
    if c == 'Z' || c == 'z' then some r
    else if c == '+' || c == '-' then do
      let (_, r) ← fixed? 2 0 23 r
      let (_, r) ← fixed? 2 0 59 (← char? ':' r)
      return r
    else none
  | [] => none

/-- The text behind a date, a time or both. -/
def moment? (s : List Char) : Option (List Char) :=
  match date? s with
  | none => time? s
  | some r =>
    match r with
    | c :: t =>
      if c == 'T' || c == 't' || c == ' ' then
        match time? t with
        | some r => some ((zone? r).getD r)
        | none => some r
      else some r
    | [] => some []

/-- A date or time is a record of one field, under a name that no profile has. -/
def dateTime? (s : List Char) : Option (Datum × List Char) :=
  (moment? s).map fun r =>
    (.record [("$__toml_private_datetime", .text (String.ofList (s.take (s.length - r.length))))],
      r)

/-- A value without parts. -/
def scalar? (s : List Char) : Option (Datum × List Char) :=
  match s with
  | 't' :: 'r' :: 'u' :: 'e' :: r => some (.bool true, r)
  | 'f' :: 'a' :: 'l' :: 's' :: 'e' :: r => some (.bool false, r)
  | c :: _ =>
    if c == '"' || c == '\'' then (string? s).map fun (t, r) => (.text (String.ofList t), r)
    else (dateTime? s).or ((float? s).or (integer? s))
  | [] => none

end SiteWalk.Toml
