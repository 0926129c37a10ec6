import SiteWalk.Datum
import SiteWalk.Json.Quoted

/-!
# Tokens of JSON

A JSON text is a row of tokens with blanks between them.  The lexer is one pass
over the characters; a number or a word ends where a character follows that it
cannot hold.
-/

namespace SiteWalk.Json

open Text

inductive Token where
  | openList | closeList | openRecord | closeRecord | comma | colon
  | null
  | bool (b : Bool)
  | int (n : Int)
  | decimal (digits : String)
  | text (s : String)
  deriving DecidableEq, Repr

/-! ## Numbers -/

/-- Cuts a run of digits off the front; none if there is none. -/
def cutDigits? (s : List Char) : Option (List Char × List Char) :=
  match s.takeWhile isDigit with
  | [] => none
  | ds => some (ds, s.dropWhile isDigit)

/-- A fraction and an exponent, each optional, and nothing after them. -/
def isNumberTail (s : List Char) : Bool :=
  let afterFraction : Option (List Char) :=
    match s with
    | '.' :: r => (cutDigits? r).map Prod.snd
    | _ => some s
  match afterFraction with
  | none => false
  | some [] => true
  | some (c :: r) =>
    if c == 'e' || c == 'E' then
      let digits := match r with
        | '+' :: r' => r'
        | '-' :: r' => r'
        | _ => r
      match cutDigits? digits with
      | some (_, []) => true
      | _ => false
    else false

/-- A number token.  An integer of 64 bits is an `int`; minus zero, a fraction
and anything larger are `decimal`. -/
def number? (s : List Char) : Option Token :=
  let (minus, body) := match s with
    | '-' :: r => (true, r)
    | _ => (false, s)
  match cutDigits? body with
  | none => none
  | some (ds, rest) =>
    if ds.head? == some '0' && ds.length != 1 then none
    else if rest.isEmpty then
      let n : Int := ofDigits 10 (ds.map fun c => c.toNat - 48)
      let v := if minus then -n else n
      if (minus && n == 0) || !Datum.isWord v then
        some (.decimal (String.ofList s))
      else some (.int v)
    else if isNumberTail rest then some (.decimal (String.ofList s))
    else none

/-- The three words of the notation. -/
def word? (s : List Char) : Option Token :=
  if s = ['n', 'u', 'l', 'l'] then some .null
  else if s = ['t', 'r', 'u', 'e'] then some (.bool true)
  else if s = ['f', 'a', 'l', 's', 'e'] then some (.bool false)
  else none

/-! ## Lexer -/

/-- What the lexer is inside of; the characters so far come last first. -/
inductive Inside where
  | gap
  | text (body : List Char) (escaped : Bool)
  | number (body : List Char)
  | word (body : List Char)

def isGap (c : Char) : Bool := c == ' ' || c == '\t' || c == '\n' || c == '\r'

def isNumberChar (c : Char) : Bool :=
  isDigit c || c == '-' || c == '+' || c == '.' || c == 'e' || c == 'E'

/-- A token that is one character. -/
def punctuation? (c : Char) : Option Token :=
  if c == '[' then some .openList
  else if c == ']' then some .closeList
  else if c == '\x7b' then some .openRecord
  else if c == '\x7d' then some .closeRecord
  else if c == ',' then some .comma
  else if c == ':' then some .colon
  else none

/-- A character between tokens: the token that it is, and what it opens. -/
def enter (c : Char) : Option (List Token × Inside) :=
  if isGap c then some ([], .gap)
  else if c == '"' then some ([], .text [] false)
  else if c == '-' || isDigit c then some ([], .number [c])
  else if isLowerAscii c then some ([], .word [c])
  else (punctuation? c).map fun t => ([t], .gap)

/-- One character: the tokens that end with it, and what the lexer is then in. -/
def advance : Inside → Char → Option (List Token × Inside)
  | .gap, c => enter c
  | .text body true, c => some ([], .text (c :: body) false)
  | .text body false, c =>
    if c == '"' then
      (unescape body.reverse).map fun s => ([.text (String.ofList s)], .gap)
    else if c.toNat < 32 then none
    else some ([], .text (c :: body) (c == '\\'))
  | .number body, c =>
    if isNumberChar c then some ([], .number (c :: body))
    else do
      let t ← number? body.reverse
      let (ts, inside) ← enter c
      return (t :: ts, inside)
  | .word body, c =>
    if isLowerAscii c then some ([], .word (c :: body))
    else do
      let t ← word? body.reverse
      let (ts, inside) ← enter c
      return (t :: ts, inside)

/-- The end of the text. -/
def leave : Inside → Option (List Token)
  | .gap => some []
  | .text _ _ => none
  | .number body => (number? body.reverse).map ([·])
  | .word body => (word? body.reverse).map ([·])

/-- The tokens of a text, from inside something. -/
def tokensFrom : Inside → List Char → Option (List Token)
  | inside, [] => leave inside
  | inside, c :: r =>
    match advance inside c with
    | none => none
    | some (ts, inside') => (tokensFrom inside' r).map (ts ++ ·)

/-- The tokens of a text. -/
def tokens? (s : List Char) : Option (List Token) := tokensFrom .gap s

end SiteWalk.Json
