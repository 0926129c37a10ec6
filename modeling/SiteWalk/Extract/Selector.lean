import SiteWalk.Html.Markup
import SiteWalk.Html.Select
import SiteWalk.Text.Ascii

/-!
# Content by selector

A selector is written `tag`, `tag.class`, `tag#id` or with both parts in either
order.  What it yields is the inner markup of every element that it matches,
after the elements with unwanted names have been taken out.

    parse? (toCss s) = .ok s for every s that parse? yields
-/

namespace SiteWalk.Extract

open Text Html

/-- A tag name and the class and identifier that an element must have. -/
structure Selector where
  tag : String
  cls : Option String
  id : Option String
  deriving DecidableEq, Repr, Inhabited

/-- Why a text is no selector. -/
inductive SelectorError where
  | missingTag
  | badTag
  | emptyName
  | badName
  | repeated
  deriving DecidableEq, Repr

namespace SelectorError

def message : SelectorError → String
  | .missingTag => "missing tag name"
  | .badTag => "tag name must be a letter followed by letters, digits or '-'"
  | .emptyName => "empty class or id"
  | .badName => "class and id must be CSS identifiers"
  | .repeated => "class and id may each appear once"

end SelectorError

namespace Selector

/-- The selector of a document's body. -/
def body : Selector := ⟨"body", none, none⟩

/-! ## Names -/

def isTagName : List Char → Bool
  | c :: r => isLetter c && r.all fun d => isAlnum d || d == '-'
  | [] => false

def isNameChar (c : Char) : Bool := isAlnum c || c == '_' || c == '-'

/-- The names that a class or identifier may have. -/
def isName (s : List Char) : Bool :=
  match s with
  | c :: r =>
    (isLetter c || c == '_' || c == '-') && s.all isNameChar &&
      !(c == '-' && (r.head? == some '-' || r.head? == some '0'))
  | [] => false

/-- An identifier of style sheets: a letter or underscore after at most one dash. -/
def isIdentifier (s : List Char) : Bool :=
  let starts (c : Option Char) : Bool := c.any fun c => isLetter c || c == '_'
  match s with
  | '-' :: r => starts r.head? && r.all isNameChar
  | _ => starts s.head? && s.all isNameChar

/-! ## Reading and writing -/

/-- The text before the first `.` or `#`, and each marked part after it. -/
def cutParts : List Char → List Char × List (Char × List Char)
  | [] => ([], [])
  | c :: r =>
    let (front, parts) := cutParts r
    if c == '.' || c == '#' then ([], (c, front) :: parts) else (c :: front, parts)

/-- Adds a marked part; a class and an identifier may each be given once. -/
def addPart (s : Selector) (part : Char × List Char) : Except SelectorError Selector :=
  let name := part.2
  if name.isEmpty then .error .emptyName
  else if !isName name then .error .badName
  else if part.1 == '.' then
    if s.cls.isSome then .error .repeated else .ok { s with cls := some (String.ofList name) }
  else
    if s.id.isSome then .error .repeated else .ok { s with id := some (String.ofList name) }

/-- Reads a text without blanks around it. -/
def parse? (raw : List Char) : Except SelectorError Selector :=
  let (tag, parts) := cutParts raw
  if tag.isEmpty then .error .missingTag
  else if !isTagName tag then .error .badTag
  else parts.foldlM addPart ⟨String.ofList (lower tag), none, none⟩

def toCss (s : Selector) : String :=
  let part (mark : String) (name : Option String) : String :=
    match name with
    | some n => mark ++ n
    | none => ""
  s.tag ++ part "." s.cls ++ part "#" s.id

/-! ## Matching -/

/-- The selector as a style sheet would read it; else it matches nothing. -/
def isValid (s : Selector) : Bool :=
  let ok (name : Option String) : Bool := name.all fun n => isIdentifier n.toList
  ok s.cls && ok s.id

def hits (s : Selector) (e : Element) : Bool :=
  e.name == s.tag && s.cls.all (e.classes.contains ·) && s.id.all (e.id? == some ·)

end Selector

/-! ## Extraction -/

/-- The node is an element with one of these names. -/
def isElementIn (names : List String) : Item → Bool
  | .element e => names.contains e.name
  | _ => false

/-- The inner markup of the elements of a document that the selector matches, the
elements named in `remove` taken from their parents before. -/
def selected (s : Selector) (remove : List String) (document : Forest) : List Char :=
  if s.isValid then
    ((document.sever (isElementIn remove)).select s.hits).flatMap fun place =>
      place.kids.innerMarkup
  else []

end SiteWalk.Extract
