import SiteWalk.Html.Arena
import SiteWalk.Html.Token

/-!
# The state of tree construction

Tokens are placed by what is still open: a stack of open elements, the top one
first, and a list of formatting elements, the last one first, which reach across
blocks that close before them.
-/

namespace SiteWalk.Html.Build

/-- Which rules place the next token. -/
inductive Mode where
  | initial | beforeHtml | beforeHead | inHead | afterHead | inBody | text
  | inTable | inTableText | inCaption | inColumnGroup | inTableBody | inRow | inCell
  | inSelect | inSelectInTable | inTemplate | afterBody | inFrameset | afterFrameset
  | afterAfterBody | afterAfterFrameset
  deriving DecidableEq, Repr, Inhabited

/-- An entry of the list of formatting elements. -/
inductive Formatting where
  | marker
  | element (node : Nat) (tag : Tag)
  deriving Inhabited

structure State where
  arena : Arena := .start
  mode : Mode := .initial
  /-- The mode to return to after raw text or the text of a table. -/
  returnMode : Mode := .inBody
  templateModes : List Mode := []
  /-- The open elements, the current one first. -/
  opened : List Nat := []
  /-- The formatting elements, the last one first. -/
  formatting : List Formatting := []
  head : Option Nat := none
  form : Option Nat := none
  framesetOk : Bool := true
  /-- A line feed that comes next is dropped. -/
  dropLineFeed : Bool := false
  /-- Content that a table cannot hold goes before the table. -/
  fostering : Bool := false
  /-- Text inside a table that is not placed yet, and whether it is blank; last first. -/
  tableText : List (Bool × String) := []
  /-- The document asks for the old layout rules. -/
  quirks : Bool := false
  reading : TextMode := .markup
  deriving Inhabited

/-- What a rule asks for next. -/
inductive Outcome where
  | done
  /-- The same token again, under the rules of another mode. -/
  | again (mode : Mode) (t : Token)
  /-- The same token again, in the mode that is set. -/
  | retry (t : Token)

/-- A change of the state, with its answer. -/
abbrev Edit := StateM State

/-! ## Names -/

def impliedEnd : List String :=
  ["dd", "dt", "li", "option", "optgroup", "p", "rb", "rp", "rt", "rtc"]

def thoroughImpliedEnd : List String :=
  impliedEnd ++ ["caption", "colgroup", "tbody", "td", "tfoot", "th", "thead", "tr"]

def headings : List String := ["h1", "h2", "h3", "h4", "h5", "h6"]

/-- Elements that end the search of an end tag for its start. -/
def special : List String :=
  ["address", "applet", "area", "article", "aside", "base", "basefont", "bgsound", "blockquote",
   "body", "br", "button", "caption", "center", "col", "colgroup", "dd", "details", "dir", "div",
   "dl", "dt", "embed", "fieldset", "figcaption", "figure", "footer", "form", "frame", "frameset",
   "h1", "h2", "h3", "h4", "h5", "h6", "head", "header", "hgroup", "hr", "html", "iframe", "img",
   "input", "isindex", "li", "link", "listing", "main", "marquee", "menu", "meta", "nav",
   "noembed", "noframes", "noscript", "object", "ol", "p", "param", "plaintext", "pre", "script",
   "section", "select", "source", "style", "summary", "table", "tbody", "td", "template",
   "textarea", "tfoot", "th", "thead", "title", "tr", "track", "ul", "wbr", "xmp"]

/-- A MathML element that holds text of HTML. -/
def isMathText (e : Element) : Bool :=
  e.vocabulary == .mathml && ["mi", "mo", "mn", "ms", "mtext"].contains e.name

/-- An SVG element that holds HTML. -/
def isSvgHost (e : Element) : Bool :=
  e.vocabulary == .svg && ["foreignObject", "desc", "title"].contains e.name

/-- Where a search through the open elements stops. -/
def defaultScope (e : Element) : Bool :=
  e.isIn ["applet", "caption", "html", "table", "td", "th", "marquee", "object", "template"] ||
    isMathText e || isSvgHost e

def listScope (e : Element) : Bool := defaultScope e || e.isIn ["ol", "ul"]

def buttonScope (e : Element) : Bool := defaultScope e || e.is "button"

def tableScope (e : Element) : Bool := e.isIn ["html", "table", "template"]

def selectScope (e : Element) : Bool := !e.isIn ["optgroup", "option"]

def tableBodyContext (e : Element) : Bool :=
  e.isIn ["tbody", "tfoot", "thead", "template", "html"]

def tableRowContext (e : Element) : Bool := e.isIn ["tr", "template", "html"]

/-! ## Open elements -/

namespace State

def element? (s : State) (n : Nat) : Option Element := s.arena.element? n

def elementIs (s : State) (p : Element → Bool) (n : Nat) : Bool :=
  match s.element? n with
  | some e => p e
  | none => false

def current? (s : State) : Option Nat := s.opened.head?

/-- The current element satisfies `p`. -/
def currentIs (s : State) (p : Element → Bool) : Bool :=
  match s.current? with
  | some n => s.elementIs p n
  | none => false

/-- A search from the current element up: `found` before `scope`. -/
def inScopeWhere (s : State) (scope : Element → Bool) (found : Nat → Bool) : Bool :=
  go s.opened
where
  go : List Nat → Bool
    | [] => false
    | n :: r => found n || (!s.elementIs scope n && go r)

def inScope (s : State) (scope : Element → Bool) (name : String) : Bool :=
  s.inScopeWhere scope (s.elementIs (·.is name))

/-- A template is open. -/
def inTemplate (s : State) : Bool := s.opened.any (s.elementIs (·.is "template"))

/-- The root element, the first that was opened. -/
def root (s : State) : Nat := s.opened.getLastD 0

/-- The body element, if it is the second that was opened. -/
def body? (s : State) : Option Nat :=
  match s.opened.reverse with
  | _ :: n :: _ => if s.elementIs (·.is "body") n then some n else none
  | _ => none

/-- The mode that the open elements call for. -/
def resetMode (s : State) : Mode :=
  go s.opened
where
  inSelect : List Nat → Mode
    | [] => .inSelect
    | n :: r =>
      if s.elementIs (·.is "template") n then .inSelect
      else if s.elementIs (·.is "table") n then .inSelectInTable
      else inSelect r
  go : List Nat → Mode
    | [] => .inBody
    | n :: r =>
      match s.element? n with
      | some ⟨.html, name, _⟩ =>
        let isLast := r.isEmpty
        if name == "select" then inSelect r
        else if ["td", "th"].contains name && !isLast then .inCell
        else if name == "tr" then .inRow
        else if ["tbody", "thead", "tfoot"].contains name then .inTableBody
        else if name == "caption" then .inCaption
        else if name == "colgroup" then .inColumnGroup
        else if name == "table" then .inTable
        else if name == "template" then s.templateModes.headD .inTemplate
        else if name == "head" && !isLast then .inHead
        else if name == "body" then .inBody
        else if name == "frameset" then .inFrameset
        else if name == "html" then if s.head.isNone then .beforeHead else .afterHead
        else go r
      | _ => go r

end State

/-! ## Steps -/

def setMode (m : Mode) : Edit Unit := modify fun s => { s with mode := m }

def notFramesetOk : Edit Unit := modify fun s => { s with framesetOk := false }

def push (n : Nat) : Edit Unit := modify fun s => { s with opened := n :: s.opened }

/-- Closes the current element. -/
def pop : Edit Unit := modify fun s => { s with opened := s.opened.drop 1 }

/-- Takes an element off the stack, wherever it is. -/
def removeOpened (n : Nat) : Edit Unit :=
  modify fun s => { s with opened := s.opened.erase n }

/-- Closes elements while `p` holds of the current one. -/
def popWhile (p : Element → Bool) : Edit Unit :=
  modify fun s => { s with opened := s.opened.dropWhile (s.elementIs p) }

/-- Closes elements up to one of which `p` holds, and that one too. -/
def popThrough (p : Element → Bool) : Edit Unit :=
  modify fun s => { s with opened := (s.opened.dropWhile (!s.elementIs p ·)).drop 1 }

def popThroughNamed (name : String) : Edit Unit := popThrough (·.is name)

/-- Closes elements up to one of which `p` holds, and keeps that one. -/
def popTo (p : Element → Bool) : Edit Unit :=
  modify fun s => { s with opened := s.opened.dropWhile (!s.elementIs p ·) }

def closeImplied : Edit Unit := popWhile (·.isIn impliedEnd)

def closeImpliedExcept (name : String) : Edit Unit :=
  popWhile fun e => e.isIn impliedEnd && e.name != name

/-- Closes a paragraph that is open within the scope of buttons. -/
def closeParagraph : Edit Unit := do
  closeImpliedExcept "p"
  popThroughNamed "p"

def closeParagraphInScope : Edit Unit := do
  if (← get).inScope buttonScope "p" then closeParagraph

def resetMode : Edit Unit := modify fun s => { s with mode := s.resetMode }

end SiteWalk.Html.Build
