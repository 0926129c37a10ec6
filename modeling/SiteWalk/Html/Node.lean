/-!
# Nodes of a document

What a node of a document tree holds.  Element names are in lower case in HTML;
SVG and MathML have names of their own, some with capitals.
-/

namespace SiteWalk.Html

/-- The vocabulary that an element name belongs to. -/
inductive Vocabulary where
  | html | svg | mathml
  deriving DecidableEq, Repr, Inhabited

/-- The namespace of an attribute name; only foreign elements have others than none. -/
inductive AttrSpace where
  | none | xlink | xml | xmlns
  deriving DecidableEq, Repr, Inhabited

structure Attr where
  space : AttrSpace
  name : String
  value : String
  deriving DecidableEq, Repr, Inhabited

structure Element where
  vocabulary : Vocabulary
  name : String
  attrs : List Attr
  deriving DecidableEq, Repr, Inhabited

inductive Item where
  | document
  /-- The root of what a template element holds. -/
  | fragment
  | doctype (name : String)
  | comment (s : String)
  | text (s : String)
  | element (e : Element)
  deriving DecidableEq, Repr, Inhabited

namespace Element

/-- The element is of HTML and has this name. -/
def is (e : Element) (name : String) : Bool := e.vocabulary == .html && e.name == name

/-- The element is of HTML and has one of these names. -/
def isIn (e : Element) (names : List String) : Bool :=
  e.vocabulary == .html && names.contains e.name

/-- The value of the first attribute with this local name. -/
def attr? (e : Element) (name : String) : Option String :=
  (e.attrs.find? (·.name == name)).map Attr.value

/-- Adds the attributes whose names the element lacks. -/
def addMissing (e : Element) (attrs : List Attr) : Element :=
  { e with
    attrs := attrs.foldl
      (fun all a =>
        if all.any (fun b => b.space == a.space && b.name == a.name) then all else all ++ [a])
      e.attrs }

end Element

end SiteWalk.Html
