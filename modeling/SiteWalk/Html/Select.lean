import SiteWalk.Html.Forest
import SiteWalk.Text.Blank

/-!
# Selecting elements

A selector names a tag and may ask for a class and an identifier.  Selection in
a document yields the elements that have a parent, in the order of their stamps.
-/

namespace SiteWalk.Html

open Text

/-! ## Classes and identifiers -/

namespace Element

/-- The classes of an element: the words of its class attributes. -/
def classes (e : Element) : List String :=
  (e.attrs.filter (·.name == "class")).flatMap fun a =>
    (words a.value.toList).map String.ofList

def id? (e : Element) : Option String := e.attr? "id"

end Element

/-! ## Selection -/

namespace Forest

/-- All elements that have a parent, in the order of their stamps. -/
def places (f : Forest) : List Place :=
  f.inner.mergeSort fun a b => a.stamp ≤ b.stamp

/-- The elements of a document that satisfy `p`. -/
def select (p : Element → Bool) (f : Forest) : List Place :=
  f.places.filter fun x => p x.element

/-- The elements below one of them that satisfy `p`, in document order. -/
def within (p : Element → Bool) (kids : Forest) : List Place :=
  (elements 0 kids).filter fun x => p x.element

end Forest

/-- Type selectors: the name alone, in any vocabulary. -/
def named (names : List String) (e : Element) : Bool := names.contains e.name

end SiteWalk.Html
