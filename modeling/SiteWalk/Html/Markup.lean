import SiteWalk.Html.Forest

/-!
# Writing markup

Text escapes `&`, `<`, `>` and the no-break space, attribute values `&`, `"` and
the no-break space.  The text of raw elements is written as it is, and elements
that cannot hold anything have no end tag.
-/

namespace SiteWalk.Html

/-! ## Escapes -/

def escapeTextChar (c : Char) : List Char :=
  if c == '&' then "&amp;".toList
  else if c == '\u00a0' then "&nbsp;".toList
  else if c == '<' then "&lt;".toList
  else if c == '>' then "&gt;".toList
  else [c]

def escapeValueChar (c : Char) : List Char :=
  if c == '&' then "&amp;".toList
  else if c == '\u00a0' then "&nbsp;".toList
  else if c == '"' then "&quot;".toList
  else [c]

/-! ## Elements -/

/-- Elements whose text is written as it is. -/
def rawTextNames : List String :=
  ["style", "script", "xmp", "iframe", "noembed", "noframes", "plaintext"]

/-- Elements that hold nothing. -/
def voidNames : List String :=
  ["area", "base", "basefont", "bgsound", "br", "col", "embed", "frame", "hr", "img", "input",
   "keygen", "link", "meta", "param", "source", "track", "wbr"]

def attrSpace (a : Attr) : List Char :=
  match a.space with
  | .none => []
  | .xml => "xml:".toList
  | .xmlns => if a.name == "xmlns" then [] else "xmlns:".toList
  | .xlink => "xlink:".toList

def attrText (a : Attr) : List Char :=
  ' ' :: attrSpace a ++ a.name.toList ++ ['=', '"'] ++ a.value.toList.flatMap escapeValueChar ++
    ['"']

def startTagText (e : Element) : List Char :=
  '<' :: e.name.toList ++ e.attrs.flatMap attrText ++ ['>']

def endTagText (e : Element) : List Char := '<' :: '/' :: e.name.toList ++ ['>']

namespace Forest

/-- The markup of the trees; `raw` if they are in an element of raw text. -/
def markup (raw : Bool) : Forest → List Char
  | .nil => []
  | .node _ item kids next =>
    let here := match item with
      | .document | .fragment => markup raw kids
      | .doctype name => "<!DOCTYPE ".toList ++ name.toList ++ ['>']
      | .comment s => "<!--".toList ++ s.toList ++ "-->".toList
      | .text s => if raw then s.toList else s.toList.flatMap escapeTextChar
      | .element e =>
        if e.isIn voidNames then startTagText e
        else startTagText e ++ markup (e.isIn rawTextNames) kids ++ endTagText e
    here ++ markup raw next

/-- The markup of what an element holds. -/
def innerMarkup (kids : Forest) : List Char := markup false kids

end Forest

end SiteWalk.Html
