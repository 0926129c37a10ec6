/-!
# Tokens of markup

What a document is read as before it becomes a tree: tags, comments, document
types, and runs of text.  Runs of blanks and runs of other characters are told
apart, since trees place them differently.
-/

namespace SiteWalk.Html

/-- A start or end tag; attributes in the order of the text, names in lower
case, each name once. -/
structure Tag where
  name : String
  attrs : List (String × String)
  selfClosing : Bool
  deriving DecidableEq, Repr, Inhabited

/-- A document type declaration; an absent identifier differs from an empty one. -/
structure Doctype where
  name : Option String
  publicId : Option String
  systemId : Option String
  /-- The declaration is malformed, which alone asks for the old layout rules. -/
  malformed : Bool
  deriving DecidableEq, Repr, Inhabited

inductive Token where
  | doctype (d : Doctype)
  | startTag (t : Tag)
  | endTag (t : Tag)
  | comment (s : String)
  /-- A run of tabs, line ends and spaces. -/
  | blank (s : String)
  /-- A run of other characters. -/
  | text (s : String)
  /-- The character U+0000. -/
  | null
  | eof
  deriving DecidableEq, Repr, Inhabited

/-- How the characters after a tag are to be read. -/
inductive TextMode where
  | markup
  /-- Text with references, up to the end tag of this name. -/
  | escapable (tag : String)
  /-- Text as it stands, up to the end tag of this name. -/
  | raw (tag : String)
  | script
  /-- Text up to the end of the document. -/
  | plain
  deriving DecidableEq, Repr, Inhabited

end SiteWalk.Html
