import SiteWalk.Extract.RawDump
import SiteWalk.Extract.Readable
import SiteWalk.Extract.Selector

/-!
# Ways to extract

How the text of a page is taken from its markup.
-/

namespace SiteWalk.Extract

inductive Mode where
  | rawDump
  | readability
  | selector
  deriving DecidableEq, Repr, Inhabited

namespace Mode

def name : Mode → String
  | .rawDump => "raw-dump"
  | .readability => "readability"
  | .selector => "selector"

def ofName? (s : String) : Option Mode :=
  [rawDump, readability, selector].find? fun m => m.name == s

end Mode

/-- The text of a page, in the given mode. -/
def text (mode : Mode) (selector : Selector) (remove : List String) (page : List Char) :
    List Char :=
  match mode with
  | .rawDump => rawDump page
  | .readability => readable page
  | .selector => selected selector remove (Html.read page)

end SiteWalk.Extract
