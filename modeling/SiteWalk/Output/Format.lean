import SiteWalk.Crawl.Form
import SiteWalk.Json.Printer
import SiteWalk.Output.Markdown
import SiteWalk.Text.Ascii

/-!
# Forms of a report

A name stands for a format in any case.  The flavor of a crawl decides which half of
the report the text forms show; the JSON form always shows all of it.
-/

namespace SiteWalk.Output

open Crawl

inductive Format where
  | text
  | json
  | markdown
  deriving DecidableEq, Repr, Inhabited

/-- No format has this name. -/
structure UnknownFormat where
  name : String
  deriving DecidableEq, Repr, Inhabited

def UnknownFormat.message (e : UnknownFormat) : String := "Unknown output format: " ++ e.name

namespace Format

/-- The format of a name, in any case. -/
def ofName (s : String) : Except UnknownFormat Format :=
  let name := Text.lowerString s
  if ["text", "txt"].contains name then .ok .text
  else if name = "json" then .ok .json
  else if ["markdown", "md"].contains name then .ok .markdown
  else .error ⟨name⟩

/-- A report written out. -/
def render (format : Format) (flavor : Flavor) (r : Report) : List Char :=
  match format with
  | .text => plain r flavor
  | .json => Json.laidOut 0 r.toDatum
  | .markdown => Output.markdown r flavor

end Format

end SiteWalk.Output
