import SiteWalk.Output.Text

/-!
# Reports in Markdown

Counts first, then the links, or the pages in fenced blocks.
-/

namespace SiteWalk.Output

open Crawl

/-- An item of the counts. -/
def item (name value : String) : List Char := line ("- **" ++ name ++ "**: " ++ value)

/-- What is wrong with a report, if anything. -/
def status (r : Report) : List Char :=
  if r.cancelled then item "Status" "cancelled before completion"
  else if r.incomplete then item "Status" "incomplete, a batch step was abandoned"
  else []

def statistics (r : Report) (f : Flavor) : List Char :=
  let own := match f with
    | .content => item "Content Units" r.contents.length.repr
    | .links => item "Links" r.links.length.repr
  item "Pages Fetched" r.pagesFetched.repr ++ item "Fetch Failures" r.fetchFailures.repr ++ own ++
    status r

/-- A text with a line end after its last line. -/
def ended (s : List Char) : List Char := if s.getLast? = some '\n' then s else s ++ ['\n']

def fenceOpen : String := "\x60\x60\x60html"

def fenceClose : String := "\x60\x60\x60"

/-- A page, fenced. -/
def fenced (u : ContentUnit) : List Char :=
  line ("### " ++ u.source) ++ line "" ++ line fenceOpen ++ ended u.text.toList ++
    line fenceClose ++ line ""

def linkItem (url : String) : List Char := line ("- <" ++ url ++ ">")

def body (r : Report) : Flavor → List Char
  | .links =>
    line "## Links" ++ line "" ++
      (if r.links.isEmpty then line "_No links collected._" else []) ++ r.links.flatMap linkItem
  | .content =>
    line "## Content" ++ line "" ++
      (if r.contents.isEmpty then line "_No content collected._" else []) ++
      r.contents.flatMap fenced

def markdown (r : Report) (f : Flavor) : List Char :=
  line "# Crawl Report" ++ line "" ++ line "## Statistics" ++ line "" ++ statistics r f ++
    line "" ++ body r f

end SiteWalk.Output
