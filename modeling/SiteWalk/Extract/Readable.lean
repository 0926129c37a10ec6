import SiteWalk.Html.Markup
import SiteWalk.Html.Select
import SiteWalk.Text.Ascii

/-!
# Readable content

The main content of a page is the block with the best score.  Clutter is taken
out before; a block counts by its text, paragraphs and headings and loses by its
links, and a block that looks like a menu or an advertisement is passed over.

    best ps = the first of ps of maximal score among those with a score
-/

namespace SiteWalk.Extract

open Text Html

/-- What stands for the content of a page that has none. -/
def noContent : String := "No scrape"

/-! ## Clutter -/

/-- Elements that never hold main content. -/
def clutterNames : List String :=
  ["script", "style", "noscript", "nav", "footer", "header", "form", "aside", "iframe", "template",
   "svg"]

def isClutter : Item → Bool
  | .element e => clutterNames.contains e.name
  | .comment _ => true
  | _ => false

/-- Parts of names that mark menus, advertisements and the like. -/
def boilerplateHints : List String :=
  ["nav", "menu", "footer", "header", "sidebar", "comment", "cookie", "banner", "advert", "social",
   "share", "breadcrumb", "related", "popup", "modal"]

/-- A class or the identifier holds a hint, in any case of letters. -/
def isBoilerplate (e : Element) : Bool :=
  (e.classes ++ e.id?.toList).any fun name =>
    boilerplateHints.any fun hint => contains hint.toList (lower name.toList)

/-! ## Score -/

/-- The number of characters of the text of a node, blanks collapsed. -/
def textLength (kids : Forest) : Nat := (collapse kids.text).length

/-- Text beyond this length does not count. -/
def countedText : Nat := 8000

/-- The length from which a paragraph counts as substance. -/
def substantialText : Nat := 100

/-- What an element adds by its name. -/
def nameBonus (name : String) : Int :=
  if name == "article" then 500 else if name == "main" then 300 else 0

/-- The points of a block before its links are weighed. -/
def points (place : Forest.Place) : Int :=
  let kids := place.kids
  let paragraphs := kids.within (named ["p"])
  let substantial := paragraphs.filter fun p => textLength p.kids ≥ substantialText
  let headings := kids.within (named ["h1", "h2", "h3", "h4", "h5", "h6"])
  let links := kids.within (named ["a"])
  (min (textLength kids) countedText : Nat) + paragraphs.length * 200
    + substantial.length * 300 + headings.length * 100 - links.length * 50
    + place.depth * 10 + nameBonus place.element.name

/-- More than half of the text is in links. -/
def isLinkFarm (kids : Forest) : Bool :=
  let linked := (kids.within (named ["a"])).foldl (fun n a => n + textLength a.kids) 0
  textLength kids < linked + linked

/-- The score of a block: none without text, else at least one. -/
def score (place : Forest.Place) : Int :=
  if textLength place.kids = 0 then 0
  else
    let p := points place
    max 1 (if isLinkFarm place.kids then Int.tdiv p 2 else p)

/-! ## Choice -/

def candidateNames : List String := ["body", "article", "main", "section", "div", "td"]

/-- A block that may be chosen. -/
def isCandidate (e : Element) : Bool :=
  named candidateNames e && (e.name == "body" || !isBoilerplate e)

/-- Keeps the block that was better before, unless the new one beats it. -/
def better (best : Option (Int × Forest.Place)) (place : Forest.Place) :
    Option (Int × Forest.Place) :=
  let s := score place
  let beats := match best with
    | none => true
    | some (top, _) => decide (top < s)
  if 0 < s && beats then some (s, place) else best

/-- The first block of the best score. -/
def best (places : List Forest.Place) : Option Forest.Place :=
  (places.foldl better none).map Prod.snd

/-- The text of the first title, if it has any. -/
def title? (document : Forest) : Option (List Char) :=
  match (document.select (named ["title"])).head? with
  | some t =>
    let text := collapse t.kids.text
    if text.isEmpty then none else some text
  | none => none

/-- `&`, `<` and `>` as markup writes them in a heading. -/
def escapeTitleChar (c : Char) : List Char :=
  if c == '&' then "&amp;".toList
  else if c == '<' then "&lt;".toList
  else if c == '>' then "&gt;".toList
  else [c]

/-- The readable content of a document, under its title. -/
def readableOf (document : Forest) : List Char :=
  match best ((document.sever isClutter).select isCandidate) with
  | none => noContent.toList
  | some place =>
    let body := trim place.kids.innerMarkup
    match title? document with
    | some t => "<h1>".toList ++ t.flatMap escapeTitleChar ++ "</h1>\n".toList ++ body
    | none => body

/-- The readable content of a page. -/
def readable (html : List Char) : List Char :=
  if html.all isBlank then noContent.toList else readableOf (read html)

end SiteWalk.Extract
