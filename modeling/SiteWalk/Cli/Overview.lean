import SiteWalk.Output.Text
import SiteWalk.Profile
import SiteWalk.Text.Ascii

/-!
# Overview of a profile

What a crawl under a profile would do, for the reader of a dry run.
-/

namespace SiteWalk.Cli

open Output

/-- A time span: whole milliseconds below a second, and seconds from there on, with no
more places than needed. -/
def timeSpan (ms : Nat) : String :=
  let places := ((Text.decimal (1000 + ms % 1000)).drop 1).reverse.dropWhile (· = '0')
  if ms = 0 then "0ns"
  else if ms < 1000 then ms.repr ++ "ms"
  else if places.isEmpty then (ms / 1000).repr ++ "s"
  else (ms / 1000).repr ++ "." ++ String.ofList places.reverse ++ "s"

def entry (name value : String) : List Char := line ("  " ++ name ++ ": " ++ value)

def bool (b : Bool) : String := if b then "true" else "false"

def listed (xs : List String) : String := ", ".intercalate xs

def walkPart (p : Profile) : List Char :=
  let w := p.settings.walk
  line "Traversal:" ++
    entry "Depth" w.depth.repr ++
    entry "Host only" (bool w.hostOnly) ++
    entry "Body only" (bool w.bodyOnly) ++
    entry "Include source URL" (bool w.includeSource) ++
    entry "Cool down" (timeSpan w.coolDown) ++
    entry "Types to scrape" (listed p.categoryNames) ++
    (p.included?.map fun t => entry "Include pattern" t.text).getD [] ++
    (p.barred?.map fun t => entry "Exclude pattern" t.text).getD [] ++
    entry "Excluded pages" p.excludedPages.length.repr

def contentPart (p : Profile) : List Char :=
  line "Content:" ++
    entry "Mode" p.settings.content.mode.name ++
    entry "Selector" p.selector.toCss ++
    entry "Remove tags" (listed p.removed) ++
    entry "URL on top" (bool p.settings.content.urlOnTop)

def requestPart (p : Profile) : List Char :=
  let r := p.settings.request
  line "Requests:" ++
    entry "User agent" r.userAgent ++
    entry "Timeout" (timeSpan (1000 * r.timeout)) ++
    entry "Basic auth" (bool r.credentials.isSome) ++
    entry "Custom headers" r.headers.size.repr ++
    entry "Cookies" r.cookies.size.repr

def overview (p : Profile) : List Char :=
  line "=== Depthcrawl Dry Run ===" ++ line "" ++ walkPart p ++ line "" ++ contentPart p ++
    line "" ++ requestPart p ++ line "" ++ line "✓ Configuration is valid"

end SiteWalk.Cli
