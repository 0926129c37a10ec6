import SiteWalk.Text.LineEnd

/-!
# The whole page

The raw dump of a page is its text without a leading byte order mark and
without U+0000, with line feeds for line ends.
-/

namespace SiteWalk.Extract

open Text

def rawDump (html : List Char) : List Char :=
  (unifyLineEnds (dropMark html)).filter (· != '\x00')

end SiteWalk.Extract
