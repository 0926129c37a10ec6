import SiteWalk.Crawl.Basic

/-!
# Reports as plain text

Links one a line; pages under their addresses, with a rule between them.
-/

namespace SiteWalk.Output

open Crawl

def line (s : String) : List Char := s.toList ++ ['\n']

def rule : List Char := "\n----\n\n".toList

def plainUnit (u : ContentUnit) : List Char := line ("== " ++ u.source) ++ line u.text

def plain (r : Report) : Flavor → List Char
  | .links => r.links.flatMap line
  | .content => rule.intercalate (r.contents.map plainUnit)

end SiteWalk.Output
