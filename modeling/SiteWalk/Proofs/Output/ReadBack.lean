import SiteWalk.Output.Format
import SiteWalk.Proofs.Crawl.ReadBack
import SiteWalk.Proofs.Json.LaidOut

/-!
# Reports are read back

The JSON form of a report shows all of it, whichever half the flavor of the crawl would show:
the report is read back from it, whatever its texts hold.

    r.InRange → Report.ofText? (Format.json.render flavor r) = some r         (ofText?_render)
-/

namespace SiteWalk

open Crawl

/-- The report that a JSON text says. -/
def Crawl.Report.ofText? (s : List Char) : Option Report := (Json.read? s).bind Report.ofDatum?

namespace Output.Format

/-- **A report is read back from its JSON form.**  Its texts may hold any characters, its
numbers are any of 64 bits, and the flavor does not matter. -/
theorem ofText?_render (flavor : Flavor) {r : Report} (inRange : r.InRange) :
    Report.ofText? (Format.json.render flavor r) = some r := by
  show (Json.read? (Json.laidOut 0 r.toDatum)).bind Report.ofDatum? = some r
  rw [Json.read?_laidOut (Report.plain_toDatum inRange) 0]
  exact Report.ofDatum?_toDatum inRange

/-- Characters that are written as escapes, and such as end a line in some languages but are
written as they are. -/
def awkward : Report where
  contents := [⟨"http://a/\"b\\", "\x00\x08\t\n\x0c\r\x1f \x7f\u2028\u2029 \\u2028 é 😀"⟩]
  links := ["", "\\\"/\\u0022"]
  pagesFetched := 18446744073709551615
  fetchFailures := 0
  cancelled := true
  incomplete := true

theorem ofText?_render_awkward :
    awkward.InRange ∧ Report.ofText? (Format.json.render .links awkward) = some awkward ∧
      Report.ofText? (Format.json.render .content awkward) = some awkward := by
  have inRange : awkward.InRange := ⟨by decide, by decide⟩
  exact ⟨inRange, ofText?_render .links inRange, ofText?_render .content inRange⟩

end Output.Format

end SiteWalk
