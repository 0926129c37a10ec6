import SiteWalk.Crawl.Basic
import SiteWalk.Datum.Reading

/-!
# Crawls as values

The names that nodes, reports and progress have in stored runs and in reports
written as data.  Every value is written with all its fields in one order.

    Report.ofDatum? r.toDatum = some r
-/

namespace SiteWalk.Crawl

open Datum

def texts (xs : List String) : Datum := .list (xs.map .text)

def optionalText (s : Option String) : Datum := (s.map Datum.text).getD .null

/-! ## Flavors and stages -/

def Flavor.toDatum (f : Flavor) : Datum := .text f.name

def Flavor.ofDatum? (d : Datum) : Option Flavor := (caseName? .json d).bind Flavor.ofName?

def Stage.toDatum (t : Stage) : Datum := .text t.name

def Stage.ofDatum? (d : Datum) : Option Stage := (caseName? .json d).bind Stage.ofName?

/-! ## Nodes and units -/

def Node.toDatum (n : Node) : Datum :=
  .record [("url", .text n.url), ("remaining_depth", .int n.remaining)]

def Node.ofDatum? (d : Datum) : Option Node := do
  let fs ← fields? .json ["url", "remaining_depth"] d
  return {
    url := ← required? fs "url" text?
    remaining := ← required? fs "remaining_depth" (nat? bound32) }

def ContentUnit.toDatum (c : ContentUnit) : Datum :=
  .record [("source_url", .text c.source), ("text", .text c.text)]

def ContentUnit.ofDatum? (d : Datum) : Option ContentUnit := do
  let fs ← fields? .json ["source_url", "text"] d
  return { source := ← required? fs "source_url" text?, text := ← required? fs "text" text? }

/-! ## Outcomes -/

def Outcome.toDatum (o : Outcome) : Datum :=
  .record [
    ("url", .text o.url),
    ("state", o.stage.toDatum),
    ("fetched", .bool o.fetched),
    ("content", (o.content.map ContentUnit.toDatum).getD .null),
    ("link", optionalText o.link),
    ("children", .list (o.children.map Node.toDatum))]

def Outcome.ofDatum? (d : Datum) : Option Outcome := do
  let fs ← fields? .json ["url", "state", "fetched", "content", "link", "children"] d
  return {
    url := ← required? fs "url" text?
    stage := ← required? fs "state" Stage.ofDatum?
    fetched := ← orDefault? fs "fetched" false bool?
    content := ← orDefault? fs "content" none (optional? ContentUnit.ofDatum?)
    link := ← orDefault? fs "link" none (optional? text?)
    children := ← orDefault? fs "children" [] (list? Node.ofDatum?) }

/-! ## Progress -/

def Visited.sorted (v : Visited) : List String := v.urls.mergeSort (· ≤ ·)

def Visited.toDatum (v : Visited) : Datum := .record [("urls", texts v.sorted)]

def Visited.ofDatum? (d : Datum) : Option Visited := do
  let fs ← fields? .json ["urls"] d
  return Visited.ofList (← required? fs "urls" (list? text?))

def Progress.toDatum (p : Progress) : Datum :=
  .record [("visited", p.visited.toDatum), ("fetch_count", .int p.fetchCount)]

def Progress.ofDatum? (d : Datum) : Option Progress := do
  let fs ← fields? .json ["visited", "fetch_count"] d
  return {
    visited := ← required? fs "visited" Visited.ofDatum?
    fetchCount := ← required? fs "fetch_count" (nat? bound64) }

/-! ## Reports -/

def Report.toDatum (r : Report) : Datum :=
  .record [
    ("contents", .list (r.contents.map ContentUnit.toDatum)),
    ("links", texts r.links),
    ("pages_fetched", .int r.pagesFetched),
    ("fetch_failures", .int r.fetchFailures),
    ("cancelled", .bool r.cancelled),
    ("incomplete", .bool r.incomplete)]

def Report.ofDatum? (d : Datum) : Option Report := do
  let fs ← fields? .json
    ["contents", "links", "pages_fetched", "fetch_failures", "cancelled", "incomplete"] d
  return {
    contents := ← required? fs "contents" (list? ContentUnit.ofDatum?)
    links := ← required? fs "links" (list? text?)
    pagesFetched := ← required? fs "pages_fetched" (nat? bound64)
    fetchFailures := ← required? fs "fetch_failures" (nat? bound64)
    cancelled := ← required? fs "cancelled" bool?
    incomplete := ← orDefault? fs "incomplete" false bool? }

end SiteWalk.Crawl
