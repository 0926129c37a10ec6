import SiteWalk.Datum.Reading
import SiteWalk.Json.Printer
import SiteWalk.Settings.Basic
import SiteWalk.Text.Sha256

/-!
# Settings as values

The names that settings have in profiles and stored steps.  Settings are written
with all their fields in one order, so their compact text is canonical, and its
digest tells settings apart.

    ofDatum? .json s.toDatum = some s
-/

namespace SiteWalk.Settings

open Datum

/-! ## Writing -/

def optionalText (s : Option String) : Datum :=
  match s with
  | some s => .text s
  | none => .null

def textMap (m : TextMap) : Datum := .record (m.entries.map fun e => (e.1, .text e.2))

def Walk.toDatum (w : Walk) : Datum :=
  .record [
    ("depth", .int w.depth),
    ("host-only", .bool w.hostOnly),
    ("body-only", .bool w.bodyOnly),
    ("include-source-url", .bool w.includeSource),
    ("exclude-pages", .text w.excludedPages),
    ("include-pattern", optionalText w.includePattern),
    ("exclude-pattern", optionalText w.excludePattern),
    ("types-to-scrape", .list (w.categories.map fun c => .text c.name)),
    ("cool-down-ms", .int w.coolDown)]

def Content.toDatum (c : Content) : Datum :=
  .record [
    ("mode", .text c.mode.name),
    ("url-on-top", .bool c.urlOnTop),
    ("selector-tag", .text c.selector),
    ("selector-remove-tags", .text c.removedTags)]

def Credentials.toDatum (c : Credentials) : Datum :=
  .record [("username", .text c.username), ("password", optionalText c.password)]

def Request.toDatum (r : Request) : Datum :=
  .record [
    ("user-agent", .text r.userAgent),
    ("timeout-secs", .int r.timeout),
    ("basic-auth", match r.credentials with
      | some c => c.toDatum
      | none => .null),
    ("headers", textMap r.headers),
    ("cookies", textMap r.cookies)]

def toDatum (s : Settings) : Datum :=
  .record [
    ("crawl", s.walk.toDatum),
    ("content", s.content.toDatum),
    ("request", s.request.toDatum)]

/-- The text that stands for the settings. -/
def canonical (s : Settings) : List Char := Json.compact s.toDatum

/-- The digest of the settings. -/
def digest (s : Settings) : String := Text.Sha256.hex s.canonical

/-! ## Reading -/

def category? (dialect : Dialect) (d : Datum) : Option Link.Category :=
  (caseName? dialect d).bind Link.Category.ofName?

def Walk.ofDatum? (dialect : Dialect) (d : Datum) : Option Walk := do
  let fs ← fields? dialect
    ["depth", "host-only", "body-only", "include-source-url", "exclude-pages", "include-pattern",
     "exclude-pattern", "types-to-scrape", "cool-down-ms"] d
  let s := Walk.standard
  return {
    depth := ← orDefault? fs "depth" s.depth (nat? bound32)
    hostOnly := ← orDefault? fs "host-only" s.hostOnly bool?
    bodyOnly := ← orDefault? fs "body-only" s.bodyOnly bool?
    includeSource := ← orDefault? fs "include-source-url" s.includeSource bool?
    excludedPages := ← orDefault? fs "exclude-pages" s.excludedPages text?
    includePattern := ← orDefault? fs "include-pattern" s.includePattern (optional? text?)
    excludePattern := ← orDefault? fs "exclude-pattern" s.excludePattern (optional? text?)
    categories := ← orDefault? fs "types-to-scrape" s.categories (list? (category? dialect))
    coolDown := ← orDefault? fs "cool-down-ms" s.coolDown (nat? bound64) }

def Content.ofDatum? (dialect : Dialect) (d : Datum) : Option Content := do
  let fs ← fields? dialect ["mode", "url-on-top", "selector-tag", "selector-remove-tags"] d
  let s := Content.standard
  return {
    mode := ← orDefault? fs "mode" s.mode fun d =>
      (caseName? dialect d).bind Extract.Mode.ofName?
    urlOnTop := ← orDefault? fs "url-on-top" s.urlOnTop bool?
    selector := ← orDefault? fs "selector-tag" s.selector text?
    removedTags := ← orDefault? fs "selector-remove-tags" s.removedTags text? }

def Credentials.ofDatum? (dialect : Dialect) (d : Datum) : Option Credentials := do
  let fs ← fields? dialect ["username", "password"] d
  return {
    username := ← required? fs "username" text?
    password := ← orDefault? fs "password" none (optional? text?) }

def Request.ofDatum? (dialect : Dialect) (d : Datum) : Option Request := do
  let fs ← fields? dialect ["user-agent", "timeout-secs", "basic-auth", "headers", "cookies"] d
  let s := Request.standard
  return {
    userAgent := ← orDefault? fs "user-agent" s.userAgent text?
    timeout := ← orDefault? fs "timeout-secs" s.timeout (nat? bound64)
    credentials := ← orDefault? fs "basic-auth" s.credentials
      (optional? (Credentials.ofDatum? dialect))
    headers := ← orDefault? fs "headers" s.headers textMap?
    cookies := ← orDefault? fs "cookies" s.cookies textMap? }

/-- The settings that a value of either notation says. -/
def ofDatum? (dialect : Dialect) (d : Datum) : Option Settings := do
  let fs ← fields? dialect ["crawl", "content", "request"] d
  let s := Settings.standard
  return {
    walk := ← orDefault? fs "crawl" s.walk (Walk.ofDatum? dialect)
    content := ← orDefault? fs "content" s.content (Content.ofDatum? dialect)
    request := ← orDefault? fs "request" s.request (Request.ofDatum? dialect) }

end SiteWalk.Settings
