import SiteWalk.Batch.Form
import SiteWalk.Cli.Command
import SiteWalk.Cli.Manual
import SiteWalk.Json.Reader
import SiteWalk.Text.Utf8

/-!
# The program

Reads what a command needs, performs it, and writes what it leaves.  Stores are
kept as JSON text.  This build has no transport: every request fails.
-/

open SiteWalk

namespace SiteWalk.Cli

/-- What an action gives, unless it fails. -/
def attempt {α : Type} (action : IO α) : IO (Option α) :=
  try
    return some (← action)
  catch _ => return none

def readText (path : String) : IO (Option (List Char)) := do
  let bytes ← attempt (IO.FS.readBinFile path)
  return bytes.bind fun b => Text.ofBytes? b.toList

/-- A file can be written at a path; nothing is left there by asking. -/
def canWriteAt (path : String) : IO Bool := do
  let old ← attempt (IO.FS.readBinFile path)
  let opened ← attempt (IO.FS.Handle.mk path .append)
  if old.isNone && opened.isSome then IO.FS.removeFile path
  return opened.isSome

/-- The store at a path; an empty one if there is nothing yet. -/
def openStore (path : String) : IO (Option Batch.Relational) := do
  if !(← canWriteAt path) then return none
  match ← attempt (IO.FS.readBinFile path) with
  | none => return some {}
  | some b =>
    if b.isEmpty then return some {}
    return (Text.ofBytes? b.toList).bind fun t => (Json.read? t).bind Batch.Relational.ofDatum?

def transport : Crawl.Site := fun url => .error (.body url "no transport")

/-- Prints what an ending says, up to the last character. -/
def printed (e : Ending) : IO Unit := do
  IO.print (String.ofList e.printed)
  (← IO.getStdout).flush

def run (o : Options) : IO UInt32 := do
  let profile ← match o.profile with
    | some path => readText path
    | none => pure none
  let store ←
    if !o.task.isBatch then pure none
    else if o.keepsStore then openStore o.stateDb
    else pure (some {})
  let canWrite ← match o.output with
    | some path => canWriteAt path
    | none => pure true
  let surroundings : Surroundings := { profile, store, canWrite }
  let e := perform transport o surroundings
  if let (some db, true) := (e.store, o.keepsStore) then
    IO.FS.writeFile o.stateDb (String.ofList (Json.compact db.toDatum))
  if let (some path, some text) := (o.output, e.written) then
    IO.FS.writeFile path (String.ofList text)
  let e ← match ← attempt (printed e) with
    | some () => pure e
    | none => pure (perform transport o { surroundings with canPrint := fun _ => false })
  if let some t := e.trouble then
    IO.eprintln (if t = .unprinted then t.message else "Error: " ++ t.message)
  return e.code.toUInt32

end SiteWalk.Cli

def main (args : List String) : IO UInt32 := do
  match Cli.Request.ofArgs args with
  | .perform o => Cli.run o
  | .help =>
    IO.print (String.ofList Cli.manualText)
    return 0
  | .version =>
    IO.print (String.ofList Cli.versionText)
    return 0
  | .refused =>
    IO.eprintln "error: the arguments cannot be understood; try '--help'"
    return 2
