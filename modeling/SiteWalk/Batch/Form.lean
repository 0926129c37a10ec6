import SiteWalk.Batch.Relational
import SiteWalk.Crawl.Form
import SiteWalk.Settings.Form

/-!
# Stores as values

How runs and steps are written down between processes.

    Relational.ofDatum? db.toDatum = some db
-/

namespace SiteWalk.Batch

open Crawl Datum

def Step.toDatum (s : Step) : Datum :=
  .record [
    ("run_id", .int s.run),
    ("url", .text s.node.url),
    ("remaining_depth", .int s.node.remaining),
    ("flavor", s.flavor.toDatum),
    ("settings", s.settings.toDatum),
    ("settings_hash", .text s.digest)]

def Step.ofDatum? (d : Datum) : Option Step := do
  let fs ← fields? .json
    ["run_id", "url", "remaining_depth", "flavor", "settings", "settings_hash"] d
  return {
    run := ← required? fs "run_id" word?
    node := {
      url := ← required? fs "url" text?
      remaining := ← required? fs "remaining_depth" (nat? bound32) }
    flavor := ← required? fs "flavor" Flavor.ofDatum?
    settings := ← required? fs "settings" (Settings.ofDatum? .json)
    digest := ← required? fs "settings_hash" text? }

def Queued.toDatum (q : Queued) : Datum := .record [("id", .int q.id), ("step", q.step.toDatum)]

def Queued.ofDatum? (d : Datum) : Option Queued := do
  let fs ← fields? .json ["id", "step"] d
  return { id := ← required? fs "id" word?, step := ← required? fs "step" Step.ofDatum? }

def Context.toDatum (c : Context) : Datum :=
  .record [
    ("seed", .text c.seed),
    ("flavor", c.flavor.toDatum),
    ("settings_hash", .text c.digest),
    ("progress", c.progress.toDatum),
    ("report", c.report.toDatum),
    ("cancelled", .bool c.cancelled)]

def Context.ofDatum? (d : Datum) : Option Context := do
  let fs ← fields? .json ["seed", "flavor", "settings_hash", "progress", "report", "cancelled"] d
  return {
    seed := ← required? fs "seed" text?
    flavor := ← required? fs "flavor" Flavor.ofDatum?
    digest := ← required? fs "settings_hash" text?
    progress := ← required? fs "progress" Progress.ofDatum?
    report := ← required? fs "report" Report.ofDatum?
    cancelled := ← required? fs "cancelled" bool? }

def runToDatum (r : Int × Context) : Datum :=
  .record [("id", .int r.1), ("context", r.2.toDatum)]

def runOfDatum? (d : Datum) : Option (Int × Context) := do
  let fs ← fields? .json ["id", "context"] d
  return (← required? fs "id" word?, ← required? fs "context" Context.ofDatum?)

namespace Relational

def toDatum (db : Relational) : Datum :=
  .record [
    ("runs", .list (db.runs.map runToDatum)),
    ("steps", .list (db.steps.map Queued.toDatum)),
    ("last_run", .int db.lastRun),
    ("last_step", .int db.lastStep)]

def ofDatum? (d : Datum) : Option Relational := do
  let fs ← fields? .json ["runs", "steps", "last_run", "last_step"] d
  return {
    runs := ← required? fs "runs" (list? runOfDatum?)
    steps := ← required? fs "steps" (list? Queued.ofDatum?)
    lastRun := ← required? fs "last_run" word?
    lastStep := ← required? fs "last_step" word? }

end Relational

end SiteWalk.Batch
