import SiteWalk.Batch.Coordinator
import SiteWalk.Batch.Memory
import SiteWalk.Batch.Relational
import SiteWalk.Cli.Options
import SiteWalk.Cli.Overview
import SiteWalk.Settings.Text

/-!
# Commands

What a command does with what it finds: the text of the profile, the store of
batch runs, and whether what it has to say can be printed or put into a file.
-/

namespace SiteWalk.Cli

open Batch Crawl Output

/-- What a command finds. -/
structure Surroundings where
  /-- The text of the profile, if there is a file to read. -/
  profile : Option (List Char) := none
  /-- The store, if it can be opened. -/
  store : Option Relational := none
  /-- Whether the file of the report can be written. -/
  canWrite : Bool := true
  /-- Whether standard output takes a text; one of which only a part gets through is not
  taken. -/
  canPrint : List Char → Bool := fun _ => true

/-- Nothing can go wrong with a text that is empty. -/
def Surroundings.takes (s : Surroundings) (text : List Char) : Bool :=
  text.isEmpty || s.canPrint text

/-- Why a command fails. -/
inductive Trouble where
  | profile (path : String)
  | noProfile
  | noSeed
  | crawl
  | seed (e : Link.SeedError)
  | store (e : StoreError)
  | failure (e : Failure)
  /-- A run is not over. -/
  | queued (run : Int)
  | unopened (path : String)
  | unwritten (path : String)
  /-- Standard output is closed or full. -/
  | unprinted
  deriving DecidableEq, Repr, Inhabited

def Trouble.message : Trouble → String
  | .profile path => "Failed to load " ++ path
  | .noProfile => "a CONFIG file is required for --enqueue and --dry-run"
  | .noSeed => "--seed is required"
  | .crawl => "Crawl failed"
  | .seed e => e.message
  | .store e => e.message
  | .failure e => e.message
  | .queued run => "run " ++ run.repr ++ " still has queued steps; run --step first"
  | .unopened path => "Failed to open " ++ path
  | .unwritten path => "Failed to write " ++ path
  | .unprinted => "failed printing to stdout"

/-- What a command leaves: the text it prints, the text it puts into the file of the
report, the store if it was opened, and what went wrong. -/
structure Ending where
  printed : List Char := []
  written : Option (List Char) := none
  store : Option Relational := none
  trouble : Option Trouble := none

namespace Ending

def fails (t : Trouble) : Ending := { trouble := some t }

/-- Prints a text, or breaks off. -/
def print (s : Surroundings) (text : List Char) : Ending :=
  if s.takes text then { printed := text } else .fails .unprinted

/-- Goes on once the text before is printed. -/
def andThen (e next : Ending) : Ending :=
  match e.trouble with
  | none => { next with printed := e.printed ++ next.printed }
  | some _ => e

/-- The status that the program ends with. -/
def code (e : Ending) : Nat :=
  match e.trouble with
  | none => 0
  | some .unprinted => 101
  | some _ => 1

end Ending

/-! ## Parts -/

def profileFor (o : Options) (s : Surroundings) : Except Trouble Profile :=
  match o.profile with
  | some path =>
    match s.profile.bind Settings.ofText? with
    | some settings => (Profile.ofSettings settings).mapError fun _ => .profile path
    | none => .error (.profile path)
  | none =>
    if o.task = .enqueue ∨ o.task = .dryRun then .error .noProfile
    else (Profile.ofSettings .standard).mapError fun e => .failure (.profile e)

/-- Prints a report or puts it into its file. -/
def emit (o : Options) (s : Surroundings) (flavor : Flavor) (r : Report) : Ending :=
  let text := o.format.render flavor r
  match o.output with
  | none => .print s text
  | some path => if s.canWrite then { written := some text } else .fails (.unwritten path)

/-! ## Tasks -/

def dryRun (o : Options) (s : Surroundings) (p : Profile) : Ending :=
  (Ending.print s (overview p)).andThen <|
    match o.seed with
    | none => {}
    | some raw =>
      match Link.seed? raw with
      | .error e => .fails (.seed e)
      | .ok _ =>
        let flavor := match o.flavor with
          | .content => "Content"
          | .links => "Links"
        .print s (line ("✓ Would crawl " ++ raw ++ " (" ++ flavor ++ ")"))

def crawl (site : Web) (o : Options) (s : Surroundings) (p : Profile) : Ending :=
  match o.seed with
  | none => .fails .noSeed
  | some raw =>
    let start := (Coordinator.mk p site).start raw o.flavor .synchronous
    match start (Session.mk (Store.empty : Memory) {}) with
    | (.ok (.done r), _) => emit o s o.flavor r
    | (.ok (.deferred _), _) => {}
    | (.error _, _) => .fails .crawl

def enqueue (site : Web) (o : Options) (s : Surroundings) (p : Profile) (db : Relational) :
    Ending :=
  match o.seed with
  | none => { store := some db, trouble := some .noSeed }
  | some raw =>
    match (Coordinator.mk p site).start raw o.flavor .batched (Session.mk db {}) with
    | (.ok (.deferred run), t) => { Ending.print s (line run.repr) with store := some t.store }
    | (.ok (.done _), t) => { store := some t.store }
    | (.error e, t) => { store := some t.store, trouble := some (.failure e) }

def step (site : Web) (limit : Option Nat) (db : Relational) : Ending :=
  match runPending site limit (Session.mk db {}) with
  | (.ok _, t) => { store := some t.store }
  | (.error e, t) => { store := some t.store, trouble := some (.failure e) }

def cancel (s : Surroundings) (run : Int) (db : Relational) : Ending :=
  match cancelRun run (Session.mk db {}) with
  | (.ok dropped, t) =>
    { Ending.print s (line
        ("Cancelled run " ++ run.repr ++ " (" ++ dropped.repr ++ " queued steps discarded)"))
      with store := some t.store }
  | (.error e, t) => { store := some t.store, trouble := some (.failure e) }

/-- The run is forgotten before its report is put anywhere. -/
def collect (o : Options) (s : Surroundings) (run : Int) (db : Relational) : Ending :=
  match Store.load run db with
  | .error e => { store := some db, trouble := some (.store e) }
  | .ok c =>
    match Batch.collect run (Session.mk db {}) with
    | (.error e, t) => { store := some t.store, trouble := some (.failure e) }
    | (.ok none, t) => { store := some t.store, trouble := some (.queued run) }
    | (.ok (some r), t) => { emit o s c.flavor r with store := some t.store }

/-- Does what the options say. -/
def perform (site : Web) (o : Options) (s : Surroundings) : Ending :=
  match profileFor o s with
  | .error t => .fails t
  | .ok p =>
    match o.task, s.store with
    | .dryRun, _ => dryRun o s p
    | .crawl, _ => crawl site o s p
    | _, none => .fails (.unopened o.stateDb)
    | .enqueue, some db => enqueue site o s p db
    | .step limit, some db => step site limit db
    | .cancel run, some db => cancel s run db
    | .collect run, some db => collect o s run db

end SiteWalk.Cli
