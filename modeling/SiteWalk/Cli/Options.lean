import SiteWalk.Bound
import SiteWalk.Crawl.Basic
import SiteWalk.Output.Format

/-!
# Options of the command line

Arguments are first cut into words: options with their values, and operands.  An
option takes its value from the same argument or from the next one, unless that
looks like an option.  After `--` all arguments are operands.

Each option but `-v` may be given once, and at most one task may be named.
-/

namespace SiteWalk.Cli

open Crawl Output

/-! ## Words -/

inductive Name where
  | seed
  | links
  | format
  | output
  | verbose
  | quiet
  | dryRun
  | enqueue
  | step
  | collect
  | cancel
  | stateDb
  | help
  | version
  deriving DecidableEq, Repr, Inhabited

namespace Name

def long : List (String × Name) :=
  [("seed", .seed), ("links", .links), ("format", .format), ("output", .output),
   ("verbose", .verbose), ("quiet", .quiet), ("dry-run", .dryRun), ("enqueue", .enqueue),
   ("step", .step), ("collect", .collect), ("cancel", .cancel), ("state-db", .stateDb),
   ("help", .help), ("version", .version)]

def short : List (Char × Name) :=
  [('o', .output), ('v', .verbose), ('q', .quiet), ('h', .help), ('V', .version)]

def takesValue (n : Name) : Bool :=
  [Name.seed, .format, .output, .step, .collect, .cancel, .stateDb].contains n

/-- The options that name a task. -/
def tasks : List Name := [.dryRun, .enqueue, .step, .collect, .cancel]

end Name

inductive Word where
  | operand (s : String)
  | option (n : Name) (value : Option String)
  | unknown
  deriving DecidableEq, Repr, Inhabited

/-- The words of one argument, and the option that waits for its value. -/
structure Opened where
  words : List Word
  waiting : Option Name := none

/-- An argument that is no option, as far as one can see. -/
def isPlain (s : String) : Bool :=
  match s.toList with
  | '-' :: _ :: _ => false
  | _ => true

/-- Short options in one argument; the first that takes a value takes the rest. -/
def shorts : List Char → Opened
  | [] => ⟨[], none⟩
  | c :: r =>
    match Name.short.lookup c with
    | none => ⟨[.unknown], none⟩
    | some n =>
      if n.takesValue then
        match r with
        | [] => ⟨[], some n⟩
        | '=' :: v => ⟨[.option n (some (String.ofList v))], none⟩
        | v => ⟨[.option n (some (String.ofList v))], none⟩
      else
        let o := shorts r
        { o with words := .option n none :: o.words }

/-- A long option, with or without its value. -/
def longOption (s : List Char) : Opened :=
  let name := s.takeWhile (· ≠ '=')
  match Name.long.lookup (String.ofList name), s.drop name.length with
  | none, _ => ⟨[.unknown], none⟩
  | some n, [] => if n.takesValue then ⟨[], some n⟩ else ⟨[.option n none], none⟩
  | some n, _ :: v =>
    if n.takesValue then ⟨[.option n (some (String.ofList v))], none⟩ else ⟨[.unknown], none⟩

def opened (arg : String) : Opened :=
  match arg.toList with
  | '-' :: '-' :: s => longOption s
  | '-' :: c :: r => shorts (c :: r)
  | _ => ⟨[.operand arg], none⟩

def words : List String → List Word
  | [] => []
  | a :: r =>
    if a = "--" then r.map .operand
    else
      match opened a with
      | ⟨ws, none⟩ => ws ++ words r
      | ⟨ws, some n⟩ =>
        match r with
        | [] => ws ++ [.option n none]
        | b :: r =>
          if isPlain b then ws ++ .option n (some b) :: words r
          else ws ++ .option n none :: words (b :: r)
termination_by args => args.length

/-! ## Values -/

/-- A number below `bound`. -/
def natural? (bound : Nat) (s : String) : Option Nat :=
  let digits := match s.toList with
    | '+' :: ds => ds
    | ds => ds
  (Text.decimal? digits).bind fun n => if n < bound then some n else none

/-- A number of 64 bits with a sign. -/
def integer? (s : String) : Option Int :=
  let n := match s.toList with
    | '-' :: ds => (Text.decimal? ds).map fun n => -(n : Int)
    | '+' :: ds => (Text.decimal? ds).map fun n => (n : Int)
    | ds => (Text.decimal? ds).map fun n => (n : Int)
  n.bind fun n => if isSigned64 n then some n else none

/-- How many steps to process; all if the number is zero or left out. -/
def limit? : Option String → Option (Option Nat)
  | none => some none
  | some s => (natural? bound64 s).map fun n => if n = 0 then none else some n

def format? (s : String) : Option Format := (Format.ofName s).toOption

def Word.isSound : Word → Bool
  | .unknown => false
  | .operand s => s ≠ ""
  | .option .seed v => v.isSome
  | .option .format v => (v.bind format?).isSome
  | .option .output v => v.any (· ≠ "")
  | .option .stateDb v => v.any (· ≠ "")
  | .option .step v => (limit? v).isSome
  | .option .collect v => (v.bind integer?).isSome
  | .option .cancel v => (v.bind integer?).isSome
  | .option _ _ => true

/-! ## Options -/

inductive Task where
  | crawl
  | dryRun
  | enqueue
  | step (limit : Option Nat)
  | collect (run : Int)
  | cancel (run : Int)
  deriving DecidableEq, Repr, Inhabited

/-- The task keeps or changes batch runs. -/
def Task.isBatch : Task → Bool
  | .crawl => false
  | .dryRun => false
  | _ => true

structure Options where
  profile : Option String := none
  seed : Option String := none
  flavor : Flavor := .content
  format : Format := .text
  output : Option String := none
  task : Task := .crawl
  stateDb : String := "depthcrawl-batch.db"
  deriving DecidableEq, Repr, Inhabited

/-- The next command finds what this one leaves in its store.  One store is new for each
command. -/
def Options.keepsStore (o : Options) : Bool := o.stateDb ≠ ":memory:"

/-- The values that an option is given. -/
def valuesOf (n : Name) (ws : List Word) : List (Option String) :=
  ws.filterMap fun
    | .option m v => if m = n then some v else none
    | _ => none

def isGiven (n : Name) (ws : List Word) : Bool := !(valuesOf n ws).isEmpty

def valueOf (n : Name) (ws : List Word) : Option String := (valuesOf n ws).head?.join

def operands (ws : List Word) : List String :=
  ws.filterMap fun
    | .operand s => some s
    | _ => none

/-- Every word can be understood, and none is too many. -/
def isSound (ws : List Word) : Bool :=
  ws.all Word.isSound && (operands ws).length ≤ 1 &&
    (Name.long.map Prod.snd).all fun n => n == .verbose || (valuesOf n ws).length ≤ 1

/-- Options that exclude each other are given. -/
def isTorn (ws : List Word) : Bool :=
  1 < (Name.tasks.filter fun n => isGiven n ws).length || (isGiven .quiet ws && isGiven .verbose ws)

def taskOf (ws : List Word) : Task :=
  if isGiven .dryRun ws then .dryRun
  else if isGiven .enqueue ws then .enqueue
  else if isGiven .step ws then .step ((limit? (valueOf .step ws)).join)
  else
    match (valueOf .collect ws).bind integer?, (valueOf .cancel ws).bind integer? with
    | some run, _ => .collect run
    | _, some run => .cancel run
    | _, _ => .crawl

def optionsOf (ws : List Word) : Options :=
  let standard : Options := {}
  { profile := (operands ws).head?
    seed := valueOf .seed ws
    flavor := if isGiven .links ws then .links else .content
    format := ((valueOf .format ws).bind format?).getD standard.format
    output := valueOf .output ws
    task := taskOf ws
    stateDb := (valueOf .stateDb ws).getD standard.stateDb }

/-- What the arguments ask for. -/
inductive Request where
  | perform (o : Options)
  | help
  | version
  | refused
  deriving DecidableEq, Repr, Inhabited

/-- The first question after help or version is answered, if all before it is sound. -/
def Request.ofArgs (args : List String) : Request :=
  let ws := words args
  let isAsking (w : Word) : Bool := w = .option .help none || w = .option .version none
  let before := ws.takeWhile (!isAsking ·)
  if !isSound before then .refused
  else
    match ws.find? isAsking with
    | some (.option .help _) => .help
    | some _ => .version
    | none => if isTorn ws then .refused else .perform (optionsOf ws)

end SiteWalk.Cli
