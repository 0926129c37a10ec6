import SiteWalk.Pattern.Class

/-!
# Patterns

A regular expression that an address has to match somewhere.  Groups, choices,
repetitions and flags are read from left to right; looking around and going back
to a group are not part of the notation.
-/

namespace SiteWalk

namespace Pattern

open Unicode Text

/-! ## Reading -/

/-- One of the expressions in a row; a change of flags is none that can be repeated. -/
inductive Part where
  | expr (e : Expr)
  | flags

/-- What waits while a group is read. -/
structure Group where
  parts : List Part
  branches : List Expr
  flags : Flags

/-- The text to read and what has been read: the row so far, last part first, the
branches before it, and the groups around it. -/
structure Reader where
  rest : List Char
  flags : Flags := {}
  names : List (List Char) := []
  parts : List Part := []
  branches : List Expr := []
  groups : List Group := []

namespace Reader

/-- A row of parts, given last part first. -/
def row (parts : List Part) : Expr :=
  parts.foldl
    (fun after p => match p, after with
      | .flags, _ => after
      | .expr e, .empty => e
      | .expr e, _ => .seq e after)
    .empty

/-- The choice between the branches and the row. -/
def choice (r : Reader) : Expr :=
  r.branches.foldl (fun after b => .alt b after) (row r.parts)

def push (r : Reader) (e : Expr) (rest : List Char) : Reader :=
  { r with parts := .expr e :: r.parts, rest := rest }

/-- The expression of a sign. -/
def signExpr? (f : Flags) : Sign → Option Expr
  | .set s => some (.chars s)
  | .edge e => some (.edge e)
  | .char c byte =>
    if !f.unicode && byte && c.toNat > 127 then none
    else if f.ignoreCase && (f.unicode || isLetter c) then
      (f.set? false [(c.toNat, c.toNat)]).map .chars
    else some (.chars [(c.toNat, c.toNat)])

/-- Any character, but no line end unless the flag `s` is on. -/
def dot? (f : Flags) : Option Expr :=
  if !f.unicode then none
  else
    let barred :=
      if f.dotAll then [] else if f.crlf then [(10, 10), (13, 13)] else [(10, 10)]
    some (.chars (CharSet.complement CharSet.last barred))

/-- Repeats the last part. -/
def repeated? (r : Reader) (least : Nat) (most : Option Nat) (rest : List Char) :
    Option Reader :=
  match r.parts with
  | .expr e :: parts => some { r with parts := .expr (.rep e least most) :: parts, rest := rest }
  | _ => none

/-- The text behind the mark of a lazy repetition. -/
def dropLazy : List Char → List Char
  | '?' :: r => r
  | s => s

/-! ## Groups -/

def isNameStart (c : Char) : Bool := c == '_' || alphabetic.has c.toNat

def isNameChar (c : Char) : Bool :=
  isNameStart c || c == '.' || c == '[' || c == ']' ||
    (rangesOf categoryRuns ["Nd", "Nl", "No"]).has c.toNat

/-- Opens a group whose own row starts under `flags`. -/
def openGroup (r : Reader) (flags : Flags) (rest : List Char) : Reader :=
  { r with
    rest := rest, flags := flags, parts := [], branches := []
    groups := ⟨r.parts, r.branches, r.flags⟩ :: r.groups }

/-- A group with a name, from behind the `<`. -/
def namedGroup? (r : Reader) (s : List Char) : Option Reader :=
  let (name, rest) := cutBefore (· == '>') s
  match name, rest with
  | c :: cs, _ :: rest =>
    if isNameStart c && cs.all isNameChar && !r.names.contains name then
      some { openGroup r r.flags rest with names := name :: r.names }
    else none
  | _, _ => none

/-- Flags for the rest of the group or for a group of their own, from behind the `?`. -/
def flagGroup? (r : Reader) (s : List Char) : Option Reader :=
  let (letters, rest) := cutBefore (fun c => c == ':' || c == ')') s
  match r.flags.change? letters, rest with
  | some f, ':' :: rest => some (openGroup r f rest)
  | some f, ')' :: rest =>
    if letters.isEmpty then none
    else some { r with flags := f, parts := .flags :: r.parts, rest := rest }
  | _, _ => none

/-- From behind an opening parenthesis. -/
def group? (r : Reader) (s : List Char) : Option Reader :=
  match r.flags.skip s with
  | '?' :: 'P' :: '<' :: rest => namedGroup? r rest
  | '?' :: '<' :: c :: rest =>
    if c == '=' || c == '!' then none else namedGroup? r (c :: rest)
  | '?' :: rest => flagGroup? r rest
  | rest => some (openGroup r r.flags rest)

/-- From behind a closing parenthesis. -/
def closed? (r : Reader) (rest : List Char) : Option Reader :=
  match r.groups with
  | [] => none
  | g :: groups =>
    some { r with
      rest := rest, flags := g.flags, groups := groups, branches := g.branches
      parts := .expr (.group (choice r)) :: g.parts }

/-! ## Steps -/

/-- Reads one sign. -/
def step? (r : Reader) : Option Reader :=
  match r.rest with
  | [] => none
  | c :: s =>
    match c with
    | '(' => group? r s
    | ')' => closed? r s
    | '|' => some { r with rest := s, parts := [], branches := row r.parts :: r.branches }
    | '[' => (bracketSet? r.flags s).map fun (set, rest) => push r (.chars set) rest
    | '?' => repeated? r 0 (some 1) (dropLazy s)
    | '*' => repeated? r 0 none (dropLazy s)
    | '+' => repeated? r 1 none (dropLazy s)
    | '\x7b' => do
      let (least, most, rest) ← r.flags.bounds? s
      repeated? r least most rest
    | '\\' => do
      let (sign, rest) ← r.flags.escape? s
      return push r (← signExpr? r.flags sign) rest
    | '.' => (dot? r.flags).map fun e => push r e s
    | '^' =>
      some (push r (.edge (if r.flags.multiLine then .lineStart r.flags.crlf else .textStart)) s)
    | '$' =>
      some (push r (.edge (if r.flags.multiLine then .lineEnd r.flags.crlf else .textEnd)) s)
    | _ => (signExpr? r.flags (.char c false)).map fun e => push r e s

/-- Reads to the end of the text, in at most `fuel` steps. -/
def run? : Nat → Reader → Option Expr
  | 0, _ => none
  | fuel + 1, r =>
    match r.flags.skip r.rest with
    | [] => if r.groups.isEmpty then some (choice r) else none
    | rest => (step? { r with rest := rest }).bind (run? fuel)

end Reader

/-- The expression that a text writes; none if it breaks the rules of the notation or
comes out too large.  Each step takes a character. -/
def read? (s : List Char) : Option Expr :=
  (Reader.run? (s.length + 1) { rest := s }).filter fun e =>
    e.size ≤ sizeLimit && e.depth ≤ depthLimit

end Pattern

/-! ## Patterns -/

/-- A pattern as it was written, and what it says. -/
structure Pattern where
  text : String
  expr : Pattern.Expr
  reads : Pattern.read? text.toList = some expr

namespace Pattern

def ofText? (text : String) : Option Pattern :=
  match h : read? text.toList with
  | some e => some ⟨text, e, h⟩
  | none => none

/-- The pattern matches somewhere in the address. -/
def matchesIn (p : Pattern) (address : List Char) : Bool := p.expr.holdsIn address

end Pattern

end SiteWalk
