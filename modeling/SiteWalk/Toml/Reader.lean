import SiteWalk.Toml.Lexis

/-!
# Reading TOML

A document is a row of lines: keys with values, and headers that say into which
table the keys go.  A table is opened by a header once; tables that are named on
the way to another may be opened later, tables made by dotted keys may not.
-/

namespace SiteWalk.Toml

open Text

/-! ## Tables -/

/-- What stands under a name while a document is read.  A table is `implied` if it was
named on the way alone, and `dotted` if by the parts of a key. -/
inductive Node where
  | leaf (d : Datum)
  | table (implied dotted : Bool) (fields : List (String × Node))
  | tables (rows : List (List (String × Node)))
  deriving Inhabited

structure Table where
  implied : Bool
  dotted : Bool
  fields : List (String × Node)
  deriving Inhabited

namespace Table

def opened : Table := ⟨false, false, []⟩

def get? (t : Table) (name : String) : Option Node :=
  (t.fields.find? fun f => f.1 == name).map Prod.snd

/-- The table with `n` under that name. -/
def set (t : Table) (name : String) (n : Node) : Table :=
  let others := t.fields.filter fun f => f.1 != name
  { t with fields := others ++ [(name, n)] }

def node (t : Table) : Node := .table t.implied t.dotted t.fields

/-- Changes the table that a path leads to.  The last table of a list stands for it. -/
def update? (dotted : Bool) (f : Table → Option Table) : List String → Table → Option Table
  | [], t => f t
  | name :: path, t =>
    match t.get? name with
    | none => (update? dotted f path ⟨true, dotted, []⟩).map fun u => t.set name u.node
    | some (.leaf _) => none
    | some (.table implied d fields) =>
      if dotted && !implied then none
      else (update? dotted f path ⟨implied, d, fields⟩).map fun u => t.set name u.node
    | some (.tables rows) =>
      match rows.getLast? with
      | none => none
      | some fields =>
        (update? dotted f path ⟨false, false, fields⟩).map fun u =>
          t.set name (.tables (rows.dropLast ++ [u.fields]))

/-- Puts a value under a new name. -/
def put? (direct : Bool) (name : String) (d : Datum) (t : Table) : Option Table :=
  if t.dotted == direct then none
  else if (t.get? name).isSome then none
  else some (t.set name (.leaf d))

/-- Puts a value under a key of one or more parts. -/
def add? (t : Table) (key : List String) (d : Datum) : Option Table :=
  match key.getLast? with
  | none => none
  | some name =>
    let path := key.dropLast
    update? true (put? path.isEmpty name d) path t

/-- Opens the table of a header. -/
def open? (name : String) (t : Table) : Option Table :=
  match t.get? name with
  | none => some (t.set name (Table.node .opened))
  | some (.table true false fields) => some (t.set name (.table false false fields))
  | some _ => none

/-- Adds a table to the list of a header in double brackets. -/
def openRow? (name : String) (t : Table) : Option Table :=
  match t.get? name with
  | none => some (t.set name (.tables [[]]))
  | some (.tables rows) => some (t.set name (.tables (rows ++ [[]])))
  | some _ => none

end Table

/-! ## Values of tables -/

mutual

def Node.toDatum : Node → Datum
  | .leaf d => d
  | .table _ _ fields => .record (fieldsToDatum fields)
  | .tables rows => .list (rowsToDatum rows)

def fieldsToDatum : List (String × Node) → List (String × Datum)
  | [] => []
  | (name, n) :: r => (name, n.toDatum) :: fieldsToDatum r

def rowsToDatum : List (List (String × Node)) → List Datum
  | [] => []
  | fields :: r => .record (fieldsToDatum fields) :: rowsToDatum r

end

def Table.toDatum (t : Table) : Datum := .record (fieldsToDatum t.fields)

/-! ## Values -/

mutual

/-- A value of any kind, in at most `fuel` steps. -/
def value? : Nat → List Char → Option (Datum × List Char)
  | 0, _ => none
  | fuel + 1, s =>
    match s with
    | '[' :: r => (items? fuel r).map fun (xs, r) => (.list xs, r)
    | '\x7b' :: r =>
      match skipSpace r with
      | '\x7d' :: r => some (.record [], r)
      | r => (pairs? fuel .opened r).map fun (t, r) => (t.toDatum, r)
    | _ => scalar? s

/-- The items of a list up to its closing bracket; a comma may follow the last. -/
def items? : Nat → List Char → Option (List Datum × List Char)
  | 0, _ => none
  | fuel + 1, s =>
    match skipLines? false s with
    | none => none
    | some (']' :: r) => some ([], r)
    | some r =>
      match value? fuel r with
      | none => none
      | some (d, r) =>
        match skipLines? false r with
        | some (',' :: r) => (items? fuel r).map fun (ds, r) => (d :: ds, r)
        | some (']' :: r) => some ([d], r)
        | _ => none

/-- The keys and values of a table on one line, up to its closing brace. -/
def pairs? : Nat → Table → List Char → Option (Table × List Char)
  | 0, _, _ => none
  | fuel + 1, t, s =>
    match key? (s.length + 1) s with
    | some (key, '=' :: r) =>
      match value? fuel (skipSpace r) with
      | none => none
      | some (d, r) =>
        match t.add? key d, skipSpace r with
        | some t, ',' :: r => pairs? fuel t r
        | some t, '\x7d' :: r => some (t, r)
        | _, _ => none
    | _ => none

end

/-! ## Lines -/

/-- The tables so far, and the path of the table that keys go into. -/
structure Document where
  root : Table := .opened
  path : List String := []

namespace Document

/-- A key and its value. -/
def keyLine? (d : Document) (s : List Char) : Option (Document × List Char) :=
  match key? (s.length + 1) s with
  | some (key, '=' :: r) => do
    let (v, r) ← value? (2 * r.length + 2) (skipSpace r)
    let root ← Table.update? false (fun t => t.add? key v) d.path d.root
    return ({ d with root := root }, ← lineEnd? r)
  | _ => none

/-- A header from behind its bracket or brackets. -/
def header? (d : Document) (row : Bool) (s : List Char) : Option (Document × List Char) := do
  let (key, r) ← key? (s.length + 1) s
  let r ← char? ']' r
  let r ← if row then char? ']' r else some r
  let name ← key.getLast?
  let f := if row then Table.openRow? name else Table.open? name
  let root ← Table.update? false f key.dropLast d.root
  return ({ root := root, path := key }, ← lineEnd? r)

/-- Reads one line, or several if a value runs over them. -/
def line? (d : Document) (s : List Char) : Option (Document × List Char) :=
  match skipSpace s with
  | '[' :: '[' :: r => d.header? true r
  | '[' :: r => d.header? false r
  | r =>
    match lineEnd? r with
    | some rest => some (d, rest)
    | none => d.keyLine? r

/-- Reads to the end of the text, in at most `fuel` lines. -/
def lines? : Nat → Document → List Char → Option Document
  | _, d, [] => some d
  | 0, _, _ => none
  | fuel + 1, d, s =>
    match d.line? s with
    | none => none
    | some (d, r) => lines? fuel d r

end Document

/-- The record that a document writes.  A byte order mark in front does not count. -/
def read? (s : List Char) : Option Datum :=
  let s := match s with
    | '\ufeff' :: r => r
    | _ => s
  (Document.lines? (s.length + 1) {} s).map fun d => d.root.toDatum

end SiteWalk.Toml
