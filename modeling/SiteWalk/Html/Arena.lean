import SiteWalk.Html.Node

/-!
# Nodes under construction

While a document is read its nodes stand in one array, in the order in which
they are made, and know their parents and children by number.  A node may be
without a parent, and a node moves with all that is below it.
-/

namespace SiteWalk.Html

structure Slot where
  item : Item
  parent : Option Nat
  kids : Array Nat
  deriving Inhabited

structure Arena where
  slots : Array Slot
  deriving Inhabited

namespace Arena

/-- The document node alone; its number is 0. -/
def start : Arena := ⟨#[⟨.document, none, #[]⟩]⟩

def item (a : Arena) (n : Nat) : Item := (a.slots.getD n default).item

def element? (a : Arena) (n : Nat) : Option Element :=
  match a.item n with
  | .element e => some e
  | _ => none

def parent? (a : Arena) (n : Nat) : Option Nat := (a.slots.getD n default).parent

def kids (a : Arena) (n : Nat) : Array Nat := (a.slots.getD n default).kids

def modify (a : Arena) (n : Nat) (f : Slot → Slot) : Arena := ⟨a.slots.modify n f⟩

/-- A new node without a parent, and its number. -/
def add (a : Arena) (item : Item) : Nat × Arena :=
  (a.slots.size, ⟨a.slots.push ⟨item, none, #[]⟩⟩)

/-- Takes a node from its parent. -/
def detach (a : Arena) (n : Nat) : Arena :=
  match a.parent? n with
  | none => a
  | some p =>
    (a.modify p fun s => { s with kids := s.kids.filter (· != n) }).modify n
      fun s => { s with parent := none }

/-- Makes a node the last child of another. -/
def append (a : Arena) (parent n : Nat) : Arena :=
  ((a.detach n).modify parent fun s => { s with kids := s.kids.push n }).modify n
    fun s => { s with parent := some parent }

/-- Makes a node the sibling just before another that has a parent. -/
def insertBefore (a : Arena) (sibling n : Nat) : Arena :=
  let a := a.detach n
  match a.parent? sibling with
  | none => a
  | some p =>
    (a.modify p fun s =>
      { s with kids := s.kids.flatMap fun k => if k == sibling then #[n, k] else #[k] }).modify n
      fun s => { s with parent := some p }

/-- Adds text to a text node; false if the node holds none. -/
def extendText? (a : Arena) (n : Nat) (s : String) : Option Arena :=
  match a.item n with
  | .text t => some (a.modify n fun slot => { slot with item := .text (t ++ s) })
  | _ => none

/-- Adds text at the end of a node, to its last child if that is text. -/
def appendText (a : Arena) (parent : Nat) (s : String) : Arena :=
  match (a.kids parent).back?.bind (a.extendText? · s) with
  | some a' => a'
  | none =>
    let (n, a) := a.add (.text s)
    a.append parent n

/-- The sibling just before a node. -/
def previous? (a : Arena) (n : Nat) : Option Nat := do
  let p ← a.parent? n
  let i ← (a.kids p).idxOf? n
  if i = 0 then none else (a.kids p)[i - 1]?

/-- Adds text just before a node that has a parent, to the text there if any. -/
def insertTextBefore (a : Arena) (sibling : Nat) (s : String) : Arena :=
  match (a.previous? sibling).bind (a.extendText? · s) with
  | some a' => a'
  | none =>
    let (n, a) := a.add (.text s)
    a.insertBefore sibling n

/-- Moves the children of one node to the end of another. -/
def moveKids (a : Arena) (source target : Nat) : Arena :=
  (a.kids source).foldl (fun a k => a.append target k) a

/-- Gives an element the attributes that it lacks. -/
def addAttrs (a : Arena) (n : Nat) (attrs : List Attr) : Arena :=
  a.modify n fun s =>
    match s.item with
    | .element e => { s with item := .element (e.addMissing attrs) }
    | _ => s

end Arena

end SiteWalk.Html
