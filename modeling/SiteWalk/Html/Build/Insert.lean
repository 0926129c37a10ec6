import SiteWalk.Html.Build.State

/-!
# Placing nodes

New nodes go to the end of the current element, into the content of a template,
or, while a table refuses them, just before the table.
-/

namespace SiteWalk.Html.Build

/-! ## Making elements -/

def plainAttrs (attrs : List (String × String)) : List Attr :=
  attrs.map fun a => ⟨.none, a.1, a.2⟩

/-- A new element without a parent; a template gets the node for its content. -/
def makeElement (vocabulary : Vocabulary) (name : String) (attrs : List Attr) : Edit Nat :=
  modifyGet fun s =>
    let e : Element := ⟨vocabulary, name, attrs⟩
    let (n, arena) := s.arena.add (.element e)
    if e.is "template" then
      let (k, arena) := arena.add .fragment
      (n, { s with arena := arena.append n k })
    else (n, { s with arena := arena })

/-! ## Places -/

/-- Where a node goes. -/
inductive Place where
  | lastOf (n : Nat)
  /-- Before the table if it has a parent, else at the end of the element that was
  opened before it. -/
  | beforeTable (table previous : Nat)

namespace State

/-- The content node of a template. -/
def content (s : State) (n : Nat) : Nat := (s.arena.kids n).getD 0 n

/-- The place for a node that belongs into `target`. -/
def placeFor (s : State) (target : Nat) : Place :=
  if s.fostering && s.elementIs (·.isIn ["table", "tbody", "tfoot", "thead", "tr"]) target then
    go s.opened
  else if s.elementIs (·.is "template") target then .lastOf (s.content target)
  else .lastOf target
where
  go : List Nat → Place
    | [] => .lastOf s.root
    | n :: r =>
      if s.elementIs (·.is "template") n then .lastOf (s.content n)
      else if s.elementIs (·.is "table") n then .beforeTable n (r.headD s.root)
      else go r

/-- The place for a node that belongs into the current element. -/
def place (s : State) : Place := s.placeFor (s.current?.getD 0)

def insertNode (s : State) (p : Place) (n : Nat) : State :=
  match p with
  | .lastOf t => { s with arena := s.arena.append t n }
  | .beforeTable table previous =>
    if (s.arena.parent? table).isSome then { s with arena := s.arena.insertBefore table n }
    else { s with arena := s.arena.append previous n }

def insertText (s : State) (p : Place) (text : String) : State :=
  match p with
  | .lastOf t => { s with arena := s.arena.appendText t text }
  | .beforeTable table previous =>
    if (s.arena.parent? table).isSome then
      { s with arena := s.arena.insertTextBefore table text }
    else { s with arena := s.arena.appendText previous text }

end State

/-! ## Inserting -/

def insertHere (n : Nat) : Edit Unit := modify fun s => s.insertNode s.place n

def insertText (text : String) : Edit Unit := modify fun s => s.insertText s.place text

/-- A new element at its place, not opened. -/
def insertClosed (vocabulary : Vocabulary) (name : String) (attrs : List Attr) : Edit Nat := do
  let n ← makeElement vocabulary name attrs
  insertHere n
  return n

/-- A new element at its place, opened. -/
def insertOpened (vocabulary : Vocabulary) (name : String) (attrs : List Attr) : Edit Nat := do
  let n ← insertClosed vocabulary name attrs
  push n
  return n

def insertTag (t : Tag) : Edit Nat := insertOpened .html t.name (plainAttrs t.attrs)

def insertClosedTag (t : Tag) : Edit Nat := insertClosed .html t.name (plainAttrs t.attrs)

/-- An element that the text leaves out. -/
def insertImplied (name : String) : Edit Unit := do
  let _ ← insertOpened .html name []

def addComment (parent : Nat) (text : String) : Edit Unit :=
  modify fun s =>
    let (n, arena) := s.arena.add (.comment text)
    { s with arena := arena.append parent n }

def insertComment (text : String) : Edit Unit := do
  let n ← modifyGet fun s =>
    let (n, arena) := s.arena.add (.comment text)
    (n, { s with arena })
  insertHere n

/-- Raw text follows, up to the end tag of this element. -/
def readRaw (mode : TextMode) : Edit Unit :=
  modify fun s => { s with returnMode := s.mode, mode := .text, reading := mode }

/-! ## Formatting elements -/

/-- The formatting elements after the last marker, the last one first. -/
def sinceMarker : List Formatting → List (Nat × Tag)
  | .element n t :: r => (n, t) :: sinceMarker r
  | _ => []

def isEntryOf (n : Nat) : Formatting → Bool
  | .element m _ => m == n
  | .marker => false

def pushMarker : Edit Unit := modify fun s => { s with formatting := .marker :: s.formatting }

/-- Drops the formatting elements after the last marker, and the marker. -/
def clearToMarker : Edit Unit :=
  modify fun s => { s with formatting := s.formatting.drop ((sinceMarker s.formatting).length + 1) }

def removeFormatting (n : Nat) : Edit Unit :=
  modify fun s => { s with formatting := s.formatting.eraseP (isEntryOf n) }

/-- The entry needs no new element: a marker, or an element that is open. -/
def State.isMarkerOrOpened (s : State) : Formatting → Bool
  | .marker => true
  | .element n _ => s.opened.contains n

/-- Opens the formatting elements again that were closed by the end of a block. -/
def reconstruct : Edit Unit := do
  let s ← get
  let closed := s.formatting.takeWhile (!s.isMarkerOrOpened ·)
  let kept := s.formatting.drop closed.length
  modify fun s => { s with formatting := kept }
  for entry in closed.reverse do
    match entry with
    | .marker => pure ()
    | .element _ tag =>
      let n ← insertTag tag
      modify fun s => { s with formatting := .element n tag :: s.formatting }

/-- The tags make equal elements; the order of attributes does not count. -/
def sameTag (a b : Tag) : Bool :=
  a.name == b.name && a.attrs.length == b.attrs.length && a.attrs.all (b.attrs.contains ·)

/-- A formatting element; of more than three equal ones the first is forgotten. -/
def insertFormatting (t : Tag) : Edit Unit := do
  let s ← get
  let equal := (sinceMarker s.formatting).filter (sameTag t ·.2)
  if equal.length ≥ 3 then
    match equal.getLast? with
    | some (n, _) => removeFormatting n
    | none => pure ()
  let n ← insertTag t
  modify fun s => { s with formatting := .element n t :: s.formatting }

/-! ## Misnested end tags -/

/-- Any end tag without rules of its own: closes the nearest element of its name,
unless a special element comes first. -/
def closeOther (name : String) : Edit Unit := do
  let s ← get
  match s.opened.find? fun n => s.elementIs (·.is name) n || s.elementIs (·.isIn special) n with
  | some n =>
    if s.elementIs (·.is name) n then do
      closeImpliedExcept name
      modify fun s => { s with opened := (s.opened.dropWhile (· != n)).drop 1 }
  | none => pure ()

/-- Where the new entry of a formatting element goes. -/
inductive Bookmark where
  | replace
  | after (n : Nat)

/-- The elements between a block and the formatting element around it, the inner
one first: formatting elements among the first three are made anew and wrapped
around what was moved so far, others are closed.  Answers the elements that stay
open, the last node moved and the bookmark. -/
def rewrap (block : Nat) :
    Nat → Nat → Bookmark → List Nat → Edit (List Nat × Nat × Bookmark)
  | _, last, mark, [] => return ([], last, mark)
  | count, last, mark, n :: r => do
    let s ← get
    match s.formatting.find? (isEntryOf n) with
    | some (.element _ tag) =>
      if count ≥ 3 then
        removeFormatting n
        rewrap block (count + 1) last mark r
      else do
        let m ← makeElement .html tag.name (plainAttrs tag.attrs)
        modify fun s =>
          { s with
            formatting := s.formatting.map fun f => if isEntryOf n f then .element m tag else f
            arena := s.arena.append m last }
        let mark := if last == block then .after m else mark
        let (stay, last, mark) ← rewrap block (count + 1) m mark r
        return (m :: stay, last, mark)
    | _ => rewrap block (count + 1) last mark r

/-- One round of closing a formatting element across blocks; true if another
round is due. -/
def adoptOnce (name : String) : Edit Bool := do
  let s ← get
  match (sinceMarker s.formatting).find? (·.2.name == name) with
  | none => closeOther name; return false
  | some (n, tag) =>
    if !s.opened.contains n then removeFormatting n; return false
    else if !s.inScopeWhere defaultScope (· == n) then return false
    else
      let above := s.opened.takeWhile (· != n)
      let below := (s.opened.dropWhile (· != n)).drop 1
      -- the block that is next to the formatting element
      match above.reverse.find? (s.elementIs (·.isIn special)) with
      | none =>
        modify fun s => { s with opened := below }
        removeFormatting n
        return false
      | some block =>
        let inner := above.takeWhile (· != block)
        let between := (above.dropWhile (· != block)).drop 1
        let (stay, last, mark) ← rewrap block 0 block .replace between
        modify fun s =>
          let s := { s with arena := s.arena.detach last }
          s.insertNode (s.placeFor (below.headD 0)) last
        let m ← makeElement .html tag.name (plainAttrs tag.attrs)
        let entry := Formatting.element m tag
        modify fun s =>
          let arena := (s.arena.moveKids block m).append block m
          let formatting := match mark with
            | .replace => s.formatting.map fun f => if isEntryOf n f then entry else f
            | .after k =>
              (s.formatting.flatMap fun f => if isEntryOf k f then [entry, f] else [f]).eraseP
                (isEntryOf n)
          { s with arena, formatting, opened := inner ++ m :: block :: stay ++ below }
        return true

/-- Closes a formatting element, and opens it anew inside the blocks that it
began outside of. -/
def adopt (name : String) : Edit Unit := do
  let s ← get
  let plain := match s.current? with
    | some n => s.elementIs (·.is name) n && !s.formatting.any (isEntryOf n)
    | none => false
  if plain then pop else rounds 8
where
  rounds : Nat → Edit Unit
    | 0 => pure ()
    | k + 1 => do if ← adoptOnce name then rounds k

end SiteWalk.Html.Build
