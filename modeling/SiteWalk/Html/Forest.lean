import SiteWalk.Html.Build.Run

/-!
# Documents as forests

A document that has been read is a forest: its first tree starts at the document
node, the others at nodes that lost their parent.  Each node carries a stamp;
stamps grow in the order in which the nodes were made.

    html (sever p f) = html of f with every p-subtree deleted        (sever)
    places lists every node that has a parent, in stamp order        (places)
-/

namespace SiteWalk.Html

/-! ## Forests -/

/-- Trees side by side: the first tree with its children, and the trees after it. -/
inductive Forest where
  | nil
  | node (stamp : Nat) (item : Item) (kids next : Forest)
  deriving Inhabited, Repr

namespace Forest

/-- The trees of one forest before those of another. -/
def append : Forest → Forest → Forest
  | .nil, g => g
  | .node n i kids next, g => .node n i kids (append next g)

instance : Append Forest := ⟨append⟩

/-- The text in the forest, in document order. -/
def text : Forest → List Char
  | .nil => []
  | .node _ (.text s) kids next => s.toList ++ text kids ++ text next
  | .node _ _ kids next => text kids ++ text next

/-- An element in a forest: what it holds and how many nodes are above it. -/
structure Place where
  stamp : Nat
  depth : Nat
  element : Element
  kids : Forest
  deriving Inhabited

/-- The elements of the forest in document order, under `depth` nodes. -/
def elements (depth : Nat) : Forest → List Place
  | .nil => []
  | .node n item kids next =>
    let below := elements (depth + 1) kids ++ elements depth next
    match item with
    | .element e => ⟨n, depth, e, kids⟩ :: below
    | _ => below

/-- The elements below the roots, in document order. -/
def inner : Forest → List Place
  | .nil => []
  | .node _ _ kids next => elements 1 kids ++ inner next

/-! ## Severing -/

/-- The forest without the trees whose root item satisfies `p`, at any depth. -/
def prune (p : Item → Bool) : Forest → Forest
  | .nil => .nil
  | .node n item kids next =>
    if p item then prune p next else .node n item (prune p kids) (prune p next)

/-- The trees that `prune` leaves out, each itself pruned below its root. -/
def pruned (p : Item → Bool) : Forest → Forest
  | .nil => .nil
  | .node n item kids next =>
    let rest := pruned p kids ++ pruned p next
    if p item then .node n item (prune p kids) rest else rest

/-- Takes every node that satisfies `p` from its parent; roots stay roots. -/
def sever (p : Item → Bool) (f : Forest) : Forest := roots f ++ cut f
where
  roots : Forest → Forest
    | .nil => .nil
    | .node n item kids next => .node n item (prune p kids) (roots next)
  cut : Forest → Forest
    | .nil => .nil
    | .node _ _ kids next => pruned p kids ++ cut next

end Forest

/-! ## Reading -/

/-- The tree below a node, to a depth. -/
def Arena.tree (a : Arena) : Nat → Nat → Forest → Forest
  | 0, n, next => .node n (a.item n) .nil next
  | depth + 1, n, next =>
    .node n (a.item n) ((a.kids n).foldr (fun k f => a.tree depth k f) .nil) next

/-- The trees of all nodes without a parent.  No tree is deeper than there are nodes. -/
def Arena.forest (a : Arena) : Forest :=
  (List.range a.slots.size).foldr
    (fun n f => if (a.parent? n).isNone then a.tree a.slots.size n f else f) .nil

/-- A document as it is read from its text. -/
def read (text : List Char) : Forest := (Build.arenaOf text).forest

end SiteWalk.Html
