import SiteWalk.Pattern.CharSet
import SiteWalk.Unicode.Property

/-!
# Expressions

What a pattern says about a text, and where in the text it holds.  An expression
takes the places of a text where it may start to those where it may end.  Only
whether there is a match counts, so nothing here prefers one match to another.
-/

namespace SiteWalk.Pattern

open Unicode Text

/-- What may be asked of a place between two characters. -/
inductive Edge where
  | textStart
  | textEnd
  | lineStart (crlf : Bool)
  | lineEnd (crlf : Bool)
  | word (unicode : Bool)
  | notWord (unicode : Bool)
  | wordStart (unicode : Bool)
  | wordEnd (unicode : Bool)
  | wordStartHalf (unicode : Bool)
  | wordEndHalf (unicode : Bool)
  deriving DecidableEq, Repr, Inhabited

inductive Expr where
  | empty
  | chars (set : Ranges)
  | edge (e : Edge)
  | seq (a b : Expr)
  | alt (a b : Expr)
  | rep (e : Expr) (least : Nat) (most : Option Nat)
  | group (e : Expr)
  deriving Inhabited, Repr

/-! ## Edges -/

/-- The character right before a place, and the one right after it. -/
structure Place where
  before : Option Char
  after : Option Char

def placeAt (text : Array Char) (i : Nat) : Place :=
  { before := if i = 0 then none else text[i - 1]?
    after := text[i]? }

def isWord (unicode : Bool) (c : Option Char) : Bool :=
  c.any fun c => if unicode then isWordChar c else isAlnum c || c == '_'

def Edge.holds (p : Place) : Edge → Bool
  | .textStart => p.before.isNone
  | .textEnd => p.after.isNone
  | .lineStart false => p.before.all (· == '\n')
  | .lineStart true =>
    p.before.all (· == '\n') || (p.before == some '\r' && p.after != some '\n')
  | .lineEnd false => p.after.all (· == '\n')
  | .lineEnd true =>
    p.after.all (· == '\r') || (p.after == some '\n' && p.before != some '\r')
  | .word u => isWord u p.before != isWord u p.after
  | .notWord u => isWord u p.before == isWord u p.after
  | .wordStart u => !isWord u p.before && isWord u p.after
  | .wordEnd u => isWord u p.before && !isWord u p.after
  | .wordStartHalf u => !isWord u p.before
  | .wordEndHalf u => !isWord u p.after

/-! ## Matching -/

/-- The places reached in at most `n` rounds of `step`; `seen` has been reached
before, `fresh` in the last round. -/
def closure (step : List Nat → List Nat) : Nat → List Nat → List Nat → List Nat
  | 0, seen, fresh => seen ++ fresh
  | n + 1, seen, fresh =>
    if fresh.isEmpty then seen
    else
      let all := seen ++ fresh
      closure step n all ((step fresh).filter fun i => !all.contains i)

/-- The places after exactly `n` rounds. -/
def rounds (step : List Nat → List Nat) : Nat → List Nat → List Nat
  | 0, places => places
  | n + 1, places => if places.isEmpty then [] else rounds step n (step places)

/-- The places where the expression may end if it starts at one of `starts`.  More
rounds than there are characters, and one, reach no other place. -/
def Expr.ends (text : Array Char) : Expr → List Nat → List Nat
  | .empty, starts => starts
  | .chars set, starts =>
    starts.filterMap fun i =>
      match text[i]? with
      | some c => if set.has c.toNat then some (i + 1) else none
      | none => none
  | .edge e, starts => starts.filter fun i => e.holds (placeAt text i)
  | .seq a b, starts => b.ends text (a.ends text starts)
  | .alt a b, starts => (a.ends text starts ++ b.ends text starts).eraseDups
  | .rep e least most, starts =>
    let enough := text.size + 1
    let step (places : List Nat) : List Nat := (e.ends text places).eraseDups
    let first := rounds step (min least enough) starts
    match most with
    | none => closure step enough [] first
    | some m => closure step (min (m - least) enough) [] first
  | .group e, starts => e.ends text starts

/-- The expression holds somewhere in the text. -/
def Expr.holdsIn (e : Expr) (text : List Char) : Bool :=
  !(e.ends text.toArray (List.range (text.length + 1))).isEmpty

/-! ## Size -/

/-- How many bytes write a code point in UTF-8. -/
def utf8Length (n : Nat) : Nat :=
  if n < 128 then 1 else if n < 0x800 then 2 else if n < 0x10000 then 3 else 4

/-- What an expression costs once its repetitions are written out, in bytes. -/
def Expr.size : Expr → Nat
  | .empty => 32
  | .chars [(a, b)] => if a = b then 32 * utf8Length a else 32 * utf8Length b * utf8Length b
  | .chars set =>
    if CharSet.isAscii set then 32 + 8 * set.length
    else set.foldl (fun n i => n + 8 + 16 * utf8Length i.2) 0
  | .edge _ => 32
  | .seq a b => a.size + b.size
  | .alt a b => a.size + b.size + 72
  | .rep e least most =>
    match most with
    | none => (max least 1) * e.size + 40
    | some m => least * e.size + (if least < m then 32 + (m - least) * (e.size + 40) else 0)
  | .group e => e.size + 64

/-- Patterns that cost more are refused. -/
def sizeLimit : Nat := 10485760

/-- How deep parts lie in parts.  A row counts once, and so does a choice. -/
def Expr.depth : Expr → Nat
  | .empty => 0
  | .chars _ => 0
  | .edge _ => 0
  | .seq a b =>
    match b with
    | .seq _ _ => max (a.depth + 1) b.depth
    | _ => max a.depth b.depth + 1
  | .alt a b =>
    match b with
    | .alt _ _ => max (a.depth + 1) b.depth
    | _ => max a.depth b.depth + 1
  | .rep e _ _ => e.depth + 1
  | .group e => e.depth + 1

def depthLimit : Nat := 250

end SiteWalk.Pattern
