import SiteWalk.Bound

/-!
# Datum

The dynamic values that a profile, a report and a stored run are read from.
Both notations of the project, JSON and TOML, are read into this one type;
fields keep the order of the text.
-/

namespace SiteWalk

/-- A value as a data notation writes it.  `decimal` holds the text of a number
that is no integer of 64 bits. -/
inductive Datum where
  | null
  | bool (b : Bool)
  | int (n : Int)
  | decimal (digits : String)
  | text (s : String)
  | list (items : List Datum)
  | record (fields : List (String × Datum))
  deriving Inhabited, Repr

namespace Datum

/-- The integers that a notation may write: those of 64 bits, signed or not. -/
def isWord (n : Int) : Bool := isSigned64 n || (0 ≤ n && n < bound64)

/-- The value of the last field of that name. -/
def field? (fields : List (String × Datum)) (name : String) : Option Datum :=
  (fields.reverse.find? fun f => f.1 == name).map Prod.snd

/-- A field of a record; none in anything else. -/
def get? (d : Datum) (name : String) : Option Datum :=
  match d with
  | .record fields => field? fields name
  | _ => none

mutual

/-- Same constructor and same parts, fields in the same order. -/
def same : Datum → Datum → Bool
  | .null, .null => true
  | .bool a, .bool b => a == b
  | .int a, .int b => a == b
  | .decimal a, .decimal b => a == b
  | .text a, .text b => a == b
  | .list xs, .list ys => sameItems xs ys
  | .record fs, .record gs => sameFields fs gs
  | _, _ => false

def sameItems : List Datum → List Datum → Bool
  | [], [] => true
  | x :: xs, y :: ys => same x y && sameItems xs ys
  | _, _ => false

def sameFields : List (String × Datum) → List (String × Datum) → Bool
  | [], [] => true
  | (a, x) :: xs, (b, y) :: ys => a == b && same x y && sameFields xs ys
  | _, _ => false

end

instance : BEq Datum := ⟨same⟩

end Datum

end SiteWalk
