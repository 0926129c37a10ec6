import SiteWalk.Datum
import SiteWalk.TextMap

/-!
# Reading typed values

How a value of a notation becomes a value of a type.  Numbers have to be integers
in range, and a record may also be written as a list of its fields in order.
Fields that a record does not know are left alone.
-/

namespace SiteWalk.Datum

/-- The notation that a value comes from; the two differ in corners. -/
inductive Dialect where
  | json
  | toml
  deriving DecidableEq, Repr

/-! ## Parts without structure -/

def text? : Datum → Option String
  | .text s => some s
  | _ => none

def bool? : Datum → Option Bool
  | .bool b => some b
  | _ => none

/-- An integer from zero up to below `bound`. -/
def nat? (bound : Nat) : Datum → Option Nat
  | .int (.ofNat n) => if n < bound then some n else none
  | _ => none

/-- An integer of 64 bits with a sign. -/
def word? : Datum → Option Int
  | .int n => if isSigned64 n then some n else none
  | _ => none

/-- Nothing, or what `read` makes of the value. -/
def optional? {α : Type} (read : Datum → Option α) : Datum → Option (Option α)
  | .null => some none
  | d => (read d).map some

/-- The name of a case: a text, or a record of that one name that says nothing more. -/
def caseName? (dialect : Dialect) : Datum → Option String
  | .text s => some s
  | .record [(name, d)] =>
    match dialect, d with
    | .json, .null => some name
    | .toml, .record [] => some name
    | .toml, .list [] => some name
    | _, _ => none
  | _ => none

def list? {α : Type} (read : Datum → Option α) : Datum → Option (List α)
  | .list xs => xs.mapM read
  | _ => none

/-- A record of texts; of two fields of one name the later counts. -/
def textMap? : Datum → Option TextMap
  | .record fs => (fs.mapM fun f => (text? f.2).map fun s => (f.1, s)).map TextMap.ofList
  | _ => none

/-! ## Records -/

/-- The known fields that a value gives, each at most once. -/
def fields? (dialect : Dialect) (names : List String) : Datum → Option (List (String × Datum))
  | .record fs =>
    let known := fs.filter fun f => names.contains f.1
    if (known.map Prod.fst).Nodup then some known else none
  | .list xs =>
    if dialect == .json && xs.length > names.length then none else some (names.zip xs)
  | _ => none

def given? (fs : List (String × Datum)) (name : String) : Option Datum :=
  (fs.find? fun f => f.1 == name).map Prod.snd

/-- A field that has to be there. -/
def required? {α : Type} (fs : List (String × Datum)) (name : String)
    (read : Datum → Option α) : Option α :=
  (given? fs name).bind read

/-- A field that is `default` unless it is there. -/
def orDefault? {α : Type} (fs : List (String × Datum)) (name : String) (default : α)
    (read : Datum → Option α) : Option α :=
  match given? fs name with
  | none => some default
  | some d => read d

end SiteWalk.Datum
