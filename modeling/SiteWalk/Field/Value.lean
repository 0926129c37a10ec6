import SiteWalk.Crawl.Basic
import SiteWalk.Datum.Reading

/-!
# Fields of entities

An entity has fields, and a field has any number of values, each a text or a link.

    (e.set name vs).values name = vs
-/

namespace SiteWalk.Field

open Datum

inductive Value where
  | text (s : String)
  | link (uri : String)
  deriving DecidableEq, Repr, Inhabited

namespace Value

/-- The text itself, or where the link leads. -/
def payload : Value → String
  | .text s => s
  | .link uri => uri

def toDatum : Value → Datum
  | .text s => .record [("text", .text s)]
  | .link uri => .record [("link", .record [("uri", .text uri)])]

def ofDatum? : Datum → Option Value
  | .record [("text", .text s)] => some (.text s)
  | .record [("link", d)] => do
    let fs ← fields? .json ["uri"] d
    return .link (← required? fs "uri" text?)
  | _ => none

end Value

/-- The fields of an entity; a name that is not listed has no values. -/
structure Entity where
  fields : List (String × List Value) := []
  deriving DecidableEq, Repr, Inhabited

namespace Entity

def values (e : Entity) (name : String) : List Value := (e.fields.lookup name).getD []

/-- The entity with all values of one field replaced. -/
def set (e : Entity) (name : String) (vs : List Value) : Entity :=
  ⟨(name, vs) :: e.fields.filter fun f => f.1 ≠ name⟩

def toDatum (e : Entity) : Datum :=
  .record (e.fields.map fun f => (f.1, .list (f.2.map Value.toDatum)))

def ofDatum? : Datum → Option Entity
  | .record fs => do
    let read ← fs.mapM fun f => (list? Value.ofDatum? f.2).map fun vs => (f.1, vs)
    return read.foldl (fun e f => e.set f.1 f.2) {}
  | _ => none

theorem values_set (e : Entity) (name : String) (vs : List Value) :
    (e.set name vs).values name = vs := by simp [set, values]

end Entity

end SiteWalk.Field
