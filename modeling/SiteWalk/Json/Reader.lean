import SiteWalk.Datum
import SiteWalk.Json.Token

/-!
# Reading JSON

One pass over the tokens with a stack of the lists and records that are still
open.  The whole text has to be one value.
-/

namespace SiteWalk.Json

/-- A list or record that is still open, its parts last first. -/
inductive Frame where
  | list (done : List Datum)
  | record (done : List (String × Datum)) (name : String)

/-- What may follow. -/
inductive State where
  /-- A value. -/
  | value (outer : List Frame)
  /-- A value, or the end of an empty list. -/
  | firstItem (outer : List Frame)
  /-- A name, or the end of an empty record. -/
  | firstName (outer : List Frame)
  /-- A name. -/
  | name (done : List (String × Datum)) (outer : List Frame)
  /-- A colon after a name. -/
  | colon (done : List (String × Datum)) (name : String) (outer : List Frame)
  /-- A comma or the end of the innermost open part, after this value. -/
  | after (v : Datum) (outer : List Frame)

/-- A value that is one token. -/
def scalar? : Token → Option Datum
  | .null => some .null
  | .bool b => some (.bool b)
  | .int n => some (.int n)
  | .decimal s => some (.decimal s)
  | .text s => some (.text s)
  | _ => none

/-- A token where a value is due. -/
def beginValue (outer : List Frame) : Token → Option State
  | .openList => some (.firstItem outer)
  | .openRecord => some (.firstName outer)
  | t => (scalar? t).map (.after · outer)

def step : State → Token → Option State
  | .value outer, t => beginValue outer t
  | .firstItem outer, .closeList => some (.after (.list []) outer)
  | .firstItem outer, t => beginValue (.list [] :: outer) t
  | .firstName outer, .closeRecord => some (.after (.record []) outer)
  | .firstName outer, .text s => some (.colon [] s outer)
  | .name done outer, .text s => some (.colon done s outer)
  | .colon done s outer, .colon => some (.value (.record done s :: outer))
  | .after v (.list done :: outer), .comma => some (.value (.list (v :: done) :: outer))
  | .after v (.list done :: outer), .closeList =>
    some (.after (.list (v :: done).reverse) outer)
  | .after v (.record done s :: outer), .comma => some (.name ((s, v) :: done) outer)
  | .after v (.record done s :: outer), .closeRecord =>
    some (.after (.record ((s, v) :: done).reverse) outer)
  | _, _ => none

/-- The value that a row of tokens writes. -/
def ofTokens? (ts : List Token) : Option Datum :=
  match ts.foldlM step (.value []) with
  | some (.after v []) => some v
  | _ => none

/-- The value that a JSON text writes. -/
def read? (s : List Char) : Option Datum := (tokens? s).bind ofTokens?

end SiteWalk.Json
