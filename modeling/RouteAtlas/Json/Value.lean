import RouteAtlas.Decimal.Binary64
import RouteAtlas.Table
import RouteAtlas.Text.CodePoint

/-!
# JSON values

- `Json`: a value; an object keeps its names in the order in which they were first written;
- `Json.field?`: the value under a name of an object.
-/

namespace RouteAtlas

/-- A JSON value. -/
inductive Json where
  | null
  | bool (b : Bool)
  | int (i : Int)
  | float (x : Binary64)
  | string (t : Text)
  | array (vs : List Json)
  | object (ms : List (Text × Json))

namespace Json

/-- The value under a name of an object. -/
def field? (j : Json) (name : Text) : Option Json :=
  match j with
  | .object ms => Table.get? ms name
  | _ => none

end Json

end RouteAtlas
