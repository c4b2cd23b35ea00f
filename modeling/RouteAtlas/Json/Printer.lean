import RouteAtlas.Decimal.Shortest
import RouteAtlas.Json.Value

/-!
# Printing JSON

- `Json.quote`: a text between quotes, with control characters escaped;
- `Json.print`: a value on one line, without blanks; no character is escaped that need not be.
-/

namespace RouteAtlas

namespace Json

/-- A code point inside quotes. -/
def escapePoint (p : CodePoint) : Text :=
  if p.is '\x22' then Text.ofString "\\\""
  else if p.is '\\' then Text.ofString "\\\\"
  else if p.is '\n' then Text.ofString "\\n"
  else if p.is '\r' then Text.ofString "\\r"
  else if p.is '\t' then Text.ofString "\\t"
  else if p.is '\x08' then Text.ofString "\\b"
  else if p.is '\x0c' then Text.ofString "\\f"
  else if p.val < 0x20 then Text.ofString "\\u" ++ Text.hex 4 p.val
  else [p]

/-- A text between quotes. -/
def quote (t : Text) : Text :=
  CodePoint.ofChar '\x22' :: (t.flatMap escapePoint ++ [CodePoint.ofChar '\x22'])

/-- A number with a point; the values that are no numbers have names. -/
def printFloat : Binary64 → Text
  | .nan => Text.ofString "NaN"
  | .infinite negative => Text.ofString (if negative then "-Infinity" else "Infinity")
  | x => x.text

mutual

/-- A value on one line. -/
def print : Json → Text
  | .null => Text.ofString "null"
  | .bool b => Text.ofString (if b then "true" else "false")
  | .int i => Text.ofInt i
  | .float x => printFloat x
  | .string t => quote t
  | .array vs => Text.ofString "[" ++ printValues vs ++ Text.ofString "]"
  | .object ms => Text.ofString "\x7b" ++ printMembers ms ++ Text.ofString "\x7d"

/-- Values with commas between them. -/
def printValues : List Json → Text
  | [] => []
  | [v] => print v
  | v :: w :: vs => print v ++ Text.ofString "," ++ printValues (w :: vs)

/-- Members with commas between them. -/
def printMembers : List (Text × Json) → Text
  | [] => []
  | [(k, v)] => quote k ++ Text.ofString ":" ++ print v
  | (k, v) :: m :: ms =>
    quote k ++ Text.ofString ":" ++ print v ++ Text.ofString "," ++ printMembers (m :: ms)

end

end Json

end RouteAtlas
