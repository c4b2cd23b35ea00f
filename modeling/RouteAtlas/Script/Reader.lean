import RouteAtlas.Script.Outline

/-!
# Scripts

`Script.parse?`: the top-level items of a script, or nothing where it is malformed.
-/

namespace RouteAtlas.Script

/-- The top-level items of a script. A malformed script is refused, and so is one that holds a
NUL. -/
def parse? (source : List Char) : Option (List Item) :=
  let s : Source := source.toArray
  if source.contains '\x00' then none else s.read?.map s.items

end RouteAtlas.Script
