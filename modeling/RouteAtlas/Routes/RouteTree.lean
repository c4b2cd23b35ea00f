import RouteAtlas.Routes.Bindings
import RouteAtlas.Script.Reader

/-!
# The routes of a route tree

- `Route`: a public path and the module it comes from;
- `Bindings.routes`: the routes that the bindings of a script lead to, in order of their paths;
- `RouteTree.parse?`: the routes of a script.
-/

namespace RouteAtlas

/-- A public path and the module that its route comes from. -/
structure Route where
  path : Text
  /-- The text that the script imports the module by. -/
  specifier : Text
deriving DecidableEq

namespace Bindings

/-- The module that an entry comes from. -/
def moduleOf? (b : Bindings) (e : PathEntry) : Option Text :=
  resolve b.children b.updates b.imports e.name

/-- The entries that come from no known module. -/
def unresolved (b : Bindings) : List PathEntry :=
  b.entries.filter fun e => (b.moduleOf? e).isNone

/-- The routes in order of their paths; routes of one path keep the order of the script. -/
def routes (b : Bindings) : List Route :=
  (b.entries.filterMap fun e => (b.moduleOf? e).map fun m => ⟨e.path, m⟩).mergeSort
    fun r s => r.path.le s.path

end Bindings

/-- What reading a route tree yields. -/
structure RouteTree where
  items : List Script.Item
  bindings : Bindings

namespace RouteTree

/-- Reads a route tree; a malformed script is refused. -/
def parse? (source : List Char) : Option RouteTree :=
  (Script.parse? source).map fun items => ⟨items, .ofItems items⟩

/-- The routes of a route tree. -/
def routes (t : RouteTree) : List Route := t.bindings.routes

end RouteTree

end RouteAtlas
