import RouteAtlas.Json.Value
import RouteAtlas.Path.Basic
import RouteAtlas.Routes.RouteTree

/-!
# Reports

- `LocatedRoute`: a route and its source file;
- `Report`: what a run that succeeds has found;
- `Report.toJson`: the report as it is printed.
-/

namespace RouteAtlas

/-- A route and its source file, if one was found. -/
structure LocatedRoute where
  route : Route
  source : Option Path
deriving DecidableEq

/-- What a run that succeeds has found. -/
structure Report where
  /-- Where the payload came from. -/
  payloadSource : Text
  /-- The route tree file, below the workspace where it lies there. -/
  routeTree : Text
  /-- The digest of its text. -/
  digest : Text
  routes : List LocatedRoute
  warnings : List Text
  selected : Option LocatedRoute
deriving DecidableEq

/-- An object from its names and values. -/
def Json.ofMembers (ms : List (String × Json)) : Json :=
  .object (ms.map fun (name, v) => (Text.ofString name, v))

namespace LocatedRoute

/-- The text of the source file. -/
def sourceText (r : LocatedRoute) : Option Text := r.source.map Path.toText

/-- A route as it is printed. -/
def toJson (r : LocatedRoute) : Json :=
  .ofMembers [("routePath", .string r.route.path), ("importPath", .string r.route.specifier),
    ("sourcePath", (r.sourceText.map Json.string).getD .null)]

end LocatedRoute

namespace Report

/-- A report as it is printed. -/
def toJson (r : Report) : Json :=
  .ofMembers ([("ok", .bool true), ("stage", .string (Text.ofString "done")),
    ("job_payload_source", .string r.payloadSource), ("route_tree", .string r.routeTree),
    ("route_tree_sha256", .string r.digest), ("routes", .array (r.routes.map (·.toJson))),
    ("warnings", .array (r.warnings.map Json.string))] ++
    match r.selected with
    | some s => [("selected", s.toJson)]
    | none => [])

end Report

end RouteAtlas
