import RouteAtlas.Files.Locate

/-!
# Jobs

- `Job`: what a run is asked to do;
- `Job.workspacePath`, `Job.routeTreePath?`: the paths that a job names, resolved.
-/

namespace RouteAtlas

/-- How the route tree is searched for. -/
structure Filters where
  /-- The name of the route tree file. -/
  filename : Text
  /-- The names of folders that are not visited. -/
  denied : List Text
deriving DecidableEq

/-- What a run is asked to do. -/
structure Job where
  /-- The folder that is searched. -/
  workspace : Text
  /-- The route tree file, where it need not be searched for. -/
  routeTree : Option Text
  /-- The path of the route to select. -/
  route : Option Text
  filters : Filters
  /-- The extensions of source files, in the order in which they are tried. -/
  extensions : List Text
deriving DecidableEq

/-- The filters of a job that names none. -/
def Filters.standard : Filters where
  filename := Text.ofString "routeTree.gen.ts"
  denied := ["node_modules", ".git", ".next", "dist", "build", ".venv", ".output"].map Text.ofString

/-- The job that asks for nothing in particular. -/
def Job.standard : Job where
  workspace := Text.ofString "."
  routeTree := none
  route := none
  filters := .standard
  extensions := sourceExtensions

namespace Job

/-- The workspace as an absolute path. -/
def workspacePath (j : Job) (w : World) : Except PathFault Path := do
  w.resolve (← w.expandHome (Path.ofText j.workspace))

/-- The route tree file as an absolute path; a relative one lies below the workspace. -/
def routeTreePath? (j : Job) (w : World) : Except PathFault (Option Path) :=
  match j.routeTree with
  | none => .ok none
  | some [] => .ok none
  | some t => do
    let p ← w.expandHome (Path.ofText t)
    if p.isAbsolute then return some (← w.resolve p)
    let folder ← j.workspacePath w
    return some (← w.resolve (folder.join p))

end Job

end RouteAtlas
