import RouteAtlas.Digest.Sha256
import RouteAtlas.Files.Discover
import RouteAtlas.Workflow.Cause
import RouteAtlas.Workflow.Report

/-!
# Runs

A run loads its job, finds and reads the route tree, parses it, locates the source of every route,
selects one if asked to, and reports. Each stage is a function of its own.

- `loadJob`, `findTree`, `readSource`, `parseTree`, `locateAll`, `select`: the stages;
- `World.run`: the whole run.
-/

namespace RouteAtlas

/-- A fault of a path as the cause of a failure. -/
def ofPath {α : Type} (x : Except PathFault α) : Except Cause α := x.mapError Cause.path

/-- The job of a payload and its workspace, which must be a folder. -/
def loadJob (w : World) (payload : Json) : Except Cause (Job × Path) := do
  let job ← (Job.ofJson payload).mapError Cause.invalidJob
  let workspace ← ofPath (job.workspacePath w)
  if ← ofPath (w.isFolder workspace) then return (job, workspace)
  else throw (.notFolder workspace.toText)

/-- The route tree that a job names; absent if it names none. -/
def namedTree? (w : World) (job : Job) : Except Cause (Option Path) := do
  match ← ofPath (job.routeTreePath? w) with
  | none => return none
  | some p =>
    if ← ofPath (w.isFile p) then return some p else throw (.routeTreeMissing p.toText)

/-- The first route tree in the workspace. -/
def discoverTree (w : World) (job : Job) (workspace : Path) : Except Cause Path := do
  match ← ofPath (w.discover workspace job.filters.filename job.filters.denied) with
  | none => throw (.notFolder workspace.toText)
  | some none => throw (.noRouteTree job.filters.filename)
  | some (some p) => return p

/-- The route tree of a job: the one it names, else the first in the workspace. -/
def findTree (w : World) (job : Job) (workspace : Path) : Except Cause Path := do
  match ← namedTree? w job with
  | some p => return p
  | none => discoverTree w job workspace

/-- The text of a file or a device, with one kind of line end. -/
def readText (w : World) (p : Path) : Except Cause (List Char) := do
  match (← ofPath (w.find? p)).bind FileTree.bytes? with
  | some bytes =>
    let cs ← (Utf8.decode bytes).mapError Cause.undecodable
    return Text.unifyNewlines cs
  | none => throw (.routeTreeMissing p.toText)

/-- The route tree that a text describes. -/
def parseTree (w : World) (source : List Char) : Except Cause RouteTree :=
  match RouteTree.parse? source with
  | some t => .ok t
  | none => .error (.malformed (w.recovery source))

/-- Every route with its source file. -/
def locateAll (w : World) (folder : Path) (extensions : List Text) :
    List Route → Except Cause (List LocatedRoute)
  | [] => .ok []
  | r :: rs => do
    let source ← ofPath (w.locate folder r.specifier extensions)
    let found ← locateAll w folder extensions rs
    return ⟨r, source⟩ :: found

/-- The first route of the wanted path that has a source file. -/
def select (wanted : Text) (routes : List LocatedRoute) : Except Cause LocatedRoute :=
  let found := routes.filter fun r => r.route.path = wanted
  if found.isEmpty then .error (.routeMissing wanted)
  else match found.find? fun r => r.source.isSome with
    | some r => .ok r
    | none => .error (.sourceMissing wanted)

/-- The route that a job asks for, if it asks for one. -/
def selectFor (job : Job) (routes : List LocatedRoute) : Except Cause (Option LocatedRoute) :=
  match job.route with
  | none => .ok none
  | some wanted => (select wanted routes).map some

/-- What is said of a route tree without routes. -/
def emptyWarning (tree : Path) : Text :=
  Text.ofString "No routes found in " ++ tree.name ++ Text.ofString "."

/-- The failure of a stage. -/
def atStage {α : Type} (stage : Stage) (x : Except Cause α) : Except Failure α :=
  x.mapError (Failure.mk stage)

/-- Runs the job of a payload; `payloadSource` says where the payload came from. -/
def World.run (w : World) (payload : Json) (payloadSource : Text) : Except Failure Report := do
  let (job, workspace) ← atStage .parseJob (loadJob w payload)
  let tree ← atStage .discover (findTree w job workspace)
  let source ← atStage .read (readText w tree)
  let parsed ← atStage .parseRoutes (parseTree w source)
  let routes ← atStage .locate (locateAll w tree.parent job.extensions parsed.routes)
  let selected ← atStage .select (selectFor job routes)
  let shown ← atStage .emitResult (ofPath (Path.display w.cwd tree workspace))
  return {
    payloadSource := payloadSource
    routeTree := shown
    digest := Sha256.hexDigest (Utf8.encode source)
    routes := routes
    warnings := if routes.isEmpty then [emptyWarning tree] else []
    selected := selected }

end RouteAtlas
