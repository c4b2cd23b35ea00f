import RouteAtlas.Workflow.Run

/-!
# What a run says on its way

- `LogLine`: a level, the part of the program that speaks, and a message;
- `World.trace`: the lines of a run, in order, up to where it fails.
-/

namespace RouteAtlas

/-- How important a line is. -/
inductive Level where
  | debug
  | info
deriving DecidableEq

/-- A line of a log. -/
structure LogLine where
  level : Level
  speaker : String
  message : Text
deriving DecidableEq

namespace LogLine

/-- A line of detail. -/
def debug (speaker : String) (message : List Text) : LogLine := ⟨.debug, speaker, message.flatten⟩

/-- A line of progress. -/
def info (speaker : String) (message : List Text) : LogLine := ⟨.info, speaker, message.flatten⟩

/-- The text of a line. -/
def toText (l : LogLine) : Text :=
  Text.ofString (match l.level with
    | .debug => "DEBUG "
    | .info => "INFO ") ++ Text.ofString l.speaker ++ Text.ofString ": " ++ l.message

end LogLine

/-- The lines about the bindings of a route tree and what could not be resolved. -/
def RouteTree.trace (t : RouteTree) (source : List Char) : List LogLine :=
  let b := t.bindings
  [.debug "routemap.syntax" [Text.ofString "parsed ", Text.ofNat source.length,
      Text.ofString " bytes into ", Text.ofNat t.items.length, Text.ofString " top-level nodes"],
    .debug "routemap.facts" [Text.ofString "facts: imports=", Text.ofNat b.imports.length,
      Text.ofString " updates=", Text.ofNat b.updates.length,
      Text.ofString " children=", Text.ofNat b.children.length,
      Text.ofString " path_entries=", Text.ofNat b.entries.length]] ++
    b.unresolved.map (fun e =>
      .debug "routemap.parser" [Text.ofString "unresolved: ", e.path, Text.ofString " -> ",
        Text.ofString e.name, Text.ofString " (line ", Text.ofNat e.line, Text.ofString ")"]) ++
    [.info "routemap.graph" [Text.ofString "parsed ", Text.ofNat t.routes.length,
      Text.ofString " routes"]]

/-- The lines about routes without a source file. -/
def locateTrace (w : World) (folder : Path) (extensions : List Text) : List Route → List LogLine
  | [] => []
  | r :: rs =>
    match w.locate folder r.specifier extensions with
    | .error _ => []
    | .ok (some _) => locateTrace w folder extensions rs
    | .ok none =>
      .debug "routemap.graph" [Text.ofString "no source file for ", r.path, Text.ofString " (",
        r.specifier, Text.ofString ")"] :: locateTrace w folder extensions rs

/-- The lines about how a route tree was found. -/
def findTrace (w : World) (job : Job) (tree : Path) : List LogLine :=
  let found : List LogLine :=
    match namedTree? w job with
    | .ok none =>
      [.debug "routemap.discovery" [Text.ofString "route tree found at ", tree.toText]]
    | _ => []
  found ++ [.info "routemap.graph" [Text.ofString "using route tree ", tree.toText]]

/-- The lines of a run. -/
def World.trace (w : World) (payload : Json) : List LogLine :=
  match loadJob w payload with
  | .error _ => []
  | .ok (job, workspace) =>
    match findTree w job workspace with
    | .error _ => []
    | .ok tree =>
      findTrace w job tree ++
        match readText w tree with
        | .error _ => []
        | .ok source =>
          match parseTree w source with
          | .error _ => []
          | .ok parsed =>
            parsed.trace source ++ locateTrace w tree.parent job.extensions parsed.routes

end RouteAtlas
