import RouteAtlas.Job.Validate
import RouteAtlas.Json.Reader
import RouteAtlas.Script.Fault

/-!
# Failures

- `Stage`: the stages of a run;
- `Cause`: why a run fails, with the wording in `Cause.message`;
- `Cause.className`: the class of the exception that a cause is raised as;
- `Failure`: a cause and the stage where it arose.
-/

namespace RouteAtlas

/-- The stages of a run. -/
inductive Stage where
  | parseJob
  | discover
  | read
  | parseRoutes
  | locate
  | select
  | emitResult
  /-- Outside of all others. -/
  | unknown
deriving DecidableEq

namespace Stage

/-- The name of a stage. -/
def name : Stage → String
  | .parseJob => "parse_job"
  | .discover => "discover"
  | .read => "read"
  | .parseRoutes => "parse_routes"
  | .locate => "locate"
  | .select => "select"
  | .emitResult => "emit_result"
  | .unknown => "unknown"

/-- The code that is reported for a failure at a stage. -/
def code (s : Stage) : String :=
  "ROUTEMAP_FAILED_" ++ String.ofList (s.name.toList.map Char.toUpper)

end Stage

/-- The variable of the environment that holds a payload. -/
def jobVariable : Text := Text.ofString "ROUTEMAP_JOB_JSON"

/-- Why a run fails. -/
inductive Cause where
  | path (fault : PathFault)
  | invalidJob (violations : List Violation)
  | notFolder (path : Text)
  | routeTreeMissing (path : Text)
  | noRouteTree (filename : Text)
  | undecodable (fault : Utf8.Fault)
  | malformed (blemish : Script.Blemish)
  | routeMissing (route : Text)
  | sourceMissing (route : Text)
  | payload (error : Json.ReadError)
  | payloadNotObject
  | unprintable (u : Unencodable)
deriving DecidableEq

/-- The wording of a cause. -/
def Cause.message : Cause → Text
  | .path fault => fault.message
  | .invalidJob vs => Violation.report vs
  | .notFolder t => Text.ofString "Workspace is not a directory: " ++ t
  | .routeTreeMissing t => Text.ofString "Route tree file not found: " ++ t
  | .noRouteTree filename =>
    Text.ofString "No " ++ filename ++ Text.ofString " found in this workspace."
  | .undecodable fault => fault.message
  | .malformed blemish => blemish.fault.toText
  | .routeMissing route => Text.ofString "Route not found in route tree: " ++ route
  | .sourceMissing route => Text.ofString "Could not find source file for route: " ++ route
  | .payload e => e.message
  | .payloadNotObject => jobVariable ++ Text.ofString " must decode to a JSON object (dict)."
  | .unprintable u => u.message

/-- The class of the exception that a fault of a path is raised as. -/
def PathFault.className : PathFault → String
  | .nulByte => "ValueError"
  | .unencodable _ => "UnicodeEncodeError"
  | .tooLong _ => "OSError"
  | .noHome => "RuntimeError"

/-- The class of the exception that an error in a JSON text is raised as. -/
def Json.ReadError.className : Json.ReadError → String
  | .malformed .. => "JSONDecodeError"
  | .digits _ => "ValueError"
  | .depth _ => "RecursionError"

/-- The class of the exception that a cause is raised as. -/
def Cause.className : Cause → String
  | .path fault => fault.className
  | .invalidJob _ => "ValidationError"
  | .notFolder _ => "NotADirectoryError"
  | .routeTreeMissing _ | .noRouteTree _ | .sourceMissing _ => "FileNotFoundError"
  | .undecodable _ => "UnicodeDecodeError"
  | .malformed _ => "RouteTreeSyntaxError"
  | .routeMissing _ => "LookupError"
  | .payload error => error.className
  | .payloadNotObject => "TypeError"
  | .unprintable _ => "UnicodeEncodeError"

/-- A cause and the stage where it arose. -/
structure Failure where
  stage : Stage
  cause : Cause
deriving DecidableEq

end RouteAtlas
