import RouteAtlas.Workflow.Cause

/-!
# Payloads from the environment

- `isSet`: the variable of the payload holds more than blanks;
- `readPayload`: the payload of an environment and where it came from.
-/

namespace RouteAtlas

/-- The text of the payload in an environment; empty where there is none. -/
def payloadText (env : Table Text Text) : Text := (env.get? jobVariable).getD []

/-- The environment holds a payload. -/
def holdsPayload (env : Table Text Text) : Bool := !(payloadText env).strip.isEmpty

/-- What is said of a payload that no variable holds. -/
def noPayloadSource : Text := Text.ofString "cli"

/-- What is said of a payload from the environment. -/
def envSource : Text := Text.ofString "env:" ++ jobVariable

/-- What is said of a payload from the dotenv file at a path. -/
def dotenvSource (path : Text) : Text :=
  Text.ofString "dotenv:" ++ path ++ Text.ofString "#" ++ jobVariable

/-- The payload of an environment, an object, and where it came from: `hint`, if there is one. -/
def readPayload (env : Table Text Text) (hint : Option Text) :
    Except Cause (List (Text × Json) × Text) :=
  if !holdsPayload env then .ok ([], noPayloadSource)
  else match Json.parse (payloadText env) with
    | .error e => .error (.payload e)
    | .ok (.object ms) =>
      .ok (ms, match hint with
        | some (p :: t) => p :: t
        | _ => envSource)
    | .ok _ => .error .payloadNotObject

end RouteAtlas
