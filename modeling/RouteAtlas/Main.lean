import RouteAtlas.Command.Run
import RouteAtlas.Files.Snapshot

/-!
# The program

The program takes the arguments of the command, reads a snapshot of the world from its standard
input, and answers on its two output streams and with its exit code.
-/

open RouteAtlas

/-- What the program writes and the code it ends with. A cause that escapes is told on the error
stream. -/
def respond (arguments : List String) (input : String) : Answer :=
  match Json.parse (Text.ofString input) with
  | .error e => ⟨1, [], e.message ++ Text.ofString "\n"⟩
  | .ok snapshot =>
    match ((Snapshot.toWorld snapshot).command (arguments.map Text.ofString)).2 with
    | .ok answer => answer
    | .error cause => ⟨1, [], escapeSurrogates cause.message ++ Text.ofString "\n"⟩

/-- Reads the snapshot, then prints the answer. -/
def main (arguments : List String) : IO UInt32 := do
  let input ← (← IO.getStdin).readToEnd
  let answer := respond arguments input
  (← IO.getStdout).putStr (String.ofList answer.stdout.toChars)
  (← IO.getStderr).putStr (String.ofList answer.stderr.toChars)
  return answer.exitCode.toUInt32
