import RouteAtlas.Command.Dotenv
import RouteAtlas.Command.Options
import RouteAtlas.Command.Payload
import RouteAtlas.Json.Printer
import RouteAtlas.Workflow.Trace

/-!
# The command

The command reads its options, loads a dotenv file if asked to, runs the job, and answers with one
line of JSON. What it says on the way goes to the error stream. Both streams take UTF-8; the output
refuses what has no such form, and the error stream escapes it.

- `Answer`: the exit code and the two streams;
- `World.command`: the answer of a command line, and the environment after it.
-/

namespace RouteAtlas

/-- The exit code and the two streams of a command. -/
structure Answer where
  exitCode : Nat
  stdout : Text
  stderr : Text
deriving DecidableEq

/-! ## Texts -/

/-- How the command is called. -/
def usage : String :=
  "usage: routemap [-h] [--workspace DIR] [--route-tree FILE] [--dotenv [PATH]]\n" ++
  "                [--dotenv-override] [-v] [--version]\n" ++
  "                [route]\n"

/-- What the command does and what its options mean. -/
def helpText : String :=
  usage ++ "\n" ++
  "List routes from a generated route tree and map them to their source files.\n" ++
  "\n" ++
  "positional arguments:\n" ++
  "  route              Optional route path to select, e.g. '/users/$userId'.\n" ++
  "\n" ++
  "options:\n" ++
  "  -h, --help         show this help message and exit\n" ++
  "  --workspace DIR    Workspace root to search (default: current directory).\n" ++
  "  --route-tree FILE  Use this route tree file instead of searching the\n" ++
  "                     workspace.\n" ++
  "  --dotenv [PATH]    Optional: load env vars from a local .env file (default:\n" ++
  "                     ./.env).\n" ++
  "  --dotenv-override  Optional: allow .env values to override already-set\n" ++
  "                     environment variables.\n" ++
  "  -v, --verbose      Log progress to stderr (-vv for debug detail).\n" ++
  "  --version          show program's version number and exit\n"

/-- The name and version of the command. -/
def versionText : String := "routemap 0.1.0\n"

/-- The answer where a command line ends early. -/
def Ending.answer : Ending → Answer
  | .help => ⟨0, Text.ofString helpText, []⟩
  | .version => ⟨0, Text.ofString versionText, []⟩
  | .refused message =>
    ⟨2, [], Text.ofString usage ++ Text.ofString "routemap: error: " ++ message ++
      Text.ofString "\n"⟩

/-! ## Printing -/

/-- The failure as it is printed. -/
def Failure.toJson (f : Failure) : Json :=
  .ofMembers [("ok", .bool false), ("stage", .string (Text.ofString f.stage.name)),
    ("error_code", .string (Text.ofString f.stage.code)),
    ("error_message", .string f.cause.message)]

/-- A value as a line; refused where a surrogate stands in it. -/
def printLine (j : Json) : Except Cause Text :=
  let line := j.print
  match line.unencodable? with
  | some u => .error (.unprintable u)
  | none => .ok (line ++ Text.ofString "\n")

/-- A text for the error stream, where surrogates are written by number. -/
def escapeSurrogates (t : Text) : Text :=
  t.flatMap fun p => if p.isSurrogate then Text.ofString "\\u" ++ Text.hex 4 p.val else [p]

/-- The lines of a log that are shown: progress from one `-v` on, detail from two on. -/
def shown (verbosity : Nat) (ls : List LogLine) : Text :=
  (ls.filter fun l => match l.level with
    | .info => 1 ≤ verbosity
    | .debug => 2 ≤ verbosity).flatMap fun l => escapeSurrogates l.toText ++ Text.ofString "\n"

/-! ## Running -/

/-- The stage at which a payload is refused: a number that is too long, and a value that lies too
deep, count as nowhere. -/
def payloadStage : Cause → Stage
  | .payload (.digits _) | .payload (.depth _) => .unknown
  | _ => .parseJob

/-- The line of a failure; a failure that cannot be printed escapes. -/
def failureLine (f : Failure) : Except Cause (Nat × Text) := (printLine f.toJson).map fun t => (1, t)

/-- The exit code and the line of a run. A report that cannot be printed is a failure. -/
def outcomeLine (outcome : Except Failure Report) : Except Cause (Nat × Text) :=
  match outcome with
  | .error f => failureLine f
  | .ok report =>
    match printLine report.toJson with
    | .ok line => .ok (0, line)
    | .error e => failureLine ⟨.unknown, e⟩

/-- Runs the job of the environment with the options put in. -/
def World.answer (w : World) (o : Options) (hint : Option Text) : Except Cause Answer :=
  match readPayload w.env hint with
  | .error e => (failureLine ⟨payloadStage e, e⟩).map fun (code, line) => ⟨code, line, []⟩
  | .ok (ms, source) =>
    let payload := Json.object (o.apply ms)
    (outcomeLine (w.run payload source)).map fun (code, line) =>
      ⟨code, line, shown o.verbosity (w.trace payload)⟩

/-- Loads the dotenv file that the options ask for: the world after it, and a hint at where the
payload came from. -/
def World.prepare (w : World) (o : Options) : World × Except Cause (Option Text) :=
  match o.dotenv with
  | none => (w, .ok none)
  | some [] => (w, .ok none)
  | some path =>
    let (env, loaded) := Dotenv.load w path o.dotenvOverride
    ({ w with env := env }, loaded.map fun found =>
      if found && !holdsPayload w.env && holdsPayload env then some (dotenvSource path) else none)

/-- The answer of a command line, and the world after it. A cause that escapes is no answer. -/
def World.command (w : World) (arguments : List Text) : World × Except Cause Answer :=
  match Options.parse arguments with
  | .error ending => (w, .ok ending.answer)
  | .ok o =>
    match w.prepare o with
    | (w, .error e) => (w, .error e)
    | (w, .ok hint) => (w, w.answer o hint)

end RouteAtlas
