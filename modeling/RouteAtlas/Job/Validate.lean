import RouteAtlas.Job.Basic
import RouteAtlas.Json.Value

/-!
# Jobs from JSON

Every field is checked, in the order in which a job declares them, and every violation is reported.
A field that is missing has its standard value; unknown fields are ignored. Of the report on a
violation, the echo of the value that was found and the address of further reading are left out.

- `Violation`: a place in a payload, and what was expected there;
- `Job.ofJson`: the job that a payload describes, or all its violations.
-/

namespace RouteAtlas

/-- One step to a place inside a payload. -/
inductive Step where
  | field (name : String)
  | item (index : Nat)
deriving DecidableEq

/-- What was expected at a place. -/
inductive Expected where
  | string
  | list
  /-- An object of the given name. -/
  | model (name : String)
  /-- A list with at least one extension in it. -/
  | extension
deriving DecidableEq

/-- A place in a payload, and what was expected there. -/
structure Violation where
  place : List Step
  expected : Expected
deriving DecidableEq

namespace Step

/-- The text of a step. -/
def toText : Step → Text
  | .field name => Text.ofString name
  | .item index => Text.ofNat index

end Step

namespace Expected

/-- The code of an expectation. -/
def code : Expected → String
  | .string => "string_type"
  | .list => "list_type"
  | .model _ => "model_type"
  | .extension => "value_error"

/-- The wording of an expectation. -/
def message : Expected → String
  | .string => "Input should be a valid string"
  | .list => "Input should be a valid list"
  | .model name => "Input should be a valid dictionary or instance of " ++ name
  | .extension => "Value error, source_exts must name at least one extension"

end Expected

namespace Violation

/-- The lines of a violation: its place, unless it is the payload itself, and what was expected. -/
def toText (v : Violation) : Text :=
  let place :=
    if v.place.isEmpty then []
    else Text.ofString "\n" ++ Text.join (Text.ofString ".") (v.place.map Step.toText)
  place ++ Text.ofString "\n  " ++ Text.ofString v.expected.message ++ Text.ofString " [type=" ++
    Text.ofString v.expected.code ++ Text.ofString "]"

/-- The text of all violations of a payload. -/
def report (vs : List Violation) : Text :=
  Text.ofNat vs.length ++
    Text.ofString (if vs.length = 1 then " validation error for Job"
      else " validation errors for Job") ++ vs.flatMap toText

end Violation

/-- A checked value, or the violations found in it. -/
abbrev Checked (α : Type) := Except (List Violation) α

namespace Checked

/-- Both values, or the violations of the first and then of the second. -/
def both {α β : Type} (a : Checked α) (b : Checked β) : Checked (α × β) :=
  match a, b with
  | .ok x, .ok y => .ok (x, y)
  | .ok _, .error ws => .error ws
  | .error vs, .ok _ => .error vs
  | .error vs, .error ws => .error (vs ++ ws)

/-- All values, or all violations in order. -/
def all {α : Type} : List (Checked α) → Checked (List α)
  | [] => .ok []
  | c :: cs => (both c (all cs)).map fun (x, xs) => x :: xs

end Checked

namespace Job

/-- A text at a place. -/
def checkString (place : List Step) : Json → Checked Text
  | .string t => .ok t
  | _ => .error [⟨place, .string⟩]

/-- A text or nothing at a place. -/
def checkStringOrNull (place : List Step) : Json → Checked (Option Text)
  | .null => .ok none
  | j => (checkString place j).map some

/-- A list of texts at a place. -/
def checkStrings (place : List Step) : Json → Checked (List Text)
  | .array vs =>
    Checked.all (vs.zipIdx.map fun (v, i) => checkString (place ++ [.item i]) v)
  | _ => .error [⟨place, .list⟩]

/-- The value of a field, if it is there, checked; else the standard one. -/
def checkField {α : Type} (place : List Step) (j : Json) (name : String)
    (check : List Step → Json → Checked α) (standard : α) : Checked α :=
  match j.field? (Text.ofString name) with
  | some v => check (place ++ [.field name]) v
  | none => .ok standard

/-- Filters at a place. -/
def checkFilters (place : List Step) (j : Json) : Checked Filters :=
  match j with
  | .object _ =>
    (Checked.both
      (checkField place j "route_tree_filename" checkString Filters.standard.filename)
      (checkField place j "deny_dirs" checkStrings Filters.standard.denied)).map
      fun (filename, denied) => ⟨filename, denied⟩
  | _ => .error [⟨place, .model "Filters"⟩]

/-- Extensions as they are tried: without blanks around them, none empty, each with a point in
front. -/
def dotted (extensions : List Text) : List Text :=
  (extensions.map Text.strip).filterMap fun e =>
    if e.isEmpty then none
    else if e.startsWith "." then some e
    else some (Text.ofString "." ++ e)

/-- A list of extensions at a place. -/
def checkExtensions (place : List Step) (j : Json) : Checked (List Text) :=
  match checkStrings place j with
  | .error vs => .error vs
  | .ok es =>
    match dotted es with
    | [] => .error [⟨place, .extension⟩]
    | found => .ok found

/-- The options for locating sources at a place: a list of extensions. -/
def checkResolve (place : List Step) (j : Json) : Checked (List Text) :=
  match j with
  | .object _ => checkField place j "source_exts" checkExtensions Job.standard.extensions
  | _ => .error [⟨place, .model "ResolveOptions"⟩]

/-- The job that a payload describes. -/
def ofJson (j : Json) : Checked Job :=
  match j with
  | .object _ =>
    (Checked.both (checkField [] j "workspace" checkString Job.standard.workspace)
      (Checked.both (checkField [] j "route_tree" checkStringOrNull none)
        (Checked.both (checkField [] j "route" checkStringOrNull none)
          (Checked.both (checkField [] j "filters" checkFilters .standard)
            (checkField [] j "resolve" checkResolve Job.standard.extensions))))).map
      fun (workspace, routeTree, route, filters, extensions) =>
        ⟨workspace, routeTree, route, filters, extensions⟩
  | _ => .error [⟨[], .model "Job"⟩]

end Job

end RouteAtlas
