import RouteAtlas.Workflow.Run

/-!
# Dotenv files

A dotenv file assigns variables, one on a line: a name, an equals sign, and a value that may stand
between quotes. Lines may start with `export`; a number sign starts a comment.

- `Dotenv.parseLine`: the assignment on a line;
- `Dotenv.assign`: an assignment made in an environment;
- `Dotenv.load`: all assignments of a file.
-/

namespace RouteAtlas

namespace Dotenv

/-- The text up to the closing quote; between double quotes a backslash keeps the character after
it. A missing quote ends with the text. -/
def unquote (quote : Char) : (escaped : Bool) → Text → Text
  | _, [] => []
  | true, p :: t => p :: unquote quote false t
  | false, p :: t =>
    if quote = '\x22' && p.is '\\' then unquote quote true t
    else if p.is quote then []
    else p :: unquote quote false t

/-- The text before the first number sign. -/
def dropComment (t : Text) : Text := t.takeWhile fun p => !p.is '#'

/-- The value that stands after the equals sign. -/
def value (t : Text) : Text :=
  match t with
  | [] => []
  | p :: r =>
    if p.is '\x27' then unquote '\x27' false r
    else if p.is '\x22' then unquote '\x22' false r
    else (dropComment t).strip

/-- The word that may stand before a name. -/
def exportWord : String := "export "

/-- The line without the word `export` in front. -/
def dropExport (t : Text) : Text :=
  if t.startsWith exportWord then Text.stripLeft (t.drop exportWord.length) else t

/-- The name and the value that a line assigns; none on a blank line, a comment, or a line without
an equals sign or a name. -/
def parseLine (line : Text) : Option (Text × Text) :=
  let s := line.strip
  if s.isEmpty || s.startsWith "#" then none
  else match (dropExport s).cut? '=' with
    | none => none
    | some (name, rest) =>
      if name.strip.isEmpty then none else some (name.strip, value rest.strip)

/-- Assigns a variable. One that is set already keeps its value unless `override`; a NUL is
refused. -/
def assign (override : Bool) (env : Table Text Text) (name value : Text) :
    Except Cause (Table Text Text) :=
  if !override && env.contains name then .ok env
  else if (name ++ value).any (·.is '\x00') then .error (.path .nulByte)
  else .ok (env.insert name value)

/-- Makes the assignments of lines, up to the first that is refused. -/
def assignLines (override : Bool) (env : Table Text Text) :
    List Text → Table Text Text × Except Cause Unit
  | [] => (env, .ok ())
  | line :: lines =>
    match parseLine line with
    | none => assignLines override env lines
    | some (name, value) =>
      match assign override env name value with
      | .error e => (env, .error e)
      | .ok env => assignLines override env lines

/-- Loads the file at a path into the environment: the new environment, and whether there was a
file. What was assigned before a failure stays. -/
def load (w : World) (path : Text) (override : Bool) : Table Text Text × Except Cause Bool :=
  let p := Path.ofText path
  match w.find? p with
  | .error e => (w.env, .error (.path e))
  | .ok (some (.file _)) =>
    match readText w p with
    | .error e => (w.env, .error e)
    | .ok cs =>
      let (env, done) := assignLines override w.env (Text.ofChars cs).lines
      (env, done.map fun _ => true)
  | .ok _ => (w.env, .ok false)

end Dotenv

end RouteAtlas
