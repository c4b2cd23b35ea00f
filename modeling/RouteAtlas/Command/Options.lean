import RouteAtlas.Json.Value
import RouteAtlas.Text.Digit
import RouteAtlas.Text.Quoted

/-!
# Command line options

- `Flag`, `Options`: the flags, and what a command line says;
- `Word`: a word of a command line, as it is taken;
- `Options.parse`: the options of a command line, or why there are none;
- `Options.apply`: a payload with the options put in.
-/

namespace RouteAtlas

/-- The flags. -/
inductive Flag where
  | help
  | workspace
  | routeTree
  | dotenv
  | dotenvOverride
  | verbose
  | version
deriving DecidableEq

/-- How many values a flag takes. -/
inductive Arity where
  | none
  | one
  | atMostOne
deriving DecidableEq

namespace Flag

/-- How a flag is spelled. -/
def spellings : Flag → List String
  | .help => ["-h", "--help"]
  | .workspace => ["--workspace"]
  | .routeTree => ["--route-tree"]
  | .dotenv => ["--dotenv"]
  | .dotenvOverride => ["--dotenv-override"]
  | .verbose => ["-v", "--verbose"]
  | .version => ["--version"]

/-- How many values a flag takes. -/
def arity : Flag → Arity
  | .workspace | .routeTree => .one
  | .dotenv => .atMostOne
  | .help | .dotenvOverride | .verbose | .version => .none

/-- All flags, in the order in which they are listed. -/
def all : List Flag := [.help, .workspace, .routeTree, .dotenv, .dotenvOverride, .verbose, .version]

/-- All spellings with their flags. -/
def spelled : List (Text × Flag) :=
  all.flatMap fun f => f.spellings.map fun s => (Text.ofString s, f)

/-- The flag of a spelling. -/
def ofSpelling? (t : Text) : Option Flag := Table.get? spelled t

/-- A complaint about a flag. -/
def complaint (f : Flag) (message : Text) : Text :=
  Text.ofString "argument " ++ Text.ofString ("/".intercalate f.spellings) ++ Text.ofString ": " ++
    message

end Flag

/-- The value that an option was given. -/
inductive Given where
  | text (t : Text)
  /-- Nothing is left of a value that is two dashes. -/
  | emptied
deriving DecidableEq

/-- What a command line says. -/
structure Options where
  route : Option Text := none
  workspace : Option Given := none
  routeTree : Option Given := none
  dotenv : Option Text := none
  dotenvOverride : Bool := false
  verbosity : Nat := 0
deriving DecidableEq

/-- A flag as it was written: its spelling, and the value joined to it. -/
structure Use where
  flag : Flag
  spelling : Text
  joined : Option Text
deriving DecidableEq

/-- A word of a command line, as it is taken. -/
inductive Word where
  | value (t : Text)
  /-- Two dashes: no flags after them. -/
  | dashes
  | flag (u : Use)
  /-- A word that looks like a flag and is none. -/
  | stranger (t : Text)
deriving DecidableEq

/-! ## Words -/

/-- Two dashes. -/
def twoDashes : Text := Text.ofString "--"

/-- A number with a minus sign: digits, with or without a point before the last of them. A line
feed at the end does not count. -/
def isNegativeNumber (t : Text) : Bool :=
  match t with
  | p :: r =>
    let r := if r.getLast?.any (·.is '\n') then r.dropLast else r
    let whole := r.takeWhile CodePoint.isDecimalDigit
    p.is '-' && match r.dropWhile CodePoint.isDecimalDigit with
      | [] => !whole.isEmpty
      | q :: s => q.is '.' && !s.isEmpty && s.all CodePoint.isDecimalDigit
  | [] => false

/-- The flag that a word spells in full, with a value after an equals sign if there is one. -/
def exactUse? (t : Text) : Option Use :=
  match Flag.ofSpelling? t with
  | some f => some ⟨f, t, none⟩
  | none =>
    match t.cut? '=' with
    | some (s, v) => (Flag.ofSpelling? s).map fun f => ⟨f, s, some v⟩
    | none => none

/-- The flags that a word may abbreviate. After one dash, one letter is the flag and the rest its
value. -/
def abbreviated (t : Text) : List Use :=
  if t.startsWith "--" then
    let (s, v) := match t.cut? '=' with
      | some (s, v) => (s, some v)
      | none => (t, none)
    (Flag.spelled.filter fun (full, _) => s.isPrefixOf full).map fun (full, f) => ⟨f, full, v⟩
  else
    Flag.spelled.filterMap fun (full, f) =>
      if full = t.take 2 then some ⟨f, full, some (t.drop 2)⟩
      else if t.isPrefixOf full then some ⟨f, full, none⟩
      else none

/-- A word that is no flag: a value if it looks like a number or holds a space. -/
def otherWord (t : Text) : Word :=
  if isNegativeNumber t || t.any (·.is ' ') then .value t else .stranger t

/-- Takes a word; refused if it abbreviates several flags. -/
def Word.ofText (t : Text) : Except Text Word :=
  match t with
  | [] => .ok (.value t)
  | p :: r =>
    if !p.is '-' then .ok (.value t)
    else match exactUse? t with
      | some u => .ok (.flag u)
      | none =>
        if r.isEmpty then .ok (.value t)
        else match abbreviated t with
          | [] => .ok (otherWord t)
          | [u] => .ok (.flag u)
          | us => .error (Text.ofString "ambiguous option: " ++ t ++
              Text.ofString " could match " ++
              Text.join (Text.ofString ", ") (us.map (·.spelling)))

/-- Takes the words of a command line. After two dashes every word is a value. -/
def Word.ofTexts : List Text → Except Text (List Word)
  | [] => .ok []
  | t :: ts =>
    if t = twoDashes then .ok (.dashes :: ts.map .value)
    else do
      let w ← Word.ofText t
      let ws ← Word.ofTexts ts
      return w :: ws

/-! ## Flags -/

/-- How reading a command line ends early. -/
inductive Ending where
  | help
  | version
  | refused (message : Text)
deriving DecidableEq

/-- The value given by a text; two dashes are taken away. -/
def Given.ofText (t : Text) : Given := if t = twoDashes then .emptied else .text t

/-- The value of an option in a payload. -/
def Given.toJson : Given → Json
  | .text t => .string t
  | .emptied => .array []

/-- The dotenv file that is meant where none is named. -/
def defaultDotenv : Text := Text.ofString ".env"

/-- The options with one more flag taken, with its value if it has one. -/
def Options.take (o : Options) (f : Flag) (value : Option Text) : Except Ending Options :=
  match f with
  | .help => .error .help
  | .version => .error .version
  | .workspace => .ok { o with workspace := value.map Given.ofText }
  | .routeTree => .ok { o with routeTree := value.map Given.ofText }
  | .dotenv =>
    .ok { o with dotenv := some (match value with
      | some t => if t = twoDashes then defaultDotenv else t
      | none => defaultDotenv) }
  | .dotenvOverride => .ok { o with dotenvOverride := true }
  | .verbose => .ok { o with verbosity := o.verbosity + 1 }

/-- The complaint about a value that a flag does not take. -/
def ignored (f : Flag) (t : Text) : Ending :=
  .refused (f.complaint (Text.ofString "ignored explicit argument " ++ t.quoted))

/-- The flags that are written in one word after the flag `f`, whose spelling has one dash if
`short`: every letter of `rest` is a flag. -/
def cluster (short : Bool) (f : Flag) : (rest : Text) → Except Ending (List (Flag × Option Text))
  | [] => .error (ignored f [])
  | p :: rest =>
    if f.arity ≠ .none then .ok [(f, some (p :: rest))]
    else if !short then .error (ignored f (p :: rest))
    else match Flag.ofSpelling? [CodePoint.ofChar '-', p] with
      | none => .error (ignored f (p :: rest))
      | some g =>
        if rest.isEmpty then .ok [(f, none), (g, none)]
        else (cluster short g rest).map fun fs => (f, none) :: fs

/-- The flags of a word with a value joined to it. -/
def Use.flags (u : Use) (joined : Text) : Except Ending (List (Flag × Option Text)) :=
  if joined.isEmpty && u.flag.arity ≠ .none then .ok [(u.flag, some [])]
  else cluster (!u.spelling.startsWith "--") u.flag joined

/-- The options with several flags taken. -/
def Options.takeAll (o : Options) : List (Flag × Option Text) → Except Ending Options
  | [] => .ok o
  | (f, v) :: fs => do (← o.take f v).takeAll fs

/-! ## Command lines -/

/-- A command line that is partly read. -/
structure Progress where
  options : Options := {}
  /-- The route may still be given. -/
  open_ : Bool := true
  /-- Words that nothing takes. -/
  extras : List Text := []

/-- The end of a command line: words that nothing took are refused. -/
def Progress.finish (p : Progress) : Except Ending Options :=
  if p.extras.isEmpty then .ok p.options
  else .error (.refused (Text.ofString "unrecognized arguments: " ++
    Text.join (Text.ofString " ") p.extras))

/-- A word that nothing takes. -/
def Progress.leave (p : Progress) (t : Text) : Progress := { p with extras := p.extras ++ [t] }

/-- The route is given, or is known to be missing. -/
def Progress.close (p : Progress) (route : Option Text) : Progress :=
  { p with options := { p.options with route := route }, open_ := false }

/-- The same place with other options. -/
def Progress.update (p : Progress) (o : Options) : Progress := { p with options := o }

/-- Reads the words of a command line. A value is the route, if there is none yet; two dashes next
to it belong to it. -/
def Progress.read (p : Progress) : List Word → Except Ending Options
  | [] => p.finish
  | .stranger t :: ws => (p.leave t).read ws
  | .value t :: ws =>
    if !p.open_ then (p.leave t).read ws
    else match ws with
      | .dashes :: ws => (p.close (some t)).read ws
      | ws => (p.close (some t)).read ws
  | .dashes :: ws =>
    if !p.open_ then (p.leave twoDashes).read ws
    else match ws with
      | .value t :: ws => (p.close (some t)).read ws
      | ws => (p.close none).read ws
  | .flag u :: ws =>
    match u.joined with
    | some joined => do
      let o ← p.options.takeAll (← u.flags joined)
      (p.update o).read ws
    | none =>
      match u.flag.arity, ws with
      | .none, ws => do
        let o ← p.options.take u.flag none
        (p.update o).read ws
      | _, .value t :: ws => do
        let o ← p.options.take u.flag (some t)
        (p.update o).read ws
      | .one, _ => .error (.refused (u.flag.complaint (Text.ofString "expected one argument")))
      | .atMostOne, ws => do
        let o ← p.options.take u.flag none
        (p.update o).read ws

namespace Options

/-- The options of a command line. -/
def parse (arguments : List Text) : Except Ending Options :=
  match Word.ofTexts arguments with
  | .error message => .error (.refused message)
  | .ok ws => Progress.read {} ws

/-- The payload with the options put in, where they were given. -/
def apply (o : Options) (payload : List (Text × Json)) : List (Text × Json) :=
  let put (ms : List (Text × Json)) (name : String) (value : Option Json) : List (Text × Json) :=
    match value with
    | some v => Table.insert ms (Text.ofString name) v
    | none => ms
  let ms := put payload "workspace" (o.workspace.map Given.toJson)
  let ms := put ms "route_tree" (o.routeTree.map Given.toJson)
  put ms "route" (o.route.map Json.string)

end Options

end RouteAtlas
