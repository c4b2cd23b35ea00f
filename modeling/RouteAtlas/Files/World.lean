import RouteAtlas.Files.Tree
import RouteAtlas.Path.Display
import RouteAtlas.Script.Fault

/-!
# The surroundings of a run

- `World`: the files and whatever else a run depends on;
- `World.find?`: what a path leads to, following it name by name;
- `World.isFile`, `World.isFolder`: what kind of thing lies there;
- `World.expandHome`: a path with the home directory put in.

Everything in a world may be read: there are no permissions, and no symbolic links.
-/

namespace RouteAtlas

/-- What a run depends on, besides its payload. -/
structure World where
  /-- The tree below the root. -/
  files : FileTree
  /-- The parts of the working directory. -/
  cwd : List Text
  env : Table Text Text
  /-- The home directories of those who are known by name. -/
  users : Table Text Text := []
  /-- The home directory on record for whoever runs, if there is one. -/
  account : Option Text := none
  /-- What the reader of scripts points at in a malformed one. How it recovers from an error, and so
  finds the place, is not told here. -/
  recovery : List Char → Script.Blemish := fun _ => ⟨false, [], 1, 1⟩

namespace World

/-! ## Looking up -/

/-- The most bytes that one name may take. -/
def maxName : Nat := 255

/-- The number of bytes from which on a path is too long. -/
def pathLimit : Nat := 4096

/-- How a walk through the files ends. -/
inductive Walk where
  | found (t : FileTree)
  | missing
  | tooLong

/-- Walks from the folder with the parts `here`, one name at a time. A double point goes up from a
folder that is there; a name that is too long is noticed where its folder is reached. -/
def walk (files : FileTree) : (here parts : List Text) → Walk
  | here, [] =>
    match files.at? here with
    | some t => .found t
    | none => .missing
  | here, part :: parts =>
    match files.at? here with
    | some (.folder es) =>
      if part = upward then walk files here.dropLast parts
      else if maxName < part.byteCount then .tooLong
      else if Table.contains es part then walk files (here ++ [part]) parts
      else .missing
    | _ => .missing

/-- What a path leads to. A text that no file can have as its name leads nowhere. -/
def find? (w : World) (p : Path) : Except PathFault (Option FileTree) :=
  let t := p.toText
  match t.checkName with
  | .error _ => .ok none
  | .ok () =>
    if pathLimit ≤ t.byteCount then .error (.tooLong t)
    else match walk w.files (if p.isAbsolute then [] else w.cwd) p.parts with
      | .found t => .ok (some t)
      | .missing => .ok none
      | .tooLong => .error (.tooLong t)

/-- A file lies there. -/
def isFile (w : World) (p : Path) : Except PathFault Bool :=
  (w.find? p).map fun found => found.any FileTree.isFile

/-- A folder lies there. -/
def isFolder (w : World) (p : Path) : Except PathFault Bool :=
  (w.find? p).map fun found => found.any FileTree.isFolder

/-! ## Resolving -/

/-- The absolute path that a path stands for. -/
def resolve (w : World) (p : Path) : Except PathFault Path := p.resolve w.cwd

/-- The home directory of somebody, without slashes at its end. Without a name it is that of whoever
runs: the environment names it, or else it is on record. -/
def home? (w : World) (name : Text) : Option Text :=
  let found := if name.isEmpty then (Table.get? w.env (Text.ofString "HOME")).or w.account
    else Table.get? w.users name
  found.map fun t =>
    let t := (t.reverse.dropWhile (·.is '/')).reverse
    if t.isEmpty then Text.ofString "/" else t

/-- The path with a home directory in place of a leading tilde and the name behind it. -/
def expandHome (w : World) (p : Path) : Except PathFault Path :=
  match p.isAbsolute, p.parts with
  | false, (c :: name) :: rest =>
    if !c.is '~' then .ok p
    else match Text.checkName name, w.home? name with
      | .error e, _ => .error e
      | .ok (), none => .error .noHome
      | .ok (), some home =>
        if home.startsWith "~" then .error .noHome
        else .ok ((Path.ofText home).join ⟨.relative, rest⟩)
  | _, _ => .ok p

end World

end RouteAtlas
