import RouteAtlas.Text.Utf8

/-!
# Paths

A path is a root and a list of parts. Empty parts and single points are dropped when a text is
read; double points stay, because what they mean depends on where they stand.

- `Path.ofText`, `Path.toText`: a path from its text and back;
- `Path.join`: a path below another one, unless it has a root of its own;
- `Path.normalize`: the path with its double points worked out.
-/

namespace RouteAtlas

/-- What a path starts from. Exactly two slashes are a root of their own. -/
inductive Root where
  | relative
  | single
  | double
deriving DecidableEq

/-- A path. -/
structure Path where
  root : Root
  parts : List Text
deriving DecidableEq

/-- The part that names the directory above. -/
def upward : Text := Text.ofString ".."

namespace Root

/-- The slashes of a root. -/
def toText : Root → Text
  | .relative => []
  | .single => Text.ofString "/"
  | .double => Text.ofString "//"

/-- The root of a text, by its leading slashes. -/
def ofText (t : Text) : Root :=
  match (t.takeWhile (·.is '/')).length with
  | 0 => .relative
  | 2 => .double
  | _ => .single

end Root

namespace Path

/-- A part that says nothing. -/
def isIdle (part : Text) : Bool := part.isEmpty || part == Text.ofString "."

/-- The path of a text. -/
def ofText (t : Text) : Path :=
  ⟨Root.ofText t, (Text.splitOn '/' t).filter fun part => !isIdle part⟩

/-- The text of a path; a point where it would be empty. -/
def toText (p : Path) : Text :=
  let t := p.root.toText ++ Text.join (Text.ofString "/") p.parts
  if t.isEmpty then Text.ofString "." else t

/-- The path has a root. -/
def isAbsolute (p : Path) : Bool := p.root ≠ .relative

/-- The path `q` below `p`; `q` itself if it has a root. -/
def join (p q : Path) : Path := if q.isAbsolute then q else { p with parts := p.parts ++ q.parts }

/-- The path without its last part. -/
def parent (p : Path) : Path := { p with parts := p.parts.dropLast }

/-- The last part of a path; empty where it has none. -/
def name (p : Path) : Text := p.parts.getLast?.getD []

/-- One part more on a list of parts in reverse: a double point takes the last part off, does
nothing at a root, and stays at the start of a path without one. -/
def climb (rooted : Bool) (stack : List Text) (part : Text) : List Text :=
  if part = upward then
    match stack with
    | [] => if rooted then [] else [upward]
    | last :: rest => if last = upward then upward :: stack else rest
  else part :: stack

/-- The parts that are left when double points are worked out. -/
def normalParts (rooted : Bool) (parts : List Text) : List Text :=
  (parts.foldl (climb rooted) []).reverse

/-- The path with its double points worked out. -/
def normalize (p : Path) : Path := { p with parts := normalParts p.isAbsolute p.parts }

/-- The absolute path with the given parts. -/
def absolute (parts : List Text) : Path := ⟨.single, parts⟩

end Path

end RouteAtlas
