import RouteAtlas.Path.Resolve
import RouteAtlas.Text.Blank

/-!
# Paths for display

- `Text.tidyPath`: one kind of slash, none doubled, none in front;
- `Path.relativeTo?`: the parts of a path below another;
- `Path.display`: the path below a base where it lies there, else the whole path.
-/

namespace RouteAtlas

namespace Text

/-- Every run of backslashes becomes one slash; `after` says that the last character was one. -/
def slashRuns : (after : Bool) → Text → Text
  | _, [] => []
  | after, p :: t =>
    if p.is '\\' then (if after then slashRuns true t else CodePoint.ofChar '/' :: slashRuns true t)
    else p :: slashRuns false t

/-- Drops `./` from the front as often as it is there. -/
def dropHere : Text → Text
  | p :: q :: t => if p.is '.' && q.is '/' then dropHere t else p :: q :: t
  | t => t

/-- Every run of slashes becomes one; `after` says that the last character was one. -/
def collapseSlashes : (after : Bool) → Text → Text
  | _, [] => []
  | after, p :: t =>
    if p.is '/' then (if after then collapseSlashes true t else p :: collapseSlashes true t)
    else p :: collapseSlashes false t

/-- A path text for display: without blanks around it, with slashes only, without `./` or slashes in
front, and without double slashes. -/
def tidyPath (t : Text) : Text :=
  collapseSlashes false ((dropHere (slashRuns false t.strip)).dropWhile (·.is '/'))

end Text

namespace Path

/-- The parts of a path below `base`. -/
def relativeTo? (base p : Path) : Option (List Text) :=
  if p.root = base.root ∧ base.parts <+: p.parts then some (p.parts.drop base.parts.length)
  else none

/-- The path of `p` for display: relative to `base` where it lies below it, else absolute. A base
that cannot be used has nothing below it. -/
def display (cwd : List Text) (p base : Path) : Except PathFault Text :=
  match p.resolve cwd with
  | .error e => .error e
  | .ok full =>
    match base.resolve cwd with
    | .error _ => .ok full.toText
    | .ok folder =>
      match relativeTo? folder full with
      | some parts => .ok (Path.toText ⟨.relative, parts⟩).tidyPath
      | none => .ok full.toText

end Path

end RouteAtlas
