import RouteAtlas.Files.World

/-!
# From a module to its source file

- `candidates`: the paths that a module may be found at, one for each extension;
- `World.locate`: the first of them where a file lies.

Every folder on the way can be entered: there are no permissions. A device is no source file.
-/

namespace RouteAtlas

/-- The extensions of source files, in the order in which they are tried. -/
def sourceExtensions : List Text :=
  [Text.ofString ".tsx", Text.ofString ".ts", Text.ofString ".jsx", Text.ofString ".js"]

/-- The path of a module below a folder, with the given extension. -/
def candidate (folder : Path) (specifier extension : Text) : Path :=
  (folder.join (Path.ofText (specifier ++ extension))).normalize

/-- The paths that a module may be found at. -/
def candidates (folder : Path) (specifier : Text) (extensions : List Text) : List Path :=
  extensions.map (candidate folder specifier)

namespace World

/-- The first of the paths where a file lies, resolved. -/
def firstFile (w : World) : List Path → Except PathFault (Option Path)
  | [] => .ok none
  | p :: ps =>
    match w.isFile p with
    | .error e => .error e
    | .ok true => (w.resolve p).map some
    | .ok false => w.firstFile ps

/-- The source file of a module; a blank specifier has none. -/
def locate (w : World) (folder : Path) (specifier : Text) (extensions : List Text) :
    Except PathFault (Option Path) :=
  let s := specifier.strip
  if s.isEmpty then .ok none else w.firstFile (candidates folder s extensions)

end World

end RouteAtlas
