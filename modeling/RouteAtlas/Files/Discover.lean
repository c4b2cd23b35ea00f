import RouteAtlas.Files.World

/-!
# Finding a file in a tree

- `FileTree.discover`: the chain of folders that leads to the first file of a name, where folders
  are visited in order of their names, each before what is below it, and some not at all;
- `World.discover`: the same from a folder of a world, as an absolute path.

A walk goes from folder to folder by paths that it puts together from names. A folder whose path has
become too long cannot be listed, and is passed over. Every other folder can be listed: there are no
permissions. What is found need not be a file, as long as it is no folder.
-/

namespace RouteAtlas

/-- The path of an entry, as a walk writes it behind the path of its folder. -/
def Text.below (folder name : Text) : Text :=
  if folder.getLast?.any (·.is '/') then folder ++ name
  else folder ++ Text.ofString "/" ++ name

namespace FileTree

/-- Something that is no folder, a file or not, stands in the entries under the given name. -/
def holdsFile (filename : Text) (es : Table Text FileTree) : Bool :=
  (Table.get? es filename).any fun t => !t.isFolder

/-- The chain with the least name in front. -/
def leastChain : List (Text × List Text) → Option (List Text)
  | [] => none
  | (n, ns) :: cs =>
    match leastChain cs with
    | none => some (n :: ns)
    | some [] => some (n :: ns)
    | some (m :: ms) => if n.le m then some (n :: ns) else some (m :: ms)

/-- A walk in the folder at the path `here` goes into the folder called `n`: it is not denied, and
its path is not too long. -/
def visits (denied : List Text) (here n : Text) : Bool :=
  n ∉ denied && (here.below n).byteCount < World.pathLimit

mutual

/-- The folders on the way from the one at the path `here` to the first file called `filename`, none
of them in `denied`. -/
def discover (filename : Text) (denied : List Text) (here : Text) :
    FileTree → Option (List Text)
  | .file _ | .device _ => none
  | .folder es =>
    if holdsFile filename es then some [] else leastChain (discoverBelow filename denied here es)

/-- The same for every entry that may be visited, with its name. -/
def discoverBelow (filename : Text) (denied : List Text) (here : Text) :
    List (Text × FileTree) → List (Text × List Text)
  | [] => []
  | (n, t) :: es =>
    match discover filename denied (here.below n) t with
    | some ns =>
      if visits denied here n then (n, ns) :: discoverBelow filename denied here es
      else discoverBelow filename denied here es
    | none => discoverBelow filename denied here es

end

end FileTree

/-- The absolute path of the first file called `filename` below the folder `p`; absent inside if
there is none, absent outside if `p` is no folder. -/
def World.discover (w : World) (p : Path) (filename : Text) (denied : List Text) :
    Except PathFault (Option (Option Path)) :=
  match w.find? p with
  | .error e => .error e
  | .ok (some (.folder es)) =>
    match (FileTree.folder es).discover filename denied p.toText with
    | none => .ok (some none)
    | some chain =>
      match w.resolve (p.join ⟨.relative, chain ++ [filename]⟩) with
      | .error e => .error e
      | .ok found => .ok (some (some found))
  | .ok _ => .ok none

end RouteAtlas
