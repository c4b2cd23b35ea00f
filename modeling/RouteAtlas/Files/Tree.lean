import RouteAtlas.Table
import RouteAtlas.Text.CodePoint

/-!
# Trees of files

- `FileTree`: a file or a device with its bytes, or a folder with its named entries;
- `FileTree.at?`: what lies at the end of a chain of names;
- `FileTree.put`, `FileTree.makeFolder`, `FileTree.remove`: the tree with something else there.
-/

namespace RouteAtlas

/-- A file, a folder, or neither. -/
inductive FileTree where
  | file (bytes : List Nat)
  /-- Neither a file nor a folder, as a device is; reading it gives the bytes. -/
  | device (bytes : List Nat)
  | folder (entries : List (Text × FileTree))

namespace FileTree

/-- It is a folder. -/
def isFolder : FileTree → Bool
  | .folder _ => true
  | .file _ | .device _ => false

/-- It is a file. -/
def isFile : FileTree → Bool
  | .file _ => true
  | .device _ | .folder _ => false

/-- What reading it gives; a folder cannot be read. -/
def bytes? : FileTree → Option (List Nat)
  | .file bytes | .device bytes => some bytes
  | .folder _ => none

/-- The entries of a folder; anything else has none. -/
def entries : FileTree → Table Text FileTree
  | .folder es => es
  | .file _ | .device _ => []

/-- The folder with nothing in it. -/
def empty : FileTree := .folder []

/-- What lies at the end of a chain of names. -/
def at? : FileTree → List Text → Option FileTree
  | t, [] => some t
  | t, n :: ns =>
    match Table.get? t.entries n with
    | some u => u.at? ns
    | none => none

/-- The tree with `new` at the end of a chain of names; missing folders are made. -/
def put (new : FileTree) : List Text → FileTree → FileTree
  | [], _ => new
  | n :: ns, t =>
    .folder (Table.insert t.entries n (put new ns ((Table.get? t.entries n).getD empty)))

/-- The tree with a folder at the end of a chain of names; one that is there stays. -/
def makeFolder (names : List Text) (t : FileTree) : FileTree :=
  match t.at? names with
  | some (.folder _) => t
  | _ => put empty names t

/-- The tree without what lies at the end of a chain of names. -/
def remove : List Text → FileTree → FileTree
  | [], _ => empty
  | [n], t => .folder (Table.erase t.entries n)
  | n :: ns, t =>
    match Table.get? t.entries n with
    | some u => .folder (Table.insert t.entries n (remove ns u))
    | none => t

end FileTree

end RouteAtlas
