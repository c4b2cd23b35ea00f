import RouteAtlas.Files.World
import RouteAtlas.Json.Reader

/-!
# Worlds written as JSON

A snapshot is an object that describes a `World`:

- `cwd`: the working directory;
- `env`: the environment, an object of texts;
- `users`: the home directories of those who are known by name, an object of texts;
- `home`: the home directory on record for whoever runs;
- `folders`: the paths of folders;
- `files`, `devices`: objects from paths to contents, each a text or an object whose `hex` gives the
  bytes.

What is missing is taken as empty.
-/

namespace RouteAtlas

namespace Snapshot

/-- The text of a value, where it is one. -/
def text? : Json → Option Text
  | .string t => some t
  | _ => none

/-- The members of an object; any other value has none. -/
def members : Option Json → List (Text × Json)
  | some (.object ms) => ms
  | _ => []

/-- The texts among the items of an array. -/
def texts : Option Json → List Text
  | some (.array vs) => vs.filterMap text?
  | _ => []

/-- The members of an object whose values are texts. -/
def textTable (j : Option Json) : Table Text Text :=
  (members j).filterMap fun (k, v) => (text? v).map fun t => (k, t)

/-- The bytes that pairs of hexadecimal digits name. -/
def hexBytes : Text → List Nat
  | a :: b :: r => ((Json.hexValue? a).getD 0 * 16 + (Json.hexValue? b).getD 0) :: hexBytes r
  | _ => []

/-- The bytes of a file: a text stands for its UTF-8 form. -/
def contents : Json → List Nat
  | .string t => Utf8.encode t.toChars
  | j => hexBytes (((j.field? (Text.ofString "hex")).bind text?).getD [])

/-- The names that lead from the root to a path. -/
def namesOf (path : Text) : List Text := Path.normalParts true (Path.ofText path).parts

/-- The world that a snapshot describes. -/
def toWorld (j : Json) : World :=
  let at? (name : String) : Option Json := j.field? (Text.ofString name)
  let files := (texts (at? "folders")).foldl
    (fun tree path => FileTree.makeFolder (namesOf path) tree) FileTree.empty
  let files := (members (at? "files")).foldl
    (fun tree (path, v) => FileTree.put (.file (contents v)) (namesOf path) tree) files
  let files := (members (at? "devices")).foldl
    (fun tree (path, v) => FileTree.put (.device (contents v)) (namesOf path) tree) files
  { files
    cwd := namesOf (((at? "cwd").bind text?).getD [])
    env := textTable (at? "env")
    users := textTable (at? "users")
    account := (at? "home").bind text? }

end Snapshot

end RouteAtlas
