import RouteAtlas.Path.Basic
import RouteAtlas.Text.Quoted

/-!
# Resolving paths

- `PathFault`: why a path cannot be used;
- `Path.check`: the parts of a path, one by one, can be names of files;
- `Path.resolve`: the absolute path that a path stands for in a working directory.
-/

namespace RouteAtlas

/-- Why a path cannot be used. -/
inductive PathFault where
  /-- It holds a NUL. -/
  | nulByte
  /-- It holds a surrogate. -/
  | unencodable (u : Unencodable)
  /-- A name in it, or the whole path, is longer than a file system allows. -/
  | tooLong (path : Text)
  /-- It starts from the home directory of somebody unknown. -/
  | noHome
deriving DecidableEq

/-- The wording of a fault. -/
def PathFault.message : PathFault → Text
  | .nulByte => Text.ofString "embedded null byte"
  | .unencodable u => u.message
  | .tooLong path => Text.ofString "[Errno 36] File name too long: " ++ path.quoted
  | .noHome => Text.ofString "Could not determine home directory."

/-- The text can be given to a file system. -/
def Text.checkName (t : Text) : Except PathFault Unit :=
  match t.unnameable? with
  | some u => .error (.unencodable u)
  | none => if t.any (·.is '\x00') then .error .nulByte else .ok ()

namespace Path

/-- Follows the parts of a path from the parts in `stack`, which are in reverse, and checks every
path on the way. -/
def check (root : Root) : (stack : List Text) → List Text → Except PathFault Unit
  | _, [] => .ok ()
  | stack, part :: parts =>
    let stack' := climb (root ≠ .relative) stack part
    if part = upward then check root stack' parts
    else
      match (Path.toText ⟨if root = .relative then .relative else .single,
          stack'.reverse⟩).checkName with
      | .error e => .error e
      | .ok () => check root stack' parts

/-- The absolute path that `p` stands for in the directory with the parts `cwd`. -/
def resolve (cwd : List Text) (p : Path) : Except PathFault Path :=
  match check p.root [] p.parts with
  | .error e => .error e
  | .ok () =>
    .ok (absolute (normalParts true (if p.isAbsolute then p.parts else cwd ++ p.parts)))

end Path

end RouteAtlas
