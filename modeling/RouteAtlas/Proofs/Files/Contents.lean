import RouteAtlas.Files.Discover
import RouteAtlas.Files.Locate

/-!
# What the contents of files do not change

Where things lie, and what kind of thing lies there, can be told without looking into any file:

- `FileTree.emptied`, `World.emptied`: a tree and a world with nothing in their files;
- `find?_emptied`: a path leads to the same thing there, emptied;
- `discover_emptied`, `locate_emptied`: what is discovered and located is the same, by induction
  over the tree and over the candidates;
- `AlikeButForContents`: two worlds that differ at most in what their files hold.
-/

namespace RouteAtlas

namespace FileTree

mutual

/-- The tree with nothing in its files. -/
def emptied : FileTree → FileTree
  | .file _ => .file []
  | .device _ => .device []
  | .folder es => .folder (emptiedAll es)

/-- The entries with nothing in their files. -/
def emptiedAll : List (Text × FileTree) → List (Text × FileTree)
  | [] => []
  | (n, t) :: es => (n, t.emptied) :: emptiedAll es

end

@[simp] theorem isFolder_emptied (t : FileTree) : t.emptied.isFolder = t.isFolder := by
  cases t with
  | file bytes | device bytes | folder es => rw [emptied]; rfl

@[simp] theorem isFile_emptied (t : FileTree) : t.emptied.isFile = t.isFile := by
  cases t with
  | file bytes | device bytes | folder es => rw [emptied]; rfl

theorem entries_emptied (t : FileTree) : t.emptied.entries = emptiedAll t.entries := by
  cases t with
  | file bytes | device bytes => rw [emptied, entries, entries, emptiedAll]
  | folder es => rw [emptied]; rfl

theorem get?_emptiedAll (es : List (Text × FileTree)) (n : Text) :
    Table.get? (emptiedAll es) n = (Table.get? es n).map emptied := by
  induction es with
  | nil => rw [emptiedAll]; rfl
  | cons e es ih =>
    obtain ⟨m, t⟩ := e
    rw [emptiedAll, Table.get?, Table.get?, ih]
    split <;> rfl

theorem contains_emptiedAll (es : List (Text × FileTree)) (n : Text) :
    Table.contains (emptiedAll es) n = Table.contains es n := by
  rw [Table.contains, Table.contains, get?_emptiedAll, Option.isSome_map]

theorem at?_emptied (t : FileTree) (ns : List Text) :
    t.emptied.at? ns = (t.at? ns).map emptied := by
  induction ns generalizing t with
  | nil => rfl
  | cons n ns ih =>
    rw [at?, at?, entries_emptied, get?_emptiedAll]
    cases Table.get? t.entries n with
    | none => rfl
    | some u => exact ih u

/-! ## Discovering -/

theorem holdsFile_emptiedAll (filename : Text) (es : List (Text × FileTree)) :
    holdsFile filename (emptiedAll es) = holdsFile filename es := by
  rw [holdsFile, holdsFile, get?_emptiedAll]
  cases Table.get? es filename with
  | none => rfl
  | some t => simp

mutual

theorem discover_emptied (filename : Text) (denied : List Text) (here : Text) :
    ∀ t : FileTree, t.emptied.discover filename denied here = t.discover filename denied here
  | .file _ | .device _ => by rw [emptied, discover, discover]
  | .folder es => by
    rw [emptied, discover, discover, holdsFile_emptiedAll, discoverBelow_emptiedAll]

theorem discoverBelow_emptiedAll (filename : Text) (denied : List Text) (here : Text) :
    ∀ es : List (Text × FileTree),
      discoverBelow filename denied here (emptiedAll es) = discoverBelow filename denied here es
  | [] => by rw [emptiedAll]
  | (n, t) :: es => by
    rw [emptiedAll, discoverBelow, discoverBelow, discover_emptied filename denied (here.below n) t,
      discoverBelow_emptiedAll filename denied here es]

end

end FileTree

namespace World

/-- The world with nothing in its files. -/
def emptied (w : World) : World := { w with files := w.files.emptied }

/-- The end of a walk with nothing in the files that it found. -/
def Walk.emptied : Walk → Walk
  | .found t => .found t.emptied
  | .missing => .missing
  | .tooLong => .tooLong

theorem walk_emptied (files : FileTree) (here parts : List Text) :
    walk files.emptied here parts = (walk files here parts).emptied := by
  induction parts generalizing here with
  | nil =>
    rw [walk, walk, FileTree.at?_emptied]
    cases files.at? here <;> rfl
  | cons part parts ih =>
    rw [walk, walk, FileTree.at?_emptied]
    cases files.at? here with
    | none => rfl
    | some t =>
      cases t with
      | file bytes | device bytes => rw [Option.map_some, FileTree.emptied]; rfl
      | folder es =>
        -- the walk goes on from the folder exactly when it does in the full tree
        rw [Option.map_some, FileTree.emptied]
        simp only [FileTree.contains_emptiedAll, ih]
        split
        · rfl
        · split
          · rfl
          · split <;> rfl

theorem find?_emptied (w : World) (p : Path) :
    w.emptied.find? p = (w.find? p).map (Option.map FileTree.emptied) := by
  rw [find?, find?]
  cases p.toText.checkName with
  | error e => rfl
  | ok _ =>
    simp only [emptied, walk_emptied]
    split
    · rfl
    · cases walk w.files (if p.isAbsolute then [] else w.cwd) p.parts <;> rfl

theorem isFile_emptied (w : World) (p : Path) : w.emptied.isFile p = w.isFile p := by
  rw [isFile, isFile, find?_emptied]
  cases w.find? p with
  | error e => rfl
  | ok found =>
    cases found with
    | none => rfl
    | some t => simp [Except.map]

theorem isFolder_emptied (w : World) (p : Path) : w.emptied.isFolder p = w.isFolder p := by
  rw [isFolder, isFolder, find?_emptied]
  cases w.find? p with
  | error e => rfl
  | ok found =>
    cases found with
    | none => rfl
    | some t => simp [Except.map]

theorem discover_emptied (w : World) (p : Path) (filename : Text) (denied : List Text) :
    w.emptied.discover p filename denied = w.discover p filename denied := by
  rw [discover, discover, find?_emptied]
  cases w.find? p with
  | error e => rfl
  | ok found =>
    cases found with
    | none => rfl
    | some t =>
      cases t with
      | file bytes | device bytes =>
        simp only [Except.map, Option.map_some, FileTree.emptied]
      | folder es =>
        have h := FileTree.discover_emptied filename denied p.toText (.folder es)
        rw [FileTree.emptied] at h
        simp only [Except.map, Option.map_some, FileTree.emptied, h]
        rfl

theorem firstFile_emptied (w : World) (ps : List Path) :
    w.emptied.firstFile ps = w.firstFile ps := by
  induction ps with
  | nil => rfl
  | cons p ps ih =>
    rw [firstFile, firstFile, isFile_emptied, ih]
    rfl

theorem locate_emptied (w : World) (folder : Path) (specifier : Text) (extensions : List Text) :
    w.emptied.locate folder specifier extensions = w.locate folder specifier extensions := by
  rw [locate, locate]
  simp only [firstFile_emptied]

/-! ## Worlds with other contents -/

/-- The two worlds differ at most in what their files hold. -/
def AlikeButForContents (w w' : World) : Prop := w.emptied = w'.emptied

theorem AlikeButForContents.cwd_eq {w w' : World} (h : AlikeButForContents w w') :
    w.cwd = w'.cwd := by
  have hcwd : w.emptied.cwd = w'.emptied.cwd := by rw [h]
  exact hcwd

theorem AlikeButForContents.recovery_eq {w w' : World} (h : AlikeButForContents w w') :
    w.recovery = w'.recovery := by
  have hrecovery : w.emptied.recovery = w'.emptied.recovery := by rw [h]
  exact hrecovery

end World

end RouteAtlas
