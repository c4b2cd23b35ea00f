import RouteAtlas.Files.Locate
import RouteAtlas.Proofs.Files.Search

/-!
# The source file of a module

A specifier is put behind the path of a folder, the double points are worked out, the path is probed
and at last resolved. All of this comes to one walk over the pieces of the specifier, which knows
nothing of paths:

- `Path.enter`, `Path.lexical`: the place where the pieces of a text lead from a folder, **one
  piece** at a time;
- `Path.foldl_climb_eq`, `parts_candidate`: the paths that are probed have these places as their
  parts, by induction over the pieces;
- `Path.Fits`, `World.find?_of_fits`: a path within the limits of length leads to what lies at the
  end of its parts;
- `World.firstFile_candidates`: the search takes the first extension with a file, by induction over
  the extensions;
- `World.locate_first`: **the source of a module**, in these terms.
-/

namespace RouteAtlas

/-! ## Where a specifier leads -/

namespace Text

/-- No piece of a text holds what the text is cut at. -/
theorem slashless_of_mem_splitOn {sep : Char} {s t : Text} (h : s ∈ splitOn sep t) :
    ∀ p ∈ s, p.is sep = false := by
  induction t generalizing s with
  | nil =>
    rw [List.mem_singleton.mp h]
    exact List.forall_mem_nil _
  | cons q t ih =>
    rw [splitOn] at h
    split at h
    next =>
      rcases List.mem_cons.mp h with rfl | h
      · exact List.forall_mem_nil _
      · exact ih h
    next hq =>
      have hq : q.is sep = false := Bool.eq_false_iff.mpr hq
      -- the character is put in front of the first piece, and the others stay
      split at h
      next =>
        rw [List.mem_singleton.mp h]
        exact List.forall_mem_singleton.mpr hq
      next first pieces hpieces =>
        rw [hpieces] at ih
        rcases List.mem_cons.mp h with rfl | h
        · exact List.forall_mem_cons.mpr ⟨hq, ih List.mem_cons_self⟩
        · exact ih (List.mem_cons_of_mem first h)

end Text

namespace Path

/-- Where one piece leads from a place: nothing and a single point stay there, a double point leaves
the last folder, and the root is left by none; anything else is an entry. -/
def enter (place : List Text) (piece : Text) : List Text :=
  if piece = [] ∨ piece = Text.ofString "." then place
  else if piece = upward then place.dropLast
  else place ++ [piece]

/-- Where the pieces of a text lead, one after the other, from the folder with the parts `folder`,
or from the root if the text starts with a slash. -/
def lexical (folder : List Text) (t : Text) : List Text :=
  (Text.splitOn '/' t).foldl enter (if Text.ofString "/" <+: t then [] else folder)

variable {here folder : List Text} {piece : Text}

theorem isIdle_iff : isIdle piece = true ↔ piece = [] ∨ piece = Text.ofString "." := by
  rw [isIdle, Bool.or_eq_true, List.isEmpty_iff, beq_iff_eq]

theorem upward_notMem_enter (h : upward ∉ here) (piece : Text) : upward ∉ enter here piece := by
  unfold enter
  split
  next => exact h
  next =>
    split
    next => exact fun hmem => h (List.dropLast_subset here hmem)
    next hup =>
      intro hmem
      rcases List.mem_append.mp hmem with hmem | hmem
      · exact h hmem
      · exact hup (List.mem_singleton.mp hmem).symm

/-- **One piece** that says something is climbed to as it is entered. -/
theorem climb_eq_enter (hup : upward ∉ here) (hpiece : isIdle piece = false) :
    climb true here.reverse piece = (enter here piece).reverse := by
  have hidle : ¬(piece = [] ∨ piece = Text.ofString ".") := by
    rw [← isIdle_iff, hpiece]
    exact Bool.false_ne_true
  unfold enter
  rw [if_neg hidle]
  by_cases hpiece : piece = upward
  · rw [if_pos hpiece, hpiece]
    exact climb_upward hup
  · rw [if_neg hpiece, List.reverse_append]
    exact if_neg hpiece

/-- Working out double points behind a place is entering the pieces from there. -/
theorem foldl_climb_eq (hup : upward ∉ here) (pieces : List Text) :
    (pieces.filter fun piece => !isIdle piece).foldl (climb true) here.reverse =
      (pieces.foldl enter here).reverse := by
  induction pieces generalizing here with
  | nil => rfl
  | cons piece pieces ih =>
    rw [List.foldl_cons]
    by_cases hpiece : isIdle piece = true
    · -- the piece is dropped when a path is read, and it does not lead anywhere
      have hstay : enter here piece = here := if_pos (isIdle_iff.mp hpiece)
      rw [List.filter_cons_of_neg (by simp [hpiece]), hstay, ih hup]
    · have hpiece : isIdle piece = false := Bool.eq_false_iff.mpr hpiece
      rw [List.filter_cons_of_pos (by simp [hpiece]), List.foldl_cons, climb_eq_enter hup hpiece,
        ih (upward_notMem_enter hup piece)]

/-- The parts of a path below a folder, or with a root of its own, once double points are worked
out. -/
theorem parts_normalize_join (hup : upward ∉ folder) (t : Text) :
    ((absolute folder).join (ofText t)).normalize.parts = lexical folder t := by
  unfold lexical join
  by_cases hroot : Text.ofString "/" <+: t
  · have habs : (ofText t).isAbsolute = true := isAbsolute_ofText_iff.mpr hroot
    have hparts := foldl_climb_eq List.not_mem_nil (Text.splitOn '/' t)
    rw [if_pos habs, if_pos hroot]
    show normalParts (ofText t).isAbsolute _ = _
    rw [habs, normalParts]
    exact List.reverse_eq_iff.mpr hparts
  · have habs : ¬(ofText t).isAbsolute = true := fun habs => hroot (isAbsolute_ofText_iff.mp habs)
    have hparts := foldl_climb_eq hup (Text.splitOn '/' t)
    rw [if_neg habs, if_neg hroot]
    show normalParts true (folder ++ (ofText t).parts) = _
    rw [normalParts, List.foldl_append, foldl_climb true hup, List.append_nil]
    exact List.reverse_eq_iff.mpr hparts

/-- A piece without slashes leads from proper parts to proper parts. -/
theorem isPart_enter (hhere : ∀ n ∈ here, n.IsPart) (hpiece : ∀ p ∈ piece, p.is '/' = false) :
    ∀ n ∈ enter here piece, n.IsPart := by
  unfold enter
  split
  next => exact hhere
  next hidle =>
    split
    next => exact fun n hn => hhere n (List.dropLast_subset here hn)
    next hup =>
      rw [not_or] at hidle
      refine List.forall_mem_append.mpr ⟨hhere, List.forall_mem_singleton.mpr ?_⟩
      exact ⟨hidle.1, hpiece, hidle.2, hup⟩

/-- A place that a text leads to has proper parts only. -/
theorem isPart_lexical (hfolder : ∀ n ∈ folder, n.IsPart) (t : Text) :
    ∀ n ∈ lexical folder t, n.IsPart := by
  have hfold : ∀ (pieces here : List Text), (∀ piece ∈ pieces, ∀ p ∈ piece, p.is '/' = false) →
      (∀ n ∈ here, n.IsPart) → ∀ n ∈ pieces.foldl enter here, n.IsPart := by
    intro pieces
    induction pieces with
    | nil => exact fun _ _ hhere => hhere
    | cons piece pieces ih =>
      intro here hpieces hhere
      obtain ⟨hpiece, hpieces⟩ := List.forall_mem_cons.mp hpieces
      exact ih _ hpieces (isPart_enter hhere hpiece)
  refine hfold _ _ (fun piece hpiece => Text.slashless_of_mem_splitOn hpiece) ?_
  split
  · exact List.forall_mem_nil _
  · exact hfolder

/-! ## Probing a path within the limits -/

/-- Neither the path, with all slashes of its root, nor a part of it is too long. -/
structure Fits (p : Path) : Prop where
  path : p.toText.byteCount < World.pathLimit
  parts : ∀ part ∈ p.parts, part.byteCount ≤ World.maxName

end Path

/-- A file lies at the end of a chain of names. -/
def FileTree.holdsFileAt (t : FileTree) (ns : List Text) : Bool := (t.at? ns).any isFile

/-- The parts of the path where a module is looked for are the place that its specifier leads to. -/
theorem parts_candidate {folder : List Text} (hfolder : ∀ n ∈ folder, n.IsPart)
    (specifier extension : Text) :
    (candidate (.absolute folder) specifier extension).parts =
      Path.lexical folder (specifier ++ extension) :=
  Path.parts_normalize_join (Path.upward_notMem_of_isPart hfolder) _

namespace World

variable {w : World} {p : Path}

/-- A path within the limits leads to what lies at the end of its parts. -/
theorem find?_of_fits (hlawful : w.files.Lawful) (habs : p.isAbsolute = true)
    (hup : upward ∉ p.parts) (hfits : p.Fits) : w.find? p = .ok (w.files.at? p.parts) := by
  cases hat : w.files.at? p.parts with
  | some t =>
    have hnames := (hlawful.at? hat).2
    refine find?_eq_some_iff.mpr ⟨?_, hfits.path, ?_⟩
    · exact Path.nameable_toText.mpr fun n hn => (hnames n hn).nameable
    · rw [if_pos habs]
      exact walk_of_at? hnames hat
  | none =>
    cases hfind : w.find? p with
    | error e =>
      -- only a path or a name that is too long makes the search fail
      obtain ⟨⟨-, hlong | ⟨before, part, after, es, hparts, hlong, -⟩⟩, -⟩ :=
        find?_eq_error_iff.mp hfind
      · exact absurd hfits.path (Nat.not_lt.mpr hlong)
      · have hmem : part ∈ p.parts := hparts ▸ List.mem_append_right before List.mem_cons_self
        exact absurd hlong (Nat.not_lt.mpr (hfits.parts part hmem))
    | ok found =>
      cases found with
      | none => rfl
      | some t =>
        obtain ⟨-, -, hwalk⟩ := find?_eq_some_iff.mp hfind
        rw [if_pos habs] at hwalk
        have hthere : w.files.at? ([] ++ p.parts) = some t := at?_of_walk hup hwalk
        rw [List.nil_append, hat] at hthere
        cases hthere

theorem isFile_of_fits (hlawful : w.files.Lawful) (habs : p.isAbsolute = true)
    (hup : upward ∉ p.parts) (hfits : p.Fits) :
    w.isFile p = .ok (w.files.holdsFileAt p.parts) := by
  rw [isFile, find?_of_fits hlawful habs hup hfits]
  rfl

/-- A path that leads to something is resolved to its parts. -/
theorem resolve_of_holdsFileAt (hlawful : w.files.Lawful) (habs : p.isAbsolute = true)
    (hup : upward ∉ p.parts) (hfile : w.files.holdsFileAt p.parts = true) :
    w.resolve p = .ok (.absolute p.parts) := by
  obtain ⟨t, ht, -⟩ := (Option.any_eq_true _ _).mp hfile
  have hnames := (hlawful.at? ht).2
  have hplace : w.place p = p.parts := by
    rw [place, if_pos habs, Path.normalParts_of_notMem true hup]
  rw [resolve_eq_place fun n hn => (hnames n hn).nameable, hplace]

/-! ## The first file -/

variable {folder : List Text} {specifier : Text}

/-- **The search takes the first extension** with a file. -/
theorem firstFile_candidates (hlawful : w.files.Lawful) (hfolder : ∀ n ∈ folder, n.IsPart)
    {extensions : List Text}
    (hfits : ∀ e ∈ extensions, (candidate (.absolute folder) specifier e).Fits) :
    w.firstFile (candidates (.absolute folder) specifier extensions) =
      .ok ((extensions.find? fun e =>
          w.files.holdsFileAt (Path.lexical folder (specifier ++ e))).map fun e =>
        .absolute (Path.lexical folder (specifier ++ e))) := by
  induction extensions with
  | nil => rfl
  | cons e extensions ih =>
    obtain ⟨hfits, hrest⟩ := List.forall_mem_cons.mp hfits
    have hparts := parts_candidate hfolder specifier e
    have habs : (candidate (.absolute folder) specifier e).isAbsolute = true :=
      isAbsolute_candidate rfl specifier e
    have hup : upward ∉ (candidate (.absolute folder) specifier e).parts := by
      rw [hparts]
      exact Path.upward_notMem_of_isPart (Path.isPart_lexical hfolder _)
    -- probing the path and resolving it both come to its parts, and these are the place
    have hfile := isFile_of_fits hlawful habs hup hfits
    rw [hparts] at hfile
    show w.firstFile (candidate _ specifier e :: candidates _ specifier extensions) = _
    rw [firstFile, hfile, List.find?_cons]
    cases hthere : w.files.holdsFileAt (Path.lexical folder (specifier ++ e)) with
    | true =>
      have hresolve := resolve_of_holdsFileAt hlawful habs hup (hparts ▸ hthere)
      rw [hparts] at hresolve
      show (w.resolve _).map some = _
      rw [hresolve]
      rfl
    | false => exact ih hrest

/-- **The source of a module.** From a folder of proper parts, a blank specifier leads nowhere. Any
other is stripped, and where no path that it is looked for at is too long, the answer is the first
of the extensions, in their order, for which the specifier with the extension leads to a file; it is
given as the absolute path of that place, all of whose parts are proper ones. If there is no such
extension, the answer is that there is no source. -/
theorem locate_first (hlawful : w.files.Lawful) (hfolder : ∀ n ∈ folder, n.IsPart)
    (specifier : Text) (extensions : List Text) :
    (specifier.strip = [] → w.locate (.absolute folder) specifier extensions = .ok none) ∧
    (specifier.strip ≠ [] →
      (∀ e ∈ extensions, (candidate (.absolute folder) specifier.strip e).Fits) →
      w.locate (.absolute folder) specifier extensions =
          .ok ((extensions.find? fun e =>
              w.files.holdsFileAt (Path.lexical folder (specifier.strip ++ e))).map fun e =>
            .absolute (Path.lexical folder (specifier.strip ++ e))) ∧
        ∀ found, w.locate (.absolute folder) specifier extensions = .ok (some found) →
          ∀ n ∈ found.parts, n.IsPart) := by
  rw [locate_eq, sourcePaths]
  refine ⟨fun hblank => ?_, fun hspecifier hfits => ?_⟩
  · rw [hblank]
    rfl
  · rw [Ne, ← List.isEmpty_iff] at hspecifier
    rw [if_neg hspecifier, firstFile_candidates hlawful hfolder hfits]
    refine ⟨rfl, fun found hfound => ?_⟩
    obtain ⟨e, -, rfl⟩ := Option.map_eq_some_iff.mp (Except.ok.inj hfound)
    exact Path.isPart_lexical hfolder _

/-! ## A specifier that takes a way round -/

/-- A world with a folder and a file that differ in their extensions, and a folder beside them. -/
def waysWorld : World where
  files := .folder [(Text.ofString "w", .folder [(Text.ofString "b.tsx", .folder []),
    (Text.ofString "b.ts", .file []), (Text.ofString "x", .folder [])])]
  cwd := []
  env := []

theorem lawful_waysWorld : waysWorld.files.Lawful := by
  have hempty : (FileTree.folder []).Lawful := .folder (by decide) (by decide) (by simp)
  have hentries : (FileTree.folder [(Text.ofString "b.tsx", .folder []),
      (Text.ofString "b.ts", .file []), (Text.ofString "x", .folder [])]).Lawful :=
    .folder (by decide) (by decide) (by simpa using ⟨hempty, .file [], hempty⟩)
  exact .folder (by decide) (by decide) (by simpa using hentries)

/-- The first extension leads to a folder and the second one, which goes up again, to the file. -/
theorem locate_first_wayRound :
    let extensions := [Text.ofString ".tsx", Text.ofString "/../b.ts", Text.ofString ".ts"]
    waysWorld.locate (.absolute [Text.ofString "w", Text.ofString "x"])
        (Text.ofString " .././/a/../b ") extensions =
      .ok (some (.absolute [Text.ofString "w", Text.ofString "b.ts"])) := by
  intro extensions
  have hfolder : ∀ n ∈ [Text.ofString "w", Text.ofString "x"], n.IsPart := by decide
  obtain ⟨-, hfound⟩ :=
    locate_first lawful_waysWorld hfolder (Text.ofString " .././/a/../b ") extensions
  have hfits : ∀ e ∈ extensions, (candidate (.absolute [Text.ofString "w", Text.ofString "x"])
      (Text.ofString " .././/a/../b ").strip e).Fits :=
    fun e he => ⟨by revert e; decide, by revert e; decide⟩
  exact (hfound (by decide) hfits).1

end World

end RouteAtlas
