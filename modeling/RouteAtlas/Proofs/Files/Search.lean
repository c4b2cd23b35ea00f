import RouteAtlas.Proofs.Files.Discover

/-!
# A search finds the first file

A search starts in a folder of a world, at whatever path leads there, and tells the absolute path of
the first file that a walk from this folder comes to.

- `World.place`, `World.at?_place_of_find?`: what a path leads to lies at the place that is left of
  it once its double points are worked out, by induction over its parts (`at?_climb_of_walk`);
- `World.Relisted`, `walk_relisted`: a path leads to the same in a world that lists its folders in
  another order;
- `World.discover_least`: **a search finds the file behind the least chain of folders**, and nothing
  exactly if no chain leads to such a file.

A folder whose path has become too long for the walk is passed over, though the folder is there and
short paths lead to it: `World.discover_none_detour`.
-/

namespace RouteAtlas

/-! ## Where a search starts -/

namespace Path

/-- A double point takes the last of some names off. -/
theorem climb_upward {here : List Text} (hup : upward ∉ here) :
    climb true here.reverse upward = here.dropLast.reverse := by
  unfold climb
  rw [if_pos rfl]
  rcases List.eq_nil_or_concat' here with rfl | ⟨ns, n, rfl⟩
  · rfl
  · have hn : n ≠ upward := by
      rintro rfl
      exact hup (List.mem_append_right ns List.mem_cons_self)
    rw [List.reverse_append, List.dropLast_concat]
    exact if_neg hn

/-- Names behind a path are kept when its double points are worked out. -/
theorem normalParts_append {ms : List Text} (hup : upward ∉ ms) (parts : List Text) :
    normalParts true (parts ++ ms) = normalParts true parts ++ ms := by
  rw [normalParts, normalParts, List.foldl_append, foldl_climb true hup, List.reverse_append,
    List.reverse_reverse]

end Path

namespace World

variable {w : World} {p : Path} {t : FileTree} {files : FileTree} {here parts : List Text}

/-- A path leads to something that a walk along its parts finds. -/
theorem find?_eq_some_iff :
    w.find? p = .ok (some t) ↔ p.toText.Nameable ∧ p.toText.byteCount < pathLimit ∧
      walk w.files (if p.isAbsolute then [] else w.cwd) p.parts = .found t := by
  rw [find?, ← Text.checkName_eq_ok]
  cases p.toText.checkName with
  | error e => simp
  | ok _ =>
    by_cases hlimit : pathLimit ≤ p.toText.byteCount
    · simp [hlimit]
    · simp only [hlimit, if_false, true_and, Nat.not_le.mp hlimit]
      cases walk w.files (if p.isAbsolute then [] else w.cwd) p.parts <;> simp

/-- A walk starts somewhere. -/
theorem exists_at?_of_walk (h : walk files here parts = .found t) :
    ∃ u, files.at? here = some u := by
  cases parts with
  | nil => exact ⟨t, walk_nil_eq_found.mp h⟩
  | cons part parts =>
    by_cases hfolder : ∃ es, files.at? here = some (.folder es)
    · obtain ⟨es, hes⟩ := hfolder
      exact ⟨_, hes⟩
    · rw [walk_of_not_folder hfolder] at h
      cases h

/-- A walk ends where the path leads once its double points are worked out. -/
theorem at?_climb_of_walk (hup : upward ∉ here) (h : walk files here parts = .found t) :
    files.at? (parts.foldl (Path.climb true) here.reverse).reverse = some t := by
  induction parts generalizing here with
  | nil =>
    rw [List.foldl_nil, List.reverse_reverse]
    exact walk_nil_eq_found.mp h
  | cons part parts ih =>
    by_cases hfolder : ∃ es, files.at? here = some (.folder es)
    · obtain ⟨es, hes⟩ := hfolder
      rw [walk_of_folder hes] at h
      rw [List.foldl_cons]
      split at h
      next hpart =>
        rw [hpart, Path.climb_upward hup]
        exact ih (fun hmem => hup (List.dropLast_subset here hmem)) h
      next hpart =>
        split at h
        next => cases h
        next =>
          split at h
          next =>
            have hclimb : Path.climb true here.reverse part = (here ++ [part]).reverse := by
              unfold Path.climb
              rw [if_neg hpart, List.reverse_append]
              rfl
            rw [hclimb]
            refine ih (fun hmem => ?_) h
            rcases List.mem_append.mp hmem with hmem | hmem
            · exact hup hmem
            · exact hpart (List.mem_singleton.mp hmem).symm
          next => cases h
    · rw [walk_of_not_folder hfolder] at h
      cases h

/-- The names of the place that a path stands for. -/
def place (w : World) (p : Path) : List Text :=
  Path.normalParts true (if p.isAbsolute then p.parts else w.cwd ++ p.parts)

/-- A path of nameable parts is resolved to the place that it stands for. -/
theorem resolve_eq_place (h : ∀ part ∈ p.parts, part.Nameable) :
    w.resolve p = .ok (.absolute (w.place p)) := by
  have hcheck : Path.check p.root [] p.parts = .ok () :=
    Path.check_of_nameable h (List.forall_mem_nil _)
  rw [resolve, Path.resolve, hcheck]
  rfl

/-- What a path leads to lies at the place that it stands for. -/
theorem at?_place_of_find? (hlawful : w.files.Lawful) (h : w.find? p = .ok (some t)) :
    w.files.at? (w.place p) = some t := by
  obtain ⟨-, -, hwalk⟩ := find?_eq_some_iff.mp h
  rw [place]
  cases habs : p.isAbsolute with
  | true =>
    rw [habs] at hwalk
    exact at?_climb_of_walk List.not_mem_nil hwalk
  | false =>
    rw [habs] at hwalk
    -- the working directory is there, so that it has no double points
    obtain ⟨u, hu⟩ := exists_at?_of_walk hwalk
    have hcwd : upward ∉ w.cwd := fun hmem => ((hlawful.at? hu).2 upward hmem).notUpward rfl
    have hat := at?_climb_of_walk hcwd hwalk
    rw [if_neg Bool.false_ne_true, Path.normalParts, List.foldl_append,
      Path.foldl_climb true hcwd, List.append_nil]
    exact hat

/-- Names below a path stand for names below its place. -/
theorem place_join {ms : List Text} (hup : upward ∉ ms) :
    w.place (p.join ⟨.relative, ms⟩) = w.place p ++ ms := by
  have hjoin : p.join ⟨.relative, ms⟩ = { p with parts := p.parts ++ ms } :=
    if_neg Bool.false_ne_true
  rw [hjoin, place, place, ← Path.normalParts_append hup]
  show Path.normalParts true (if p.isAbsolute then p.parts ++ ms else w.cwd ++ (p.parts ++ ms)) = _
  split
  · rfl
  · rw [List.append_assoc]

/-- What a search finds is resolved below the place where it starts. -/
theorem resolve_join_of_find? {ms : List Text} (h : w.find? p = .ok (some t))
    (hnames : ∀ n ∈ ms, n.IsName) :
    w.resolve (p.join ⟨.relative, ms⟩) = .ok (.absolute (w.place p ++ ms)) := by
  obtain ⟨hname, -, -⟩ := find?_eq_some_iff.mp h
  have hup : upward ∉ ms := fun hmem => (hnames upward hmem).notUpward rfl
  have hparts : ∀ part ∈ (p.join ⟨.relative, ms⟩).parts, part.Nameable := by
    have hjoin : (p.join ⟨.relative, ms⟩).parts = p.parts ++ ms :=
      congrArg Path.parts (if_neg Bool.false_ne_true)
    rw [hjoin, List.forall_mem_append]
    exact ⟨Path.nameable_toText.mp hname, fun n hn => (hnames n hn).nameable⟩
  rw [resolve_eq_place hparts, place_join hup]

/-! ## The file that a search finds -/

/-- The same world, with the entries of its folders listed in another order. -/
structure Relisted (w w' : World) : Prop where
  files : w.files.Relisted w'.files
  cwd : w'.cwd = w.cwd

/-- A walk does not depend on how folders are listed. -/
theorem walk_relisted {files' : FileTree} (hlawful : files.Lawful) (hrel : files.Relisted files')
    (h : walk files here parts = .found t) :
    ∃ t', walk files' here parts = .found t' ∧ t.Relisted t' := by
  induction parts generalizing here with
  | nil =>
    obtain ⟨t', ht', hrel'⟩ := hrel.at? hlawful (walk_nil_eq_found.mp h)
    exact ⟨t', walk_nil_eq_found.mpr ht', hrel'⟩
  | cons part parts ih =>
    by_cases hfolder : ∃ es, files.at? here = some (.folder es)
    · obtain ⟨es, hes⟩ := hfolder
      obtain ⟨u, hes', hrel'⟩ := hrel.at? hlawful hes
      obtain ⟨es', rfl⟩ := hrel'.exists_folder
      rw [walk_of_folder hes] at h
      rw [walk_of_folder hes']
      split at h
      next hpart =>
        rw [if_pos hpart]
        exact ih h
      next hpart =>
        rw [if_neg hpart]
        split at h
        next => cases h
        next hshort =>
          rw [if_neg hshort]
          split at h
          next hin =>
            -- the entry is there in both listings
            obtain ⟨v, hv⟩ := Option.isSome_iff_exists.mp hin
            have hat : (FileTree.folder es).at? [part] = some v :=
              FileTree.at?_cons_eq_some.mpr ⟨v, hv, rfl⟩
            obtain ⟨v', hat', -⟩ := hrel'.at? (hlawful.at? hes).1 hat
            obtain ⟨u', hu', -⟩ := FileTree.at?_cons_eq_some.mp hat'
            have hin' : Table.contains es' part = true := Option.isSome_iff_exists.mpr ⟨u', hu'⟩
            rw [if_pos hin']
            exact ih h
          next => cases h
    · rw [walk_of_not_folder hfolder] at h
      cases h

variable {es : List (Text × FileTree)}

/-- A search from a folder comes to what the search of its tree comes to. -/
theorem discover_of_find? (hlawful : w.files.Lawful) (hfolder : w.find? p = .ok (some (.folder es)))
    (filename : Text) (denied : List Text) :
    w.discover p filename denied =
      .ok (some (((FileTree.folder es).discover filename denied p.toText).map fun chain =>
        .absolute (w.place p ++ chain ++ [filename]))) := by
  have hes : (FileTree.folder es).Lawful :=
    (hlawful.at? (at?_place_of_find? hlawful hfolder)).1
  rw [discover, hfolder]
  cases hchain : (FileTree.folder es).discover filename denied p.toText with
  | none => simp only [hchain, Option.map_none]
  | some chain =>
    obtain ⟨u, hu, -⟩ := hes.at?_of_discover hchain
    have hresolve := resolve_join_of_find? hfolder (hes.at? hu).2
    simp only [hchain, hresolve, Option.map_some, List.append_assoc]

/-- **A search finds the first file** of a name, which here may be anything but a folder: from a
folder, wherever it lies, it comes to the least chain of folders that leads to such a file, none of
them denied and none with too long a path, and tells the absolute path of the file; it finds nothing
exactly when there is no such chain. What it comes to does not depend on the order in which folders
are listed. -/
theorem discover_least (hlawful : w.files.Lawful)
    (hfolder : w.find? p = .ok (some (.folder es))) (filename : Text) (denied : List Text) :
    ∃ home, w.resolve p = .ok (.absolute home) ∧ w.files.at? home = some (.folder es) ∧
      (w.discover p filename denied = .ok (some none) ↔
        ¬∃ chain, (FileTree.folder es).LeadsTo filename denied p.toText chain) ∧
      ((∃ chain, (FileTree.folder es).LeadsTo filename denied p.toText chain) →
        ∃ chain u, (FileTree.folder es).LeastChain filename denied p.toText chain ∧
          w.discover p filename denied =
            .ok (some (some (.absolute (home ++ chain ++ [filename])))) ∧
          w.files.at? (home ++ chain ++ [filename]) = some u ∧ u.isFolder = false) ∧
      ∀ w', w.Relisted w' → w'.discover p filename denied = w.discover p filename denied := by
  obtain ⟨hname, hfits, hwalk⟩ := find?_eq_some_iff.mp hfolder
  have hat := at?_place_of_find? hlawful hfolder
  have hes : (FileTree.folder es).Lawful := (hlawful.at? hat).1
  have hdiscover := discover_of_find? hlawful hfolder filename denied
  refine ⟨w.place p, resolve_eq_place (Path.nameable_toText.mp hname), hat, ?_, ?_, ?_⟩
  · rw [hdiscover]
    rcases hes.discover_cases filename denied hfits with ⟨chain, hchain, hleast⟩ | ⟨hnone, hno⟩
    · rw [hchain]
      exact iff_of_false nofun fun h => h ⟨chain, hleast.leads⟩
    · rw [hnone]
      exact iff_of_true rfl fun ⟨chain, hchain⟩ => hno chain hchain
  · rintro ⟨other, hother⟩
    rcases hes.discover_cases filename denied hfits with ⟨chain, hchain, hleast⟩ | ⟨-, hno⟩
    · obtain ⟨⟨u, hu, hfile⟩, -, -⟩ := FileTree.leadsTo_iff.mp hleast.leads
      refine ⟨chain, u, hleast, ?_, ?_, hfile⟩
      · rw [hdiscover, hchain]
        rfl
      · rw [List.append_assoc, FileTree.at?_append, hat]
        exact hu
    · exact absurd hother (hno other)
  · intro w' hrel
    -- the path leads to the same folder there, listed otherwise
    obtain ⟨t', hwalk', hrel'⟩ := walk_relisted hlawful hrel.files hwalk
    obtain ⟨es', rfl⟩ := hrel'.exists_folder
    rw [← hrel.cwd] at hwalk'
    have hfolder' := find?_eq_some_iff.mpr ⟨hname, hfits, hwalk'⟩
    rw [hdiscover, discover_of_find? (hrel.files.lawful hlawful) hfolder',
      hrel'.discover_eq hes filename denied hfits, place, place, hrel.cwd]

/-! ## A search among namesakes -/

/-- Folders in which files called `t` lie: below siblings of which one name goes on with the other,
below a folder that is denied, and in a folder that is itself called `t`. -/
def namesakeEntries : List (Text × FileTree) :=
  let only (name : String) (t : FileTree) : FileTree := .folder [(Text.ofString name, t)]
  [(Text.ofString "a-b", only "t" (.file [])), (Text.ofString "t", only "t" (.file [])),
   (Text.ofString "a", only "x" (only "t" (.file []))), (Text.ofString "0", only "t" (.file []))]

/-- A world in which these folders lie in one called `w`. -/
def namesakes : World where
  files := .folder [(Text.ofString "w", .folder namesakeEntries)]
  cwd := []
  env := []

theorem lawful_namesakes : namesakes.files.Lawful := by
  have hfile : (FileTree.folder [(Text.ofString "t", .file [])]).Lawful :=
    .folder (by decide) (by decide) (by simpa using .file [])
  have hbelow : (FileTree.folder [(Text.ofString "x",
      .folder [(Text.ofString "t", .file [])])]).Lawful :=
    .folder (by decide) (by decide) (by simpa using hfile)
  have hentries : (FileTree.folder namesakeEntries).Lawful :=
    .folder (by decide) (by decide) (by simpa [namesakeEntries] using ⟨hfile, hbelow, hfile⟩)
  exact .folder (by decide) (by decide) (by simpa using hentries)

/-- A path to the folder `w` of this world. -/
def namesakePath : Path := .ofText (Text.ofString "w/a/..")

/-- The chain over `a` comes before the one over `a-b`, although it is longer; that the folder `w`
is denied does not matter where the search starts in it. -/
theorem discover_least_namesakes :
    let denied := [Text.ofString "0", Text.ofString "w"]
    (FileTree.folder namesakeEntries).LeadsTo (Text.ofString "t") denied namesakePath.toText
        [Text.ofString "a-b"] ∧
      (FileTree.folder namesakeEntries).LeastChain (Text.ofString "t") denied namesakePath.toText
        [Text.ofString "a", Text.ofString "x"] ∧
      namesakes.discover namesakePath (Text.ofString "t") denied =
        .ok (some (some (.ofText (Text.ofString "/w/a/x/t")))) := by
  intro denied
  have hleads : (FileTree.folder namesakeEntries).LeadsTo (Text.ofString "t") denied
      namesakePath.toText [Text.ofString "a-b"] :=
    ⟨⟨_, .file [], rfl, rfl, rfl⟩, by decide, by decide⟩
  have hfound : namesakes.discover namesakePath (Text.ofString "t") denied =
      .ok (some (some (.ofText (Text.ofString "/w/a/x/t")))) := by decide
  obtain ⟨home, hresolve, -, -, hleast, -⟩ :=
    discover_least lawful_namesakes (p := namesakePath) rfl (Text.ofString "t") denied
  obtain ⟨chain, u, hchain, hlies, -⟩ := hleast ⟨_, hleads⟩
  have hplace : namesakes.resolve namesakePath = .ok (.absolute [Text.ofString "w"]) := rfl
  have hhome : [Text.ofString "w"] = home :=
    congrArg Path.parts (Except.ok.inj (hplace.symm.trans hresolve))
  -- the file that is found tells the chain
  rw [hfound, ← hhome, Except.ok.injEq, Option.some.injEq, Option.some.injEq] at hlies
  have hparts : [Text.ofString "w", Text.ofString "a", Text.ofString "x"] ++ [Text.ofString "t"] =
      Text.ofString "w" :: chain ++ [Text.ofString "t"] := congrArg Path.parts hlies
  cases (List.cons.inj (List.append_cancel_right hparts)).2
  exact ⟨hleads, hchain, hfound⟩

/-! ## A search that starts at a long path -/

/-- A folder with a file called `t` one level down. -/
def pages : List (Text × FileTree) :=
  [(Text.ofString "routes-and-pages", .folder [(Text.ofString "t", .file [])])]

/-- A folder name, to go in and out of on the way elsewhere. -/
def longFolder : Text := List.replicate 251 (.ofChar 'x')

/-- A world with both, side by side. -/
def pagesWorld : World where
  files := .folder [(Text.ofString "w", .folder pages), (longFolder, .folder [])]
  cwd := []
  env := []

/-- A path of 4081 bytes to the folder with the file below it. -/
def detour : Path :=
  ⟨.relative, (List.replicate 16 [longFolder, upward]).flatten ++ [Text.ofString "w"]⟩

/-- Going into a folder and out again leads nowhere else. -/
theorem walk_detour (k : Nat) (parts : List Text) :
    walk pagesWorld.files [] ((List.replicate k [longFolder, upward]).flatten ++ parts) =
      walk pagesWorld.files [] parts := by
  have hinside : pagesWorld.files.at? [longFolder] = some (.folder []) := by
    refine FileTree.at?_cons_eq_some.mpr ⟨.folder [], ?_, rfl⟩
    exact Table.get?_of_mem (by decide +kernel) (List.mem_cons_of_mem _ List.mem_cons_self)
  induction k with
  | zero => rfl
  | succ k ih =>
    rw [List.replicate_succ, List.flatten_cons, List.append_assoc, List.cons_append,
      List.cons_append, List.nil_append, walk_of_folder rfl, if_neg (by decide +kernel),
      if_neg (by decide +kernel), if_pos (by decide +kernel), List.nil_append,
      walk_of_folder hinside, if_pos rfl]
    exact ih

/-- The file is there, but the path of the folder that holds it has become too long. -/
theorem discover_none_detour :
    pagesWorld.find? detour = .ok (some (.folder pages)) ∧
      (FileTree.folder pages).at? [Text.ofString "routes-and-pages", Text.ofString "t"] =
        some (.file []) ∧
      pagesWorld.discover detour (Text.ofString "t") [] = .ok (some none) ∧
      pagesWorld.discover (.ofText (Text.ofString "w")) (Text.ofString "t") [] =
        .ok (some (some (.ofText (Text.ofString "/w/routes-and-pages/t")))) := by
  refine ⟨?_, rfl, ?_, ?_⟩
  · have hname : detour.toText.Nameable := Path.nameable_toText.mpr (by decide +kernel)
    exact find?_eq_some_iff.mpr ⟨hname, by decide +kernel, walk_detour 16 _⟩
  · decide +kernel
  · decide

end World

end RouteAtlas
