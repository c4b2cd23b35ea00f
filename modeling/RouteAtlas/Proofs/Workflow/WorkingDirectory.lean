import RouteAtlas.Proofs.Files.Probe
import RouteAtlas.Proofs.Workflow.Selection

/-!
# The working directory does not matter to an absolute workspace

Only a path without a root is looked up in the working directory. Where the workspace of a job has a
root, every path of the run has one, so the run is the same from everywhere:

- `Path.isAbsolute_parent`, `Path.isAbsolute_of_resolve`, and with them `Path.isAbsolute_join` and
  `isAbsolute_candidate`: the ways in which the paths of a run are made keep a root;
- `World.movedTo`: the world as it is seen from another working directory, and `find?_movedTo`,
  `resolve_movedTo`: **one lookup** of a path with a root is the same there;
- `firstFile_movedTo`, `locateAll_movedTo`: searches, by induction over the paths and the routes;
- `loadJob_movedTo`, `findTree_movedTo`, `readText_movedTo`: the stages;
- `run_anywhere`: **the whole run**.
-/

namespace RouteAtlas

/-! ## Paths with a root -/

namespace Path

variable {p q : Path} {cwd cwd' : List Text}

theorem isAbsolute_parent (h : p.isAbsolute = true) : p.parent.isAbsolute = true := h

/-- What a path is resolved to has a root. -/
theorem isAbsolute_of_resolve (h : p.resolve cwd = .ok q) : q.isAbsolute = true := by
  rw [resolve] at h
  split at h
  next => cases h
  next =>
    cases h
    rfl

/-- A path with a root is resolved alike everywhere. -/
theorem resolve_eq_of_isAbsolute (h : p.isAbsolute = true) : p.resolve cwd = p.resolve cwd' := by
  simp only [resolve, h, if_true]

end Path

/-! ## Looking up from elsewhere -/

namespace World

/-- The world as it is seen from another working directory. -/
def movedTo (w : World) (cwd : List Text) : World := { w with cwd := cwd }

/-- A path with a root does not start from a home directory. -/
theorem expandHome_of_isAbsolute {p : Path} (h : p.isAbsolute = true) (w : World) :
    w.expandHome p = .ok p := by
  rw [expandHome]
  split
  next hrelative _ =>
    rw [h] at hrelative
    cases hrelative
  next => rfl

section Lookup

variable {p : Path} (h : p.isAbsolute = true) (w : World) (cwd : List Text)
include h

theorem resolve_movedTo : (w.movedTo cwd).resolve p = w.resolve p :=
  Path.resolve_eq_of_isAbsolute h

theorem find?_movedTo : (w.movedTo cwd).find? p = w.find? p := by
  simp only [find?, movedTo, h, if_true]

theorem isFile_movedTo : (w.movedTo cwd).isFile p = w.isFile p := by
  rw [isFile, isFile, find?_movedTo h]

theorem isFolder_movedTo : (w.movedTo cwd).isFolder p = w.isFolder p := by
  rw [isFolder, isFolder, find?_movedTo h]

theorem discover_movedTo (filename : Text) (denied : List Text) :
    (w.movedTo cwd).discover p filename denied = w.discover p filename denied := by
  have hbelow : ∀ q, (w.movedTo cwd).resolve (p.join q) = w.resolve (p.join q) := fun q =>
    resolve_movedTo (Path.isAbsolute_join h q) w cwd
  simp only [discover, find?_movedTo h, hbelow]

end Lookup

theorem firstFile_movedTo (w : World) (cwd : List Text) {ps : List Path}
    (h : ∀ p ∈ ps, p.isAbsolute = true) : (w.movedTo cwd).firstFile ps = w.firstFile ps := by
  induction ps with
  | nil => rfl
  | cons p ps ih =>
    obtain ⟨hp, hps⟩ := List.forall_mem_cons.mp h
    rw [firstFile, firstFile, isFile_movedTo hp, resolve_movedTo hp, ih hps]

theorem locate_movedTo {folder : Path} (h : folder.isAbsolute = true) (w : World) (cwd : List Text)
    (specifier : Text) (extensions : List Text) :
    (w.movedTo cwd).locate folder specifier extensions =
      w.locate folder specifier extensions := by
  have hcandidates : ∀ p ∈ candidates folder specifier.strip extensions,
      p.isAbsolute = true := by
    intro p hp
    obtain ⟨extension, -, rfl⟩ := List.mem_map.mp hp
    exact isAbsolute_candidate h specifier.strip extension
  rw [locate, locate]
  simp only [firstFile_movedTo w cwd hcandidates]

/-- What a discovered path is has been resolved. -/
theorem isAbsolute_of_discover {w : World} {p found : Path} {filename : Text} {denied : List Text}
    (h : w.discover p filename denied = .ok (some (some found))) : found.isAbsolute = true := by
  obtain ⟨es, chain, -, -, hresolve⟩ := exists_chain_of_discover h
  exact Path.isAbsolute_of_resolve hresolve

end World

/-! ## The stages from elsewhere -/

section Stages

variable {w : World} {job : Job} {workspace tree : Path} (cwd : List Text)

/-- A workspace with a root is the same folder from everywhere. -/
theorem workspacePath_movedTo (h : job.workspace.startsWith "/" = true) :
    job.workspacePath (w.movedTo cwd) = job.workspacePath w := by
  have hroot := Path.isAbsolute_ofText_iff.mpr (List.isPrefixOf_iff_prefix.mp h)
  simp only [Job.workspacePath, World.expandHome_of_isAbsolute hroot]
  exact World.resolve_movedTo hroot w cwd

theorem isAbsolute_of_workspacePath (h : job.workspacePath w = .ok workspace) :
    workspace.isAbsolute = true := by
  obtain ⟨p, -, hresolve⟩ := bind_eq_ok.mp h
  exact Path.isAbsolute_of_resolve hresolve

/-- The route tree that a job names is the same file from everywhere: it has a root of its own, also
where it starts from a home directory that has one, or else it lies below the workspace. -/
theorem routeTreePath?_movedTo (h : job.workspace.startsWith "/" = true) :
    job.routeTreePath? (w.movedTo cwd) = job.routeTreePath? w := by
  rw [Job.routeTreePath?, Job.routeTreePath?]
  split
  next => rfl
  next => rfl
  next t _ _ =>
    show (w.expandHome (Path.ofText t) >>= _) = (w.expandHome (Path.ofText t) >>= _)
    cases w.expandHome (Path.ofText t) with
    | error e => rfl
    | ok p =>
      by_cases hp : p.isAbsolute = true
      · simp only [bind, Except.bind, hp, if_true, World.resolve_movedTo hp]
      · simp only [bind, Except.bind, hp, workspacePath_movedTo cwd h]
        cases hworkspace : job.workspacePath w with
        | error e => rfl
        | ok folder =>
          have hjoin := Path.isAbsolute_join (isAbsolute_of_workspacePath hworkspace) p
          simp only [World.resolve_movedTo hjoin]
          rfl

theorem isAbsolute_of_routeTreePath? (h : job.routeTreePath? w = .ok (some tree)) :
    tree.isAbsolute = true := by
  unfold Job.routeTreePath? at h
  split at h
  next => cases h
  next => cases h
  next =>
    obtain ⟨p, -, h⟩ := bind_eq_ok.mp h
    split at h
    next =>
      obtain ⟨q, hresolve, h⟩ := bind_eq_ok.mp h
      cases h
      exact Path.isAbsolute_of_resolve hresolve
    next =>
      obtain ⟨folder, -, h⟩ := bind_eq_ok.mp h
      obtain ⟨q, hresolve, h⟩ := bind_eq_ok.mp h
      cases h
      exact Path.isAbsolute_of_resolve hresolve

theorem namedTree?_movedTo (h : job.workspace.startsWith "/" = true) :
    namedTree? (w.movedTo cwd) job = namedTree? w job := by
  rw [namedTree?, namedTree?, routeTreePath?_movedTo cwd h]
  cases htree : job.routeTreePath? w with
  | error e => rfl
  | ok found =>
    cases found with
    | none => rfl
    | some p =>
      show (ofPath ((w.movedTo cwd).isFile p) >>= _) = (ofPath (w.isFile p) >>= _)
      rw [World.isFile_movedTo (isAbsolute_of_routeTreePath? htree)]

theorem findTree_movedTo (h : job.workspace.startsWith "/" = true)
    (hworkspace : workspace.isAbsolute = true) :
    findTree (w.movedTo cwd) job workspace = findTree w job workspace := by
  rw [findTree, findTree, namedTree?_movedTo cwd h, discoverTree, discoverTree,
    World.discover_movedTo hworkspace]

/-- The route tree that was found has a root. -/
theorem isAbsolute_of_findTree (h : findTree w job workspace = .ok tree) :
    tree.isAbsolute = true := by
  obtain ⟨named, hnamed, h⟩ := bind_eq_ok.mp h
  cases named with
  | some p =>
    cases h
    obtain ⟨found, hfound, hnamed⟩ := bind_eq_ok.mp hnamed
    cases found with
    | none => cases hnamed
    | some q =>
      obtain ⟨there, -, hnamed⟩ := bind_eq_ok.mp hnamed
      cases there with
      | false => cases hnamed
      | true =>
        cases hnamed
        exact isAbsolute_of_routeTreePath? (ofPath_eq_ok.mp hfound)
  | none =>
    obtain ⟨found, hfound, h⟩ := bind_eq_ok.mp h
    match found, h with
    | some (some p), h =>
      cases h
      exact World.isAbsolute_of_discover (ofPath_eq_ok.mp hfound)

theorem readText_movedTo (h : tree.isAbsolute = true) :
    readText (w.movedTo cwd) tree = readText w tree := by
  rw [readText, readText, World.find?_movedTo h]

theorem locateAll_movedTo {folder : Path} (h : folder.isAbsolute = true) (extensions : List Text)
    (routes : List Route) :
    locateAll (w.movedTo cwd) folder extensions routes = locateAll w folder extensions routes := by
  induction routes with
  | nil => rfl
  | cons r routes ih => rw [locateAll, locateAll, World.locate_movedTo h, ih]

theorem display_movedTo (htree : tree.isAbsolute = true) (hworkspace : workspace.isAbsolute = true)
    (cwd' : List Text) : Path.display cwd tree workspace = Path.display cwd' tree workspace := by
  rw [Path.display, Path.display, Path.resolve_eq_of_isAbsolute htree,
    Path.resolve_eq_of_isAbsolute hworkspace]

end Stages

/-! ## Runs from elsewhere -/

/-- The workspace of a valid payload is the text under its name. -/
theorem Job.workspace_of_ofJson {payload : Json} {workspace : Text} {job : Job}
    (hfield : payload.field? (Text.ofString "workspace") = some (.string workspace))
    (h : ofJson payload = .ok job) : job.workspace = workspace := by
  obtain ⟨ms, rfl⟩ := exists_object_of_ofJson h
  obtain ⟨hworkspace, -⟩ := ofJson_object_eq_ok.mp h
  rw [checkField_of_some hfield] at hworkspace
  exact (Except.ok.inj hworkspace).symm

section Run

variable {payload : Json} {workspace : Text}
  (hfield : payload.field? (Text.ofString "workspace") = some (.string workspace))
  (hroot : workspace.startsWith "/" = true)
include hfield hroot

theorem loadJob_movedTo (w : World) (cwd : List Text) :
    loadJob (w.movedTo cwd) payload = loadJob w payload := by
  rw [loadJob, loadJob]
  cases hjob : Job.ofJson payload with
  | error vs => rfl
  | ok job =>
    have hslash : job.workspace.startsWith "/" = true := by
      rw [Job.workspace_of_ofJson hfield hjob]
      exact hroot
    show (ofPath (job.workspacePath (w.movedTo cwd)) >>= _) =
      (ofPath (job.workspacePath w) >>= _)
    rw [workspacePath_movedTo cwd hslash]
    cases hworkspace : job.workspacePath w with
    | error e => rfl
    | ok folder =>
      show (ofPath ((w.movedTo cwd).isFolder folder) >>= _) = (ofPath (w.isFolder folder) >>= _)
      rw [World.isFolder_movedTo (isAbsolute_of_workspacePath hworkspace)]

/-- The run of such a payload is the same after moving elsewhere. -/
theorem run_movedTo (w : World) (cwd : List Text) (payloadSource : Text) :
    (w.movedTo cwd).run payload payloadSource = w.run payload payloadSource := by
  rw [World.run, World.run, loadJob_movedTo hfield hroot]
  cases hload : loadJob w payload with
  | error e => rfl
  | ok pair =>
    obtain ⟨job, folder⟩ := pair
    obtain ⟨hjob, hfolder, -⟩ := loadJob_eq_ok.mp hload
    have hfolder := isAbsolute_of_workspacePath hfolder
    have hslash : job.workspace.startsWith "/" = true := by
      rw [Job.workspace_of_ofJson hfield hjob]
      exact hroot
    show (atStage .discover (findTree (w.movedTo cwd) job folder) >>= _) =
      (atStage .discover (findTree w job folder) >>= _)
    rw [findTree_movedTo cwd hslash hfolder]
    cases hfind : findTree w job folder with
    | error e => rfl
    | ok tree =>
      -- from here on every path is the route tree, its folder, or made from them
      have htree := isAbsolute_of_findTree hfind
      have hparent := Path.isAbsolute_parent htree
      show (atStage .read (readText (w.movedTo cwd) tree) >>= _) =
        (atStage .read (readText w tree) >>= _)
      have hparse : parseTree (w.movedTo cwd) = parseTree w := rfl
      simp only [readText_movedTo cwd htree, hparse, locateAll_movedTo cwd hparent,
        display_movedTo (w.movedTo cwd).cwd htree hfolder w.cwd]

end Run

/-- **The working directory does not matter.** Let the workspace of a payload be a text that starts
with a slash. Then its run is the same, result or failure, in any two worlds that have everything
but the working directory in common. -/
theorem run_anywhere {payload : Json} {workspace : Text}
    (hfield : payload.field? (Text.ofString "workspace") = some (.string workspace))
    (hroot : workspace.startsWith "/" = true) {w w' : World} (hmoved : w = w'.movedTo w.cwd)
    (payloadSource : Text) : w.run payload payloadSource = w'.run payload payloadSource := by
  rw [hmoved]
  exact run_movedTo hfield hroot w' w.cwd payloadSource

/-! ## A route tree that is named from its workspace -/

/-- A payload with a workspace that has a root, and a route tree below it. -/
def rootedPayload : Json :=
  .object [(Text.ofString "workspace", .string (Text.ofString "/")),
    (Text.ofString "route_tree", .string (Text.ofString "t"))]

/-- Its job. -/
def rootedJob : Job :=
  { Job.standard with workspace := Text.ofString "/", routeTree := some (Text.ofString "t") }

/-- From a directory that is not even there, the run of this payload still succeeds. -/
theorem run_anywhere_nowhere :
    ∃ report, (oneSourceMissing.movedTo [Text.ofString "x"]).run rootedPayload [] = .ok report ∧
      report.routes = twiceLocated := by
  have hload : loadJob oneSourceMissing rootedPayload = .ok (rootedJob, .absolute []) := rfl
  obtain ⟨parsed, hsurvey⟩ := surveyed_pathListedTwice
  have hrooted : Surveyed oneSourceMissing rootedJob (.absolute []) (.absolute [Text.ofString "t"])
      pathListedTwice parsed twiceLocated :=
    ⟨rfl, hsurvey.read, hsurvey.accepted, hsurvey.located⟩
  have hrun : oneSourceMissing.run rootedPayload [] =
      .ok (surveyReport [] (Text.ofString "t") (.absolute [Text.ofString "t"]) pathListedTwice
        twiceLocated none) := run_of_surveyed hload hrooted []
  have hfield : rootedPayload.field? (Text.ofString "workspace") =
      some (.string (Text.ofString "/")) := rfl
  have hroot : (Text.ofString "/").startsWith "/" = true := rfl
  exact ⟨_, (run_anywhere hfield hroot rfl []).trans hrun, rfl⟩

end RouteAtlas
