import RouteAtlas.Proofs.Files.Locate
import RouteAtlas.Proofs.Workflow.WorkingDirectory

/-!
# Naming the route tree that is discovered

A route tree is found in two ways: a payload names it, and its text is read as a path, or the
folders of the workspace are searched for it. A search takes whatever is no folder, and does not
open it; a path that is named must lead to a file. So both ways lead to the same path where a file
lies whose path is short enough to be opened, and only there:

- `findTree_of_no_name`: a job without a route tree searches for it;
- `at?_of_discoverTree`: what it finds is no folder, and lies behind names;
- `findTree_of_name`: what a job finds that gives the text of a path of names;
- `run_of_findTree`: a run sees of its payload only what is left to do with the route tree;
- `run_named`: **naming the route tree that is discovered** changes nothing in the run if it is a
  file with a path that is short enough, and is a failure if not.
-/

namespace RouteAtlas

variable {w : World} {job : Job} {workspace tree : Path}

/-! ## Finding the route tree -/

/-- The workspace of a job is a path without double points. -/
theorem exists_absolute_of_workspacePath (h : job.workspacePath w = .ok workspace) :
    ∃ ns, workspace = .absolute ns ∧ upward ∉ ns := by
  obtain ⟨p, -, hresolve⟩ := bind_eq_ok.mp h
  exact Path.exists_absolute_of_resolve hresolve

/-- A job that names no route tree searches for one. -/
theorem findTree_of_no_name (h : job.routeTree = none ∨ job.routeTree = some []) :
    findTree w job workspace = discoverTree w job workspace := by
  have hpath : job.routeTreePath? w = .ok none := by
    rw [Job.routeTreePath?]
    rcases h with h | h
    · rw [h]
    · rw [h]
  rw [findTree, namedTree?, hpath]
  rfl

/-- **The route tree that is discovered** is no folder, and its path is that of its names. -/
theorem at?_of_discoverTree (hlawful : w.files.Lawful)
    (hworkspace : job.workspacePath w = .ok workspace)
    (h : discoverTree w job workspace = .ok tree) :
    ∃ ms t, tree = .absolute ms ∧ w.files.at? ms = some t ∧ t.isFolder = false := by
  obtain ⟨ns, rfl, hup⟩ := exists_absolute_of_workspacePath hworkspace
  obtain ⟨found, hfound, h⟩ := bind_eq_ok.mp h
  match found, h with
  | some (some p), h =>
    cases h
    exact World.at?_of_discover hlawful hup (ofPath_eq_ok.mp hfound)

/-- The text of a path of names is no empty text, so a job that gives it names that path. -/
theorem routeTreePath?_of_name {ms : List Text} (hnames : ∀ n ∈ ms, n.IsName)
    (hname : job.routeTree = some (Path.absolute ms).toText) :
    job.routeTreePath? w = .ok (some (.absolute ms)) := by
  have hexpand : w.expandHome (.absolute ms) = .ok (.absolute ms) :=
    World.expandHome_of_isAbsolute rfl w
  have hup : upward ∉ ms := fun hmem => (hnames upward hmem).notUpward rfl
  have hresolve : w.resolve (.absolute ms) = .ok (.absolute ms) :=
    Path.resolve_absolute hup (fun n hn => (hnames n hn).nameable) w.cwd
  rw [Job.routeTreePath?, hname, Path.toText_absolute]
  show (w.expandHome (Path.ofText (Path.absolute ms).toText) >>= _) = _
  rw [Path.ofText_toText fun n hn => (hnames n hn).isPart, hexpand]
  show (w.resolve (.absolute ms) >>= _) = _
  rw [hresolve]
  rfl

/-- **A route tree that is named** by a path of names is found there if that is a file. -/
theorem findTree_of_name {ms : List Text} (hnames : ∀ n ∈ ms, n.IsName)
    (hname : job.routeTree = some (Path.absolute ms).toText) :
    findTree w job workspace = (match w.isFile (.absolute ms) with
      | .error fault => .error (.path fault)
      | .ok true => .ok (.absolute ms)
      | .ok false => .error (.routeTreeMissing (Path.absolute ms).toText)) := by
  rw [findTree, namedTree?, routeTreePath?_of_name hnames hname]
  show ((ofPath (w.isFile (.absolute ms)) >>= _) >>= _) = _
  rcases w.isFile (.absolute ms) with fault | (_ | _) <;> rfl

/-! ## Running with it -/

/-- Two payloads have the same run once they have led to the same workspace and the same route tree,
and ask for the same route among the same sources. -/
theorem run_of_findTree {payload payload' : Json} {job' : Job}
    (hload : loadJob w payload = .ok (job, workspace))
    (hload' : loadJob w payload' = .ok (job', workspace))
    (hfind : findTree w job workspace = .ok tree) (hfind' : findTree w job' workspace = .ok tree)
    (hroute : job.route = job'.route) (hextensions : job.extensions = job'.extensions)
    (payloadSource : Text) : w.run payload payloadSource = w.run payload' payloadSource := by
  have hselect : selectFor job = selectFor job' := by
    funext routes
    rw [selectFor, selectFor, hroute]
  rw [run_of_found hload hfind, run_of_found hload' hfind', runOn, runOn, hextensions, hselect]

/-- A run ends where no route tree is found. -/
theorem run_of_findTree_error {payload : Json} {cause : Cause}
    (hload : loadJob w payload = .ok (job, workspace))
    (hfind : findTree w job workspace = .error cause) (payloadSource : Text) :
    w.run payload payloadSource = .error ⟨.discover, cause⟩ := by
  rw [World.run, hload]
  show (atStage .discover (findTree w job workspace) >>= _) = _
  rw [hfind]
  rfl

/-- **Naming the route tree that is discovered.** In a file system, let a payload that names no
route tree describe a job whose route tree is discovered, and compare its run with that of the
payload that names it by the text of its path. If it is a file with a path that is short enough, the
two runs are the same, whether they end in a report or in a failure. If the path is too long, both
fail for it, the one where the file is read and the other where it is looked for. And if it is no
file, the second payload fails for its being none. -/
theorem run_named (hlawful : w.files.Lawful) {payload : Json} (hno : Job.NamesNoTree payload)
    (hload : loadJob w payload = .ok (job, workspace))
    (htree : discoverTree w job workspace = .ok tree) (payloadSource : Text) :
    let named := payload.withField (Text.ofString "route_tree") (.string tree.toText)
    (tree.toText.byteCount < World.pathLimit → w.files.holdsFileAt tree.parts = true →
      w.run named payloadSource = w.run payload payloadSource) ∧
    (World.pathLimit ≤ tree.toText.byteCount →
      w.run payload payloadSource = .error ⟨.read, .path (.tooLong tree.toText)⟩ ∧
        w.run named payloadSource = .error ⟨.discover, .path (.tooLong tree.toText)⟩) ∧
    (tree.toText.byteCount < World.pathLimit → w.files.holdsFileAt tree.parts = false →
      w.run named payloadSource = .error ⟨.discover, .routeTreeMissing tree.toText⟩) := by
  intro named
  obtain ⟨hjob, hworkspace, hfolder⟩ := loadJob_eq_ok.mp hload
  obtain ⟨ms, t, rfl, hat, -⟩ := at?_of_discoverTree hlawful hworkspace htree
  have hnames := (hlawful.at? hat).2
  have hup : upward ∉ ms := fun hmem => (hnames upward hmem).notUpward rfl
  -- the two jobs differ in the route tree only
  have hnamed := Job.ofJson_withRouteTree hjob (Path.absolute ms).toText
  have hload' : loadJob w named = .ok (_, workspace) :=
    loadJob_eq_ok.mpr ⟨hnamed, hworkspace, hfolder⟩
  have hfind : findTree w job workspace = .ok (.absolute ms) := by
    rw [findTree_of_no_name (Job.routeTree_of_namesNoTree hno hjob), htree]
  have hfind' : findTree w { job with routeTree := some (Path.absolute ms).toText } workspace = _ :=
    findTree_of_name hnames rfl
  have hprobe : (Path.absolute ms).toText.byteCount < World.pathLimit →
      w.isFile (.absolute ms) = .ok (w.files.holdsFileAt ms) := fun hshort =>
    World.isFile_of_fits hlawful rfl hup ⟨hshort, fun n hn => (hnames n hn).short⟩
  refine ⟨fun hshort hfile => ?_, fun hlong => ?_, fun hshort hfile => ?_⟩
  · rw [hprobe hshort, show w.files.holdsFileAt ms = true from hfile] at hfind'
    exact run_of_findTree hload' hload hfind' hfind rfl rfl payloadSource
  · have hfault : w.find? (.absolute ms) = .error (.tooLong (Path.absolute ms).toText) :=
      World.find?_eq_error_iff.mpr
        ⟨⟨Path.nameable_toText.mpr fun n hn => (hnames n hn).nameable, .inl hlong⟩, rfl⟩
    constructor
    · rw [run_of_found hload hfind, runOn, readText, hfault]
      rfl
    · rw [World.isFile, hfault] at hfind'
      exact run_of_findTree_error hload' hfind' payloadSource
  · rw [hprobe hshort, show w.files.holdsFileAt ms = false from hfile] at hfind'
    exact run_of_findTree_error hload' hfind' payloadSource

/-! ## A route tree that is searched for and then named -/

/-- A payload that searches a folder for a route tree of the given name, and its job. -/
def searchPayload (folder filename : String) : Json :=
  .object [(Text.ofString "workspace", .string (Text.ofString folder)),
    (Text.ofString "filters",
      .object [(Text.ofString "route_tree_filename", .string (Text.ofString filename))])]

@[inherit_doc searchPayload]
def searchJob (folder filename : String) : Job :=
  { Job.standard with
    workspace := Text.ofString folder
    filters := { Filters.standard with filename := Text.ofString filename } }

theorem lawful_oneSourceMissing : oneSourceMissing.files.Lawful := by
  refine .folder (by decide) (by decide) ?_
  rintro e (_ | ⟨_, _ | ⟨_, ⟨⟩⟩⟩)
  · exact .file _
  · exact .file _

/-- Both runs succeed, and they give the same report. -/
theorem run_named_pathListedTwice :
    ∃ report, oneSourceMissing.run (searchPayload "/" "t") [] = .ok report ∧
      oneSourceMissing.run ((searchPayload "/" "t").withField (Text.ofString "route_tree")
        (.string (Text.ofString "/t"))) [] = .ok report := by
  have hload : loadJob oneSourceMissing (searchPayload "/" "t") =
      .ok (searchJob "/" "t", .absolute []) := rfl
  have htree : discoverTree oneSourceMissing (searchJob "/" "t") (.absolute []) =
      .ok (.absolute [Text.ofString "t"]) := rfl
  obtain ⟨parsed, hsurvey⟩ := surveyed_pathListedTwice
  have hsearched : Surveyed oneSourceMissing (searchJob "/" "t") (.absolute [])
      (.absolute [Text.ofString "t"]) pathListedTwice parsed twiceLocated :=
    ⟨htree, hsurvey.read, hsurvey.accepted, hsurvey.located⟩
  have hrun : oneSourceMissing.run (searchPayload "/" "t") [] =
      .ok (surveyReport [] (Text.ofString "t") (.absolute [Text.ofString "t"]) pathListedTwice
        twiceLocated none) := run_of_surveyed hload hsearched []
  obtain ⟨hsame, -, -⟩ := run_named lawful_oneSourceMissing (.inl rfl) hload htree []
  exact ⟨_, hrun, (hsame (by decide) rfl).trans hrun⟩

/-- A world with a device that reads as nothing. -/
def nullWorld : World where
  files := .folder [(Text.ofString "dev", .folder [(Text.ofString "null", .device [])])]
  cwd := []
  env := []

theorem lawful_nullWorld : nullWorld.files.Lawful := by
  have hdev : (FileTree.folder [(Text.ofString "null", .device [])]).Lawful :=
    .folder (by decide) (by decide) (by simpa using .device [])
  exact .folder (by decide) (by decide) (by simpa using hdev)

/-- A device is found by a search, and read as an empty script; it cannot be named. -/
theorem run_named_null :
    nullWorld.files.Lawful ∧ Job.NamesNoTree (searchPayload "/dev" "null") ∧
      discoverTree nullWorld (searchJob "/dev" "null") (.absolute [Text.ofString "dev"]) =
        .ok (.ofText (Text.ofString "/dev/null")) ∧
      (∃ report, nullWorld.run (searchPayload "/dev" "null") [] = .ok report) ∧
      nullWorld.run ((searchPayload "/dev" "null").withField (Text.ofString "route_tree")
        (.string (Text.ofString "/dev/null"))) [] =
          .error ⟨.discover, .routeTreeMissing (Text.ofString "/dev/null")⟩ := by
  have hload : loadJob nullWorld (searchPayload "/dev" "null") =
      .ok (searchJob "/dev" "null", .absolute [Text.ofString "dev"]) := rfl
  have htree : discoverTree nullWorld (searchJob "/dev" "null") (.absolute [Text.ofString "dev"]) =
      .ok (.absolute [Text.ofString "dev", Text.ofString "null"]) := rfl
  have hitems : Script.parse? [] = some [] := @Script.parse?_script [] nofun nofun
  have hroutes : (RouteTree.routes ⟨[], .ofItems []⟩) = [] := List.mergeSort_nil
  have hsurvey : Surveyed nullWorld (searchJob "/dev" "null") (.absolute [Text.ofString "dev"])
      (.absolute [Text.ofString "dev", Text.ofString "null"]) [] ⟨[], .ofItems []⟩ [] :=
    ⟨htree, rfl, RouteTree.parse?_of_items hitems, by rw [hroutes]; rfl⟩
  exact ⟨lawful_nullWorld, .inl rfl, htree, ⟨_, run_of_surveyed hload hsurvey []⟩, rfl⟩

end RouteAtlas
