import RouteAtlas.Workflow.Run

/-!
# What the stages of a run establish

A run is a chain of stages, each of which may fail. The chain is taken apart once here:

- `Surveyed`: what the stages between loading the job and selecting a route have found;
- `runOn`, `run_of_found`: what is left of a run when its route tree is found;
- `run_of_accepted`: a run whose route tree is accepted locates its routes, selects and reports;
- `run_of_surveyed`: a run whose survey is known only selects and reports;
- `exists_surveyed_of_run`: a run that succeeds has such a survey, and reports what it found;
- `readText_of_find?`, `exists_bytes_of_readText`: reading is decoding bytes;
- `locateAll_eq_ok`: locating pairs every route with its own source, by induction over the routes.
-/

namespace RouteAtlas

/-! ## Chains of stages -/

section Chain

variable {ε ε' α β : Type}

/-- A chain of two stages succeeds when the first does and the second does on its result. -/
theorem bind_eq_ok {x : Except ε α} {f : α → Except ε β} {b : β} :
    (x >>= f) = .ok b ↔ ∃ a, x = .ok a ∧ f a = .ok b := by
  cases x with
  | error e => simp [bind, Except.bind]
  | ok a => simp [bind, Except.bind]

/-- Renaming errors changes no success. -/
theorem mapError_eq_ok {x : Except ε α} {f : ε → ε'} {a : α} :
    x.mapError f = .ok a ↔ x = .ok a := by
  cases x with
  | error e =>
    show Except.error (f e) = .ok a ↔ _
    simp
  | ok b =>
    show Except.ok b = .ok a ↔ _
    simp

/-- A success is known from the value that is left of it. -/
theorem eq_ok_of_toOption {x : Except ε α} {a : α} (h : x.toOption = some a) : x = .ok a := by
  cases x with
  | error e => cases h
  | ok b => exact congrArg Except.ok (Option.some.inj h)

theorem atStage_eq_ok {stage : Stage} {x : Except Cause α} {a : α} :
    atStage stage x = .ok a ↔ x = .ok a := mapError_eq_ok

theorem ofPath_eq_ok {x : Except PathFault α} {a : α} : ofPath x = .ok a ↔ x = .ok a :=
  mapError_eq_ok

end Chain

/-! ## Single stages -/

/-- The job is loaded exactly when the payload is valid and its workspace is a folder. -/
theorem loadJob_eq_ok {w : World} {payload : Json} {job : Job} {workspace : Path} :
    loadJob w payload = .ok (job, workspace) ↔
      Job.ofJson payload = .ok job ∧ job.workspacePath w = .ok workspace ∧
        w.isFolder workspace = .ok true := by
  rw [loadJob, bind_eq_ok]
  constructor
  · rintro ⟨job', hjob, h⟩
    obtain ⟨workspace', hworkspace, h⟩ := bind_eq_ok.mp h
    obtain ⟨isFolder, hfolder, h⟩ := bind_eq_ok.mp h
    cases isFolder with
    | false => cases h
    | true =>
      cases h
      exact ⟨mapError_eq_ok.mp hjob, ofPath_eq_ok.mp hworkspace, ofPath_eq_ok.mp hfolder⟩
  · rintro ⟨hjob, hworkspace, hfolder⟩
    refine ⟨job, mapError_eq_ok.mpr hjob, bind_eq_ok.mpr ⟨workspace, ?_, ?_⟩⟩
    · exact ofPath_eq_ok.mpr hworkspace
    · exact bind_eq_ok.mpr ⟨true, ofPath_eq_ok.mpr hfolder, rfl⟩

/-- The text of what is there, by its bytes. -/
theorem readText_of_find? {w : World} {p : Path} {t : FileTree} {bytes : List Nat}
    (h : w.find? p = .ok (some t)) (hbytes : t.bytes? = some bytes) :
    readText w p = match Utf8.decode bytes with
      | .ok cs => .ok (Text.unifyNewlines cs)
      | .error fault => .error (.undecodable fault) := by
  cases t with
  | folder es => cases hbytes
  | file _ | device _ =>
    cases hbytes
    rw [readText, h]
    show ((Utf8.decode bytes).mapError Cause.undecodable >>= _) = _
    cases Utf8.decode bytes <;> rfl

/-- What is read is there. -/
theorem exists_bytes_of_readText {w : World} {p : Path} {cs : List Char}
    (h : readText w p = .ok cs) :
    ∃ t bytes, w.find? p = .ok (some t) ∧ t.bytes? = some bytes := by
  obtain ⟨found, hfind, h⟩ := bind_eq_ok.mp h
  cases hbytes : found.bind FileTree.bytes? with
  | none =>
    rw [hbytes] at h
    cases h
  | some bytes =>
    obtain ⟨t, rfl, hbytes⟩ := Option.bind_eq_some_iff.mp hbytes
    exact ⟨t, bytes, ofPath_eq_ok.mp hfind, hbytes⟩

/-- The text is parsed exactly when the script is accepted. -/
theorem parseTree_eq_ok {w : World} {source : List Char} {t : RouteTree} :
    parseTree w source = .ok t ↔ RouteTree.parse? source = some t := by
  rw [parseTree]
  cases RouteTree.parse? source <;> simp

/-- Locating keeps the routes in their order, and gives each the source of its own specifier. -/
theorem locateAll_eq_ok {w : World} {folder : Path} {extensions : List Text} :
    ∀ {rs : List Route} {found : List LocatedRoute},
      locateAll w folder extensions rs = .ok found →
        found.map LocatedRoute.route = rs ∧
          ∀ item ∈ found, w.locate folder item.route.specifier extensions = .ok item.source
  | [], _, h => by
    cases h
    exact ⟨rfl, fun _ hitem => nomatch hitem⟩
  | r :: rs, found, h => by
    -- one step locates the first route; the others are located in the same folder
    obtain ⟨source, hsource, h⟩ := bind_eq_ok.mp h
    obtain ⟨rest, hrest, h⟩ := bind_eq_ok.mp h
    cases h
    obtain ⟨hroutes, hsources⟩ := locateAll_eq_ok hrest
    refine ⟨congrArg (r :: ·) hroutes, fun item hitem => ?_⟩
    rcases List.mem_cons.mp hitem with rfl | hitem
    · exact ofPath_eq_ok.mp hsource
    · exact hsources item hitem

/-! ## The stages before selecting -/

/-- What the stages between loading a job and selecting a route have found: the route tree, its
text, what the text parses to, and every route with its source. -/
structure Surveyed (w : World) (job : Job) (workspace tree : Path) (source : List Char)
    (parsed : RouteTree) (routes : List LocatedRoute) : Prop where
  found : findTree w job workspace = .ok tree
  read : readText w tree = .ok source
  accepted : RouteTree.parse? source = some parsed
  located : locateAll w tree.parent job.extensions parsed.routes = .ok routes

/-- The survey of a job does not depend on the route that it asks for. -/
theorem Surveyed.withRoute {w : World} {job : Job} {workspace tree : Path} {source : List Char}
    {parsed : RouteTree} {routes : List LocatedRoute}
    (h : Surveyed w job workspace tree source parsed routes) (route : Option Text) :
    Surveyed w { job with route := route } workspace tree source parsed routes :=
  ⟨h.found, h.read, h.accepted, h.located⟩

/-- The report on a survey. -/
def surveyReport (payloadSource shown : Text) (tree : Path) (source : List Char)
    (routes : List LocatedRoute) (selected : Option LocatedRoute) : Report where
  payloadSource := payloadSource
  routeTree := shown
  digest := Sha256.hexDigest (Utf8.encode source)
  routes := routes
  warnings := if routes.isEmpty then [emptyWarning tree] else []
  selected := selected

/-- What a run does once its route tree is found. -/
def runOn (w : World) (job : Job) (workspace tree : Path) (payloadSource : Text) :
    Except Failure Report := do
  let source ← atStage .read (readText w tree)
  let parsed ← atStage .parseRoutes (parseTree w source)
  let routes ← atStage .locate (locateAll w tree.parent job.extensions parsed.routes)
  let selected ← atStage .select (selectFor job routes)
  let shown ← atStage .emitResult (ofPath (Path.display w.cwd tree workspace))
  return surveyReport payloadSource shown tree source routes selected

theorem run_of_found {w : World} {payload : Json} {job : Job} {workspace tree : Path}
    (hjob : loadJob w payload = .ok (job, workspace)) (hfound : findTree w job workspace = .ok tree)
    (payloadSource : Text) :
    w.run payload payloadSource = runOn w job workspace tree payloadSource := by
  rw [World.run, hjob]
  show (atStage .discover (findTree w job workspace) >>= _) = _
  rw [hfound]
  rfl

/-- A run whose route tree is accepted goes on to locate its routes. -/
theorem run_of_accepted {w : World} {payload : Json} {job : Job} {workspace tree : Path}
    {source : List Char} {parsed : RouteTree}
    (hjob : loadJob w payload = .ok (job, workspace)) (hfound : findTree w job workspace = .ok tree)
    (hread : readText w tree = .ok source) (haccepted : RouteTree.parse? source = some parsed)
    (payloadSource : Text) :
    w.run payload payloadSource = (do
      let routes ← atStage .locate (locateAll w tree.parent job.extensions parsed.routes)
      let selected ← atStage .select (selectFor job routes)
      let shown ← atStage .emitResult (ofPath (Path.display w.cwd tree workspace))
      return surveyReport payloadSource shown tree source routes selected) := by
  rw [run_of_found hjob hfound, runOn, hread]
  show (atStage .parseRoutes (parseTree w source) >>= _) = _
  rw [parseTree_eq_ok.mpr haccepted]
  rfl

/-- A run whose survey is known only selects a route and reports. -/
theorem run_of_surveyed {w : World} {payload : Json} {job : Job} {workspace tree : Path}
    {source : List Char} {parsed : RouteTree} {routes : List LocatedRoute}
    (hjob : loadJob w payload = .ok (job, workspace))
    (h : Surveyed w job workspace tree source parsed routes) (payloadSource : Text) :
    w.run payload payloadSource = (do
      let selected ← atStage .select (selectFor job routes)
      let shown ← atStage .emitResult (ofPath (Path.display w.cwd tree workspace))
      return surveyReport payloadSource shown tree source routes selected) := by
  rw [run_of_accepted hjob h.found h.read h.accepted, h.located]
  rfl

/-- A run that succeeds has a survey, and reports it with what was selected. -/
theorem exists_surveyed_of_run {w : World} {payload : Json} {payloadSource : Text}
    {report : Report} (h : w.run payload payloadSource = .ok report) :
    ∃ job workspace tree source parsed shown,
      loadJob w payload = .ok (job, workspace) ∧
        Surveyed w job workspace tree source parsed report.routes ∧
        selectFor job report.routes = .ok report.selected ∧
        Path.display w.cwd tree workspace = .ok shown ∧
        report = surveyReport payloadSource shown tree source report.routes report.selected := by
  obtain ⟨⟨job, workspace⟩, hjob, h⟩ := bind_eq_ok.mp h
  obtain ⟨tree, htree, h⟩ := bind_eq_ok.mp h
  obtain ⟨source, hsource, h⟩ := bind_eq_ok.mp h
  obtain ⟨parsed, hparsed, h⟩ := bind_eq_ok.mp h
  obtain ⟨routes, hroutes, h⟩ := bind_eq_ok.mp h
  obtain ⟨selected, hselected, h⟩ := bind_eq_ok.mp h
  obtain ⟨shown, hshown, h⟩ := bind_eq_ok.mp h
  cases h
  refine ⟨job, workspace, tree, source, parsed, shown, atStage_eq_ok.mp hjob, ?_, ?_, ?_, rfl⟩
  · exact ⟨atStage_eq_ok.mp htree, atStage_eq_ok.mp hsource,
      parseTree_eq_ok.mp (atStage_eq_ok.mp hparsed), atStage_eq_ok.mp hroutes⟩
  · exact atStage_eq_ok.mp hselected
  · exact ofPath_eq_ok.mp (atStage_eq_ok.mp hshown)

end RouteAtlas
