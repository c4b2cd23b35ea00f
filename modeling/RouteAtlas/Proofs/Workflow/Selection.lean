import RouteAtlas.Proofs.Job.Validate
import RouteAtlas.Proofs.Routes.Listing
import RouteAtlas.Proofs.Script.Generated
import RouteAtlas.Proofs.Workflow.Run

/-!
# Selecting agrees with listing

A run that lists routes and a run that selects one of them go through the same stages, and differ in
the stage that selects. So the second run is determined by the report of the first:

- `FirstSourced`: the first route of a path that has a source;
- `select_of_firstSourced`, `select_of_missing`, `select_of_sourceless`: what selecting returns;
- `run_withRoute`: the run that selects, in terms of the report that lists;
- `run_listing_selecting`: both runs, in terms of routes, sources and selected items.
-/

namespace RouteAtlas

/-! ## Selecting from a list -/

/-- `item` is the first of the routes that has the wanted path and a source. -/
def FirstSourced (wanted : Text) (routes : List LocatedRoute) (item : LocatedRoute) : Prop :=
  ∃ before after, routes = before ++ item :: after ∧ item.route.path = wanted ∧
    item.source ≠ none ∧ ∀ x ∈ before, x.route.path = wanted → x.source = none

variable {wanted : Text} {routes : List LocatedRoute} {item : LocatedRoute}

/-- Searching for the wanted path and a source finds the first route that has both. -/
theorem find?_eq_some_iff_firstSourced :
    (routes.find? fun r => decide (r.route.path = wanted) && r.source.isSome) = some item ↔
      FirstSourced wanted routes item := by
  rw [List.find?_eq_some_iff_append, FirstSourced]
  constructor
  · rintro ⟨hitem, before, after, rfl, hbefore⟩
    rw [Bool.and_eq_true, decide_eq_true_eq, Option.isSome_iff_ne_none] at hitem
    refine ⟨before, after, rfl, hitem.1, hitem.2, fun x hx hpath => ?_⟩
    have hx := hbefore x hx
    simpa [hpath] using hx
  · rintro ⟨before, after, rfl, hpath, hsource, hbefore⟩
    refine ⟨?_, before, after, rfl, fun x hx => ?_⟩
    · rw [Bool.and_eq_true, decide_eq_true_eq, Option.isSome_iff_ne_none]
      exact ⟨hpath, hsource⟩
    · by_cases hx' : x.route.path = wanted
      · simp [hx', hbefore x hx hx']
      · simp [hx']

/-- There is a first route with the wanted path and a source exactly when there is one at all. -/
theorem exists_firstSourced :
    (∃ item, FirstSourced wanted routes item) ↔
      ∃ x ∈ routes, x.route.path = wanted ∧ x.source ≠ none := by
  constructor
  · rintro ⟨item, before, after, rfl, hpath, hsource, -⟩
    exact ⟨item, by simp, hpath, hsource⟩
  · rintro ⟨x, hx, hpath, hsource⟩
    have hsome : (routes.find? fun r => decide (r.route.path = wanted) && r.source.isSome).isSome =
        true := by
      rw [List.find?_isSome]
      refine ⟨x, hx, ?_⟩
      rw [Bool.and_eq_true, decide_eq_true_eq, Option.isSome_iff_ne_none]
      exact ⟨hpath, hsource⟩
    obtain ⟨item, hitem⟩ := Option.isSome_iff_exists.mp hsome
    exact ⟨item, find?_eq_some_iff_firstSourced.mp hitem⟩

/-- No route has the wanted path. -/
theorem select_of_missing (h : ∀ x ∈ routes, x.route.path ≠ wanted) :
    select wanted routes = .error (.routeMissing wanted) := by
  have hempty : (routes.filter fun r => decide (r.route.path = wanted)).isEmpty = true := by
    simpa using h
  simp only [select, hempty, if_true]

/-- Where some route has the wanted path, selecting searches for a source. -/
theorem select_of_mem (h : ∃ x ∈ routes, x.route.path = wanted) :
    select wanted routes =
      match routes.find? fun r => decide (r.route.path = wanted) && r.source.isSome with
      | some r => .ok r
      | none => .error (.sourceMissing wanted) := by
  have hfilled : (routes.filter fun r => decide (r.route.path = wanted)).isEmpty = false := by
    simpa using h
  simp only [select, hfilled, List.find?_filter, decide_eq_true_eq, Bool.decide_and,
    Bool.decide_eq_true]
  rfl

/-- Routes have the wanted path, but none of them has a source. -/
theorem select_of_sourceless (h : ∃ x ∈ routes, x.route.path = wanted)
    (hnone : ∀ x ∈ routes, x.route.path = wanted → x.source = none) :
    select wanted routes = .error (.sourceMissing wanted) := by
  have hfind : (routes.find? fun r => decide (r.route.path = wanted) && r.source.isSome) =
      none := by
    rw [List.find?_eq_none]
    intro x hx hboth
    rw [Bool.and_eq_true, decide_eq_true_eq] at hboth
    rw [hnone x hx hboth.1] at hboth
    cases hboth.2
  rw [select_of_mem h, hfind]

/-- Selecting returns the first route that has the wanted path and a source. -/
theorem select_of_firstSourced (h : FirstSourced wanted routes item) :
    select wanted routes = .ok item := by
  have hmem : ∃ x ∈ routes, x.route.path = wanted := by
    obtain ⟨before, after, rfl, hpath, -, -⟩ := h
    exact ⟨item, by simp, hpath⟩
  rw [select_of_mem hmem, find?_eq_some_iff_firstSourced.mpr h]

/-! ## The two runs -/

/-- A report with a selected route is printed as the report without one, and one member more. -/
theorem Report.toJson_withSelected {report : Report} (h : report.selected = none)
    (item : LocatedRoute) :
    ∃ ms, report.toJson = .object ms ∧
      { report with selected := some item }.toJson =
        .object (ms ++ [(Text.ofString "selected", item.toJson)]) := by
  obtain ⟨payloadSource, routeTree, digest, routes, warnings, selected⟩ := report
  subst h
  exact ⟨_, rfl, rfl⟩

/-- A report without a selected route is printed without such a member. -/
theorem Report.field?_selected {report : Report} (h : report.selected = none) :
    report.toJson.field? (Text.ofString "selected") = none := by
  obtain ⟨payloadSource, routeTree, digest, routes, warnings, selected⟩ := report
  subst h
  rfl

/-- **The run that selects, in terms of the report that lists**: it goes through the same stages, so
it ends as selecting from the listed routes does. -/
theorem run_withRoute {w : World} {payload : Json} {payloadSource : Text} {report : Report}
    (h : w.run payload payloadSource = .ok report) (r : Text) :
    w.run (payload.withField (Text.ofString "route") (.string r)) payloadSource =
      match select r report.routes with
      | .ok item => .ok { report with selected := some item }
      | .error cause => .error ⟨.select, cause⟩ := by
  obtain ⟨job, workspace, tree, source, parsed, shown, hload, hsurvey, -, hshown, hreport⟩ :=
    exists_surveyed_of_run h
  obtain ⟨hjob, hworkspace, hfolder⟩ := loadJob_eq_ok.mp hload
  -- the route of a job is read by no stage before the one that selects
  have hload' : loadJob w (payload.withField (Text.ofString "route") (.string r)) =
      .ok ({ job with route := some r }, workspace) :=
    loadJob_eq_ok.mpr ⟨Job.ofJson_withRoute hjob r, hworkspace, hfolder⟩
  rw [run_of_surveyed hload' (hsurvey.withRoute (some r)), hshown]
  show (atStage .select ((select r report.routes).map some) >>= _) = _
  cases select r report.routes with
  | error cause => rfl
  | ok item =>
    show Except.ok (surveyReport payloadSource shown tree source report.routes (some item)) =
      .ok { report with selected := some item }
    rw [hreport]
    rfl

/-- What a run that asks for a route comes to, where listing the routes gave `report`: it succeeds
exactly when a listed route has the path and a source, and then it adds to the report the first of
them; otherwise it fails in the stage that selects, for want of a route or for want of a source. -/
structure AgreesWithListing (report : Report) (r : Text) (outcome : Except Failure Report) :
    Prop where
  succeeds_iff : (∃ selecting, outcome = .ok selecting) ↔
    ∃ item ∈ report.routes, item.route.path = r ∧ item.source ≠ none
  adds_first : ∀ selecting, outcome = .ok selecting → ∃ item, FirstSourced r report.routes item ∧
    selecting = { report with selected := some item } ∧
    ∃ ms, report.toJson = .object ms ∧
      selecting.toJson = .object (ms ++ [(Text.ofString "selected", item.toJson)])
  fails_missing : (∀ item ∈ report.routes, item.route.path ≠ r) →
    outcome = .error ⟨.select, .routeMissing r⟩
  fails_sourceless : (∃ item ∈ report.routes, item.route.path = r) →
    (∀ item ∈ report.routes, item.route.path = r → item.source = none) →
    outcome = .error ⟨.select, .sourceMissing r⟩

/-- Selecting from the routes of a report agrees with the report. -/
theorem agreesWithListing_select {report : Report} (hnone : report.selected = none) (r : Text) :
    AgreesWithListing report r
      (match select r report.routes with
      | .ok item => .ok { report with selected := some item }
      | .error cause => .error ⟨.select, cause⟩) := by
  by_cases hsourced : ∃ x ∈ report.routes, x.route.path = r ∧ x.source ≠ none
  · -- some listed route will do, so the first of them is selected
    obtain ⟨item, hitem⟩ := exists_firstSourced.mpr hsourced
    obtain ⟨x, hx, hpath, hsource⟩ := hsourced
    rw [select_of_firstSourced hitem]
    constructor
    · exact ⟨fun _ => ⟨x, hx, hpath, hsource⟩, fun _ => ⟨_, rfl⟩⟩
    · rintro _ ⟨⟩
      exact ⟨item, hitem, rfl, Report.toJson_withSelected hnone item⟩
    · intro hmissing
      exact absurd hpath (hmissing x hx)
    · intro _ hsourceless
      exact absurd (hsourceless x hx hpath) hsource
  · by_cases hpath : ∃ x ∈ report.routes, x.route.path = r
    · have hsourceless : ∀ x ∈ report.routes, x.route.path = r → x.source = none := by
        intro x hx hp
        exact Decidable.byContradiction fun hs => hsourced ⟨x, hx, hp, hs⟩
      rw [select_of_sourceless hpath hsourceless]
      constructor
      · exact ⟨fun ⟨_, h⟩ => (by cases h), fun h => absurd h hsourced⟩
      · exact fun _ h => nomatch h
      · intro hmissing
        obtain ⟨x, hx, hp⟩ := hpath
        exact absurd hp (hmissing x hx)
      · exact fun _ _ => rfl
    · have hmissing : ∀ x ∈ report.routes, x.route.path ≠ r := fun x hx hp => hpath ⟨x, hx, hp⟩
      rw [select_of_missing hmissing]
      constructor
      · exact ⟨fun ⟨_, h⟩ => (by cases h), fun h => absurd h hsourced⟩
      · exact fun _ h => nomatch h
      · exact fun _ => rfl
      · exact fun h => absurd h hpath

/-- **Selecting agrees with listing.** Where a payload asks for no route and its run succeeds, the
report holds the routes of the route tree in their order, each with the source located for it; it
warns exactly when there are none, and nothing is selected. The run of the same payload with any
route set agrees with that report. -/
theorem run_listing_selecting {w : World} {payload : Json} {payloadSource : Text} {report : Report}
    (hno : Job.AsksForNoRoute payload) (h : w.run payload payloadSource = .ok report) :
    (∃ job workspace tree source parsed, loadJob w payload = .ok (job, workspace) ∧
        findTree w job workspace = .ok tree ∧ readText w tree = .ok source ∧
        RouteTree.parse? source = some parsed ∧
        report.routes.map LocatedRoute.route = parsed.routes ∧
        ∀ item ∈ report.routes,
          w.locate tree.parent item.route.specifier job.extensions = .ok item.source) ∧
      (report.warnings = [] ↔ report.routes ≠ []) ∧
      report.selected = none ∧ report.toJson.field? (Text.ofString "selected") = none ∧
      ∀ r, AgreesWithListing report r
        (w.run (payload.withField (Text.ofString "route") (.string r)) payloadSource) := by
  obtain ⟨job, workspace, tree, source, parsed, shown, hload, hsurvey, hselect, -, hreport⟩ :=
    exists_surveyed_of_run h
  have hnone : report.selected = none := by
    rw [selectFor, Job.route_eq_none hno (loadJob_eq_ok.mp hload).1] at hselect
    exact (Except.ok.inj hselect).symm
  refine ⟨⟨job, workspace, tree, source, parsed, hload, hsurvey.found, hsurvey.read,
    hsurvey.accepted, locateAll_eq_ok hsurvey.located⟩, ?_, hnone, Report.field?_selected hnone, ?_⟩
  · rw [hreport]
    cases hroutes : report.routes with
    | nil => simp [surveyReport]
    | cons item items => simp [surveyReport]
  · intro r
    rw [run_withRoute h r]
    exact agreesWithListing_select hnone r

/-! ## A path listed twice, with one source -/

open Script

/-- A route tree that lists one path twice. -/
def pathListedTwice : List Char :=
  ["import \x7b R as A \x7d from \x27a\x27\n", "import \x7b R as B \x7d from \x27b\x27\n",
    "export interface FileRoutesByFullPath \x7b\n", "  \x27/\x27: typeof A\n",
    "  \x27/\x27: typeof B\n", "\x7d\n"].flatMap String.toList

/-- Its declarations. -/
def twiceDeclarations : List Declaration :=
  [.import_ "R" "A" ⟨'\x27', [.raw 'a']⟩, .import_ "R" "B" ⟨'\x27', [.raw 'b']⟩,
    .interface_ pathInterface [(⟨'\x27', [.raw '/']⟩, "A"), (⟨'\x27', [.raw '/']⟩, "B")]]

/-- A world with that route tree, and with a source for the second route only. -/
def oneSourceMissing : World where
  files := .folder [(Text.ofString "t", .file (Utf8.encode pathListedTwice)),
    (Text.ofString "b.ts", .file [])]
  cwd := []
  env := []

/-- A payload that names the route tree, and its job. -/
def treePayload : Json := .object [(Text.ofString "route_tree", .string (Text.ofString "/t"))]

@[inherit_doc treePayload]
def treeJob : Job := { Job.standard with routeTree := some (Text.ofString "/t") }

/-- The routes of that tree with their sources. -/
def twiceLocated : List LocatedRoute :=
  [⟨⟨Text.ofString "/", Text.ofString "a"⟩, none⟩,
    ⟨⟨Text.ofString "/", Text.ofString "b"⟩, some (.absolute [Text.ofString "b.ts"])⟩]

theorem surveyed_pathListedTwice :
    ∃ parsed, Surveyed oneSourceMissing treeJob (.absolute []) (.absolute [Text.ofString "t"])
      pathListedTwice parsed twiceLocated := by
  have htext : Generated.script twiceDeclarations = pathListedTwice := by decide +kernel
  have hitems : Script.parse? pathListedTwice = some (Generated.items 1 twiceDeclarations) :=
    htext ▸ parse?_script (Declaration.readable_of_all (by decide)) (by decide +kernel)
  -- the two routes have one path, so sorting leaves them as they are
  have hroutes : (Bindings.ofItems (Generated.items 1 twiceDeclarations)).routes =
      twiceLocated.map LocatedRoute.route := by
    refine (List.mergeSort_of_pairwise ?_).trans ?_
    · decide +kernel
    · decide +kernel
  refine ⟨_, rfl, ?_, RouteTree.parse?_of_items hitems, ?_⟩
  · apply eq_ok_of_toOption
    decide +kernel
  · rw [RouteTree.routes, hroutes]
    rfl

/-- Listing succeeds; asking for the path selects, and asking for another one fails. -/
theorem run_listing_selecting_pathListedTwice :
    ∃ report, oneSourceMissing.run treePayload [] = .ok report ∧
      (∃ selecting, oneSourceMissing.run
        (treePayload.withField (Text.ofString "route") (.string (Text.ofString "/"))) [] =
          .ok selecting) ∧
      oneSourceMissing.run
        (treePayload.withField (Text.ofString "route") (.string (Text.ofString "/x"))) [] =
          .error ⟨.select, .routeMissing (Text.ofString "/x")⟩ := by
  have hload : loadJob oneSourceMissing treePayload = .ok (treeJob, .absolute []) := rfl
  obtain ⟨parsed, hsurvey⟩ := surveyed_pathListedTwice
  have hrun : oneSourceMissing.run treePayload [] =
      .ok (surveyReport [] (Text.ofString "t") (.absolute [Text.ofString "t"]) pathListedTwice
        twiceLocated none) := run_of_surveyed hload hsurvey []
  obtain ⟨-, -, -, -, hagrees⟩ := run_listing_selecting (.inl rfl) hrun
  refine ⟨_, hrun, ?_, ?_⟩
  · exact (hagrees (Text.ofString "/")).succeeds_iff.mpr ⟨_, .tail _ (.head _), rfl, by decide⟩
  · exact (hagrees (Text.ofString "/x")).fails_missing (by decide)

end RouteAtlas
