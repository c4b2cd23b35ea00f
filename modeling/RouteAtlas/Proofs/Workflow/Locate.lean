import RouteAtlas.Proofs.Files.Probe
import RouteAtlas.Proofs.Script.Spelling
import RouteAtlas.Proofs.Workflow.Selection

/-!
# Listing routes whose sources are nowhere

Where a source is nowhere, its route is listed without one. A specifier may be any text, and most
texts that no file can have as its name are nowhere too:

- `locateAll_of_blocked`, `locateAll_of_not_blocked`: locating all routes succeeds when no search is
  blocked, by induction over the routes;
- `display_of_readText`: a route tree that was read can be shown;
- `run_listing_outcome`: **listing fails only for a search that is blocked**, that is for a path
  that is too long.
-/

namespace RouteAtlas

section Locate

variable {w : World} {folder : Path} {extensions : List Text}

theorem locateAll_of_blocked :
    ∀ {rs : List Route}, (∃ r ∈ rs, w.Blocked (sourcePaths folder extensions r.specifier)) →
      ∃ t, locateAll w folder extensions rs = .error (.path (.tooLong t))
  | [], h => by
    obtain ⟨r, hr, -⟩ := h
    cases hr
  | r :: rs, h => by
    by_cases hr : w.Blocked (sourcePaths folder extensions r.specifier)
    · obtain ⟨t, ht⟩ := World.firstFile_of_blocked hr
      rw [locateAll, World.locate_eq, ht]
      exact ⟨t, rfl⟩
    · -- the first route is located, so the one that is not comes later
      have hrest : ∃ r ∈ rs, w.Blocked (sourcePaths folder extensions r.specifier) := by
        obtain ⟨r', hr', hblocked⟩ := h
        rcases List.mem_cons.mp hr' with rfl | hr'
        · exact absurd hblocked hr
        · exact ⟨r', hr', hblocked⟩
      obtain ⟨found, hfound, -⟩ := World.firstFile_of_not_blocked hr
      obtain ⟨t, ht⟩ := locateAll_of_blocked hrest
      rw [locateAll, World.locate_eq, hfound, ht]
      exact ⟨t, rfl⟩

theorem locateAll_of_not_blocked :
    ∀ {rs : List Route}, (∀ r ∈ rs, ¬w.Blocked (sourcePaths folder extensions r.specifier)) →
      ∃ located, locateAll w folder extensions rs = .ok located
  | [], _ => ⟨[], rfl⟩
  | r :: rs, h => by
    obtain ⟨hr, hrs⟩ := List.forall_mem_cons.mp h
    obtain ⟨found, hfound, -⟩ := World.firstFile_of_not_blocked hr
    obtain ⟨located, hlocated⟩ := locateAll_of_not_blocked hrs
    rw [locateAll, World.locate_eq, hfound, hlocated]
    exact ⟨_, rfl⟩

/-- A route tree that was read can be shown. -/
theorem display_of_readText {tree : Path} {source : List Char} (h : readText w tree = .ok source)
    (base : Path) : ∃ shown, Path.display w.cwd tree base = .ok shown := by
  obtain ⟨t, bytes, hfind, -⟩ := exists_bytes_of_readText h
  obtain ⟨full, hfull⟩ := World.exists_resolve_of_find? hfind
  simp only [Path.display, hfull]
  cases base.resolve w.cwd with
  | error e => exact ⟨_, rfl⟩
  | ok folder =>
    cases hbelow : Path.relativeTo? folder full with
    | none => exact ⟨full.toText, by simp only [hbelow]⟩
    | some parts => exact ⟨(Path.toText ⟨.relative, parts⟩).tidyPath, by simp only [hbelow]⟩

end Locate

/-- **Listing fails only for a search that is blocked.** Let a payload be valid and ask for no
route, and let its route tree be found, read and accepted. If the search for the source of some
route comes to a path that is too long before it comes to a file, the run fails where sources are
located. Otherwise it succeeds: it lists the routes of the tree, and one of them has no source
exactly when there is no file at any of its paths. -/
theorem run_listing_outcome {w : World} {payload : Json} {job : Job} {workspace tree : Path}
    {source : List Char} {parsed : RouteTree}
    (hload : loadJob w payload = .ok (job, workspace)) (hroute : job.route = none)
    (hfind : findTree w job workspace = .ok tree) (hread : readText w tree = .ok source)
    (hparse : RouteTree.parse? source = some parsed) (payloadSource : Text) :
    ((∃ r ∈ parsed.routes, w.Blocked (sourcePaths tree.parent job.extensions r.specifier)) →
        ∃ t, w.run payload payloadSource = .error ⟨.locate, .path (.tooLong t)⟩) ∧
      ((∀ r ∈ parsed.routes, ¬w.Blocked (sourcePaths tree.parent job.extensions r.specifier)) →
        ∃ report, w.run payload payloadSource = .ok report ∧
          report.toJson.field? (Text.ofString "ok") = some (.bool true) ∧
          report.routes.map LocatedRoute.route = parsed.routes ∧
          ∀ item ∈ report.routes, item.source = none ↔
            ∀ p ∈ sourcePaths tree.parent job.extensions item.route.specifier,
              w.isFile p = .ok false) := by
  constructor
  · intro hblocked
    obtain ⟨t, ht⟩ := locateAll_of_blocked hblocked
    refine ⟨t, ?_⟩
    rw [run_of_accepted hload hfind hread hparse, ht]
    rfl
  · intro hfree
    obtain ⟨located, hlocated⟩ := locateAll_of_not_blocked hfree
    obtain ⟨shown, hshown⟩ := display_of_readText hread workspace
    have hselect : selectFor job located = .ok none := by
      rw [selectFor, hroute]
    have hrun : w.run payload payloadSource =
        .ok (surveyReport payloadSource shown tree source located none) := by
      rw [run_of_surveyed hload ⟨hfind, hread, hparse, hlocated⟩, hselect, hshown]
      rfl
    obtain ⟨hroutes, hsources⟩ := locateAll_eq_ok hlocated
    refine ⟨_, hrun, rfl, hroutes, fun item hitem => ?_⟩
    have hlisted : item.route ∈ parsed.routes := hroutes ▸ List.mem_map_of_mem hitem
    obtain ⟨found, hfound, hnone⟩ := World.firstFile_of_not_blocked (hfree item.route hlisted)
    have hitemSource := hsources item hitem
    rw [World.locate_eq, hfound, Except.ok.injEq] at hitemSource
    rw [← hitemSource]
    exact hnone

/-! ## A module that no file can be named after, and one with a name that is too long -/

open Script

/-- A script with one route, whose module stands between the quotes as it is given. -/
def oneRoute (specifier : List Char) : List Char :=
  "import \x7b R as A \x7d from \x27".toList ++ specifier ++
    "\x27\nexport interface FileRoutesByFullPath \x7b\n  \x27/\x27: typeof A\n\x7d\n".toList

/-- A world with that script alone. -/
def oneRouteWorld (specifier : List Char) : World where
  files := .folder [(Text.ofString "t", .file (Utf8.encode (oneRoute specifier)))]
  cwd := []
  env := []

/-- The path of that script. -/
def scriptPath : Path := .absolute [Text.ofString "t"]

/-- The declarations of that script. -/
def oneRouteDeclarations (specifier : Literal) : List Declaration :=
  [.import_ "R" "A" specifier, .interface_ pathInterface [(⟨'\x27', [.raw '/']⟩, "A")]]

/-- What they bind and list. -/
def oneRouteBindings (specifier : Literal) : Bindings :=
  .ofItems (Generated.items 1 (oneRouteDeclarations specifier))

/-- Where the module can be read, the script has its route. -/
theorem exists_parsed_oneRoute (specifier : Literal) {source : List Char} {r : Route}
    (hreads : specifier.Reads) (htext : Generated.script (oneRouteDeclarations specifier) = source)
    (hnul : '\x00' ∉ source)
    (hentries : (oneRouteBindings specifier).entries.filterMap
      (fun e => ((oneRouteBindings specifier).moduleOf? e).map fun m => (⟨e.path, m⟩ : Route)) = [r]) :
    ∃ parsed, RouteTree.parse? source = some parsed ∧ parsed.routes = [r] := by
  have hreadable : ∀ d ∈ oneRouteDeclarations specifier, d.Readable := by
    have hlisted : Declaration.Readable (.interface_ pathInterface [(⟨'\x27', [.raw '/']⟩, "A")]) :=
      Declaration.readable_of_isPlain (by decide)
    have himport : Declaration.Readable (.import_ "R" "A" specifier) :=
      ⟨isName_of_seemsName (by decide), isName_of_seemsName (by decide), hreads⟩
    exact List.forall_mem_cons.mpr ⟨himport, List.forall_mem_singleton.mpr hlisted⟩
  have hitems := parse?_script hreadable (htext ▸ hnul)
  rw [htext] at hitems
  refine ⟨_, RouteTree.parse?_of_items hitems, ?_⟩
  rw [oneRouteBindings] at hentries
  rw [RouteTree.routes, Bindings.routes, hentries, List.mergeSort_singleton]

/-- A specifier, as it is written, that names a surrogate and a NUL. -/
def unnameable : List Char := "\\uD800\\x00".toList

/-- The module that it names is nowhere, and its route is listed. -/
theorem run_listing_outcome_unnameable :
    ∃ report, (oneRouteWorld unnameable).run treePayload [] = .ok report ∧
      report.routes = [⟨⟨Text.ofString "/", [.ofNat 0xD800, .ofNat 0]⟩, none⟩] := by
  obtain ⟨parsed, hparsed, hroutes⟩ : ∃ parsed,
      RouteTree.parse? (oneRoute unnameable) = some parsed ∧
        parsed.routes = [⟨Text.ofString "/", [.ofNat 0xD800, .ofNat 0]⟩] := by
    have hreads := Spelling.literal_reads (q := .single)
      [.unit ⟨13, true⟩ ⟨8, false⟩ ⟨0, false⟩ ⟨0, false⟩, .byte ⟨0, false⟩ ⟨0, false⟩]
    refine exists_parsed_oneRoute _ hreads ?_ ?_ ?_
    · decide +kernel
    · decide +kernel
    · decide +kernel
  have hload : loadJob (oneRouteWorld unnameable) treePayload = .ok (treeJob, .absolute []) := rfl
  have hfind : findTree (oneRouteWorld unnameable) treeJob (.absolute []) = .ok scriptPath := rfl
  have hread : readText (oneRouteWorld unnameable) scriptPath = .ok (oneRoute unnameable) := by
    decide +kernel
  have hnowhere : ∀ p ∈ sourcePaths scriptPath.parent treeJob.extensions
      [.ofNat 0xD800, .ofNat 0], (oneRouteWorld unnameable).isFile p = .ok false := by
    decide +kernel
  have hfree : ∀ r ∈ parsed.routes, ¬(oneRouteWorld unnameable).Blocked
      (sourcePaths scriptPath.parent treeJob.extensions r.specifier) := by
    rw [hroutes]
    intro r hr
    rw [List.mem_singleton.mp hr]
    exact World.not_blocked_of_isFile fun p hp => ⟨false, hnowhere p hp⟩
  obtain ⟨report, hrun, -, hlisted, hsources⟩ :=
    (run_listing_outcome hload rfl hfind hread hparsed []).2 hfree
  rw [hroutes, List.map_eq_singleton_iff] at hlisted
  obtain ⟨⟨route, source⟩, hitems, rfl⟩ := hlisted
  have hsource : source = none :=
    (hsources ⟨_, source⟩ (hitems ▸ List.mem_singleton.mpr rfl)).mpr hnowhere
  exact ⟨report, hrun, hsource ▸ hitems⟩

/-- A specifier that is longer than the name of a file. -/
def longName : List Char := List.replicate 300 'a'

/-- It keeps the whole route tree from being listed. -/
theorem run_listing_fails_longName :
    loadJob (oneRouteWorld longName) treePayload = .ok (treeJob, .absolute []) ∧
      treeJob.route = none ∧
      findTree (oneRouteWorld longName) treeJob (.absolute []) = .ok scriptPath ∧
      readText (oneRouteWorld longName) scriptPath = .ok (oneRoute longName) ∧
      (∃ parsed, RouteTree.parse? (oneRoute longName) = some parsed) ∧
      ∃ cause, (oneRouteWorld longName).run treePayload [] = .error ⟨.locate, cause⟩ := by
  obtain ⟨parsed, hparsed, hroutes⟩ : ∃ parsed,
      RouteTree.parse? (oneRoute longName) = some parsed ∧
        parsed.routes = [⟨Text.ofString "/", Text.ofChars longName⟩] := by
    refine exists_parsed_oneRoute ⟨'\x27', longName.map .raw⟩
      (Literal.reads_of_isPlain (by decide +kernel)) ?_ ?_ ?_
    · decide +kernel
    · decide +kernel
    · decide +kernel
  have hload : loadJob (oneRouteWorld longName) treePayload = .ok (treeJob, .absolute []) := rfl
  have hfind : findTree (oneRouteWorld longName) treeJob (.absolute []) = .ok scriptPath := rfl
  have hread : readText (oneRouteWorld longName) scriptPath = .ok (oneRoute longName) := by
    decide +kernel
  have hlocate : locateAll (oneRouteWorld longName) scriptPath.parent treeJob.extensions
      [⟨Text.ofString "/", Text.ofChars longName⟩] = .error (.path (.tooLong
        (Text.ofString "/" ++ Text.ofChars longName ++ Text.ofString ".tsx"))) := by
    decide +kernel
  refine ⟨hload, rfl, hfind, hread, ⟨parsed, hparsed⟩, ?_⟩
  rw [run_of_accepted hload hfind hread hparsed, hroutes, hlocate]
  exact ⟨_, rfl⟩

end RouteAtlas
