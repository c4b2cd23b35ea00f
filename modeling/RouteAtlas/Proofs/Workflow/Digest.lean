import RouteAtlas.Proofs.Files.Contents
import RouteAtlas.Proofs.Text.LineEnds
import RouteAtlas.Proofs.Workflow.Selection

/-!
# What a run reports of the bytes of its route tree

The digest in a report is that of a text that was decoded, whose line ends were unified, and that
was encoded again. In terms of the bytes of the file:

- `readText_eq_ok_iff`: the text that is read is the decoding of the bytes with their line ends
  unified;
- `run_congr`: a run depends on the contents of files only through the text of its route tree;
- `ReportsOn`: the digest and the routes in a report are those of the given bytes;
- `run_lineEnds`: **the report is on the bytes with their line ends unified**, so other line ends
  change nothing; bytes that are no text are a failure of reading.
-/

namespace RouteAtlas

/-! ## Reading -/

/-- The text that is read from a file is the decoding of its bytes with their line ends unified. -/
theorem readText_eq_ok_iff {w : World} {p : Path} {bytes : List Nat}
    (h : w.find? p = .ok (some (.file bytes))) {source : List Char} :
    readText w p = .ok source ↔ Utf8.decode (Utf8.unifyLineEnds bytes) = .ok source := by
  rw [readText_of_find? h rfl, Utf8.decode_unifyLineEnds_iff]
  cases Utf8.decode bytes with
  | error fault => simp
  | ok cs => simp

/-! ## Stages that look into no file -/

theorem loadJob_emptied (w : World) (payload : Json) :
    loadJob w.emptied payload = loadJob w payload := by
  rw [loadJob, loadJob]
  simp only [World.isFolder_emptied]
  rfl

theorem findTree_emptied (w : World) (job : Job) (workspace : Path) :
    findTree w.emptied job workspace = findTree w job workspace := by
  rw [findTree, findTree, namedTree?, namedTree?, discoverTree, discoverTree]
  simp only [World.isFile_emptied, World.discover_emptied]
  rfl

theorem locateAll_emptied (w : World) (folder : Path) (extensions : List Text)
    (routes : List Route) :
    locateAll w.emptied folder extensions routes = locateAll w folder extensions routes := by
  induction routes with
  | nil => rfl
  | cons r routes ih => rw [locateAll, locateAll, World.locate_emptied, ih]

/-- **A run looks into its route tree only**: worlds that differ in what files hold, but not in the
text of the route tree, have the same runs. -/
theorem run_congr {w w' : World} (h : w.AlikeButForContents w') {payload : Json} {job : Job}
    {workspace tree : Path} (hload : loadJob w payload = .ok (job, workspace))
    (hfind : findTree w job workspace = .ok tree) (hread : readText w tree = readText w' tree)
    (payloadSource : Text) : w.run payload payloadSource = w'.run payload payloadSource := by
  have hload' : loadJob w' payload = .ok (job, workspace) := by
    rw [← loadJob_emptied, ← h, loadJob_emptied, hload]
  have hfind' : findTree w' job workspace = .ok tree := by
    rw [← findTree_emptied, ← h, findTree_emptied, hfind]
  have hlocate : ∀ folder extensions routes,
      locateAll w folder extensions routes = locateAll w' folder extensions routes := by
    intro folder extensions routes
    rw [← locateAll_emptied w, h, locateAll_emptied w']
  rw [run_of_found hload hfind, run_of_found hload' hfind', runOn, runOn]
  have hparse : ∀ source, parseTree w source = parseTree w' source := by
    intro source
    rw [parseTree, parseTree, h.recovery_eq]
  simp only [hread, hparse, hlocate, h.cwd_eq]

/-! ## Reports -/

/-- The digest in a report is that of the given bytes, and its routes are those of their text. -/
structure ReportsOn (bytes : List Nat) (report : Report) : Prop where
  digest : report.digest = Sha256.hexDigest bytes
  routes : ∃ source parsed, Utf8.decode bytes = .ok source ∧
    RouteTree.parse? source = some parsed ∧ report.routes.map LocatedRoute.route = parsed.routes

/-- A report is on the bytes of the text that was read. -/
theorem reportsOn_of_run {w : World} {payload : Json} {job : Job} {workspace tree : Path}
    (hload : loadJob w payload = .ok (job, workspace)) (hfind : findTree w job workspace = .ok tree)
    {bytes : List Nat} (hfile : w.find? tree = .ok (some (.file bytes))) {payloadSource : Text}
    {report : Report} (h : w.run payload payloadSource = .ok report) :
    ReportsOn (Utf8.unifyLineEnds bytes) report := by
  obtain ⟨job', workspace', tree', source, parsed, shown, hload', hsurvey, -, -, hreport⟩ :=
    exists_surveyed_of_run h
  -- the run has found the same route tree
  rw [hload, Except.ok.injEq, Prod.mk.injEq] at hload'
  obtain ⟨rfl, rfl⟩ := hload'
  have htree := hsurvey.found
  rw [hfind, Except.ok.injEq] at htree
  subst htree
  have hdecode := (readText_eq_ok_iff hfile).mp hsurvey.read
  constructor
  · rw [hreport, ← Utf8.encode_of_decode hdecode]
    rfl
  · exact ⟨source, parsed, hdecode, hsurvey.accepted, (locateAll_eq_ok hsurvey.located).1⟩

/-- **A report is on the bytes of the route tree with their line ends unified.** Let the route tree
of a payload be a file. If its bytes are no text, the run fails where the file is read. Otherwise a
run that succeeds reports the digest and the routes of the bytes in which every line end is a line
feed; these are the bytes themselves where no carriage return is among them. And where none is
among them, turning some of the line feeds into pairs, or all of them into carriage returns, leaves
the whole run as it is. -/
theorem run_lineEnds {w : World} {payload : Json} {job : Job} {workspace tree : Path}
    {bytes : List Nat} (hload : loadJob w payload = .ok (job, workspace))
    (hfind : findTree w job workspace = .ok tree)
    (hfile : w.find? tree = .ok (some (.file bytes))) (payloadSource : Text) :
    (∀ fault, Utf8.decode bytes = .error fault →
        w.run payload payloadSource = .error ⟨.read, .undecodable fault⟩) ∧
      (∀ report, w.run payload payloadSource = .ok report →
        ReportsOn (Utf8.unifyLineEnds bytes) report ∧ (0x0D ∉ bytes → ReportsOn bytes report)) ∧
      ∀ source, Utf8.decode bytes = .ok source → 0x0D ∉ bytes →
        ∀ w' bytes', w.AlikeButForContents w' → w'.find? tree = .ok (some (.file bytes')) →
          (Utf8.SomeCrlf bytes bytes' ∨ bytes' = Utf8.allCr bytes) →
          w'.run payload payloadSource = w.run payload payloadSource := by
  refine ⟨fun fault hfault => ?_, fun report h => ⟨?_, fun hcr => ?_⟩, ?_⟩
  · rw [World.run, hload]
    show (atStage .discover (findTree w job workspace) >>= _) = _
    rw [hfind]
    show (atStage .read (readText w tree) >>= _) = _
    rw [readText_of_find? hfile rfl, hfault]
    rfl
  · exact reportsOn_of_run hload hfind hfile h
  · have hreport := reportsOn_of_run hload hfind hfile h
    rwa [Utf8.unifyLineEnds_of_notMem hcr] at hreport
  · intro source hsource hcr w' bytes' halike hfile' hother
    have hunified : Utf8.unifyLineEnds bytes' = bytes := by
      rcases hother with hsome | rfl
      · exact hsome.unifyLineEnds_eq hcr
      · exact Utf8.unifyLineEnds_allCr hcr
    have hread : readText w tree = .ok source := by
      rw [readText_eq_ok_iff hfile, Utf8.unifyLineEnds_of_notMem hcr, hsource]
    have hread' : readText w' tree = .ok source := by
      rw [readText_eq_ok_iff hfile', hunified, hsource]
    exact (run_congr halike hload hfind (hread.trans hread'.symm) payloadSource).symm

/-! ## A route tree with carriage returns -/

/-- The world with a path listed twice, whose route tree has carriage returns for line ends. -/
def oneSourceMissingCr : World where
  files := .folder [(Text.ofString "t", .file (Utf8.allCr (Utf8.encode pathListedTwice))),
    (Text.ofString "b.ts", .file [])]
  cwd := []
  env := []

/-- Its run succeeds, and it reports the digest of the bytes with line feeds. -/
theorem run_lineEnds_pathListedTwice :
    ∃ report, oneSourceMissingCr.run treePayload [] = .ok report ∧
      report.digest = Sha256.hexDigest (Utf8.encode pathListedTwice) := by
  have hload : loadJob oneSourceMissing treePayload = .ok (treeJob, .absolute []) := rfl
  obtain ⟨parsed, hsurvey⟩ := surveyed_pathListedTwice
  have hrun : oneSourceMissing.run treePayload [] =
      .ok (surveyReport [] (Text.ofString "t") (.absolute [Text.ofString "t"]) pathListedTwice
        twiceLocated none) := run_of_surveyed hload hsurvey []
  have hcr : 0x0D ∉ Utf8.encode pathListedTwice := by decide +kernel
  have hfile : oneSourceMissing.find? (.absolute [Text.ofString "t"]) =
      .ok (some (.file (Utf8.encode pathListedTwice))) := rfl
  obtain ⟨-, hreports, hother⟩ := run_lineEnds hload hsurvey.found hfile []
  refine ⟨_, ?_, ((hreports _ hrun).2 hcr).digest⟩
  rw [← hrun]
  exact hother pathListedTwice (Utf8.decode_encode _) hcr oneSourceMissingCr _ rfl rfl (.inr rfl)

end RouteAtlas
