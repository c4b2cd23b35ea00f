import RouteAtlas.Proofs.Command.Answer
import RouteAtlas.Proofs.Workflow.Selection

/-!
# Where a payload is said to come from

A report says where its payload came from: from nowhere, from a dotenv file, or from the
environment. The command only compares whether there is a payload before and after it loads the
file:

- `World.dotenvAssignments`: what the dotenv file assigns in a command;
- `prepare_eq_ok`: the environment afterwards, and the hint at where its payload came from;
- `mem_assignments_of_appears`: a payload that appears has been assigned;
- `PayloadReplaced`: the exception, a payload in the place of another one;
- `command_payloadSource`: **what is said is true, but for a payload that replaces another one**.
-/

namespace RouteAtlas

/-! ## What is said -/

theorem noPayloadSource_ne_envSource : noPayloadSource ≠ envSource := by decide

theorem dotenvSource_ne_noPayloadSource (path : Text) : dotenvSource path ≠ noPayloadSource := by
  intro h
  have hhead : some (CodePoint.ofChar 'd') = some (.ofChar 'c') := congrArg List.head? h
  exact absurd hhead (by decide)

theorem dotenvSource_ne_envSource (path : Text) : dotenvSource path ≠ envSource := by
  intro h
  have hhead : some (CodePoint.ofChar 'd') = some (.ofChar 'e') := congrArg List.head? h
  exact absurd hhead (by decide)

/-- The path can be read off. -/
theorem dotenvSource_inj {path path' : Text} :
    dotenvSource path = dotenvSource path' ↔ path = path' := by
  simp [dotenvSource]

/-! ## The environment after the dotenv file -/

section Assignments

variable {w prepared : World} {o : Options} {hint : Option Text}

/-- The assignments of the dotenv file that the options ask for. -/
def World.dotenvAssignments (w : World) (o : Options) : List (Text × Text) :=
  match o.dotenv with
  | none | some [] => []
  | some path => Dotenv.made w path o.dotenvOverride

theorem dotenvAssignments_of_dotenv {path : Text} (hpath : o.dotenv = some path) (hne : path ≠ []) :
    w.dotenvAssignments o = Dotenv.made w path o.dotenvOverride := by
  cases path with
  | nil => exact absurd rfl hne
  | cons p t => rw [World.dotenvAssignments, hpath]

theorem dotenvAssignments_of_no_dotenv (h : ∀ path, o.dotenv = some path → path = []) :
    w.dotenvAssignments o = [] := by
  rw [World.dotenvAssignments]
  cases hpath : o.dotenv with
  | none => rfl
  | some path =>
    obtain rfl := h path hpath
    rfl

/-- A payload that appears has been assigned. -/
theorem mem_assignments_of_appears {env : Table Text Text} {assigned : List (Text × Text)}
    (hbefore : PayloadMissing env) (hafter : ¬PayloadMissing (env.bindAll assigned)) :
    (jobVariable, payloadText (env.bindAll assigned)) ∈ assigned := by
  cases hget : (env.bindAll assigned).get? jobVariable with
  | none => exact absurd (fun t ht => nomatch hget ▸ ht) hafter
  | some t =>
    have htext : payloadText (env.bindAll assigned) = t := by rw [payloadText, hget]; rfl
    rw [htext]
    refine Table.mem_of_get?_bindAll hget fun hold => hafter fun t' ht' => ?_
    cases hget ▸ ht'
    exact hbefore _ hold

/-- The hint is given exactly when a payload appears: a file that is not there assigns none. -/
theorem appears_iff {path : Text} {override found : Bool}
    (hload : (Dotenv.load w path override).2 = .ok found) :
    (found && !holdsPayload w.env && holdsPayload (Dotenv.load w path override).1) = true ↔
      PayloadMissing w.env ∧ ¬PayloadMissing (Dotenv.load w path override).1 := by
  obtain ⟨henv, hnone⟩ := Dotenv.load_eq_ok hload
  have hbefore : (!holdsPayload w.env) = true ↔ PayloadMissing w.env := by
    rw [Bool.not_eq_true', Bool.eq_false_iff, Ne, holdsPayload_iff, Classical.not_not]
  rw [Bool.and_eq_true, Bool.and_eq_true, hbefore, holdsPayload_iff, and_assoc,
    and_iff_right_iff_imp]
  rintro ⟨hmissing, hholds⟩
  by_contra hfound
  rw [henv, hnone (Bool.eq_false_iff.mpr hfound), Table.bindAll_nil] at hholds
  exact hholds hmissing

/-- The world is prepared by the assignments of the dotenv file. A hint is given when a payload
appears with them. -/
theorem prepare_eq_ok (h : w.prepare o = (prepared, .ok hint)) :
    prepared.env = w.env.bindAll (w.dotenvAssignments o) ∧
      ∀ t, hint = some t ↔ ∃ path, o.dotenv = some path ∧ path ≠ [] ∧ t = dotenvSource path ∧
        PayloadMissing w.env ∧ ¬PayloadMissing prepared.env := by
  rcases dotenv_cases o with ⟨path, hpath, hne⟩ | hempty
  · rw [prepare_of_dotenv hpath hne, Prod.mk.injEq] at h
    obtain ⟨rfl, hhint⟩ := h
    cases hload : (Dotenv.load w path o.dotenvOverride).2 with
    | error e =>
      rw [hload] at hhint
      cases hhint
    | ok found =>
      rw [dotenvAssignments_of_dotenv hpath hne]
      refine ⟨(Dotenv.load_eq_ok hload).1, fun t => ?_⟩
      rw [hload] at hhint
      cases hhint
      rw [Option.ite_none_right_eq_some, appears_iff hload, hpath]
      constructor
      · rintro ⟨⟨hbefore, hafter⟩, ht⟩
        exact ⟨path, rfl, hne, (Option.some.inj ht).symm, hbefore, hafter⟩
      · rintro ⟨path', hpath', -, ht, hbefore, hafter⟩
        cases hpath'
        exact ⟨⟨hbefore, hafter⟩, congrArg some ht.symm⟩
  · rw [prepare_of_no_dotenv hempty] at h
    cases h
    rw [dotenvAssignments_of_no_dotenv hempty]
    refine ⟨rfl, fun t => ⟨(nomatch ·), ?_⟩⟩
    rintro ⟨path, hpath, hne, -⟩
    exact absurd (hempty path hpath) hne

end Assignments

/-! ## Whole command lines -/

section Source

variable {w prepared : World} {o : Options} {hint : Option Text}

/-- The dotenv file puts a payload in the place of another one. -/
def PayloadReplaced (w : World) (o : Options) : Prop :=
  o.dotenvOverride = true ∧ ¬PayloadMissing w.env

/-- A payload is assigned where there was none, unless it replaces one. -/
theorem payloadMissing_of_assigned {value : Text} (h : (jobVariable, value) ∈ w.dotenvAssignments o)
    (hreplaced : ¬PayloadReplaced w o) : PayloadMissing w.env := by
  by_contra hset
  have hoverride : o.dotenvOverride = false := by
    rw [Bool.eq_false_iff]
    exact fun hoverride => hreplaced ⟨hoverride, hset⟩
  rcases dotenv_cases o with ⟨path, hpath, hne⟩ | hempty
  · rw [dotenvAssignments_of_dotenv hpath hne, hoverride] at h
    have hnone := Dotenv.get?_eq_none_of_mem_made h
    exact hset fun t ht => nomatch hnone ▸ ht
  · rw [dotenvAssignments_of_no_dotenv hempty] at h
    cases h

/-- What is said of a payload, by what was assigned. -/
structure SaysSource (w : World) (o : Options) (after : Table Text Text) (source : Text) :
    Prop where
  nowhere : source = noPayloadSource ↔ PayloadMissing after
  dotenv : ∀ path, source = dotenvSource path ↔ o.dotenv = some path ∧ ¬PayloadMissing after ∧
    (jobVariable, payloadText after) ∈ w.dotenvAssignments o ∧ ¬PayloadReplaced w o
  env : source = envSource ↔ ¬PayloadMissing after ∧
    ((jobVariable, payloadText after) ∈ w.dotenvAssignments o → PayloadReplaced w o)

/-- What reading a payload says of it, after the world has been prepared. -/
theorem saysSource_readPayload (hprepare : w.prepare o = (prepared, .ok hint))
    {ms : List (Text × Json)} {source : Text}
    (h : readPayload prepared.env hint = .ok (ms, source)) :
    SaysSource w o prepared.env source := by
  obtain ⟨henv, hhint⟩ := prepare_eq_ok hprepare
  by_cases hmissing : PayloadMissing prepared.env
  · rw [readPayload_of_missing hmissing] at h
    cases h
    constructor
    · exact iff_of_true rfl hmissing
    · intro path
      exact iff_of_false (dotenvSource_ne_noPayloadSource path).symm
        fun ⟨_, hset, _⟩ => hset hmissing
    · exact iff_of_false noPayloadSource_ne_envSource fun ⟨hset, _⟩ => hset hmissing
  · have hsource := source_of_readPayload hmissing h
    have hset : ¬PayloadMissing (w.env.bindAll (w.dotenvAssignments o)) := henv ▸ hmissing
    by_cases hbefore : PayloadMissing w.env
    · -- a payload has appeared, so there is a file that has assigned it
      have hassigned := mem_assignments_of_appears hbefore hset
      rcases dotenv_cases o with ⟨path, hpath, hne⟩ | hempty
      · have hgiven : hint = some (dotenvSource path) :=
          (hhint _).mpr ⟨path, hpath, hne, rfl, hbefore, hmissing⟩
        obtain rfl : source = dotenvSource path := hsource.trans (congrArg saidSource hgiven)
        have hfresh : ¬PayloadReplaced w o := fun hreplaced => hreplaced.2 hbefore
        rw [← henv] at hassigned
        constructor
        · exact iff_of_false (dotenvSource_ne_noPayloadSource path) hmissing
        · intro path'
          rw [dotenvSource_inj, hpath, Option.some_inj]
          exact (and_iff_left ⟨hmissing, hassigned, hfresh⟩).symm
        · exact iff_of_false (dotenvSource_ne_envSource path)
            fun ⟨_, hreplaced⟩ => hfresh (hreplaced hassigned)
      · rw [dotenvAssignments_of_no_dotenv hempty] at hassigned
        cases hassigned
    · -- there was a payload before, so no hint is given, whatever the file has assigned
      have hnone : hint = none := by
        rw [Option.eq_none_iff_forall_ne_some]
        intro t ht
        obtain ⟨path, -, -, -, hbefore', -⟩ := (hhint t).mp ht
        exact hbefore hbefore'
      obtain rfl : source = envSource := hsource.trans (congrArg saidSource hnone)
      constructor
      · exact iff_of_false noPayloadSource_ne_envSource.symm hmissing
      · intro path
        refine iff_of_false (dotenvSource_ne_envSource path).symm ?_
        rintro ⟨-, -, hassigned, hfresh⟩
        exact hbefore (payloadMissing_of_assigned hassigned hfresh)
      · refine iff_of_true rfl ⟨hmissing, fun hassigned => ?_⟩
        by_contra hfresh
        exact hbefore (payloadMissing_of_assigned hassigned hfresh)

/-- **What is said of a payload is true, but for a payload that replaces another one.** A command
that ends with zero says that its payload came from nowhere exactly when there is none after the
dotenv file was loaded. It names the dotenv file exactly when the file has assigned the payload, and
the environment exactly when it has not; only of a payload that replaces another one it says that it
came from the environment. -/
theorem command_payloadSource {arguments : List Text} {a : Answer}
    (hparse : Options.parse arguments = .ok o) (ha : (w.command arguments).2 = .ok a)
    (hcode : a.exitCode = 0) :
    ∃ ms source, OneLine a.stdout ms ∧
      Table.get? ms (Text.ofString "job_payload_source") = some (.string source) ∧
      SaysSource w o (w.command arguments).1.env source := by
  obtain ⟨e, -, hcommand⟩ | ⟨prepared, hint, hprepare, hcommand⟩ := command_cases (w := w) hparse
  · rw [hcommand] at ha
    cases ha
  · rw [hcommand] at ha ⊢
    obtain ⟨ms, source, report, members, hpayload, hrun, hmembers, hline⟩ :=
      exists_report_of_answer ha hcode
    -- the report repeats what was said of the payload
    obtain ⟨job, workspace, tree, text, parsed, shown, -, -, -, -, hreport⟩ :=
      exists_surveyed_of_run hrun
    obtain ⟨members', hmembers', -, hsource⟩ := report.exists_members
    obtain rfl : members = members' := Json.object.inj (hmembers ▸ hmembers')
    rw [hreport] at hsource
    exact ⟨members, source, hline, hsource, saysSource_readPayload hprepare hpayload⟩

end Source

/-! ## A payload that appears, and one that replaces another -/

/-- The payload without members. -/
def emptyObject : Text := Text.ofString "\x7b\x7d"

/-- A world with an empty route tree and a dotenv file that assigns that payload. -/
def assigningWorld (env : Table Text Text) : World where
  files := .folder [(Text.ofString "t", .file []),
    (Text.ofString ".env", .file (Utf8.encode "ROUTEMAP_JOB_JSON=\x7b\x7d".toList))]
  cwd := []
  env := env

/-- The command line that names both files, and its options. -/
def assigningArguments : List Text :=
  [Text.ofString "--route-tree=/t", Text.ofString "--dotenv", Text.ofString "--dotenv-override"]

@[inherit_doc assigningArguments]
def assigningOptions : Options where
  routeTree := some (.text (Text.ofString "/t"))
  dotenv := some (Text.ofString ".env")
  dotenvOverride := true

theorem parse_assigningArguments : Options.parse assigningArguments = .ok assigningOptions := by
  rfl

theorem dotenvAssignments_assigningWorld (env : Table Text Text) :
    (assigningWorld env).dotenvAssignments assigningOptions = [(jobVariable, emptyObject)] := by
  rfl

theorem run_assigningWorld (env : Table Text Text) (source : Text) :
    (assigningWorld env).run (.object (assigningOptions.apply [])) source =
      .ok (surveyReport source (Text.ofString "t") (.absolute [Text.ofString "t"]) [] [] none) := by
  have hload : loadJob (assigningWorld env) (.object (assigningOptions.apply [])) =
      .ok (treeJob, .absolute []) := rfl
  have hfind : findTree (assigningWorld env) treeJob (.absolute []) =
      .ok (.absolute [Text.ofString "t"]) := rfl
  have hread : readText (assigningWorld env) (.absolute [Text.ofString "t"]) = .ok [] := rfl
  have hitems : Script.parse? [] = some [] := @Script.parse?_script [] nofun nofun
  have hroutes : (⟨[], .ofItems []⟩ : RouteTree).routes = [] := List.mergeSort_nil
  rw [run_of_accepted hload hfind hread (RouteTree.parse?_of_items hitems), hroutes]
  rfl

/-- With the assigned payload alone in the environment, the command succeeds. -/
theorem command_assigningWorld (env : Table Text Text) {hint : Option Text}
    (hprepare : (assigningWorld env).prepare assigningOptions =
      (assigningWorld [(jobVariable, emptyObject)], .ok hint))
    (hscalar : (saidSource hint).Scalar) :
    ∃ a ms, (assigningWorld env).command assigningArguments =
        (assigningWorld [(jobVariable, emptyObject)], .ok a) ∧ a.exitCode = 0 ∧
      OneLine a.stdout ms ∧
      Table.get? ms (Text.ofString "job_payload_source") = some (.string (saidSource hint)) := by
  have hpayload : readPayload (assigningWorld [(jobVariable, emptyObject)]).env hint =
      .ok ([], saidSource hint) := readPayload_of_object (not_payloadMissing rfl rfl) rfl
  have hname : (Path.absolute [Text.ofString "t"]).name = Text.ofString "t" := rfl
  have hprint : (surveyReport (saidSource hint) (Text.ofString "t") (.absolute [Text.ofString "t"])
      [] [] none).toJson.print.Scalar := by
    simp [surveyReport, Report.toJson, Json.ofMembers, Json.print, Json.printMembers,
      Json.printValues, Json.quote_scalar, Sha256.hexDigest, emptyWarning, hname, hscalar]
  obtain ⟨a, ms, ha, hcode, hms, hline⟩ :=
    answer_of_report hpayload (run_assigningWorld _ (saidSource hint)) hprint
  cases hms
  refine ⟨a, _, ?_, hcode, hline, rfl⟩
  rw [command_of_prepared parse_assigningArguments hprepare, ha]

/-- A payload that appears is said to come from the file. -/
theorem command_payloadSource_appears :
    ∃ a ms, ((assigningWorld []).command assigningArguments).2 = .ok a ∧ a.exitCode = 0 ∧
      OneLine a.stdout ms ∧
      Table.get? ms (Text.ofString "job_payload_source") =
        some (.string (dotenvSource (Text.ofString ".env"))) := by
  have hscalar : (dotenvSource (Text.ofString ".env")).Scalar := by simp [dotenvSource, jobVariable]
  obtain ⟨a, -, ha, hcode, -, -⟩ := command_assigningWorld [] rfl hscalar
  obtain ⟨ms, source, hline, hsource, htold⟩ :=
    command_payloadSource parse_assigningArguments (congrArg Prod.snd ha) hcode
  rw [ha] at htold
  have hdotenv : source = dotenvSource (Text.ofString ".env") := by
    refine (htold.dotenv _).mpr ⟨rfl, not_payloadMissing rfl rfl, ?_, fun hreplaced => ?_⟩
    · rw [dotenvAssignments_assigningWorld]
      exact List.mem_singleton.mpr rfl
    · exact hreplaced.2 fun t ht => nomatch ht
  exact ⟨a, ms, congrArg Prod.snd ha, hcode, hline, hdotenv ▸ hsource⟩

/-- A payload that replaces another one is said to come from the environment, although the file has
assigned it. -/
theorem command_payloadSource_replaced :
    Options.parse assigningArguments = .ok assigningOptions ∧
    ∃ a ms, (assigningWorld [(jobVariable, Text.ofString "1")]).command assigningArguments =
        (assigningWorld [(jobVariable, emptyObject)], .ok a) ∧ a.exitCode = 0 ∧
      OneLine a.stdout ms ∧
      Table.get? ms (Text.ofString "job_payload_source") = some (.string envSource) ∧
      (jobVariable, payloadText [(jobVariable, emptyObject)]) ∈
        (assigningWorld [(jobVariable, Text.ofString "1")]).dotenvAssignments assigningOptions := by
  have hscalar : (saidSource none).Scalar := by simp [saidSource, envSource, jobVariable]
  obtain ⟨a, ms, ha, hcode, hline, hsource⟩ :=
    command_assigningWorld [(jobVariable, Text.ofString "1")] rfl hscalar
  refine ⟨parse_assigningArguments, a, ms, ha, hcode, hline, hsource, ?_⟩
  rw [dotenvAssignments_assigningWorld]
  exact List.mem_singleton.mpr rfl

end RouteAtlas
