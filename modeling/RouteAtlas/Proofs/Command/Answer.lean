import RouteAtlas.Command.Run
import RouteAtlas.Proofs.Command.Dotenv
import RouteAtlas.Proofs.Command.Payload
import RouteAtlas.Proofs.Json.RoundTrip
import RouteAtlas.Proofs.Workflow.Message

/-!
# Command lines are answered in one line

Whatever a run comes to, the command prints one line that holds one object, and its exit code says
which of the two kinds of object it is:

- `OneLine`: the stream holds one line, and reading it gives an object;
- `failureMembers`: the members of the object that tells of a failure;
- `failureLine_of_scalar`, `outcomeLine_of_report`: what is printed is such a line;
- `ToldInOneLine`: an answer of this kind;
- `Escapes`: the command gives no answer at all, because the dotenv file cannot be loaded or because
  the message of the failure cannot be printed;
- `command_outcome`: **a command line that is accepted is answered in one line exactly when nothing
  escapes**.
-/

namespace RouteAtlas

open Json (Plain)

/-! ## Lines that hold an object -/

/-- The text is one line, it can be printed, and reading the line gives an object with the given
members. -/
def OneLine (stdout : Text) (ms : List (Text × Json)) : Prop :=
  ∃ line, stdout = line ++ Text.ofString "\n" ∧ CodePoint.ofChar '\n' ∉ line ∧ stdout.Scalar ∧
    Json.parse line = .ok (.object ms)

/-- A line holds one object. -/
theorem OneLine.unique {t : Text} {ms ms' : List (Text × Json)} (h : OneLine t ms)
    (h' : OneLine t ms') : ms = ms' := by
  obtain ⟨line, rfl, -, -, hparse⟩ := h
  obtain ⟨line', hline, -, -, hparse'⟩ := h'
  rw [List.append_cancel_right hline, hparse'] at hparse
  exact (Json.object.inj (Except.ok.inj hparse)).symm

/-- A value is printed as a line exactly when no surrogate stands in it. -/
theorem printLine_of_scalar {j : Json} (h : j.print.Scalar) :
    printLine j = .ok (j.print ++ Text.ofString "\n") := by
  rw [printLine, Text.unencodable?_eq_none.mpr h]

@[inherit_doc printLine_of_scalar]
theorem printLine_of_not_scalar {j : Json} (h : ¬j.print.Scalar) :
    ∃ u, printLine j = .error (.unprintable u) := by
  rw [printLine]
  cases hu : j.print.unencodable? with
  | none => exact absurd (Text.unencodable?_eq_none.mp hu) h
  | some u => exact ⟨u, rfl⟩

/-- A printed object is one line that holds the object. -/
theorem oneLine_print {ms : List (Text × Json)} (hplain : Plain Json.maxDepth (.object ms))
    (hscalar : (Json.object ms).print.Scalar) :
    OneLine ((Json.object ms).print ++ Text.ofString "\n") ms := by
  refine ⟨_, rfl, hplain.lineFeed_notMem_print, ?_, hplain.parse_print⟩
  exact Text.scalar_append.mpr ⟨hscalar, Text.scalar_ofString _⟩

/-- An object of values without numbers, with the given names. -/
theorem plain_ofMembers {d : Nat} {ms : List (String × Json)} (names : List String)
    (hnames : ms.map Prod.fst = names) (hd : (names.map Text.ofString).Nodup)
    (h : ∀ m ∈ ms, Plain d m.2) : Plain (d + 1) (.ofMembers ms) := by
  refine .object ?_ fun m hm => ?_
  · rw [← hnames, List.map_map] at hd
    rw [List.map_map]
    exact hd
  · obtain ⟨⟨name, v⟩, hv, rfl⟩ := List.mem_map.mp hm
    exact h _ hv

/-! ## Failures -/

/-- The members of the object that tells of a failure. -/
def failureMembers (stage : String) (message : Text) : List (Text × Json) :=
  [(Text.ofString "ok", .bool false), (Text.ofString "stage", .string (Text.ofString stage)),
    (Text.ofString "error_code", .string (Text.ofString
      ("ROUTEMAP_FAILED_" ++ String.ofList (stage.toList.map Char.toUpper)))),
    (Text.ofString "error_message", .string message)]

theorem Failure.toJson_eq (f : Failure) :
    f.toJson = .object (failureMembers f.stage.name f.cause.message) := rfl

theorem Failure.plain_toJson (f : Failure) : Plain Json.maxDepth f.toJson := by
  refine plain_ofMembers (d := 989) ["ok", "stage", "error_code", "error_message"] rfl
    (by decide) ?_
  simp only [List.forall_mem_cons, List.not_mem_nil, false_implies, implies_true, and_true]
  exact ⟨.bool _, .string _, .string _, .string _⟩

/-- A failure can be printed exactly when its message can. -/
theorem Failure.scalar_print_toJson (f : Failure) :
    f.toJson.print.Scalar ↔ f.cause.message.Scalar := by
  simp only [toJson_eq, failureMembers, Json.print, Json.printMembers, Text.scalar_append,
    Text.scalar_ofString, Json.quote_scalar, true_and, and_true, Bool.false_eq_true, if_false]

theorem failureLine_of_scalar {f : Failure} (h : f.cause.repeated.Scalar) :
    ∃ t, failureLine f = .ok (1, t) ∧ OneLine t (failureMembers f.stage.name f.cause.message) := by
  have hscalar : f.toJson.print.Scalar :=
    f.scalar_print_toJson.mpr (f.cause.scalar_message_iff.mpr h)
  refine ⟨_, ?_, oneLine_print f.plain_toJson hscalar⟩
  rw [failureLine, printLine_of_scalar hscalar]
  rfl

theorem failureLine_of_not_scalar {f : Failure} (h : ¬f.cause.repeated.Scalar) :
    ∃ e, failureLine f = .error e := by
  have hscalar : ¬f.toJson.print.Scalar := fun hs =>
    h (f.cause.scalar_message_iff.mp (f.scalar_print_toJson.mp hs))
  obtain ⟨u, hu⟩ := printLine_of_not_scalar hscalar
  exact ⟨.unprintable u, by rw [failureLine, hu]; rfl⟩

/-! ## Reports -/

theorem LocatedRoute.plain_toJson (d : Nat) (r : LocatedRoute) : Plain (d + 1) r.toJson := by
  refine plain_ofMembers ["routePath", "importPath", "sourcePath"] rfl (by decide) ?_
  simp only [List.forall_mem_cons, List.not_mem_nil, false_implies, implies_true, and_true]
  refine ⟨.string _, .string _, ?_⟩
  cases r.sourceText with
  | none => exact .null
  | some t => exact .string t

theorem Report.plain_toJson (r : Report) : Plain Json.maxDepth r.toJson := by
  have hroutes : Plain 989 (.array (r.routes.map (·.toJson))) := by
    refine .array fun v hv => ?_
    obtain ⟨item, -, rfl⟩ := List.mem_map.mp hv
    exact item.plain_toJson 987
  have hwarnings : Plain 989 (.array (r.warnings.map Json.string)) := by
    refine .array fun v hv => ?_
    obtain ⟨t, -, rfl⟩ := List.mem_map.mp hv
    exact .string t
  cases hselected : r.selected with
  | none =>
    rw [toJson, hselected]
    refine plain_ofMembers (d := 989) ["ok", "stage", "job_payload_source", "route_tree",
      "route_tree_sha256", "routes", "warnings"] rfl (by decide) ?_
    simp only [List.append_nil, List.forall_mem_cons, List.not_mem_nil, false_implies,
      implies_true, and_true]
    exact ⟨.bool _, .string _, .string _, .string _, .string _, hroutes, hwarnings⟩
  | some item =>
    rw [toJson, hselected]
    refine plain_ofMembers (d := 989) ["ok", "stage", "job_payload_source", "route_tree",
      "route_tree_sha256", "routes", "warnings", "selected"] rfl (by decide) ?_
    simp only [List.cons_append, List.nil_append, List.forall_mem_cons, List.not_mem_nil,
      false_implies, implies_true, and_true]
    exact ⟨.bool _, .string _, .string _, .string _, .string _, hroutes, hwarnings,
      item.plain_toJson 988⟩

/-- The members of a printed report. -/
theorem Report.exists_members (r : Report) :
    ∃ ms, r.toJson = .object ms ∧ Table.get? ms (Text.ofString "ok") = some (.bool true) ∧
      Table.get? ms (Text.ofString "job_payload_source") = some (.string r.payloadSource) :=
  ⟨_, rfl, rfl, rfl⟩

/-- The line of a run that succeeds tells its report, if that can be printed. -/
theorem outcomeLine_of_scalar {r : Report} (h : r.toJson.print.Scalar) :
    ∃ t ms, outcomeLine (.ok r) = .ok (0, t) ∧ r.toJson = .object ms ∧ OneLine t ms := by
  obtain ⟨ms, hms, -⟩ := r.exists_members
  have hplain := r.plain_toJson
  rw [hms] at h hplain
  refine ⟨_, ms, ?_, hms, oneLine_print hplain h⟩
  rw [outcomeLine, hms, printLine_of_scalar h]

/-- The line of a run that succeeds tells its report, or that the report cannot be printed. -/
theorem outcomeLine_of_report (r : Report) :
    (∃ t ms, outcomeLine (.ok r) = .ok (0, t) ∧ r.toJson = .object ms ∧ OneLine t ms) ∨
      ∃ t u, outcomeLine (.ok r) = .ok (1, t) ∧
        OneLine t (failureMembers Stage.unknown.name (Cause.unprintable u).message) := by
  by_cases h : r.toJson.print.Scalar
  · exact .inl (outcomeLine_of_scalar h)
  · obtain ⟨u, hu⟩ := printLine_of_not_scalar h
    obtain ⟨t, ht, hline⟩ := failureLine_of_scalar (f := ⟨.unknown, .unprintable u⟩)
      Text.scalar_nil
    refine .inr ⟨t, u, ?_, hline⟩
    rw [outcomeLine, hu]
    exact ht

/-! ## Answers -/

/-- An answer in one line: the exit code is zero or one, and the object on the line says which. -/
structure ToldInOneLine (a : Answer) : Prop where
  exitCode : a.exitCode = 0 ∨ a.exitCode = 1
  oneObject : ∃ ms, OneLine a.stdout ms ∧
    (Table.get? ms (Text.ofString "ok") = some (.bool true) ↔ a.exitCode = 0) ∧
    (a.exitCode ≠ 0 → ∃ stage message, ms = failureMembers stage message)

/-- The answer of a failure is told in one line. -/
theorem toldInOneLine_failure {stage : String} {message t : Text}
    (h : OneLine t (failureMembers stage message)) (stderr : Text) :
    ToldInOneLine ⟨1, t, stderr⟩ := by
  refine ⟨.inr rfl, _, h, ⟨fun hok => ?_, fun hcode => nomatch hcode⟩, fun _ => ⟨_, _, rfl⟩⟩
  have hfalse : Table.get? (failureMembers stage message) (Text.ofString "ok") =
      some (.bool false) := rfl
  rw [hfalse] at hok
  cases hok

/-- The answer of a run that succeeds is told in one line, the report or that it cannot be
printed. -/
theorem toldInOneLine_report (r : Report) (stderr : Text) :
    ∃ code t, outcomeLine (.ok r) = .ok (code, t) ∧ ToldInOneLine ⟨code, t, stderr⟩ := by
  rcases outcomeLine_of_report r with ⟨t, ms, ht, hms, hline⟩ | ⟨t, u, ht, hline⟩
  · obtain ⟨ms', hms', hok, -⟩ := r.exists_members
    obtain rfl : ms = ms' := by
      rw [hms] at hms'
      exact Json.object.inj hms'
    exact ⟨0, t, ht, .inl rfl, ms, hline, iff_of_true hok rfl, fun hne => absurd rfl hne⟩
  · exact ⟨1, t, ht, toldInOneLine_failure hline stderr⟩

section Answer

variable {w : World} {o : Options} {hint : Option Text}

/-- What is said of a payload that cannot be read repeats nothing of it. -/
theorem repeated_of_readPayload {e : Cause} (h : readPayload w.env hint = .error e) :
    e.repeated = [] := by
  by_cases hmissing : PayloadMissing w.env
  · rw [readPayload_of_missing hmissing] at h
    cases h
  · obtain ⟨e', he⟩ | ⟨ms, hms⟩ | hother := readPayload_cases hmissing hint
    · rw [he] at h
      cases h
      rfl
    · rw [hms] at h
      cases h
    · rw [hother] at h
      cases h
      rfl

/-- A payload that cannot be read is a failure. -/
theorem answer_of_error {e : Cause} (h : readPayload w.env hint = .error e) :
    ∃ t, w.answer o hint = .ok ⟨1, t, []⟩ ∧
      OneLine t (failureMembers (payloadStage e).name e.message) := by
  have hscalar : e.repeated.Scalar := repeated_of_readPayload h ▸ Text.scalar_nil
  obtain ⟨t, ht, hline⟩ := failureLine_of_scalar (f := ⟨payloadStage e, e⟩) hscalar
  refine ⟨t, ?_, hline⟩
  rw [World.answer, h]
  simp only [ht]
  rfl

/-- A payload that can be read is run. -/
theorem answer_of_ok {ms : List (Text × Json)} {source : Text}
    (h : readPayload w.env hint = .ok (ms, source)) :
    w.answer o hint = (outcomeLine (w.run (.object (o.apply ms)) source)).map
      fun (code, line) => ⟨code, line, shown o.verbosity (w.trace (.object (o.apply ms)))⟩ := by
  rw [World.answer, h]

/-- A run that fails is answered with its failure, if that can be printed. -/
theorem answer_of_failure {ms : List (Text × Json)} {source : Text} {f : Failure}
    (h : readPayload w.env hint = .ok (ms, source))
    (hrun : w.run (.object (o.apply ms)) source = .error f) (hscalar : f.cause.repeated.Scalar) :
    ∃ t stderr, w.answer o hint = .ok ⟨1, t, stderr⟩ ∧
      OneLine t (failureMembers f.stage.name f.cause.message) := by
  obtain ⟨t, ht, hline⟩ := failureLine_of_scalar hscalar
  refine ⟨t, shown o.verbosity (w.trace (.object (o.apply ms))), ?_, hline⟩
  rw [answer_of_ok h, hrun, outcomeLine, ht]
  rfl

/-- An answer that ends with zero tells the report of a run that succeeded. -/
theorem exists_report_of_answer {a : Answer} (h : w.answer o hint = .ok a)
    (hcode : a.exitCode = 0) :
    ∃ ms source report members, readPayload w.env hint = .ok (ms, source) ∧
      w.run (.object (o.apply ms)) source = .ok report ∧ report.toJson = .object members ∧
      OneLine a.stdout members := by
  cases hpayload : readPayload w.env hint with
  | error e =>
    obtain ⟨t, ht, -⟩ := answer_of_error (o := o) hpayload
    rw [ht] at h
    cases h
    cases hcode
  | ok pair =>
    obtain ⟨ms, source⟩ := pair
    rw [answer_of_ok hpayload] at h
    cases hrun : w.run (.object (o.apply ms)) source with
    | error f =>
      -- a failure ends with one, or it is not printed at all
      rw [hrun, outcomeLine, failureLine] at h
      cases hline : printLine f.toJson with
      | error e =>
        rw [hline] at h
        cases h
      | ok t =>
        rw [hline] at h
        cases h
        cases hcode
    | ok report =>
      rw [hrun] at h
      rcases outcomeLine_of_report report with ⟨t, members, ht, hmembers, hline⟩ | ⟨t, u, ht, -⟩
      · rw [ht] at h
        cases h
        exact ⟨ms, source, report, members, rfl, hrun, hmembers, hline⟩
      · rw [ht] at h
        cases h
        cases hcode

/-- A run that succeeds is answered with its report, if that can be printed. -/
theorem answer_of_report {ms : List (Text × Json)} {source : Text} {report : Report}
    (h : readPayload w.env hint = .ok (ms, source))
    (hrun : w.run (.object (o.apply ms)) source = .ok report)
    (hscalar : report.toJson.print.Scalar) :
    ∃ a members, w.answer o hint = .ok a ∧ a.exitCode = 0 ∧ report.toJson = .object members ∧
      OneLine a.stdout members := by
  obtain ⟨t, members, ht, hmembers, hline⟩ := outcomeLine_of_scalar hscalar
  refine ⟨⟨0, t, shown o.verbosity (w.trace (.object (o.apply ms)))⟩, members, ?_, rfl, hmembers,
    hline⟩
  rw [answer_of_ok h, hrun, ht]
  rfl

/-- Unless a run fails with a message that cannot be printed, it is told in one line. -/
theorem answer_toldInOneLine
    (h : ∀ ms source f, readPayload w.env hint = .ok (ms, source) →
      w.run (.object (o.apply ms)) source = .error f → f.cause.repeated.Scalar) :
    ∃ a, w.answer o hint = .ok a ∧ ToldInOneLine a := by
  cases hpayload : readPayload w.env hint with
  | error e =>
    obtain ⟨t, ht, hline⟩ := answer_of_error (o := o) hpayload
    exact ⟨_, ht, toldInOneLine_failure hline []⟩
  | ok pair =>
    obtain ⟨ms, source⟩ := pair
    cases hrun : w.run (.object (o.apply ms)) source with
    | error f =>
      obtain ⟨t, stderr, ht, hline⟩ := answer_of_failure hpayload hrun (h ms source f hpayload hrun)
      exact ⟨_, ht, toldInOneLine_failure hline stderr⟩
    | ok report =>
      obtain ⟨code, t, ht, htold⟩ := toldInOneLine_report report
        (shown o.verbosity (w.trace (.object (o.apply ms))))
      refine ⟨_, ?_, htold⟩
      rw [answer_of_ok hpayload, hrun, ht]
      rfl

end Answer

/-! ## Loading the dotenv file -/

section Prepare

variable {w : World} {o : Options}

/-- The options name a dotenv file, or they name none; an empty name is none. -/
theorem dotenv_cases (o : Options) :
    (∃ path, o.dotenv = some path ∧ path ≠ []) ∨ ∀ path, o.dotenv = some path → path = [] := by
  cases o.dotenv with
  | none => exact .inr fun path h => nomatch h
  | some path =>
    cases path with
    | nil => exact .inr fun path h => (Option.some.inj h).symm
    | cons p t => exact .inl ⟨_, rfl, List.cons_ne_nil p t⟩

/-- The environment is prepared from the file that the options name. -/
theorem prepare_of_dotenv {path : Text} (hpath : o.dotenv = some path) (hne : path ≠ []) :
    w.prepare o = ({ w with env := (Dotenv.load w path o.dotenvOverride).1 },
      (Dotenv.load w path o.dotenvOverride).2.map fun found =>
        if found && !holdsPayload w.env && holdsPayload (Dotenv.load w path o.dotenvOverride).1
          then some (dotenvSource path) else none) := by
  cases path with
  | nil => exact absurd rfl hne
  | cons p t => rw [World.prepare, hpath]

/-- Without a file the world stays as it is. -/
theorem prepare_of_no_dotenv (h : ∀ path, o.dotenv = some path → path = []) :
    w.prepare o = (w, .ok none) := by
  rw [World.prepare]
  cases hpath : o.dotenv with
  | none => rfl
  | some path =>
    obtain rfl := h path hpath
    rfl

/-- The world cannot be prepared exactly when the file is refused. -/
theorem prepare_eq_error_iff {e : Cause} :
    (w.prepare o).2 = .error e ↔
      ∃ path, o.dotenv = some path ∧ path ≠ [] ∧ Dotenv.Refused w path o.dotenvOverride e := by
  constructor
  · intro h
    rcases dotenv_cases o with ⟨path, hpath, hne⟩ | hempty
    · refine ⟨path, hpath, hne, Dotenv.load_eq_error_iff.mp ?_⟩
      rw [prepare_of_dotenv hpath hne] at h
      cases hload : (Dotenv.load w path o.dotenvOverride).2 with
      | error e' =>
        rw [hload] at h
        cases h
        rfl
      | ok found =>
        rw [hload] at h
        cases h
    · rw [prepare_of_no_dotenv hempty] at h
      cases h
  · rintro ⟨path, hpath, hne, hrefused⟩
    rw [prepare_of_dotenv hpath hne]
    simp only [Dotenv.load_eq_error_iff.mpr hrefused]
    rfl

end Prepare

/-! ## Whole command lines -/

/-- The command gives no answer: its dotenv file cannot be loaded, or its run fails and the message
repeats a text with a surrogate in it. -/
inductive Escapes (w : World) (o : Options) : Prop where
  | dotenv {path : Text} {e : Cause} (hpath : o.dotenv = some path) (hne : path ≠ [])
    (hrefused : Dotenv.Refused w path o.dotenvOverride e)
  | message {prepared : World} {hint : Option Text} {ms : List (Text × Json)} {source : Text}
    {f : Failure} (hprepare : w.prepare o = (prepared, .ok hint))
    (hpayload : readPayload prepared.env hint = .ok (ms, source))
    (hrun : prepared.run (.object (o.apply ms)) source = .error f)
    (hrepeated : ¬f.cause.repeated.Scalar)

section Command

variable {w : World} {arguments : List Text} {o : Options}

/-- Where the world cannot be prepared, the command gives no answer. -/
theorem command_of_refused (h : Options.parse arguments = .ok o) {e : Cause}
    (hprepare : (w.prepare o).2 = .error e) : (w.command arguments).2 = .error e := by
  obtain ⟨prepared, houtcome⟩ : ∃ prepared, w.prepare o = (prepared, .error e) :=
    ⟨(w.prepare o).1, Prod.ext rfl hprepare⟩
  simp only [World.command, h, houtcome]

/-- The command answers in the world that was prepared. -/
theorem command_of_prepared (h : Options.parse arguments = .ok o) {prepared : World}
    {hint : Option Text} (hprepare : w.prepare o = (prepared, .ok hint)) :
    w.command arguments = (prepared, prepared.answer o hint) := by
  simp only [World.command, h, hprepare]

/-- The command fails to prepare the world, or it answers in the world that was prepared. -/
theorem command_cases (h : Options.parse arguments = .ok o) :
    (∃ e, (w.prepare o).2 = .error e ∧ (w.command arguments).2 = .error e) ∨
      ∃ prepared hint, w.prepare o = (prepared, .ok hint) ∧
        w.command arguments = (prepared, prepared.answer o hint) := by
  cases hprepare : w.prepare o with
  | mk prepared outcome =>
    cases outcome with
    | error e => exact .inl ⟨e, rfl, command_of_refused h (congrArg Prod.snd hprepare)⟩
    | ok hint => exact .inr ⟨prepared, hint, rfl, command_of_prepared h hprepare⟩

/-- **A command line that is accepted is answered in one line exactly when nothing escapes.** -/
theorem command_outcome (h : Options.parse arguments = .ok o) :
    (Escapes w o → ∃ e, (w.command arguments).2 = .error e) ∧
      (¬Escapes w o → ∃ a, (w.command arguments).2 = .ok a ∧ ToldInOneLine a) := by
  constructor
  · intro hescapes
    cases hescapes with
    | dotenv hpath hne hrefused =>
      exact ⟨_, command_of_refused h (prepare_eq_error_iff.mpr ⟨_, hpath, hne, hrefused⟩)⟩
    | message hprepare hpayload hrun hrepeated =>
      obtain ⟨e, he⟩ := failureLine_of_not_scalar hrepeated
      refine ⟨e, ?_⟩
      rw [command_of_prepared h hprepare, answer_of_ok hpayload, hrun, outcomeLine, he]
      rfl
  · intro hnone
    obtain ⟨e, herror, -⟩ | ⟨prepared, hint, hprepare, hcommand⟩ := command_cases (w := w) h
    · obtain ⟨path, hpath, hne, hrefused⟩ := prepare_eq_error_iff.mp herror
      exact absurd (.dotenv hpath hne hrefused) hnone
    · rw [hcommand]
      refine answer_toldInOneLine fun ms source f hpayload hrun => ?_
      by_contra hrepeated
      exact hnone (.message hprepare hpayload hrun hrepeated)

end Command

/-! ## A dotenv file that can be loaded, and one that is no UTF-8 -/

/-- A world with nothing but a dotenv file of the given bytes. -/
def dotenvWorld (bytes : List Nat) : World where
  files := .folder [(Text.ofString ".env", .file bytes)]
  cwd := []
  env := []

/-- The command line that asks for the dotenv file, and its options. -/
def dotenvArguments : List Text := [Text.ofString "--dotenv"]

@[inherit_doc dotenvArguments]
def dotenvOptions : Options := { dotenv := some (Text.ofString ".env") }

theorem command_outcome_dotenv :
    Options.parse dotenvArguments = .ok dotenvOptions ∧
      (∃ a, ((dotenvWorld (Utf8.encode "A=1".toList)).command dotenvArguments).2 = .ok a ∧
        ToldInOneLine a) ∧
      ∃ e, ((dotenvWorld [0xFF]).command dotenvArguments).2 = .error e := by
  have hparse : Options.parse dotenvArguments = .ok dotenvOptions := rfl
  refine ⟨hparse, (command_outcome hparse).2 ?_, (command_outcome hparse).1 ?_⟩
  · intro h
    cases h with
    | dotenv hpath hne hrefused =>
      cases hpath
      have hload := Dotenv.load_eq_error_iff.mpr hrefused
      cases hload
    | message hprepare hpayload hrun hrepeated =>
      cases hprepare
      cases hpayload
      cases hrun
      exact hrepeated (Text.scalar_ofString _)
  · exact .dotenv rfl (by decide) (.bytes rfl rfl)

/-- The bytes of a dotenv file can keep a command that is accepted from answering. -/
theorem command_no_answer_notUtf8 :
    Options.parse dotenvArguments = .ok dotenvOptions ∧
      ∀ a, ((dotenvWorld [0xFF]).command dotenvArguments).2 ≠ .ok a := by
  refine ⟨rfl, fun a h => ?_⟩
  have hescape : ((dotenvWorld [0xFF]).command dotenvArguments).2 =
      .error (.undecodable ⟨0, 1, 0xFF, .startByte⟩) := rfl
  rw [hescape] at h
  cases h

end RouteAtlas
