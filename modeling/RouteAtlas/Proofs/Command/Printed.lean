import RouteAtlas.Proofs.Command.Answer

/-!
# What is printed of a report is read back

The line that tells of a report can be given to the command again as a payload, and the reader of
payloads finds in it the very object that was printed:

- `ReadsAs`: a text is read as an object, also where it is the payload of an environment, and
  `readsAs_print`: so is every printed object, with blanks behind it or without;
- `Report.encodable_toJson`: a report whose own texts hold no surrogates;
- `LocatedRoute.sourcePath_eq_null`: a route is printed with a null exactly where it has no source;
- `printLine_report`: **a report without surrogates** is printed as one line that is read as it.
-/

namespace RouteAtlas

open Json (Plain)

/-! ## Lines that are read -/

/-- The text is read as an object with the given members, also where a variable of the environment
holds it as the payload. -/
structure ReadsAs (t : Text) (ms : List (Text × Json)) : Prop where
  parsed : Json.parse t = .ok (.object ms)
  payload : ∀ (env : Table Text Text) (hint : Option Text), env.get? jobVariable = some t →
    readPayload env hint = .ok (ms, saidSource hint)

/-- A printed object is read as itself. -/
theorem readsAs_print {ms : List (Text × Json)} (h : Plain Json.maxDepth (.object ms)) {r : Text}
    (hr : Json.skipBlanks r = []) : ReadsAs ((Json.object ms).print ++ r) ms := by
  have hparse : Json.parse ((Json.object ms).print ++ r) = .ok (.object ms) :=
    h.parse_print_append hr
  refine ⟨hparse, fun env hint hget => ?_⟩
  have hthere : ¬PayloadMissing env := by
    -- the brace in front is no blank
    refine not_payloadMissing hget ?_
    rfl
  refine readPayload_of_object hthere ?_
  rw [payloadText, hget]
  exact hparse

/-! ## The texts of a report -/

/-- The names of the members that are printed hold no surrogates, so only the values count. -/
theorem encodable_ofMembers {ms : List (String × Json)} (h : ∀ m ∈ ms, m.2.Encodable) :
    (Json.ofMembers ms).Encodable := by
  refine .object ?_ ?_
  · rintro _ hm
    obtain ⟨⟨name, v⟩, -, rfl⟩ := List.mem_map.mp hm
    exact Text.scalar_ofString name
  · rintro _ hm
    obtain ⟨⟨name, v⟩, hv, rfl⟩ := List.mem_map.mp hm
    exact h _ hv

theorem LocatedRoute.encodable_toJson {r : LocatedRoute} (hpath : r.route.path.Scalar)
    (hspecifier : r.route.specifier.Scalar) (hsource : ∀ t ∈ r.sourceText, t.Scalar) :
    r.toJson.Encodable := by
  refine encodable_ofMembers ?_
  simp only [List.forall_mem_cons, List.not_mem_nil, false_implies, implies_true, and_true]
  refine ⟨.string hpath, .string hspecifier, ?_⟩
  cases hr : r.sourceText with
  | none => exact .null
  | some t => exact .string (hsource t hr)

/-- A report without surrogates, by its own texts. -/
theorem Report.encodable_toJson {r : Report} (hsource : r.payloadSource.Scalar)
    (htree : r.routeTree.Scalar) (hdigest : r.digest.Scalar)
    (hroutes : ∀ item ∈ r.routes, item.toJson.Encodable) (hwarnings : ∀ t ∈ r.warnings, t.Scalar)
    (hselected : ∀ item ∈ r.selected, item.toJson.Encodable) : r.toJson.Encodable := by
  have hlisted : Json.Encodable (.array (r.routes.map LocatedRoute.toJson)) :=
    .array (List.forall_mem_map.mpr hroutes)
  have hwarned : Json.Encodable (.array (r.warnings.map Json.string)) :=
    .array (List.forall_mem_map.mpr fun t ht => .string (hwarnings t ht))
  refine encodable_ofMembers (List.forall_mem_append.mpr ⟨?_, ?_⟩)
  · simp only [List.forall_mem_cons, List.not_mem_nil, false_implies, implies_true, and_true]
    exact ⟨.bool _, .string (Text.scalar_ofString _), .string hsource, .string htree,
      .string hdigest, hlisted, hwarned⟩
  · cases hr : r.selected with
    | none => exact List.forall_mem_nil _
    | some item => exact List.forall_mem_singleton.mpr (hselected item hr)

/-- A route is printed with a null for its source exactly where it has none. -/
theorem LocatedRoute.sourcePath_eq_null (r : LocatedRoute) :
    r.toJson.field? (Text.ofString "sourcePath") = some .null ↔ r.source = none := by
  obtain ⟨route, source⟩ := r
  cases source with
  | none => exact iff_of_true rfl rfl
  | some p =>
    refine iff_of_false (fun h => ?_) fun h => nomatch h
    have hstring : some (Json.string p.toText) = some .null := h
    cases hstring

/-! ## Printing and reading -/

/-- **A report without surrogates is read back from its line.** The report is printed as a line with
a line feed behind it and none in it. Reading the line, with or without the line feed, gives the
object that was printed, and so does taking it from the environment as a payload. In this object the
routes stand in their order, each with a null for its source exactly where it has none. -/
theorem printLine_report (report : Report) (h : report.toJson.Encodable) :
    ∃ line ms, printLine report.toJson = .ok (line ++ Text.ofString "\n") ∧
      CodePoint.ofChar '\n' ∉ line ∧ report.toJson = .object ms ∧
      ReadsAs line ms ∧ ReadsAs (line ++ Text.ofString "\n") ms ∧
      Table.get? ms (Text.ofString "routes") =
        some (.array (report.routes.map LocatedRoute.toJson)) ∧
      ∀ r ∈ report.routes,
        r.toJson.field? (Text.ofString "sourcePath") = some .null ↔ r.source = none := by
  have hplain := report.plain_toJson
  have hscalar : report.toJson.print.Scalar := hplain.scalar_print h
  obtain ⟨ms, hms, -⟩ := report.exists_members
  have hroutes : report.toJson.field? (Text.ofString "routes") =
      some (.array (report.routes.map LocatedRoute.toJson)) := rfl
  refine ⟨report.toJson.print, ms, printLine_of_scalar hscalar, hplain.lineFeed_notMem_print, hms,
    ?_, ?_, ?_, ?_⟩
  · rw [hms] at hplain ⊢
    have hread := readsAs_print hplain (r := []) rfl
    rwa [List.append_nil] at hread
  · rw [hms] at hplain ⊢
    exact readsAs_print hplain rfl
  · rw [hms] at hroutes
    exact hroutes
  · exact fun r _ => r.sourcePath_eq_null

/-- A report on a route whose path needs every kind of escape and some characters that need none,
and that has no source. -/
def awkwardReport : Report where
  payloadSource := noPayloadSource
  routeTree := Text.ofString "t"
  digest := []
  routes := [⟨⟨Text.ofString "/\"\\\n\x07\u2028😀", Text.ofString "./a"⟩, none⟩,
    ⟨⟨Text.ofString "/b", Text.ofString "./b"⟩, some (.absolute [Text.ofString "b.ts"])⟩]
  warnings := []
  selected := none

/-- Its line is read as it. -/
theorem printLine_report_awkward :
    ∃ line, printLine awkwardReport.toJson = .ok (line ++ Text.ofString "\n") ∧
      Json.parse line = .ok awkwardReport.toJson := by
  have hencodable : awkwardReport.toJson.Encodable := by
    refine Report.encodable_toJson (Text.scalar_ofString _) (Text.scalar_ofString _)
      Text.scalar_nil ?_ (List.forall_mem_nil _) fun item hitem => nomatch hitem
    refine List.forall_mem_cons.mpr ⟨?_, List.forall_mem_singleton.mpr ?_⟩
    · exact LocatedRoute.encodable_toJson (Text.scalar_ofString _) (Text.scalar_ofString _)
        fun t ht => nomatch ht
    · refine LocatedRoute.encodable_toJson (Text.scalar_ofString _) (Text.scalar_ofString _) ?_
      rintro t ⟨⟩
      unfold Text.Scalar
      decide
  obtain ⟨line, ms, hline, -, hms, hread, -⟩ := printLine_report awkwardReport hencodable
  exact ⟨line, hline, hms ▸ hread.parsed⟩

end RouteAtlas
