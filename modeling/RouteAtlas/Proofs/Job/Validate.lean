import RouteAtlas.Job.Validate

/-!
# What a valid payload says

- `Json.withField`: an object with one of its members set;
- `Job.ofJson_object_eq_ok`: a payload is valid exactly when every field is, and the job consists of
  the checked fields;
- `Job.ofJson_withRoute`, `Job.ofJson_withRouteTree`: setting the route of a payload, or its route
  tree, sets that of its job and nothing else;
- `Job.AsksForNoRoute`, `Job.NamesNoTree`: payloads that leave them out.
-/

namespace RouteAtlas

namespace Json

/-- An object with a member set; any other value stays as it is. -/
def withField (j : Json) (name : Text) (v : Json) : Json :=
  match j with
  | .object ms => .object (Table.insert ms name v)
  | j => j

/-- Setting a member of an object changes that member only. -/
theorem field?_withField (ms : List (Text × Json)) (name : Text) (v : Json) (other : Text) :
    ((object ms).withField name v).field? other =
      if name = other then some v else (object ms).field? other :=
  Table.get?_insert ms name v other

end Json

namespace Checked

variable {α β : Type}

/-- Two checks succeed together exactly when each does. -/
theorem both_eq_ok {a : Checked α} {b : Checked β} {x : α} {y : β} :
    both a b = .ok (x, y) ↔ a = .ok x ∧ b = .ok y := by
  cases a <;> cases b <;> simp [both]

end Checked

namespace Job

/-- A field is checked by looking at its own name only. -/
theorem checkField_congr {α : Type} {j j' : Json} {name : String}
    (h : j.field? (Text.ofString name) = j'.field? (Text.ofString name)) (place : List Step)
    (check : List Step → Json → Checked α) (standard : α) :
    checkField place j name check standard = checkField place j' name check standard := by
  rw [checkField, checkField, h]

/-- A field that is there is checked at its place. -/
theorem checkField_of_some {α : Type} {j : Json} {name : String} {v : Json}
    (h : j.field? (Text.ofString name) = some v) (place : List Step)
    (check : List Step → Json → Checked α) (standard : α) :
    checkField place j name check standard = check (place ++ [.field name]) v := by
  rw [checkField, h]

section WithField

variable {α : Type} (ms : List (Text × Json)) (v : Json) (place : List Step)
  (check : List Step → Json → Checked α) (standard : α)

/-- Setting a member leaves the check of every other field as it is. -/
theorem checkField_withField_of_ne {name other : String}
    (hne : Text.ofString name ≠ Text.ofString other) :
    checkField place ((Json.object ms).withField (Text.ofString name) v) other check standard =
      checkField place (.object ms) other check standard := by
  refine checkField_congr ?_ place check standard
  rw [Json.field?_withField, if_neg hne]

/-- A member that is set is checked. -/
theorem checkField_withField_self (name : String) :
    checkField place ((Json.object ms).withField (Text.ofString name) v) name check standard =
      check (place ++ [.field name]) v := by
  refine checkField_of_some ?_ place check standard
  rw [Json.field?_withField, if_pos rfl]

end WithField

/-- A payload is valid exactly when each of its fields is, and the job consists of the fields. -/
theorem ofJson_object_eq_ok {ms : List (Text × Json)} {job : Job} :
    ofJson (.object ms) = .ok job ↔
      checkField [] (.object ms) "workspace" checkString Job.standard.workspace =
          .ok job.workspace ∧
        checkField [] (.object ms) "route_tree" checkStringOrNull none = .ok job.routeTree ∧
        checkField [] (.object ms) "route" checkStringOrNull none = .ok job.route ∧
        checkField [] (.object ms) "filters" checkFilters .standard = .ok job.filters ∧
        checkField [] (.object ms) "resolve" checkResolve Job.standard.extensions =
          .ok job.extensions := by
  obtain ⟨workspace, routeTree, route, filters, extensions⟩ := job
  rw [← Checked.both_eq_ok, ← Checked.both_eq_ok, ← Checked.both_eq_ok, ← Checked.both_eq_ok]
  show Except.map _ (Checked.both _ _) = _ ↔ _
  cases Checked.both (checkField [] (.object ms) "workspace" checkString Job.standard.workspace) _
    with
  | error vs => simp [Except.map]
  | ok x => simp [Except.map, Prod.ext_iff]

/-- A valid payload is an object. -/
theorem exists_object_of_ofJson {j : Json} {job : Job} (h : ofJson j = .ok job) :
    ∃ ms, j = .object ms := by
  cases j with
  | object ms => exact ⟨ms, rfl⟩
  | null | bool | int | float | string | array => cases h

/-- **Setting the route** of a payload sets the route of its job and nothing else. -/
theorem ofJson_withRoute {payload : Json} {job : Job} (h : ofJson payload = .ok job) (r : Text) :
    ofJson (payload.withField (Text.ofString "route") (.string r)) =
      .ok { job with route := some r } := by
  obtain ⟨ms, rfl⟩ := exists_object_of_ofJson h
  obtain ⟨hworkspace, htree, -, hfilters, hresolve⟩ := ofJson_object_eq_ok.mp h
  refine ofJson_object_eq_ok.mpr ⟨?_, ?_, ?_, ?_, ?_⟩
  · exact (checkField_withField_of_ne _ _ _ _ _ (by decide)).trans hworkspace
  · exact (checkField_withField_of_ne _ _ _ _ _ (by decide)).trans htree
  · exact checkField_withField_self _ _ _ _ _ "route"
  · exact (checkField_withField_of_ne _ _ _ _ _ (by decide)).trans hfilters
  · exact (checkField_withField_of_ne _ _ _ _ _ (by decide)).trans hresolve

/-- **Setting the route tree** of a payload sets the route tree of its job and nothing else. -/
theorem ofJson_withRouteTree {payload : Json} {job : Job} (h : ofJson payload = .ok job)
    (t : Text) :
    ofJson (payload.withField (Text.ofString "route_tree") (.string t)) =
      .ok { job with routeTree := some t } := by
  obtain ⟨ms, rfl⟩ := exists_object_of_ofJson h
  obtain ⟨hworkspace, -, hroute, hfilters, hresolve⟩ := ofJson_object_eq_ok.mp h
  refine ofJson_object_eq_ok.mpr ⟨?_, ?_, ?_, ?_, ?_⟩
  · exact (checkField_withField_of_ne _ _ _ _ _ (by decide)).trans hworkspace
  · exact checkField_withField_self _ _ _ _ _ "route_tree"
  · exact (checkField_withField_of_ne _ _ _ _ _ (by decide)).trans hroute
  · exact (checkField_withField_of_ne _ _ _ _ _ (by decide)).trans hfilters
  · exact (checkField_withField_of_ne _ _ _ _ _ (by decide)).trans hresolve

/-- A payload asks for no route: it has no such member, or a null one. -/
def AsksForNoRoute (payload : Json) : Prop :=
  payload.field? (Text.ofString "route") = none ∨
    payload.field? (Text.ofString "route") = some .null

/-- The job of a payload that asks for no route has none. -/
theorem route_eq_none {payload : Json} {job : Job} (hno : AsksForNoRoute payload)
    (h : ofJson payload = .ok job) : job.route = none := by
  obtain ⟨ms, rfl⟩ := exists_object_of_ofJson h
  obtain ⟨-, -, hroute, -, -⟩ := ofJson_object_eq_ok.mp h
  rcases hno with hno | hno
  · rw [checkField, hno] at hroute
    exact (Except.ok.inj hroute).symm
  · rw [checkField_of_some hno] at hroute
    exact (Except.ok.inj hroute).symm

/-- A payload names no route tree: it has no such member, or a null one, or the empty text. -/
def NamesNoTree (payload : Json) : Prop :=
  payload.field? (Text.ofString "route_tree") = none ∨
    payload.field? (Text.ofString "route_tree") = some .null ∨
    payload.field? (Text.ofString "route_tree") = some (.string [])

/-- The job of a payload that names no route tree has none, or the empty text for it. -/
theorem routeTree_of_namesNoTree {payload : Json} {job : Job} (hno : NamesNoTree payload)
    (h : ofJson payload = .ok job) : job.routeTree = none ∨ job.routeTree = some [] := by
  obtain ⟨ms, rfl⟩ := exists_object_of_ofJson h
  obtain ⟨-, htree, -, -, -⟩ := ofJson_object_eq_ok.mp h
  rcases hno with hno | hno | hno
  · rw [checkField, hno] at htree
    exact .inl (Except.ok.inj htree).symm
  · rw [checkField_of_some hno] at htree
    exact .inl (Except.ok.inj htree).symm
  · rw [checkField_of_some hno] at htree
    exact .inr (Except.ok.inj htree).symm

end Job

end RouteAtlas
