import RouteAtlas.Proofs.Table
import RouteAtlas.Routes.Bindings

/-!
# What the pass over a script collects

Each item of a script declares some names and lists some routes, whatever stands before or behind
it. The pass over the items keeps all of it and adds nothing:

- `Item.imported`, `Item.made`, `Item.listed`: what one item declares, read off its shape;
- `Bindings.addItem_eq`: what **one step** of the pass does to the four parts of the bindings;
- `Bindings.ofItems_eq`: what the **whole pass** leaves, by induction over the items.
-/

namespace RouteAtlas

open Script

namespace Script

/-! ## What an item declares -/

/-- The name that a specifier of an import binds, with the text of the module: its alias, else the
name that it imports, unless that is a quoted one. -/
def Specifier.imported? (source : Text) : Specifier → Option (String × Text)
  | ⟨_, some bound, _⟩ => some (bound, source)
  | ⟨.name n, none, _⟩ => some (n, source)
  | ⟨.quoted _, none, _⟩ => none

/-- The names that an item imports: those bound between the braces of an import whose module is a
quoted string. -/
def Item.imported : Item → List (String × Text)
  | .statement ⟨_, .import_ ⟨_, _, specifiers, some source, _⟩⟩ _ =>
    (Entry.parts specifiers).filterMap (Specifier.imported? source.value)
  | _ => []

/-- The name that a declarator makes by calling the given method of another name: its target is a
plain name, and the whole initializer is the call. -/
def Declarator.made (method : String) : Declarator → List (String × String)
  | ⟨.name n, _, some (.call object called _ _), _, _⟩ =>
    if called = method then [(n, object)] else []
  | _ => []

/-- The names that an item makes by calling the given method, with the name called upon. -/
def Item.made (method : String) : Item → List (String × String)
  | .statement ⟨_, .variables _ ds⟩ _ => (Entry.parts ds).flatMap (Declarator.made method)
  | _ => []

/-- The route that a member of the path interface lists: a property with a quoted key whose type is
`typeof` and a plain name, with no comment behind the colon or behind `typeof`. -/
def Member.listed? : Member → Option PathEntry
  | .property line (.quoted key) (some ⟨[], .typeof [] n⟩) _ => some ⟨key.value, n, line⟩
  | _ => none

/-- The routes that an item lists: those of the members of the path interface. -/
def Item.listed : Item → List PathEntry
  | .statement ⟨_, .interface_ ⟨name, _, members, _⟩⟩ _ =>
    if name = pathInterface then (Entry.parts members).filterMap Member.listed? else []
  | _ => []

/-! ## The collectors agree with it -/

theorem Member.entry?_eq : Member.entry? = Member.listed? := by
  funext m
  match m with
  | .property _ (.quoted _) (some ⟨[], .typeof [] _⟩) _ => rfl
  | .property _ (.quoted _) (some ⟨[], .typeof (_ :: _) _⟩) _ => rfl
  | .property _ (.quoted _) (some ⟨[], .other⟩) _ => rfl
  | .property _ (.quoted _) (some ⟨_ :: _, _⟩) _ => rfl
  | .property _ (.quoted _) none _ => rfl
  | .property _ .other _ _ => rfl
  | .other _ => rfl

theorem Interface.entries_eq (e : Bool) (i : Interface) (text : List Char) :
    i.entries = (Item.statement ⟨e, .interface_ i⟩ text).listed := by
  rw [Interface.entries, Member.entry?_eq]
  rfl

theorem Specifier.localName?_map (source : Text) (s : Specifier) :
    (s.localName?.map fun n => (n, source)) = s.imported? source := by
  match s with
  | ⟨_, some _, _⟩ => rfl
  | ⟨.name _, none, _⟩ => rfl
  | ⟨.quoted _, none, _⟩ => rfl

theorem Import.bindings_eq (e : Bool) (i : Import) (text : List Char) :
    i.bindings = (Item.statement ⟨e, .import_ i⟩ text).imported := by
  obtain ⟨_, _, specifiers, source, _⟩ := i
  cases source with
  | none => rfl
  | some source => simp only [Import.bindings, Specifier.localName?_map, Item.imported]

end Script

namespace Bindings

/-! ## One step of the pass -/

/-- A declarator binds what it makes by `update` and by `_addFileChildren`; the two methods have
different names, so it never binds in both tables. -/
theorem addVariable_eq (b : Bindings) (d : Declarator) :
    b.addVariable d =
      { b with
        updates := b.updates.bindAll (d.made updateMethod)
        children := b.children.bindAll (d.made childrenMethod) } := by
  match d with
  | ⟨.name n, _, some (.call object called _ _), _, _⟩ =>
    -- the only shape that binds: a call whose target is a plain name
    by_cases hu : called = updateMethod
    · have hne : updateMethod ≠ childrenMethod := by decide
      simp [addVariable, Declarator.methodCall?, Declarator.made, Table.bindAll, hu, hne]
    · by_cases hc : called = childrenMethod
      · have hne : childrenMethod ≠ updateMethod := by decide
        simp [addVariable, Declarator.methodCall?, Declarator.made, Table.bindAll, hc, hne]
      · simp [addVariable, Declarator.methodCall?, Declarator.made, hu, hc]
  | ⟨.name _, _, none, _, _⟩ => rfl
  | ⟨.name _, _, some (.name _), _, _⟩ => rfl
  | ⟨.name _, _, some (.quoted _), _, _⟩ => rfl
  | ⟨.name _, _, some (.member ..), _, _⟩ => rfl
  | ⟨.name _, _, some .other, _, _⟩ => rfl
  | ⟨.pattern _, _, _, _, _⟩ => rfl

/-- The declarators of one declaration, in order. -/
theorem foldl_addVariable (ds : List Declarator) (b : Bindings) :
    ds.foldl addVariable b =
      { b with
        updates := b.updates.bindAll (ds.flatMap (Declarator.made updateMethod))
        children := b.children.bindAll (ds.flatMap (Declarator.made childrenMethod)) } := by
  induction ds generalizing b with
  | nil => rfl
  | cons d ds ih =>
    rw [List.foldl_cons, ih, addVariable_eq, List.flatMap_cons, List.flatMap_cons,
      Table.bindAll_append, Table.bindAll_append]

/-- **One step**: an item adds to each of the four parts what it declares for it. -/
theorem addItem_eq (b : Bindings) (i : Item) :
    b.addItem i =
      { imports := b.imports.bindAll i.imported
        updates := b.updates.bindAll (i.made updateMethod)
        children := b.children.bindAll (i.made childrenMethod)
        entries := b.entries ++ i.listed } := by
  match i with
  | .comment _ => simp [addItem, Item.imported, Item.made, Item.listed]
  | .statement ⟨e, .import_ i⟩ text =>
    show b.addImport i = _
    rw [addImport, Import.bindings_eq e i text]
    simp [Table.bindAll, Item.made, Item.listed]
  | .statement ⟨_, .variables _ ds⟩ _ =>
    show (Entry.parts ds).foldl addVariable b = _
    rw [foldl_addVariable]
    simp [Item.imported, Item.made, Item.listed]
  | .statement ⟨e, .interface_ i⟩ text =>
    show { b with entries := b.entries ++ i.entries } = _
    rw [Interface.entries_eq e i text]
    simp [Item.imported, Item.made]
  | .statement ⟨_, .other _⟩ _ => simp [addItem, Item.imported, Item.made, Item.listed]

/-! ## The whole pass -/

/-- A pass over items from given bindings on. -/
theorem foldl_addItem (is : List Item) (b : Bindings) :
    is.foldl addItem b =
      { imports := b.imports.bindAll (is.flatMap Item.imported)
        updates := b.updates.bindAll (is.flatMap (Item.made updateMethod))
        children := b.children.bindAll (is.flatMap (Item.made childrenMethod))
        entries := b.entries ++ is.flatMap Item.listed } := by
  induction is generalizing b with
  | nil => simp
  | cons i is ih =>
    rw [List.foldl_cons, ih, addItem_eq]
    simp only [List.flatMap_cons, Table.bindAll_append, List.append_assoc]

/-- **The whole pass** keeps all that the items declare, in their order, and nothing else. -/
theorem ofItems_eq (is : List Item) :
    ofItems is =
      { imports := Table.bindAll [] (is.flatMap Item.imported)
        updates := Table.bindAll [] (is.flatMap (Item.made updateMethod))
        children := Table.bindAll [] (is.flatMap (Item.made childrenMethod))
        entries := is.flatMap Item.listed } :=
  foldl_addItem is {}

theorem entries_ofItems (is : List Item) : (ofItems is).entries = is.flatMap Item.listed := by
  rw [ofItems_eq]

end Bindings

end RouteAtlas
