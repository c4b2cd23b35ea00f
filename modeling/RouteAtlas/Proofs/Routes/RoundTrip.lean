import RouteAtlas.Proofs.Routes.Listing
import RouteAtlas.Proofs.Script.Generated

/-!
# Generated route trees are read back

A generator of route trees is given a manifest: the routes to import, the routes made from them,
the routes that wrap others, and the paths to list. It writes one text for it, and reading that
text gives the manifest back.

- `RouteName`, `Script.LineText`: the names and texts that a generator writes;
- `Manifest`, `Manifest.text`: what a generator is given, and what it writes;
- `Manifest.text_eq_script`: the text is a script of readable declarations;
- `parse?_manifest`: **the round trip**, from characters to the sorted routes.
-/

namespace RouteAtlas

open Script

/-! ## What a generator writes -/

/-- The name of a route: letters, digits, `_` and `$`, no digit in front, and an ending that tells
how the route is made. -/
structure RouteName where
  name : String
  chars : name.toList.all (fun c => c.isAlphanum || c == '_' || c == '$') = true := by decide
  first : name.toList.head?.any Char.isDigit = false := by decide
  ending : ["Route", "RouteImport", "RouteWithChildren"].any
    (fun e => e.toList.isSuffixOf name.toList) = true := by decide

/-- A route that is imported, and the module it comes from. -/
structure ImportedRoute where
  bound : RouteName
  source : LineText

/-- A route that is made from an imported one, with its options. -/
structure UpdatedRoute where
  name : RouteName
  base : RouteName
  id : LineText
  path : LineText
  parent : RouteName

/-- A route that wraps another one and gives it children. -/
structure WrappedRoute where
  name : RouteName
  base : RouteName
  children : RouteName

/-- A path and the route that it is listed with. -/
structure ListedRoute where
  path : LineText
  name : RouteName

/-- What a generator of route trees is given. -/
structure Manifest where
  imports : List ImportedRoute
  updates : List UpdatedRoute
  wrappers : List WrappedRoute
  members : List ListedRoute

/-- What a generator writes for a route, with its line ends. -/
def ImportedRoute.text (i : ImportedRoute) : List Char :=
  "import \x7b Route as ".toList ++ i.bound.name.toList ++ " \x7d from ".toList ++
    i.source.quoted ++ "\n".toList

@[inherit_doc ImportedRoute.text]
def UpdatedRoute.text (u : UpdatedRoute) : List Char :=
  "const ".toList ++ u.name.name.toList ++ " = ".toList ++ u.base.name.toList ++
    ".update(\x7b\n  id: ".toList ++ u.id.quoted ++ ",\n  path: ".toList ++ u.path.quoted ++
    ",\n  getParentRoute: () => ".toList ++ u.parent.name.toList ++ ",\n\x7d as any)\n".toList

@[inherit_doc ImportedRoute.text]
def WrappedRoute.text (w : WrappedRoute) : List Char :=
  "const ".toList ++ w.name.name.toList ++ " = ".toList ++ w.base.name.toList ++
    "._addFileChildren(".toList ++ w.children.name.toList ++ ")\n".toList

@[inherit_doc ImportedRoute.text]
def ListedRoute.text (e : ListedRoute) : List Char :=
  "  ".toList ++ e.path.quoted ++ ": typeof ".toList ++ e.name.name.toList ++ "\n".toList

/-- What a generator writes: the imports, the routes made from them, the wrappers, and the interface
that lists the paths. Every line has a line end, and no line has a semicolon. -/
def Manifest.text (m : Manifest) : List Char :=
  m.imports.flatMap ImportedRoute.text ++ m.updates.flatMap UpdatedRoute.text ++
    m.wrappers.flatMap WrappedRoute.text ++
    "export interface FileRoutesByFullPath \x7b\n".toList ++
    m.members.flatMap ListedRoute.text ++ "\x7d\n".toList

/-- The line at which a generator writes the interface: imports and wrappers take one line each
before it, and routes made from imports take five. -/
def Manifest.interfaceLine (m : Manifest) : Nat :=
  m.imports.length + 5 * m.updates.length + m.wrappers.length + 1

/-- The entries that the paths are to be read as, each on its line. -/
def Manifest.entries (m : Manifest) : List PathEntry :=
  m.members.mapIdx fun k e => ⟨e.path.text, e.name.name, m.interfaceLine + 1 + k⟩

/-! ## Its declarations -/

/-- The letters of ASCII are letters of names. -/
theorem isLetter_of_ascii {c : Char} (h : c.isAlpha = true) : isLetter c = true := by
  have hrange : 65 ≤ c.toNat ∧ c.toNat ≤ 90 ∨ 97 ≤ c.toNat ∧ c.toNat ≤ 122 := by
    change (decide (65 ≤ c.val ∧ c.val ≤ 90) || (decide (97 ≤ c.val) && decide (c.val ≤ 122))) = true
      at h
    simpa [UInt32.le_iff_toNat_le] using h
  have hascii : c.toNat < 128 := by omega
  simp only [isLetter, hascii, if_true, Bool.or_eq_true, Bool.and_eq_true, decide_eq_true_eq]
  omega

/-- The characters that the names of routes are made of may stand in names. -/
theorem isNameChar_of_ascii {c : Char} (h : (c.isAlphanum || c == '_' || c == '$') = true) :
    isNameChar c = true := by
  simp only [Char.isAlphanum, Bool.or_eq_true] at h
  simp only [isNameChar, isNameStart, Bool.or_eq_true]
  rcases h with ((h | h) | h) | h
  · exact .inl (.inl (.inl (.inl (isLetter_of_ascii h))))
  · exact .inr h
  · exact .inl (.inl (.inl (.inr h)))
  · exact .inl (.inl (.inr h))

/-- The name of a route is read as a name: its ending has a capital, so it is no keyword. -/
theorem RouteName.isName (n : RouteName) : IsName n.name := by
  obtain ⟨e, he, hsuffix⟩ := List.any_eq_true.mp n.ending
  -- keywords have small letters only, and every ending has a capital
  have hcapital : 'R' ∈ n.name.toList := by
    refine (List.isSuffixOf_iff_suffix.mp hsuffix).subset ?_
    rcases List.mem_cons.mp he with rfl | he
    · decide
    rcases List.mem_cons.mp he with rfl | he
    · decide
    rw [List.mem_singleton.mp he]
    decide
  have hsmall : n.name.toList.all isSmall = false :=
    List.all_eq_false.mpr ⟨'R', hcapital, by decide⟩
  have hall : n.name.toList.all isNameChar = true :=
    List.all_eq_true.mpr fun c hc => isNameChar_of_ascii (List.all_eq_true.mp n.chars c hc)
  have hfirst : n.name.toList.head?.any (!isDigit ·) = true := by
    obtain ⟨c, cs, hcs⟩ := List.exists_cons_of_ne_nil (List.ne_nil_of_mem hcapital)
    have hdigit := n.first
    rw [hcs, List.head?_cons, Option.any_some] at hdigit ⊢
    rw [Bool.not_eq_true']
    exact hdigit
  refine isName_of_isPlainName ?_
  rw [isPlainName, hall, hfirst, hsmall, Bool.not_false, Bool.or_true]
  rfl

/-- A character that no name holds is not in the name of a route. -/
theorem RouteName.notMem (n : RouteName) {c : Char} (hc : isNameChar c = false) :
    c ∉ n.name.toList := by
  intro hmem
  rw [List.all_eq_true.mp n.isName.word.all c hmem] at hc
  cases hc

/-- The declaration that is written for a route. -/
def ImportedRoute.declaration (i : ImportedRoute) : Declaration :=
  .import_ "Route" i.bound.name i.source.literal

@[inherit_doc ImportedRoute.declaration]
def UpdatedRoute.declaration (u : UpdatedRoute) : Declaration :=
  .call u.name.name u.base.name updateMethod
    (.options u.id.literal u.path.literal u.parent.name)

@[inherit_doc ImportedRoute.declaration]
def WrappedRoute.declaration (w : WrappedRoute) : Declaration :=
  .call w.name.name w.base.name childrenMethod (.name w.children.name)

/-- The member of the interface that is written for a route. -/
def ListedRoute.member (e : ListedRoute) : Literal × String := (e.path.literal, e.name.name)

/-- The interface that lists the paths of a manifest. -/
def Manifest.interface (m : Manifest) : Declaration :=
  .interface_ pathInterface (m.members.map ListedRoute.member)

/-- The declarations that a generator writes. -/
def Manifest.declarations (m : Manifest) : List Declaration :=
  m.imports.map ImportedRoute.declaration ++ (m.updates.map UpdatedRoute.declaration ++
    (m.wrappers.map WrappedRoute.declaration ++ [m.interface]))

/-! ## The text is their script -/

open Generated

theorem ImportedRoute.text_eq (i : ImportedRoute) : i.text = i.declaration.text ++ ['\n'] := by
  have hopen : "import \x7b Route as ".toList =
      "import \x7b ".toList ++ ("Route".toList ++ " as ".toList) := rfl
  have hend : "\n".toList = Declaration.stop false ++ ['\n'] := rfl
  unfold text declaration
  simp only [Declaration.import_text_append, LineText.literal_source, hopen, hend,
    List.append_assoc]

theorem UpdatedRoute.text_eq (u : UpdatedRoute) : u.text = u.declaration.text ++ ['\n'] := by
  have hopen : ".update(\x7b\n  id: ".toList =
      ".".toList ++ (updateMethod.toList ++ ("(".toList ++ "\x7b\n  id: ".toList)) := rfl
  have hend : ",\n\x7d as any)\n".toList =
      ",\n\x7d as any".toList ++ (")".toList ++ (Declaration.stop false ++ ['\n'])) := rfl
  unfold text declaration
  simp only [Declaration.call_text_append, options_text_append, LineText.literal_source, hopen,
    hend, List.append_assoc]

theorem WrappedRoute.text_eq (w : WrappedRoute) : w.text = w.declaration.text ++ ['\n'] := by
  have hopen : "._addFileChildren(".toList =
      ".".toList ++ (childrenMethod.toList ++ "(".toList) := rfl
  have hend : ")\n".toList = ")".toList ++ (Declaration.stop false ++ ['\n']) := rfl
  have hargument : (Argument.name w.children.name).text = w.children.name.toList := rfl
  unfold text declaration
  simp only [Declaration.call_text_append, hargument, hopen, hend, List.append_assoc]

theorem ListedRoute.text_eq (e : ListedRoute) :
    e.text = Declaration.memberText e.member.1 e.member.2 := by
  unfold text Declaration.memberText member
  simp only [LineText.literal_source]

theorem Manifest.interface_text (m : Manifest) : m.interface.text ++ ['\n'] =
    "export interface FileRoutesByFullPath \x7b\n".toList ++
      (m.members.flatMap ListedRoute.text ++ "\x7d\n".toList) := by
  have hopen : "export interface FileRoutesByFullPath \x7b\n".toList =
      "export interface ".toList ++ (pathInterface.toList ++ " \x7b\n".toList) := rfl
  have hend : "\x7d\n".toList = "\x7d".toList ++ ['\n'] := rfl
  unfold interface
  simp only [Declaration.interface_text_append, List.flatMap_map, funext ListedRoute.text_eq, hopen,
    hend, List.append_assoc]

/-- **What a generator writes is the script of its declarations.** -/
theorem Manifest.text_eq_script (m : Manifest) : m.text = script m.declarations := by
  have hinterface : script [m.interface] = m.interface.text ++ ['\n'] := List.flatMap_singleton _ _
  unfold text declarations
  simp only [script_append, script_map ImportedRoute.text_eq, script_map UpdatedRoute.text_eq,
    script_map WrappedRoute.text_eq, hinterface, interface_text, List.append_assoc]

/-- The declarations of a manifest can be read back. -/
theorem Manifest.readable (m : Manifest) : ∀ d ∈ m.declarations, d.Readable := by
  have hroute : IsName "Route" := isName_of_isPlainName (by decide)
  have hupdate : IsName updateMethod := isName_of_mem_layoutNames (by decide)
  have hchildren : IsName childrenMethod := isName_of_mem_layoutNames (by decide)
  have hinterface : IsName pathInterface := isName_of_isPlainName (by decide)
  intro d hd
  rw [declarations, List.mem_append, List.mem_append, List.mem_append, List.mem_singleton] at hd
  rcases hd with hd | hd | hd | rfl
  · obtain ⟨i, -, rfl⟩ := List.mem_map.mp hd
    exact ⟨hroute, i.bound.isName, i.source.literal_reads⟩
  · obtain ⟨u, -, rfl⟩ := List.mem_map.mp hd
    exact ⟨u.name.isName, u.base.isName, hupdate, u.id.literal_reads, u.path.literal_reads,
      u.parent.isName⟩
  · obtain ⟨w, -, rfl⟩ := List.mem_map.mp hd
    exact ⟨w.name.isName, w.base.isName, hchildren, w.children.isName⟩
  · refine ⟨hinterface, fun k hk => ?_⟩
    obtain ⟨e, -, rfl⟩ := List.mem_map.mp hk
    exact ⟨e.path.literal_reads, e.name.isName⟩

/-! ## Its lines -/

/-- Neither names nor quoted texts hold the character, so that the layout alone has it. -/
structure OfLayout (c : Char) : Prop where
  names : ∀ n : RouteName, n.name.toList.count c = 0
  texts : ∀ t : LineText, t.quoted.count c = 0

theorem ofLayout_newline : OfLayout '\n' where
  names n := List.count_eq_zero.mpr (n.notMem rfl)
  texts t := List.count_eq_zero.mpr t.newline_notMem_quoted

theorem ofLayout_nul : OfLayout '\x00' where
  names n := List.count_eq_zero.mpr (n.notMem rfl)
  texts t := List.count_eq_zero.mpr t.nul_notMem_quoted

section

variable {c : Char} (hc : OfLayout c)
include hc

theorem ImportedRoute.count_text (i : ImportedRoute) : i.text.count c =
    "import \x7b Route as ".toList.count c + " \x7d from ".toList.count c + "\n".toList.count c := by
  unfold text
  simp only [List.count_append, hc.names, hc.texts, Nat.add_zero]

theorem UpdatedRoute.count_text (u : UpdatedRoute) : u.text.count c =
    "const ".toList.count c + " = ".toList.count c + ".update(\x7b\n  id: ".toList.count c +
      ",\n  path: ".toList.count c + ",\n  getParentRoute: () => ".toList.count c +
      ",\n\x7d as any)\n".toList.count c := by
  unfold text
  simp only [List.count_append, hc.names, hc.texts, Nat.add_zero]

theorem WrappedRoute.count_text (w : WrappedRoute) : w.text.count c =
    "const ".toList.count c + " = ".toList.count c + "._addFileChildren(".toList.count c +
      ")\n".toList.count c := by
  unfold text
  simp only [List.count_append, hc.names, Nat.add_zero]

theorem ListedRoute.count_text (e : ListedRoute) : e.text.count c =
    "  ".toList.count c + ": typeof ".toList.count c + "\n".toList.count c := by
  unfold text
  simp only [List.count_append, hc.names, hc.texts, Nat.add_zero]

end

/-- Parts with equally many occurrences of a character. -/
theorem count_flatMap_of_forall {α : Type} {part : α → List Char} {c : Char} {n : Nat}
    (h : ∀ x, (part x).count c = n) (xs : List α) :
    (xs.flatMap part).count c = xs.length * n := by
  have hconst : List.count c ∘ part = fun _ => n := funext h
  rw [List.count_flatMap, hconst, List.map_const', List.sum_replicate_nat]

/-- What a generator writes holds no NUL. -/
theorem Manifest.nul_notMem_text (m : Manifest) : '\x00' ∉ m.text := by
  have himport : ∀ i : ImportedRoute, i.text.count '\x00' = 0 :=
    fun i => i.count_text ofLayout_nul
  have hupdate : ∀ u : UpdatedRoute, u.text.count '\x00' = 0 :=
    fun u => u.count_text ofLayout_nul
  have hwrapper : ∀ w : WrappedRoute, w.text.count '\x00' = 0 :=
    fun w => w.count_text ofLayout_nul
  have hmember : ∀ e : ListedRoute, e.text.count '\x00' = 0 :=
    fun e => e.count_text ofLayout_nul
  have hopen : "export interface FileRoutesByFullPath \x7b\n".toList.count '\x00' = 0 := by decide
  have hend : "\x7d\n".toList.count '\x00' = 0 := by decide
  rw [← List.count_eq_zero]
  unfold text
  simp only [List.count_append, count_flatMap_of_forall himport, count_flatMap_of_forall hupdate,
    count_flatMap_of_forall hwrapper, count_flatMap_of_forall hmember, hopen, hend, Nat.mul_zero,
    Nat.add_zero]

/-- What a view of items shows of the items that are read back: the routes of each kind in their
order, and the interface at its line. -/
theorem Manifest.flatMap_items (m : Manifest) {β : Type} (view : Item → List β)
    {imported : ImportedRoute → List β} {updated : UpdatedRoute → List β}
    {wrapped : WrappedRoute → List β}
    (hi : ∀ line i, view (i.declaration.item line) = imported i)
    (hu : ∀ line u, view (u.declaration.item line) = updated u)
    (hw : ∀ line w, view (w.declaration.item line) = wrapped w) :
    (Generated.items 1 m.declarations).flatMap view =
      m.imports.flatMap imported ++ (m.updates.flatMap updated ++ (m.wrappers.flatMap wrapped ++
        view (m.interface.item m.interfaceLine))) := by
  have himport : ∀ i : ImportedRoute, i.text.count '\n' = 1 :=
    fun i => i.count_text ofLayout_newline
  have hupdate : ∀ u : UpdatedRoute, u.text.count '\n' = 5 :=
    fun u => u.count_text ofLayout_newline
  have hwrapper : ∀ w : WrappedRoute, w.text.count '\n' = 1 :=
    fun w => w.count_text ofLayout_newline
  have hline : 1 + m.imports.length * 1 + m.updates.length * 5 + m.wrappers.length * 1 =
      m.interfaceLine := by
    unfold interfaceLine
    omega
  -- the routes are counted line by line up to the interface, which is the last item
  have hinterface : (Generated.items m.interfaceLine [m.interface]).flatMap view =
      view (m.interface.item m.interfaceLine) := List.flatMap_singleton _ _
  rw [declarations, items_append, items_append, items_append, script_map ImportedRoute.text_eq,
    script_map UpdatedRoute.text_eq, script_map WrappedRoute.text_eq,
    count_flatMap_of_forall himport, count_flatMap_of_forall hupdate,
    count_flatMap_of_forall hwrapper, hline, List.flatMap_append, List.flatMap_append,
    List.flatMap_append, flatMap_items_map hi, flatMap_items_map hu, flatMap_items_map hw,
    hinterface]

/-! ## What it declares -/

/-- What a call makes by the given method. -/
theorem Script.Declaration.made_call (name object called method : String) (a : Argument)
    (line : Nat) : ((Declaration.call name object called a).item line).made method =
      if called = method then [(name, object)] else [] :=
  List.append_nil _

theorem flatMap_nil_fun {α β : Type} (xs : List α) : (xs.flatMap fun _ => ([] : List β)) = [] :=
  List.flatMap_eq_nil_iff.mpr fun _ _ => rfl

/-- The names that a generator imports are read back. -/
theorem Manifest.imported_items (m : Manifest) :
    (Generated.items 1 m.declarations).flatMap Item.imported =
      m.imports.map fun i => (i.bound.name, i.source.text) := by
  have himport : ∀ line (i : ImportedRoute),
      (i.declaration.item line).imported = [(i.bound.name, i.source.text)] := by
    intro line i
    rw [← i.source.literal_value]
    rfl
  have hview := m.flatMap_items Item.imported himport (fun _ _ => rfl) (fun _ _ => rfl)
  have hinterface : (m.interface.item m.interfaceLine).imported = [] := rfl
  rw [hview, hinterface, flatMap_nil_fun, flatMap_nil_fun, List.map_eq_flatMap]
  simp only [List.append_nil]

/-- What a generator makes by the given method is read back. -/
theorem Manifest.made_items (m : Manifest) (method : String) :
    (Generated.items 1 m.declarations).flatMap (Item.made method) =
      (m.updates.flatMap fun u =>
          if updateMethod = method then [(u.name.name, u.base.name)] else []) ++
        m.wrappers.flatMap fun w =>
          if childrenMethod = method then [(w.name.name, w.base.name)] else [] := by
  have hview := m.flatMap_items (Item.made method) (fun _ _ => rfl)
    (fun line u => Declaration.made_call u.name.name u.base.name _ _ _ line)
    (fun line w => Declaration.made_call w.name.name w.base.name _ _ _ line)
  have hinterface : (m.interface.item m.interfaceLine).made method = [] := rfl
  rw [hview, hinterface, flatMap_nil_fun, List.append_nil, List.nil_append]

/-- The routes that a generator makes from imports are read back. -/
theorem Manifest.updated_items (m : Manifest) :
    (Generated.items 1 m.declarations).flatMap (Item.made updateMethod) =
      m.updates.map fun u => (u.name.name, u.base.name) := by
  have hne : childrenMethod ≠ updateMethod := by decide
  rw [made_items]
  simp only [if_true, if_neg hne, flatMap_nil_fun, List.append_nil, ← List.map_eq_flatMap]

/-- The wrappers that a generator writes are read back. -/
theorem Manifest.wrapped_items (m : Manifest) :
    (Generated.items 1 m.declarations).flatMap (Item.made childrenMethod) =
      m.wrappers.map fun w => (w.name.name, w.base.name) := by
  have hne : updateMethod ≠ childrenMethod := by decide
  rw [made_items]
  simp only [if_true, if_neg hne, flatMap_nil_fun, List.nil_append, ← List.map_eq_flatMap]

/-- The members of an interface are listed one line after the other. -/
theorem listed_entries : ∀ (es : List ListedRoute) (line : Nat),
    (Entry.parts (Declaration.entries line (es.map ListedRoute.member))).filterMap Member.listed? =
      es.mapIdx fun k e => ⟨e.path.text, e.name.name, line + k⟩
  | [], _ => rfl
  | e :: es, line => by
    have hnext : line + e.path.literal.newlines + 1 = line + 1 := by
      rw [e.path.newlines_literal, Nat.add_zero]
    have hhead : Member.listed? (.property line (.quoted e.path.literal)
        (some ⟨[], .typeof [] e.name.name⟩) []) = some ⟨e.path.text, e.name.name, line⟩ := by
      rw [← e.path.literal_value]
      rfl
    have hentries : Declaration.entries line ((e :: es).map ListedRoute.member) =
        .part (.property line (.quoted e.path.literal) (some ⟨[], .typeof [] e.name.name⟩) []) ::
          Declaration.entries (line + 1) (es.map ListedRoute.member) := by
      rw [← hnext]
      rfl
    have hparts : ∀ (m : Member) ms, Entry.parts (.part m :: ms) = m :: Entry.parts ms :=
      fun _ _ => rfl
    rw [hentries, hparts, List.filterMap_cons_some hhead, listed_entries es, List.mapIdx_cons]
    simp only [Nat.add_zero, Nat.add_assoc, Nat.add_comm 1]

/-- The paths that a generator lists are read back, each with its line. -/
theorem Manifest.listed_items (m : Manifest) :
    (Generated.items 1 m.declarations).flatMap Item.listed = m.entries := by
  have hview := m.flatMap_items Item.listed (fun _ _ => rfl) (fun _ _ => rfl) (fun _ _ => rfl)
  have hinterface : (m.interface.item m.interfaceLine).listed = m.entries := by
    show (if pathInterface = pathInterface then _ else []) = _
    rw [if_pos rfl]
    exact listed_entries m.members (m.interfaceLine + 1)
  rw [hview, hinterface, flatMap_nil_fun, flatMap_nil_fun, flatMap_nil_fun]
  rfl

/-! ## The round trip -/

/-- **Round trip**: what a generator writes for a manifest is accepted, whatever the manifest holds.
The three tables are those of its routes, the last one of every name winning; the path entries are
those of its members, in order and with their lines; and the routes are the one list that these
entries amount to. -/
theorem parse?_manifest (m : Manifest) :
    ∃ t, RouteTree.parse? m.text = some t ∧
      t.bindings.imports.LastWins (m.imports.map fun i => (i.bound.name, i.source.text)) ∧
      t.bindings.updates.LastWins (m.updates.map fun u => (u.name.name, u.base.name)) ∧
      t.bindings.children.LastWins (m.wrappers.map fun w => (w.name.name, w.base.name)) ∧
      t.bindings.entries = m.entries ∧
      IsListing m.entries
        (resolve t.bindings.children t.bindings.updates t.bindings.imports) t.routes ∧
      ∀ rs, IsListing m.entries
        (resolve t.bindings.children t.bindings.updates t.bindings.imports) rs → rs = t.routes := by
  have hparse : Script.parse? m.text = some (Generated.items 1 m.declarations) := by
    rw [m.text_eq_script]
    exact parse?_script m.readable (m.text_eq_script ▸ m.nul_notMem_text)
  have hbindings := Bindings.ofItems_eq (Generated.items 1 m.declarations)
  rw [m.imported_items, m.updated_items, m.wrapped_items, m.listed_items] at hbindings
  have hlist := Bindings.isListing_routes (.ofItems (Generated.items 1 m.declarations))
  rw [Bindings.entries_ofItems, m.listed_items] at hlist
  refine ⟨_, RouteTree.parse?_of_items hparse, ?_, ?_, ?_, ?_, hlist,
    fun rs hrs => hrs.unique hlist fun _ => rfl⟩
  · exact congrArg Bindings.imports hbindings ▸ Table.lastWins_bindAll _
  · exact congrArg Bindings.updates hbindings ▸ Table.lastWins_bindAll _
  · exact congrArg Bindings.children hbindings ▸ Table.lastWins_bindAll _
  · exact congrArg Bindings.entries hbindings

/-- A manifest whose texts hold quotes, backslashes and what looks like the rest of a member. -/
def awkwardPaths : Manifest where
  imports := [⟨.mk "aRouteImport", .mk "./it\x27s".toList⟩]
  updates := [⟨.mk "aRoute", .mk "aRouteImport", .mk "\\".toList, .mk "\\\x27".toList,
    .mk "$Route"⟩]
  wrappers := [⟨.mk "aRouteWithChildren", .mk "aRoute", .mk "_Route"⟩]
  members := [⟨.mk "/\x27: typeof $Route".toList, .mk "aRouteWithChildren"⟩,
    ⟨.mk "//\\".toList, .mk "$Route"⟩]

/-- Its text, the route that is read from its first path, and none from its second. -/
theorem parse?_manifest_awkwardPaths :
    ["import \x7b Route as aRouteImport \x7d from \x27./it\\\x27s\x27\n",
      "const aRoute = aRouteImport.update(\x7b\n",
      "  id: \x27\\\\\x27,\n",
      "  path: \x27\\\\\\\x27\x27,\n",
      "  getParentRoute: () => $Route,\n",
      "\x7d as any)\n",
      "const aRouteWithChildren = aRoute._addFileChildren(_Route)\n",
      "export interface FileRoutesByFullPath \x7b\n",
      "  \x27/\\\x27: typeof $Route\x27: typeof aRouteWithChildren\n",
      "  \x27//\\\\\x27: typeof $Route\n",
      "\x7d\n"].flatMap String.toList = awkwardPaths.text ∧
    ∃ t, RouteTree.parse? awkwardPaths.text = some t ∧
      t.routes.filter (fun r => r.path = Text.ofString "/\x27: typeof $Route") =
        [⟨Text.ofString "/\x27: typeof $Route", Text.ofString "./it\x27s"⟩] ∧
      t.routes.filter (fun r => r.path = Text.ofString "//\\") = [] := by
  refine ⟨by decide +kernel, ?_⟩
  obtain ⟨t, ht, hi, hu, hc, -, hlist, -⟩ := parse?_manifest awkwardPaths
  have hresolve := funext (resolve_congr (hc.get?_eq (Table.lastWins_bindAll _))
    (hu.get?_eq (Table.lastWins_bindAll _)) (hi.get?_eq (Table.lastWins_bindAll _)))
  rw [hresolve] at hlist
  refine ⟨t, ht, (hlist.exact_at _).trans ?_, (hlist.exact_at _).trans ?_⟩
  · decide +kernel
  · decide +kernel

end RouteAtlas
