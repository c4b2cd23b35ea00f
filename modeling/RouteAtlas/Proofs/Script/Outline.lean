import RouteAtlas.Proofs.Routes.Listing
import RouteAtlas.Proofs.Script.Insertion

/-!
# What is read off a tree

The items of a script are outlines of its statements, and only some positions of a statement are
looked at. Here these positions are told, and that everything that a script binds is read off them:

- `Reading.statements`: the statements of a script, without comments and with `export` taken off;
- `Source.importsOf`, `Source.makesOf`, `Source.membersOf`: what one statement imports, makes, and
  lists;
- `Reading.hidesTypeof`, `Source.said?`: the one place where a comment matters, and what a member
  says of its route;
- `Source.ofItems_items`: the bindings of a script, statement by statement.
-/

namespace RouteAtlas.Script

/-! ## Positions in a tree -/

namespace Reading

/-- The parts that are phrases of the given kind. -/
def phrases (r : Reading) (p : Phrase) : List Reading :=
  r.parts.filter fun q => !q.isAside && q.isPhrase p

/-- The braces of an import. -/
def namedImports? (r : Reading) : Option Reading :=
  (r.part? .importClause).bind (·.part? .namedImports)

/-- The module text of an import, which may stand behind `from`. -/
def moduleText? (r : Reading) : Option Reading :=
  ((r.part? .fromClause).getD r).part? .string

/-- The last part of a specifier, which is the name that it binds. -/
def boundName? (r : Reading) : Option Reading := (r.parts.filter fun p => !p.isAside).getLast?

/-- The value of a declarator. -/
def value? (r : Reading) : Option Reading := (r.part? .initializer).bind (·.parts.getLast?)

/-- The callee of a call. -/
def callee? (r : Reading) : Option Reading :=
  if r.core.isPhrase .callExpression then r.core.parts.head? else none

/-- The object of a member expression. -/
def object? (r : Reading) : Option Reading :=
  if r.isPhrase .memberExpression then r.parts.head? else none

/-- The property of a member expression. -/
def property? (r : Reading) : Option Reading :=
  if r.isPhrase .memberExpression then r.parts.getLast? else none

/-- The name of an interface. -/
def interfaceName? (r : Reading) : Option Reading := r.parts.find? (·.isToken .name)

/-- The members of an interface that are properties. -/
def properties (r : Reading) : List Reading :=
  ((r.part? .objectType).map (·.phrases .propertySignature)).getD []

/-- The quoted key of a property. -/
def quotedKey? (r : Reading) : Option Reading := (r.part? .propertyName).bind (·.part? .string)

/-- The type of a property. -/
def type? (r : Reading) : Option Reading := (r.part? .typeAscription).bind (·.parts.getLast?)

/-- A comment stands between the colon and the type of a property, or in its `typeof` type. -/
def hidesTypeof (r : Reading) : Bool :=
  (r.part? .typeAscription).any (·.parts.any isAside) ||
    r.type?.any fun t => t.core.isPhrase .typeQuery && t.core.parts.any isAside

/-- A statement with `export` taken off. -/
def unwrapped (r : Reading) : Reading :=
  match (if r.core.isPhrase .exportStatement then r.core.part? .declaration else none) with
  | some d => d.core
  | none => r.core

/-- What stands at the top level of a script. -/
def topLevel (r : Reading) : List Reading :=
  r.parts.flatMap fun p => if p.isPhrase .program then p.parts else [p]

/-- The statements of a script, without comments and with `export` taken off. -/
def statements (r : Reading) : List Reading :=
  (r.topLevel.filter fun p => !p.isAside).map unwrapped

end Reading

/-! ## What is written there -/

/-- The object and the method of an outline that is a call. -/
def Outline.call? : Outline → Option (String × String)
  | .call object method _ _ => some (object, method)
  | _ => none

namespace Source

variable (s : Source)

/-- The names that the specifiers of an import bind, with the text of its module. -/
def importedNames (named module : Option Reading) : List (String × Text) :=
  match module with
  | none => []
  | some m =>
    ((named.map (·.phrases .importSpecifier)).getD []).filterMap fun q =>
      q.boundName?.map fun n => (s.text n, (s.literal m).value)

/-- The text of a plain name. -/
def plainName? (r : Reading) : Option String := if r.isToken .name then some (s.text r) else none

/-- The text of an object that is a plain name. -/
def objectName? (r : Reading) : Option String := if r.core.isName then some (s.text r) else none

/-- The name and the method of it that a callee is. -/
def methodOf? (r : Reading) : Option (String × String) :=
  match r.object?.bind s.objectName?, r.property?.bind s.plainName? with
  | some object, some method => some (object, method)
  | _, _ => none

/-- The name that a declarator makes by calling the given method of another name. -/
def madeBy (method : String) (r : Reading) : List (String × String) :=
  match r.parts.head?.bind s.plainName?,
    (r.value?.bind (·.callee?)).bind fun f => s.methodOf? f.core with
  | some n, some (object, called) => if called = method then [(n, object)] else []
  | _, _ => []

/-- The name in a `typeof` type. -/
def queriedName? (r : Reading) : Option String :=
  if r.core.isPhrase .typeQuery then r.core.parts.getLast?.bind s.plainName? else none

/-- What a property says of its route where no comment hides it: a path and a name. -/
def claim? (r : Reading) : Option (Text × String) :=
  match r.quotedKey?, r.type?.bind s.queriedName? with
  | some key, some n => some ((s.literal key).value, n)
  | _, _ => none

/-- What a property says of its route. -/
def said? (r : Reading) : Option (Text × String) := if r.hidesTypeof then none else s.claim? r

/-! ## What a statement declares -/

/-- What a statement imports. -/
def importsOf (r : Reading) : List (String × Text) :=
  if r.isPhrase .importStatement then s.importedNames r.namedImports? r.moduleText? else []

/-- What a statement makes by calling the given method. -/
def makesOf (method : String) (r : Reading) : List (String × String) :=
  if r.isPhrase .lexicalDeclaration || r.isPhrase .variableDeclaration then
    (r.phrases .variableDeclarator).flatMap (s.madeBy method)
  else []

/-- The members of the path interface, where the statement is that. -/
def membersOf (r : Reading) : List Reading :=
  if r.isPhrase .interfaceDeclaration && r.interfaceName?.map s.text = some pathInterface then
    r.properties
  else []

/-- The item that a reading is made into. -/
def item (r : Reading) : Item :=
  if r.isAside then .comment (s.comment r)
  else if r.isToken .hashBang then .statement ⟨false, .other .hashBang⟩ (s.chars r)
  else .statement (s.statement r) (s.chars r)

theorem items_eq (r : Reading) : s.items r = r.topLevel.map s.item := rfl

end Source

/-! ## Phrases are told apart -/

namespace Reading

theorem isPhrase_of_lt {r : Reading} (h : r.symbol < Grammar.tokenCount) (p : Phrase) :
    r.isPhrase p = false := by
  have hle := Symbol.le_ofPhrase p
  rw [isPhrase, beq_eq_false_iff_ne]
  omega

/-- No reading is a phrase of two kinds. -/
theorem isPhrase_ne {r : Reading} {p q : Phrase} (hp : r.isPhrase p = true)
    (hpq : p.ctorIdx ≠ q.ctorIdx) : r.isPhrase q = false := by
  rw [isPhrase, eq_of_beq hp, beq_eq_false_iff_ne]
  exact fun he => hpq (Symbol.add_eq_ofPhrase.mp he)

end Reading

/-! ## Imports -/

namespace Source

variable (s : Source)

theorem parts_entries {α : Type} (f : Reading → Option α) (rs : List Reading) :
    Entry.parts (s.entries f rs) = rs.filterMap fun r => if r.isAside then none else f r := by
  rw [Entry.parts, entries, List.filterMap_filterMap]
  congr 1
  funext r
  cases r.isAside with
  | true => rfl
  | false => cases f r <;> rfl

/-- Parts that are not comments, where only phrases of one kind are made into something. -/
theorem filterMap_phrases {β : Type} {p : Phrase} {f : Reading → Option β}
    (hf : ∀ q, q.isPhrase p = false → f q = none) (r : Reading) :
    (r.parts.filterMap fun q => if q.isAside then none else f q) = (r.phrases p).filterMap f := by
  rw [Reading.phrases, List.filterMap_filter]
  congr 1
  funext q
  cases q.isAside with
  | true => rfl
  | false =>
    cases hq : q.isPhrase p with
    | true => rfl
    | false => simp [hf q hq]

/-- A specifier binds its last part, whether that is an alias or not. -/
theorem localName?_specifier? {q : Reading} (hq : q.isPhrase .importSpecifier = true) :
    (s.specifier? q).bind Specifier.localName? = q.boundName?.map s.text := by
  rw [specifier?, if_pos hq, Reading.boundName?, ← List.head?_reverse]
  dsimp only
  generalize (q.parts.filter fun p => !p.isAside).reverse = ps
  match ps with
  | [] => rfl
  | [_] => rfl
  | [_, _] => rfl
  | _ :: word :: _ :: _ =>
    show (if word.isSpelled "as" then _ else _ : Option Specifier).bind _ = _
    split <;> rfl

theorem source_import (r : Reading) : (s.import_ r).source = r.moduleText?.map s.literal := by
  show (((r.part? .fromClause).map (·.parts)).getD r.parts |>.find? _).map s.literal = _
  rw [Reading.moduleText?]
  cases r.part? .fromClause with
  | none => rfl
  | some clause => rfl

theorem specifiers_import (r : Reading) : Entry.parts (s.import_ r).specifiers =
    ((r.namedImports?.map (·.phrases .importSpecifier)).getD []).filterMap s.specifier? := by
  have hnone : ∀ q : Reading, q.isPhrase .importSpecifier = false → s.specifier? q = none := by
    intro q hq
    rw [specifier?, hq]
    rfl
  show Entry.parts (((((r.part? .importClause).map (·.parts)).getD []).find?
    (·.isPhrase .namedImports)).map (fun n => s.entries s.specifier? n.parts) |>.getD []) = _
  rw [Reading.namedImports?]
  cases r.part? .importClause with
  | none => rfl
  | some clause =>
    show Entry.parts ((clause.part? .namedImports).map _ |>.getD []) =
      (((clause.part? .namedImports).map _).getD []).filterMap _
    cases clause.part? .namedImports with
    | none => rfl
    | some named =>
      show Entry.parts (s.entries s.specifier? named.parts) = _
      rw [parts_entries, filterMap_phrases hnone]
      rfl

/-- What an import binds. -/
theorem imported_import (e : Bool) (r : Reading) (text : List Char) :
    (Item.statement ⟨e, .import_ (s.import_ r)⟩ text).imported =
      s.importedNames r.namedImports? r.moduleText? := by
  rw [← Import.bindings_eq, Import.bindings, source_import, specifiers_import]
  cases r.moduleText? with
  | none => rfl
  | some m =>
    show List.filterMap _ (List.filterMap _ _) = _
    rw [List.filterMap_filterMap]
    refine List.filterMap_congr fun q hq => ?_
    have hspecifier : q.isPhrase .importSpecifier = true := by
      cases hnamed : r.namedImports? with
      | none => simp [hnamed] at hq
      | some named =>
        rw [hnamed] at hq
        exact (Bool.and_eq_true_iff.mp (List.mem_filter.mp hq).2).2
    have hname := congrArg (Option.map fun n => (n, (s.literal m).value))
      (localName?_specifier? s hspecifier)
    rw [Option.map_bind, Option.map_map] at hname
    exact hname

/-! ## Variables -/

/-- A member of a plain name, by its object and its property. -/
theorem member?_eq_methodOf? (r : Reading) : s.member? r = s.methodOf? r := by
  rw [member?, methodOf?, Reading.object?, Reading.property?]
  cases r.isPhrase .memberExpression with
  | false => cases r.parts.head? <;> cases r.parts.getLast? <;> rfl
  | true =>
    cases r.parts.head? with
    | none => rfl
    | some object =>
      cases r.parts.getLast? with
      | none => cases hname : object.core.isName <;> simp [objectName?, hname]
      | some property =>
        cases hname : object.core.isName <;> cases hproperty : property.isToken .name <;>
          simp [objectName?, plainName?, hname, hproperty]

/-- The outline of an expression is a call exactly where its callee is a member of a plain name. -/
theorem call?_outline (e : Reading) :
    (s.outline e).call? = e.callee?.bind fun f => s.methodOf? f.core := by
  rw [outline, Reading.callee?]
  simp only [member?_eq_methodOf?]
  by_cases hname : e.core.isName = true
  · have hcall := Reading.isPhrase_of_lt (Reading.isName_lt hname) .callExpression
    simp [hname, hcall, Outline.call?]
  · by_cases hstring : e.core.isPhrase .string = true
    · have hcall : e.core.isPhrase .callExpression = false :=
        Reading.isPhrase_ne hstring (by decide)
      simp [hname, hstring, hcall, Outline.call?]
    · by_cases hcall : e.core.isPhrase .callExpression = true
      · simp only [hname, hstring, hcall, if_true, if_false, Bool.false_eq_true]
        cases e.core.parts with
        | nil => rfl
        | cons f fs =>
          dsimp only [List.head?_cons, Option.bind_some]
          cases s.methodOf? f.core with
          | none => rfl
          | some p => rfl
      · simp only [hname, hstring, hcall, if_false, Bool.false_eq_true, Option.bind_none]
        cases s.methodOf? e.core with
        | none => rfl
        | some p => rfl

/-- What a declarator makes, by its target and the call in its value. -/
theorem made_eq (method : String) (d : Declarator) :
    d.made method =
      match d.target, d.value.bind Outline.call? with
      | .name n, some (object, called) => if called = method then [(n, object)] else []
      | _, _ => [] := by
  match d with
  | ⟨.name _, _, some (.call ..), _, _⟩ => rfl
  | ⟨.name _, _, none, _, _⟩ => rfl
  | ⟨.name _, _, some (.name _), _, _⟩ => rfl
  | ⟨.name _, _, some (.quoted _), _, _⟩ => rfl
  | ⟨.name _, _, some (.member ..), _, _⟩ => rfl
  | ⟨.name _, _, some .other, _, _⟩ => rfl
  | ⟨.pattern _, _, _, _, _⟩ => rfl

theorem made_declarator? (method : String) {d : Reading}
    (hd : d.isPhrase .variableDeclarator = true) :
    ((s.declarator? d).map (Declarator.made method)).getD [] = s.madeBy method d := by
  rw [declarator?, hd, madeBy]
  cases hparts : d.parts with
  | nil => rfl
  | cons target rest =>
    have hvalue : (((d.part? .initializer).map (·.parts)).bind (·.getLast?)) = d.value? := by
      rw [Reading.value?]
      cases d.part? .initializer <;> rfl
    have hcall : (d.value?.map s.outline).bind Outline.call? =
        (d.value?.bind (·.callee?)).bind fun f => s.methodOf? f.core := by
      cases d.value? with
      | none => rfl
      | some e => exact s.call?_outline e
    show Declarator.made method _ = _
    rw [made_eq]
    dsimp only [List.head?_cons, Option.bind_some]
    rw [hvalue, hcall, plainName?]
    by_cases hname : target.isToken .name = true
    · rw [if_pos hname, if_pos hname]
      cases (d.value?.bind (·.callee?)).bind fun f => s.methodOf? f.core with
      | none => rfl
      | some p => rfl
    · rw [if_neg hname, if_neg hname]

/-- What a declaration of variables makes. -/
theorem made_variables (method : String) (e lexical : Bool) (r : Reading) (text : List Char) :
    (Item.statement ⟨e, .variables lexical (s.entries s.declarator? r.parts)⟩ text).made method =
      (r.phrases .variableDeclarator).flatMap (s.madeBy method) := by
  have hnone : ∀ q : Reading, q.isPhrase .variableDeclarator = false → s.declarator? q = none := by
    intro q hq
    rw [declarator?, hq]
  show (Entry.parts _).flatMap _ = _
  rw [parts_entries, filterMap_phrases hnone, List.filterMap_eq_flatMap_toList, List.flatMap_assoc]
  refine List.flatMap_congr fun d hd => ?_
  rw [← made_declarator? s method (Bool.and_eq_true_iff.mp (List.mem_filter.mp hd).2).2]
  cases s.declarator? d with
  | none => rfl
  | some d => exact List.append_nil _

/-! ## Interfaces -/

theorem comments_eq_nil {rs : List Reading} (h : rs.any Reading.isAside = false) :
    s.comments rs = [] := by
  rw [comments, List.map_eq_nil_iff, List.filter_eq_nil_iff]
  intro r hr haside
  exact absurd haside (List.any_eq_false.mp h r hr)

theorem exists_comments_eq_cons {rs : List Reading} (h : rs.any Reading.isAside = true) :
    ∃ c cs, s.comments rs = c :: cs := by
  obtain ⟨r, hr, haside⟩ := List.any_eq_true.mp h
  have hmem : s.comment r ∈ s.comments rs :=
    List.mem_map_of_mem (List.mem_filter.mpr ⟨hr, haside⟩)
  cases hcomments : s.comments rs with
  | nil => simp [hcomments] at hmem
  | cons c cs => exact ⟨c, cs, rfl⟩

/-- The name in the outline of a type. -/
theorem typeOutline_eq (t : Reading) :
    s.typeOutline t =
      match s.queriedName? t with
      | some n => .typeof (s.comments t.core.parts) n
      | none => .other := by
  rw [typeOutline, queriedName?]
  cases t.core.isPhrase .typeQuery with
  | false => cases t.core.parts.getLast? <;> rfl
  | true =>
    cases t.core.parts.getLast? with
    | none => rfl
    | some target =>
      show (if true && target.isToken .name then _ else _) = match s.plainName? target with
        | some n => TypeOutline.typeof (s.comments t.core.parts) n
        | none => .other
      rw [plainName?, Bool.true_and]
      cases target.isToken .name <;> rfl

theorem isPhrase_of_queriedName? {t : Reading} {n : String} (h : s.queriedName? t = some n) :
    t.core.isPhrase .typeQuery = true := by
  rw [queriedName?] at h
  split at h
  · assumption
  · cases h

/-- The name in a type behind a colon, which a comment hides. -/
theorem typeofName?_ascription (a : Reading) :
    (s.ascription a).typeofName? =
      if a.parts.any Reading.isAside || (a.parts.getLast?.any fun t =>
          t.core.isPhrase .typeQuery && t.core.parts.any Reading.isAside) then none
      else a.parts.getLast?.bind s.queriedName? := by
  rw [ascription, Annotation.typeofName?.eq_def]
  dsimp only
  cases hleading : a.parts.any Reading.isAside with
  | true =>
    obtain ⟨c, cs, hcs⟩ := s.exists_comments_eq_cons hleading
    rw [hcs]
    rfl
  | false =>
    rw [s.comments_eq_nil hleading, Bool.false_or]
    cases a.parts.getLast? with
    | none => rfl
    | some t =>
      rw [Option.map_some, Option.getD_some, Option.any_some, Option.bind_some, typeOutline_eq]
      cases hname : s.queriedName? t with
      | none => exact (ite_self none).symm
      | some n =>
        rw [s.isPhrase_of_queriedName? hname, Bool.true_and]
        cases hinner : t.core.parts.any Reading.isAside with
        | true =>
          obtain ⟨c, cs, hcs⟩ := s.exists_comments_eq_cons hinner
          simp only [hcs]
          rfl
        | false =>
          simp only [s.comments_eq_nil hinner]
          rfl

/-- What a member says, by its key and the name in its type. -/
theorem said_listed? (line : Nat) (key : Key) (type : Option Annotation) (cs : List Comment) :
    (Member.property line key type cs).listed?.map PathEntry.said =
      match key, type.bind Annotation.typeofName? with
      | .quoted l, some n => some (l.value, n)
      | _, _ => none := by
  rw [← Member.entry?_eq]
  match key, type with
  | .quoted l, some a =>
    show (a.typeofName?.map _).map _ = match Key.quoted l, a.typeofName? with
      | .quoted l, some n => some (l.value, n)
      | _, _ => none
    cases a.typeofName? <;> rfl
  | .quoted _, none => rfl
  | .other, _ => rfl

/-- A property says of its route what its key and its type say, unless a comment hides the type. -/
theorem said_property {m : Reading} (hm : m.isPhrase .propertySignature = true)
    (start line : Nat) :
    ((s.interfaceMember? start line m).bind Member.listed?).map PathEntry.said = s.said? m := by
  have htype : ((m.part? .typeAscription).map s.ascription).bind Annotation.typeofName? =
      if m.hidesTypeof then none else m.type?.bind s.queriedName? := by
    rw [Reading.hidesTypeof, Reading.type?]
    cases m.part? .typeAscription with
    | none => rfl
    | some a => exact s.typeofName?_ascription a
  have hkey : ((m.part? .propertyName).map s.key).getD .other =
      match m.quotedKey? with
      | some l => .quoted (s.literal l)
      | none => .other := by
    rw [Reading.quotedKey?]
    cases m.part? .propertyName with
    | none => rfl
    | some name => rfl
  rw [interfaceMember?.eq_def, if_pos hm, Option.bind_some, said_listed?, htype, hkey, said?,
    claim?.eq_def]
  cases m.hidesTypeof <;> cases m.quotedKey? <;> cases m.type?.bind s.queriedName? <;> rfl

/-- Only properties list routes. -/
theorem listed?_interfaceMember? {m : Reading} (hm : m.isPhrase .propertySignature = false)
    (start line : Nat) : (s.interfaceMember? start line m).bind Member.listed? = none := by
  rw [interfaceMember?.eq_def, hm]
  cases m <;> rfl

theorem said_members (start line : Nat) (b : Reading) :
    ((Entry.parts (s.entries (s.interfaceMember? start line) b.parts)).filterMap
        Member.listed?).map PathEntry.said =
      (b.phrases .propertySignature).filterMap s.said? := by
  have hbind : ∀ q : Reading,
      (if q.isAside then none else s.interfaceMember? start line q).bind Member.listed? =
        if q.isAside then none else (s.interfaceMember? start line q).bind Member.listed? := by
    intro q
    split <;> rfl
  simp only [parts_entries, List.filterMap_filterMap, hbind]
  rw [filterMap_phrases fun q hq => s.listed?_interfaceMember? hq start line, List.map_filterMap]
  refine List.filterMap_congr fun q hq => ?_
  exact s.said_property (Bool.and_eq_true_iff.mp (List.mem_filter.mp hq).2).2 start line

/-- An interface is the path interface when that is its name. -/
theorem name_interface_eq_iff {r : Reading} :
    (s.interface_ r).name = pathInterface ↔ r.interfaceName?.map s.text = some pathInterface := by
  show ((r.interfaceName?.map s.text).getD "") = _ ↔ _
  cases r.interfaceName?.map s.text with
  | none => simp [pathInterface]
  | some n => simp

/-- What an interface says of routes. -/
theorem said_interface (e : Bool) (r : Reading) (text : List Char) :
    (Item.statement ⟨e, .interface_ (s.interface_ r)⟩ text).listed.map PathEntry.said =
      if r.interfaceName?.map s.text = some pathInterface then r.properties.filterMap s.said?
      else [] := by
  show (if (s.interface_ r).name = pathInterface then _ else []).map _ = _
  simp only [name_interface_eq_iff]
  split
  · show ((Entry.parts (((r.part? .objectType).map _).getD [])).filterMap _).map _ = _
    rw [Reading.properties]
    cases r.part? .objectType with
    | none => rfl
    | some b => exact s.said_members _ _ b
  · rfl

/-! ## Statements -/

theorem imported_body (e : Bool) (u : Reading) (text : List Char) :
    (Item.statement ⟨e, s.body u⟩ text).imported = s.importsOf u := by
  rw [body, importsOf]
  by_cases himport : u.isPhrase .importStatement = true
  · rw [if_pos himport, if_pos himport]
    exact s.imported_import e u text
  · rw [if_neg himport, if_neg himport]
    -- the other kinds of statements import nothing
    split
    · rfl
    · split
      · rfl
      · split <;> rfl

theorem made_body (method : String) (e : Bool) (u : Reading) (text : List Char) :
    (Item.statement ⟨e, s.body u⟩ text).made method = s.makesOf method u := by
  rw [body, makesOf]
  by_cases himport : u.isPhrase .importStatement = true
  · have hlexical : u.isPhrase .lexicalDeclaration = false :=
      Reading.isPhrase_ne himport (by decide)
    have hvariable : u.isPhrase .variableDeclaration = false :=
      Reading.isPhrase_ne himport (by decide)
    rw [if_pos himport, hlexical, hvariable]
    rfl
  · rw [if_neg himport]
    by_cases hlexical : u.isPhrase .lexicalDeclaration = true
    · rw [if_pos hlexical, hlexical, Bool.true_or, if_pos rfl]
      exact s.made_variables method e true u text
    · by_cases hvariable : u.isPhrase .variableDeclaration = true
      · rw [if_neg hlexical, if_pos hvariable, hvariable, Bool.or_true, if_pos rfl]
        exact s.made_variables method e false u text
      · rw [if_neg hlexical, if_neg hvariable, Bool.eq_false_iff.mpr hlexical,
          Bool.eq_false_iff.mpr hvariable]
        split <;> rfl

theorem said_body (e : Bool) (u : Reading) (text : List Char) :
    (Item.statement ⟨e, s.body u⟩ text).listed.map PathEntry.said =
      (s.membersOf u).filterMap s.said? := by
  rw [body, membersOf]
  by_cases hinterface : u.isPhrase .interfaceDeclaration = true
  · have himport : u.isPhrase .importStatement = false :=
      Reading.isPhrase_ne hinterface (by decide)
    have hlexical : u.isPhrase .lexicalDeclaration = false :=
      Reading.isPhrase_ne hinterface (by decide)
    have hvariable : u.isPhrase .variableDeclaration = false :=
      Reading.isPhrase_ne hinterface (by decide)
    rw [himport, hlexical, hvariable, hinterface]
    simp only [Bool.false_eq_true, if_false, if_true, Bool.true_and, decide_eq_true_eq]
    rw [s.said_interface e u text]
    split <;> rfl
  · rw [if_neg hinterface, Bool.eq_false_iff.mpr hinterface]
    split
    · rfl
    · split
      · rfl
      · split <;> rfl

/-- A statement is what is left of it when `export` is taken off. -/
theorem statement_eq (r : Reading) : ∃ e, s.statement r = ⟨e, s.body r.unwrapped⟩ := by
  rw [statement, Reading.unwrapped]
  cases (if r.core.isPhrase .exportStatement then r.core.part? .declaration else none) with
  | none => exact ⟨false, rfl⟩
  | some d => exact ⟨true, rfl⟩

/-- A token at the top level, such as the line that names an interpreter, is no statement of the
kinds that declare something. -/
theorem body_of_isToken {r : Reading} {c : TokenClass} (h : r.isToken c = true) :
    ∃ k, s.body r.unwrapped = .other k := by
  have hphrase : ∀ p, r.isPhrase p = false := by
    refine Reading.isPhrase_of_lt ?_
    rw [eq_of_beq h]
    exact TokenClass.code_lt c
  have hcore : r.core = r := by
    rw [Reading.core, Reading.chosen, Reading.isChoice]
    simp [hphrase]
  have hunwrapped : r.unwrapped = r := by
    rw [Reading.unwrapped, hcore, hphrase]
    rfl
  rw [hunwrapped, body, hphrase, hphrase, hphrase, hphrase]
  exact ⟨_, rfl⟩

/-- What is read off the items one by one is read off the statements one by one. -/
theorem flatMap_items {β : Type} {f : Item → List β} {g : Reading → List β}
    (hcomment : ∀ c, f (.comment c) = [])
    (hother : ∀ e k text, f (.statement ⟨e, .other k⟩ text) = [])
    (hbody : ∀ e u text, f (.statement ⟨e, s.body u⟩ text) = g u) (r : Reading) :
    (s.items r).flatMap f = r.statements.flatMap g := by
  have hitem : ∀ p : Reading, f (s.item p) = if p.isAside then [] else g p.unwrapped := by
    intro p
    rw [item]
    split
    · exact hcomment _
    · split
      · rename_i htoken
        obtain ⟨k, hk⟩ := s.body_of_isToken htoken
        rw [hother, ← hbody false p.unwrapped [], hk, hother]
      · obtain ⟨e, he⟩ := s.statement_eq p
        rw [he, hbody]
  rw [items_eq, Reading.statements, List.flatMap_map, List.flatMap_map]
  induction r.topLevel with
  | nil => rfl
  | cons p ps ih =>
    rw [List.flatMap_cons, hitem, ih, List.filter_cons]
    cases p.isAside with
    | true => rfl
    | false => rfl

/-- **The bindings of a script**, statement by statement: the tables as they are filled, and the
entries without their lines. -/
theorem ofItems_items (r : Reading) :
    (Bindings.ofItems (s.items r)).imports = Table.bindAll [] (r.statements.flatMap s.importsOf) ∧
      (Bindings.ofItems (s.items r)).updates =
        Table.bindAll [] (r.statements.flatMap (s.makesOf updateMethod)) ∧
      (Bindings.ofItems (s.items r)).children =
        Table.bindAll [] (r.statements.flatMap (s.makesOf childrenMethod)) ∧
      (Bindings.ofItems (s.items r)).entries.map PathEntry.said =
        (r.statements.flatMap s.membersOf).filterMap s.said? := by
  rw [Bindings.ofItems_eq]
  refine ⟨?_, ?_, ?_, ?_⟩
  · rw [s.flatMap_items (fun _ => rfl) (fun _ _ _ => rfl) s.imported_body r]
  · rw [s.flatMap_items (fun _ => rfl) (fun _ _ _ => rfl) (s.made_body updateMethod) r]
  · rw [s.flatMap_items (fun _ => rfl) (fun _ _ _ => rfl) (s.made_body childrenMethod) r]
  · rw [List.map_flatMap, List.filterMap_flatMap]
    exact s.flatMap_items (fun _ => rfl) (fun _ _ _ => rfl) s.said_body r

end Source

end RouteAtlas.Script
