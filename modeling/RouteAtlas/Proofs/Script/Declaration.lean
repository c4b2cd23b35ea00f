import RouteAtlas.Proofs.Script.Literal
import RouteAtlas.Script.Tree

/-!
# Declarations in a plain layout

The declarations of a route tree, written in the layout of generated scripts: each starts on a line
of its own, single blanks stand between words, and a semicolon may end it.

- `Declaration`: a declaration;
- `Declaration.text`: how it is written;
- `Declaration.item`: the item that it is;
- `Generated.script`, `Generated.items`: declarations one below the other.
-/

namespace RouteAtlas.Script

/-- What a call passes. -/
inductive Argument where
  | name (n : String)
  /-- The options of a route: its two paths, and the name of its parent. -/
  | options (id path : Literal) (parent : String)
deriving DecidableEq

/-- A declaration of a route tree. -/
inductive Declaration where
  | import_ (imported bound : String) (source : Literal) (semicolon : Bool := false)
  | constant (name : String) (value : Literal) (semicolon : Bool := false)
  | call (name object method : String) (argument : Argument) (semicolon : Bool := false)
  /-- An interface whose members have the types of constants. -/
  | interface_ (name : String) (members : List (Literal × String))
deriving DecidableEq

/-! ## Text -/

/-- An argument as written. -/
def Argument.text : Argument → List Char
  | .name n => n.toList
  | .options id path parent =>
    "\x7b\n  id: ".toList ++ id.source ++ ",\n  path: ".toList ++ path.source ++
      ",\n  getParentRoute: () => ".toList ++ parent.toList ++ ",\n\x7d as any".toList

namespace Declaration

/-- The end of a statement as written. -/
def stop (semicolon : Bool) : List Char := if semicolon then [';'] else []

/-- A member of an interface as written, with its line end. -/
def memberText (key : Literal) (name : String) : List Char :=
  "  ".toList ++ key.source ++ ": typeof ".toList ++ name.toList ++ "\n".toList

/-- The call in an initializer as written, from its parenthesis on. -/
def argumentText (a : Argument) : List Char := "(".toList ++ a.text ++ ")".toList

/-- The initializer of a call as written. -/
def callText (object method : String) (a : Argument) : List Char :=
  object.toList ++ ".".toList ++ method.toList ++ argumentText a

/-- A declaration as written, without the line end behind it. -/
def text : Declaration → List Char
  | import_ imported bound source semicolon =>
    "import \x7b ".toList ++ imported.toList ++ " as ".toList ++ bound.toList ++
      " \x7d from ".toList ++ source.source ++ stop semicolon
  | constant name value semicolon =>
    "const ".toList ++ name.toList ++ " = ".toList ++ value.source ++ stop semicolon
  | call name object method a semicolon =>
    "const ".toList ++ name.toList ++ " = ".toList ++ callText object method a ++ stop semicolon
  | interface_ name members =>
    "export interface ".toList ++ name.toList ++ " \x7b\n".toList ++
      members.flatMap (fun (key, n) => memberText key n) ++ "\x7d".toList

end Declaration

/-- Options as written, in front of any text. -/
theorem options_text_append (id path : Literal) (parent : String) (cs : List Char) :
    (Argument.options id path parent).text ++ cs = "\x7b\n  id: ".toList ++ (id.source ++
      (",\n  path: ".toList ++ (path.source ++ (",\n  getParentRoute: () => ".toList ++
        (parent.toList ++ (",\n\x7d as any".toList ++ cs)))))) := by
  show "\x7b\n  id: ".toList ++ id.source ++ ",\n  path: ".toList ++ path.source ++
      ",\n  getParentRoute: () => ".toList ++ parent.toList ++ ",\n\x7d as any".toList ++ cs = _
  simp only [List.append_assoc]

namespace Declaration

/-- A declaration as written, in front of any text. -/
theorem import_text_append (imported bound : String) (source : Literal) (semicolon : Bool)
    (cs : List Char) :
    (import_ imported bound source semicolon).text ++ cs = "import \x7b ".toList ++
      (imported.toList ++ (" as ".toList ++ (bound.toList ++ (" \x7d from ".toList ++
        (source.source ++ (stop semicolon ++ cs)))))) := by
  show "import \x7b ".toList ++ imported.toList ++ " as ".toList ++ bound.toList ++
      " \x7d from ".toList ++ source.source ++ stop semicolon ++ cs = _
  simp only [List.append_assoc]

@[inherit_doc import_text_append]
theorem constant_text_append (name : String) (value : Literal) (semicolon : Bool)
    (cs : List Char) :
    (constant name value semicolon).text ++ cs = "const ".toList ++ (name.toList ++
      (" = ".toList ++ (value.source ++ (stop semicolon ++ cs)))) := by
  show "const ".toList ++ name.toList ++ " = ".toList ++ value.source ++ stop semicolon ++ cs = _
  simp only [List.append_assoc]

@[inherit_doc import_text_append]
theorem call_text_append (name object method : String) (a : Argument) (semicolon : Bool)
    (cs : List Char) :
    (call name object method a semicolon).text ++ cs = "const ".toList ++ (name.toList ++
      (" = ".toList ++ (object.toList ++ (".".toList ++ (method.toList ++ ("(".toList ++ (a.text ++
        (")".toList ++ (stop semicolon ++ cs))))))))) := by
  show "const ".toList ++ name.toList ++ " = ".toList ++ (object.toList ++ ".".toList ++
      method.toList ++ ("(".toList ++ a.text ++ ")".toList)) ++ stop semicolon ++ cs = _
  simp only [List.append_assoc]

@[inherit_doc import_text_append]
theorem interface_text_append (name : String) (members : List (Literal × String))
    (cs : List Char) :
    (interface_ name members).text ++ cs = "export interface ".toList ++
      (name.toList ++ (" \x7b\n".toList ++ (members.flatMap (fun m => memberText m.1 m.2) ++
        ("\x7d".toList ++ cs)))) := by
  show "export interface ".toList ++ name.toList ++ " \x7b\n".toList ++
      members.flatMap (fun m => memberText m.1 m.2) ++ "\x7d".toList ++ cs = _
  simp only [List.append_assoc]

/-! ## Items -/

/-- The members of an interface, from the one at the given line on. -/
def entries : (line : Nat) → List (Literal × String) → List (Entry Member)
  | _, [] => []
  | line, (key, name) :: members =>
    .part (.property line (.quoted key) (some ⟨[], .typeof [] name⟩) []) ::
      entries (line + key.newlines + 1) members

/-- The constant that a declaration with an initializer binds. -/
def declarator (name : String) (value : Outline) (written : List Char) : Entry Declarator :=
  .part ⟨.name name, [], some value, written, []⟩

/-- What a declaration at the given line says. -/
def statement (line : Nat) : Declaration → Statement
  | import_ imported bound source _ =>
    ⟨false, .import_ ⟨none, none, [.part ⟨.name imported, some bound, []⟩], some source, []⟩⟩
  | constant name value _ => ⟨false, .variables true [declarator name (.quoted value) value.source]⟩
  | call name object method a _ =>
    ⟨false, .variables true
      [declarator name (.call object method [] (argumentText a)) (callText object method a)]⟩
  | interface_ name members => ⟨true, .interface_ ⟨name, [' '], entries (line + 1) members, []⟩⟩

/-- The item that a declaration at the given line is. -/
def item (line : Nat) (d : Declaration) : Item := .statement (d.statement line) d.text

end Declaration

/-! ## Scripts -/

namespace Generated

/-- Declarations as written, each with a line end behind it. -/
def script (ds : List Declaration) : List Char := ds.flatMap fun d => d.text ++ ['\n']

/-- The items of declarations, from the one at the given line on. -/
def items : (line : Nat) → List Declaration → List Item
  | _, [] => []
  | line, d :: ds => d.item line :: items (line + d.text.count '\n' + 1) ds

theorem script_cons (d : Declaration) (ds : List Declaration) :
    script (d :: ds) = d.text ++ '\n' :: script ds := by
  rw [script, List.flatMap_cons, List.append_assoc]
  rfl

theorem script_append (ds es : List Declaration) : script (ds ++ es) = script ds ++ script es :=
  List.flatMap_append

/-- The script of declarations of one form. -/
theorem script_map {α : Type} {form : α → Declaration} {text : α → List Char}
    (h : ∀ x, text x = (form x).text ++ ['\n']) (xs : List α) :
    script (xs.map form) = xs.flatMap text := by
  rw [script, List.flatMap_map, funext h]

/-- Items are counted on by the lines of the script before them. -/
theorem items_append (es : List Declaration) :
    ∀ (ds : List Declaration) (line : Nat),
      items line (ds ++ es) = items line ds ++ items (line + (script ds).count '\n') es
  | [], line => rfl
  | d :: ds, line => by
    have hcount : line + (script (d :: ds)).count '\n' =
        line + d.text.count '\n' + 1 + (script ds).count '\n' := by
      rw [script_cons, List.count_append, List.count_cons_self]
      omega
    rw [List.cons_append, items, items_append es ds, hcount]
    rfl

/-- What a view of items shows of declarations of one form, where it does not look at lines. -/
theorem flatMap_items_map {α β : Type} {view : Item → List β} {form : α → Declaration}
    {shown : α → List β} (h : ∀ line x, view ((form x).item line) = shown x) :
    ∀ (xs : List α) (line : Nat), (items line (xs.map form)).flatMap view = xs.flatMap shown
  | [], _ => rfl
  | x :: xs, line => by
    rw [List.map_cons, items, List.flatMap_cons, List.flatMap_cons, h, flatMap_items_map h xs]

end Generated

end RouteAtlas.Script
