import RouteAtlas.Routes.Resolve
import RouteAtlas.Script.Tree

/-!
# What a script binds

One pass over the top-level items of a script collects what its routes are made of.

- `Bindings`: the imported names, the two tables of variables, and the path entries;
- `Bindings.ofItems`: the bindings of a script;
- `Interface.entries`: the entries of the interface that lists the routes by path.
-/

namespace RouteAtlas

open Script

/-- A path and the variable that stands for its route. -/
structure PathEntry where
  path : Text
  name : String
  /-- The line of the entry, counted from one. -/
  line : Nat
deriving DecidableEq

/-- What a script binds at its top level. -/
structure Bindings where
  /-- The module of every imported name. -/
  imports : Table String Text := []
  /-- For a variable made by `update`, the name it was made from. -/
  updates : Table String String := []
  /-- For a variable made by `_addFileChildren`, the name it wraps. -/
  children : Table String String := []
  /-- The routes by path, in the order of the script. -/
  entries : List PathEntry := []

/-- The method that makes a route from an imported one. -/
def updateMethod : String := "update"

/-- The method that gives a route its children. -/
def childrenMethod : String := "_addFileChildren"

/-- The interface that lists the routes by path. -/
def pathInterface : String := "FileRoutesByFullPath"

namespace Script

/-- The name in a type that is `typeof` and a plain name. A comment after the colon or after
`typeof` hides it. -/
def Annotation.typeofName? (a : Annotation) : Option String :=
  match a.leading, a.type with
  | [], .typeof [] name => some name
  | _, _ => none

/-- The path entry of a member: a property with a quoted key and a `typeof` type. -/
def Member.entry? : Member → Option PathEntry
  | .property line (.quoted l) (some a) _ =>
    a.typeofName?.map fun name => ⟨l.value, name, line⟩
  | _ => none

/-- The path entries of an interface, if it is the one that lists the routes. -/
def Interface.entries (i : Interface) : List PathEntry :=
  if i.name = pathInterface then (Entry.parts i.members).filterMap Member.entry? else []

/-- The names that an import binds, with their module. -/
def Import.bindings (i : Import) : List (String × Text) :=
  match i.source with
  | none => []
  | some source =>
    (Entry.parts i.specifiers).filterMap fun s => s.localName?.map fun n => (n, source.value)

/-- The variable, the method and the object of a declarator that calls a method of a plain name. -/
def Declarator.methodCall? (d : Declarator) : Option (String × String × String) :=
  match d.target, d.value with
  | .name n, some (.call object method _ _) => some (n, method, object)
  | _, _ => none

end Script

namespace Bindings

/-- Adds the names of an import. -/
def addImport (b : Bindings) (i : Import) : Bindings :=
  { b with imports := i.bindings.foldl (fun t (n, m) => t.insert n m) b.imports }

/-- Adds a variable, if it is made by one of the two methods. -/
def addVariable (b : Bindings) (d : Declarator) : Bindings :=
  match d.methodCall? with
  | none => b
  | some (n, method, object) =>
    if method = updateMethod then { b with updates := b.updates.insert n object }
    else if method = childrenMethod then { b with children := b.children.insert n object }
    else b

/-- Adds what an item binds. -/
def addItem (b : Bindings) : Item → Bindings
  | .comment _ => b
  | .statement s _ =>
    match s.body with
    | .import_ i => b.addImport i
    | .variables _ ds => (Entry.parts ds).foldl addVariable b
    | .interface_ i => { b with entries := b.entries ++ i.entries }
    | .other _ => b

/-- The bindings of a script. -/
def ofItems (is : List Item) : Bindings := is.foldl addItem {}

end Bindings

end RouteAtlas
