import RouteAtlas.Script.Literal

/-!
# The outline of a script

A script is read as a list of top-level items. Of an item only what can bind a route is kept in
detail: the specifiers of an import, the declarators of a variable declaration, the members of an
interface. Everything else is kept as the text it was written with. Comments stand where they were
written, as entries of a list or among the parts of a node.

- `Import`, `Declarator`, `Interface`: the three kinds of node that carry routing information;
- `Outline`, `TypeOutline`: what is kept of an expression and of a type;
- `Statement`, `Item`: a statement, and an item at the top level;
- `Statement.kind`: the kind of a statement, with `export` taken off.
-/

namespace RouteAtlas.Script

/-- A comment, with its marks. -/
structure Comment where
  text : String
  /-- The comment is written in the manner of a web page. -/
  page : Bool := false
deriving DecidableEq

/-- An entry of a list of parts among which comments may stand. -/
inductive Entry (α : Type) where
  | part (a : α)
  | comment (c : Comment)
deriving DecidableEq

/-- The parts of a list of entries, in order. -/
def Entry.parts {α : Type} (es : List (Entry α)) : List α :=
  es.filterMap fun
    | .part a => some a
    | .comment _ => none

/-- What is kept of an expression. -/
inductive Outline where
  /-- A plain name. -/
  | name (n : String)
  /-- A quoted string. -/
  | quoted (l : Literal)
  /-- `object.property`, with the comments among its parts. -/
  | member (object property : String) (comments : List Comment)
  /-- A call of `object.method`, with its arguments as written. -/
  | call (object method : String) (comments : List Comment) (arguments : List Char)
  | other
deriving DecidableEq

/-- What is kept of a type. -/
inductive TypeOutline where
  /-- `typeof name` and nothing else, with the comments between the two words. -/
  | typeof (comments : List Comment) (name : String)
  | other
deriving DecidableEq

/-- A type written after a colon, with the comments between the two. -/
structure Annotation where
  leading : List Comment
  type : TypeOutline
deriving DecidableEq

/-- The name under which a module exports something. -/
inductive ExportName where
  | name (n : String)
  | quoted (l : Literal)
deriving DecidableEq

/-- A specifier between the braces of an import. -/
structure Specifier where
  imported : ExportName
  asName : Option String
  comments : List Comment
deriving DecidableEq

/-- The name that a specifier binds: its alias, else the name it imports. -/
def Specifier.localName? (s : Specifier) : Option String :=
  match s.asName, s.imported with
  | some a, _ => some a
  | none, .name n => some n
  | none, .quoted _ => none

/-- An import statement. -/
structure Import where
  defaultName : Option String
  namespaceName : Option String
  specifiers : List (Entry Specifier)
  /-- The module text; absent where a name is bound to a required module. -/
  source : Option Literal
  comments : List Comment
deriving DecidableEq

/-- What a declarator binds. -/
inductive Target where
  | name (n : String)
  | pattern (text : List Char)
deriving DecidableEq

/-- One declarator of a variable declaration. -/
structure Declarator where
  target : Target
  /-- The type annotation as written. -/
  annotation : List Char
  value : Option Outline
  /-- The initializer as written. -/
  valueText : List Char
  comments : List Comment
deriving DecidableEq

/-- The key of a property. -/
inductive Key where
  | quoted (l : Literal)
  | other
deriving DecidableEq

/-- A member of an interface. -/
inductive Member where
  | property (line : Nat) (key : Key) (type : Option Annotation) (comments : List Comment)
  | other (text : List Char)
deriving DecidableEq

/-- An interface declaration. -/
structure Interface where
  name : String
  /-- Type parameters and heritage as written. -/
  header : List Char
  members : List (Entry Member)
  comments : List Comment
deriving DecidableEq

/-- The kinds of statements. -/
inductive Kind where
  | import_ | lexical | variable_ | interface_ | typeAlias | function | generator
  | functionSignature | class_ | abstractClass | enum_ | module_ | namespace_ | importAlias
  | ambient | expression | block | if_ | for_ | forIn | while_ | do_ | switch_ | try_ | with_
  | throw_ | return_ | break_ | continue_ | labeled | debugger | empty | export_ | hashBang
  | comment | pageComment
deriving DecidableEq

/-- A statement without the `export` before it. -/
inductive Body where
  | import_ (i : Import)
  /-- `const` and `let` are lexical, `var` is not. -/
  | variables (lexical : Bool) (declarators : List (Entry Declarator))
  | interface_ (i : Interface)
  | other (kind : Kind)
deriving DecidableEq

/-- A statement. -/
structure Statement where
  exported : Bool
  body : Body
deriving DecidableEq

/-- The kind of a statement, with `export` taken off. -/
def Statement.kind (s : Statement) : Kind :=
  match s.body with
  | .import_ _ => .import_
  | .variables lexical _ => if lexical then .lexical else .variable_
  | .interface_ _ => .interface_
  | .other k => k

/-- An item at the top level of a script. -/
inductive Item where
  | comment (c : Comment)
  | statement (s : Statement) (text : List Char)
deriving DecidableEq

/-- The kind of an item. -/
def Item.kind : Item → Kind
  | .comment c => if c.page then .pageComment else .comment
  | .statement s _ => s.kind

end RouteAtlas.Script
