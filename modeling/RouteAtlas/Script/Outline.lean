import RouteAtlas.Script.Parser
import RouteAtlas.Script.Tree

/-!
# From a reading to items

- `Reading.parts`: the children of a phrase, with those of its repetitions among them;
- `Source.import_`, `Source.declarator`, `Source.interface_`: the nodes that carry routing
  information;
- `Source.items`: the top-level items of a script.
-/

namespace RouteAtlas.Script

namespace Reading

/-- The reading is a phrase of the given kind. -/
def isPhrase (r : Reading) (p : Phrase) : Bool := r.symbol == Symbol.ofPhrase p

/-- The reading is a token of the given class. -/
def isToken (r : Reading) (c : TokenClass) : Bool := r.symbol == c.code

/-- The reading is the given keyword or mark. -/
def isSpelled (r : Reading) (text : String) : Bool := r.symbol == Symbol.ofSpelling text

mutual

/-- A reading before others; a repetition is replaced by its children. -/
def spread : Reading → List Reading → List Reading
  | leaf x g a, rest => leaf x g a :: rest
  | node symbol w a b g cs, rest =>
    if Grammar.tokenCount + Grammar.phraseCount ≤ symbol then spreadAll cs rest
    else node symbol w a b g cs :: rest

/-- Readings before others; repetitions are replaced by their children. -/
def spreadAll : List Reading → List Reading → List Reading
  | [], rest => rest
  | r :: rs, rest => spread r (spreadAll rs rest)

end

/-- The children of a phrase, with those of its repetitions among them. -/
def parts (r : Reading) : List Reading := spreadAll r.children []

/-- The first part that is a phrase of the given kind. -/
def part? (r : Reading) (p : Phrase) : Option Reading := r.parts.find? (·.isPhrase p)

/-- The phrases that stand for one of several others. -/
def isChoice (r : Reading) : Bool :=
  [Phrase.statement, .declaration, .expression, .primaryExpression, .type, .primaryType].any
    r.isPhrase

/-- The phrase that a choice of phrases comes to. -/
def chosen : (depth : Nat) → Reading → Reading
  | 0, r => r
  | depth + 1, r =>
    if r.isChoice then
      match r.children with
      | [c] => chosen depth c
      | _ => r
    else r

/-- The phrase that a choice of phrases comes to; no choice leads to more than three others. -/
def core (r : Reading) : Reading := r.chosen 4

/-- The soft words, as tokens. -/
def softWords : TokenSet := .ofList (Grammar.softWord.spellings.map Symbol.ofSpelling)

/-- The reading is a plain name. -/
def isName (r : Reading) : Bool := r.isToken .name || softWords.has r.symbol

end Reading

namespace Source

variable (s : Source)

/-- The characters of a reading. -/
def chars (r : Reading) : List Char := s.slice r.start r.stop

/-- The text of a reading. -/
def text (r : Reading) : String := .ofList (s.chars r)

/-- The comment that a token is. -/
def comment (r : Reading) : Comment := ⟨s.text r, r.isToken .pageComment⟩

/-- The comments among readings. -/
def comments (rs : List Reading) : List Comment := (rs.filter Reading.isAside).map s.comment

/-- The entries of a list of readings: comments, and what the others are made into. -/
def entries {α : Type} (f : Reading → Option α) (rs : List Reading) : List (Entry α) :=
  rs.filterMap fun r =>
    if r.isAside then some (.comment (s.comment r)) else (f r).map .part

/-! ## Literals, types, expressions -/

/-- The pieces of a part of a literal. -/
def pieces (r : Reading) : List Piece :=
  if r.isToken .escape then [.escape ((s.chars r).drop 1)]
  else if r.isToken .singleText || r.isToken .doubleText then (s.chars r).map .raw
  else []

/-- A quoted string. -/
def literal (r : Reading) : Literal := ⟨s.charAt r.start, r.parts.flatMap s.pieces⟩

/-- What is kept of a type. -/
def typeOutline (r : Reading) : TypeOutline :=
  let q := r.core
  match q.parts.getLast? with
  | some target =>
    if q.isPhrase .typeQuery && target.isToken .name then
      .typeof (s.comments q.parts) (s.text target)
    else .other
  | none => .other

/-- A type behind a colon. -/
def ascription (r : Reading) : Annotation :=
  ⟨s.comments r.parts, (r.parts.getLast?.map s.typeOutline).getD .other⟩

/-- The object and the property of a member of a plain name. -/
def member? (r : Reading) : Option (String × String) :=
  match r.parts.head?, r.parts.getLast? with
  | some object, some property =>
    if r.isPhrase .memberExpression && object.core.isName && property.isToken .name then
      some (s.text object, s.text property)
    else none
  | _, _ => none

/-- What is kept of an expression. -/
def outline (r : Reading) : Outline :=
  let e := r.core
  if e.isName then .name (s.text e)
  else if e.isPhrase .string then .quoted (s.literal e)
  else if e.isPhrase .callExpression then
    match e.parts with
    | f :: _ =>
      let callee := f.core
      match s.member? callee with
      | some (object, method) =>
        .call object method (s.comments callee.parts ++ s.comments e.parts)
          (s.slice callee.stop e.stop)
      | none => .other
    | [] => .other
  else match s.member? e with
    | some (object, property) => .member object property (s.comments e.parts)
    | none => .other

/-! ## Imports -/

/-- The name under which a module exports something. -/
def exportName (r : Reading) : ExportName :=
  match r.part? .string with
  | some l => .quoted (s.literal l)
  | none => .name (s.text r)

/-- A specifier of an import. -/
def specifier? (r : Reading) : Option Specifier :=
  if r.isPhrase .importSpecifier then
    let ps := r.parts.filter fun p => !p.isAside
    let comments := s.comments r.parts
    match ps.reverse with
    | bound :: word :: imported :: _ =>
      if word.isSpelled "as" then some ⟨s.exportName imported, some (s.text bound), comments⟩
      else some ⟨.name (s.text bound), none, comments⟩
    | bound :: _ => some ⟨.name (s.text bound), none, comments⟩
    | [] => none
  else none

/-- An import statement. -/
def import_ (r : Reading) : Import :=
  let from_ := (r.part? .fromClause).map (·.parts)
  let clause := ((r.part? .importClause).map (·.parts)).getD []
  let find (p : Phrase) : Option Reading := clause.find? (·.isPhrase p)
  { defaultName := (find .importName).map s.text
    namespaceName := (find .namespaceImport).bind fun n => n.parts.getLast?.map s.text
    specifiers := ((find .namedImports).map fun n => s.entries s.specifier? n.parts).getD []
    source := (((from_.getD r.parts).find? (·.isPhrase .string))).map s.literal
    comments := s.comments r.parts ++ s.comments clause ++ s.comments (from_.getD []) }

/-! ## Variables -/

/-- A declarator. -/
def declarator? (r : Reading) : Option Declarator :=
  match r.isPhrase .variableDeclarator, r.parts with
  | true, target :: rest =>
    let value := (r.part? .initializer).map (·.parts)
    let expression := value.bind (·.getLast?)
    some
      { target := if target.isToken .name then .name (s.text target) else .pattern (s.chars target)
        annotation := ((r.part? .typeAscription).map s.chars).getD []
        value := expression.map s.outline
        valueText := (expression.map s.chars).getD []
        comments := s.comments rest ++ s.comments (value.getD []) }
  | _, _ => none

/-! ## Interfaces -/

/-- The number of line ends between two positions. -/
def linesBetween (i j : Nat) : Nat := s.foldl (fun n c => if c == '\n' then n + 1 else n) 0 i j

/-- The key of a property. -/
def key (r : Reading) : Key :=
  match r.part? .string with
  | some l => .quoted (s.literal l)
  | none => .other

/-- A member of an interface whose body starts at the given position, on the given line. -/
def interfaceMember? (start line : Nat) (r : Reading) : Option Member :=
  if r.isPhrase .propertySignature then
    some (.property (line + s.linesBetween start r.start)
      (((r.part? .propertyName).map s.key).getD .other)
      ((r.part? .typeAscription).map s.ascription) (s.comments r.parts))
  else match r with
    | .leaf _ _ _ => none
    | .node _ _ _ _ _ _ => some (.other (s.chars r))

/-- An interface declaration. -/
def interface_ (r : Reading) : Interface :=
  let name := r.parts.find? (·.isToken .name)
  let body := r.part? .objectType
  let start := (body.map Reading.start).getD r.stop
  let line := 1 + s.linesBetween 0 start
  { name := (name.map s.text).getD ""
    header := s.slice ((name.map Reading.stop).getD r.start) start
    members := (body.map fun b => s.entries (s.interfaceMember? start line) b.parts).getD []
    comments := s.comments r.parts }

/-! ## Statements -/

/-- The kinds of the statements of which nothing else is kept. -/
def kinds : List (Phrase × Kind) :=
  [(.exportStatement, .export_), (.debuggerStatement, .debugger),
   (.expressionStatement, .expression), (.statementBlock, .block), (.ifStatement, .if_),
   (.switchStatement, .switch_), (.forStatement, .for_), (.forInStatement, .forIn),
   (.whileStatement, .while_), (.doStatement, .do_), (.tryStatement, .try_),
   (.withStatement, .with_), (.breakStatement, .break_), (.continueStatement, .continue_),
   (.returnStatement, .return_), (.throwStatement, .throw_), (.emptyStatement, .empty),
   (.labeledStatement, .labeled), (.functionDeclaration, .function),
   (.generatorFunctionDeclaration, .generator), (.classDeclaration, .class_),
   (.functionSignature, .functionSignature), (.abstractClassDeclaration, .abstractClass),
   (.moduleDeclaration, .module_), (.namespaceDeclaration, .namespace_),
   (.typeAliasDeclaration, .typeAlias), (.enumDeclaration, .enum_), (.importAlias, .importAlias),
   (.ambientDeclaration, .ambient)]

/-- A statement without an `export` before it. -/
def body (r : Reading) : Body :=
  if r.isPhrase .importStatement then .import_ (s.import_ r)
  else if r.isPhrase .lexicalDeclaration then .variables true (s.entries s.declarator? r.parts)
  else if r.isPhrase .variableDeclaration then .variables false (s.entries s.declarator? r.parts)
  else if r.isPhrase .interfaceDeclaration then .interface_ (s.interface_ r)
  else .other (((kinds.find? fun k => r.isPhrase k.1).map (·.2)).getD .expression)

/-- A statement. -/
def statement (r : Reading) : Statement :=
  let c := r.core
  match (if c.isPhrase .exportStatement then c.part? .declaration else none) with
  | some d => ⟨true, s.body d.core⟩
  | none => ⟨false, s.body c⟩

/-- The items that readings are made into. -/
def itemsOf (rs : List Reading) : List Item :=
  rs.map fun r =>
    if r.isAside then .comment (s.comment r)
    else if r.isToken .hashBang then .statement ⟨false, .other .hashBang⟩ (s.chars r)
    else .statement (s.statement r) (s.chars r)

/-- The top-level items of the reading of a script: comments stand before and behind it, and among
its statements. -/
def items (r : Reading) : List Item :=
  s.itemsOf (r.parts.flatMap fun p => if p.isPhrase .program then p.parts else [p])

end Source

end RouteAtlas.Script
