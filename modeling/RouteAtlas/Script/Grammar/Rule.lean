/-!
# The language of grammar rules

A grammar gives a rule to every phrase of a script. A rule is made of tokens and phrases by
sequence, choice and repetition. Where two readings of a text compete, the ranks and the weights in
the rules tell which one stands.

- `TokenClass`: the kinds of tokens that are not written as themselves;
- `Phrase`: the phrases of a script;
- `Level`, `Rank`, `Side`: how a rule competes with another while a text is read;
- `Rule`: a rule, with the combinators that the grammar is written with.
-/

namespace RouteAtlas.Script

/-- The kinds of tokens that are not written as themselves. -/
inductive TokenClass where
  | endOfText
  /-- A word that is no keyword where it stands. -/
  | name
  | number
  /-- A name after a `#`. -/
  | hashName
  /-- The line that names an interpreter. -/
  | hashBang
  /-- Raw text between single quotes. -/
  | singleText
  /-- Raw text between double quotes. -/
  | doubleText
  | escape
  /-- Raw text of a template. -/
  | templateText
  /-- The inside of a pattern between slashes. -/
  | pattern
  | patternEnd
  | patternFlags
  /-- The question mark of a conditional expression. -/
  | conditionalMark
  /-- The end of a statement that no semicolon marks. -/
  | lineEnd
  /-- The same after the head of a function without a body. -/
  | signatureEnd
  | comment
  /-- A comment in the manner of a web page, up to the end of its line. -/
  | pageComment
deriving DecidableEq

namespace TokenClass

/-- The number of a class; the classes are numbered before the keywords and the marks. -/
def code : TokenClass → Nat
  | endOfText => 0 | name => 1 | number => 2 | hashName => 3 | hashBang => 4 | singleText => 5
  | doubleText => 6 | escape => 7 | templateText => 8 | pattern => 9 | patternEnd => 10
  | patternFlags => 11 | conditionalMark => 12 | lineEnd => 13 | signatureEnd => 14
  | comment => 15 | pageComment => 16

/-- The number of classes. -/
def count : Nat := 17

end TokenClass

/-- The phrases of a script. Of two readings with equal weight the one stands that has the earlier
phrase of this list where they first differ. -/
inductive Phrase where
  | program | exportStatement | namespaceExport | exportClause | exportSpecifier | exportName
  | declaration | importWord | importStatement | importClause | fromClause | namespaceImport
  | namedImports | importSpecifier | importAttribute | statement | expressionStatement
  | variableDeclaration | lexicalDeclaration | variableDeclarator | statementBlock | elseClause
  | ifStatement | switchStatement | forStatement | forInStatement | forHeader | whileStatement
  | doStatement | tryStatement | withStatement | breakStatement | continueStatement
  | debuggerStatement | returnStatement | throwStatement | emptyStatement | labeledStatement
  | switchBody | switchCase | switchDefault | catchClause | finallyClause
  | parenthesizedExpression | expression | primaryExpression | yieldExpression | object
  | objectPattern | assignmentPattern | objectAssignmentPattern | array | arrayPattern
  | nestedIdentifier | classExpression | classDeclaration | classHeritage | functionExpression
  | functionDeclaration | generatorFunction | generatorFunctionDeclaration | arrowFunction
  | signature | formalParameter | optionalChain | callExpression | newExpression
  | awaitExpression | memberExpression | subscriptExpression | assignmentExpression
  | augmentedTarget | augmentedAssignmentExpression | initializer | destructuring
  | spreadElement | ternaryExpression | binaryExpression | unaryExpression | updateExpression
  | sequenceExpression | string | templateString | templateSubstitution | patternLiteral
  | metaProperty | arguments | decorator | decoratorMemberExpression | decoratorCallExpression
  | classBody | formalParameters | classStaticBlock | pattern | restPattern | methodDefinition
  | pair | pairPattern | propertyName | computedPropertyName | publicFieldDefinition
  | importName | nonNullExpression | methodSignature | abstractMethodSignature
  | functionSignature | decoratorParenthesizedExpression | typeAssertion | asExpression
  | satisfiesExpression | instantiationExpression | importRequireClause | extendsClause
  | extendsTarget | implementsClause | ambientDeclaration | abstractClassDeclaration
  | moduleDeclaration | namespaceDeclaration | moduleParts | importAlias | nestedTypeIdentifier
  | interfaceDeclaration | extendsTypeClause | enumDeclaration | enumBody | enumAssignment
  | typeAliasDeclaration | accessibilityModifier | overrideModifier | requiredParameter
  | optionalParameter | parameterName | omittingAscription | addingAscription | optingAscription
  | typeAscription | importedMember | importedCall | asserts | assertsAscription | type
  | tupleParameter | optionalTupleParameter | optionalType | restType | tupleMember
  | constructorType | primaryType | templateType | templateLiteralType | inferType
  | conditionalType | genericType | typePredicate | predicateAscription | queryMember
  | querySubscript | queryCall | queryInstantiation | typeQuery | indexTypeQuery | lookupType
  | mappedTypeClause | literalType | signedNumber | starType | flowMaybeType | parenthesizedType
  | predefinedType | typeArguments | objectType | callSignature | propertySignature
  | typeParameters | typeParameter | defaultType | constraint | constructSignature
  | indexSignature | arrayType | tupleType | readonlyType | unionType | intersectionType
  | functionType
deriving DecidableEq

/-- The levels at which rules compete, named for the kind of rule that stands on them. -/
inductive Level where
  | member | templateCall | call | newCall | unaryWord | power | product | sum | shift | relation
  | equality | bitAnd | bitXor | bitOr | logicalAnd | logicalOr | conditional | assign | declare
  | literal | object | instantiation | unary | binary | heritage
deriving DecidableEq, Hashable

/-- The rank of a part of a rule: a level, or a number that is compared with numbers only. -/
inductive Rank where
  | level (l : Level)
  | number (n : Int)
deriving DecidableEq, Hashable

/-- The side to which a chain of equal operators leans. -/
inductive Side where
  | left
  | right
deriving DecidableEq, Hashable

/-- A rule of the grammar. -/
inductive Rule where
  | empty
  | token (t : TokenClass)
  /-- A keyword or a mark, written as itself. -/
  | spelled (text : String)
  | phrase (p : Phrase)
  | both (a b : Rule)
  | either (a b : Rule)
  /-- One or more times. -/
  | many1 (r : Rule)
  /-- The rule with a rank, a side, or both. -/
  | ranked (rank : Option Rank) (side : Option Side) (r : Rule)
  /-- The rule with a weight for its readings. -/
  | weighed (weight : Int) (r : Rule)
deriving DecidableEq

instance : Coe String Rule := ⟨.spelled⟩

instance : Coe Phrase Rule := ⟨.phrase⟩

namespace Rule

/-- One rule after another. -/
def seq : List Rule → Rule
  | [] => .empty
  | [r] => r
  | r :: rs => .both r (seq rs)

/-- One of several rules. -/
def alt : List Rule → Rule
  | [] => .empty
  | [r] => r
  | r :: rs => .either r (alt rs)

/-- The rule or nothing. -/
def opt (r : Rule) : Rule := .either r .empty

/-- The rule any number of times. -/
def many (r : Rule) : Rule := opt (.many1 r)

/-- The rule once or more, with a separator between. -/
def sepBy1 (separator r : Rule) : Rule := .both r (many (.both separator r))

/-- The rule once or more, with commas between. -/
def commaSep1 (r : Rule) : Rule := sepBy1 "," r

/-- The rule any number of times, with commas between. -/
def commaSep (r : Rule) : Rule := opt (commaSep1 r)

/-- The rule at a level. -/
def level (l : Level) (r : Rule) : Rule := .ranked (some (.level l)) none r

/-- The rule at a level, leaning to the left. -/
def levelLeft (l : Level) (r : Rule) : Rule := .ranked (some (.level l)) (some .left) r

/-- The rule at a level, leaning to the right. -/
def levelRight (l : Level) (r : Rule) : Rule := .ranked (some (.level l)) (some .right) r

/-- The rule below all rules without a rank. -/
def lowered (r : Rule) : Rule := .ranked (some (.number (-1))) none r

/-- The rule, leaning to the left. -/
def leftmost (r : Rule) : Rule := .ranked none (some .left) r

/-- The rule, leaning to the right. -/
def rightmost (r : Rule) : Rule := .ranked none (some .right) r

/-- The rule with a weight. -/
def weigh (weight : Int) (r : Rule) : Rule := .weighed weight r

end Rule

end RouteAtlas.Script
