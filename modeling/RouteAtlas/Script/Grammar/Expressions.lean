import RouteAtlas.Script.Grammar.Names

/-!
# Rules: expressions and patterns

What stands left of an assignment is read as an expression and as a pattern at once, until the text
tells which it is.
-/

namespace RouteAtlas.Script.Grammar

open Rule Phrase

/-- Two operands with one of some operators between them. -/
def operators (l : Level) (texts : List String) : Rule :=
  levelLeft l (seq [expression, alt (texts.map .spelled), expression])

/-- The rules of expressions and of patterns. -/
def expressionRules : List (Phrase × Rule) :=
  [(parenthesizedExpression,
    seq ["(", alt [seq [expression, opt typeAscription], sequenceExpression], ")"]),
   (expression,
    alt [
      asExpression, satisfiesExpression, instantiationExpression, namespaceDeclaration,
      typeAssertion, primaryExpression, assignmentExpression, augmentedAssignmentExpression,
      awaitExpression, unaryExpression, binaryExpression, ternaryExpression, updateExpression,
      newExpression, yieldExpression]),
   (primaryExpression,
    alt [
      subscriptExpression, memberExpression, parenthesizedExpression, plainName, softWord, "this",
      "super", token .number, string, templateString, patternLiteral, "true", "false", "null",
      object, array, functionExpression, arrowFunction, generatorFunction, classExpression,
      metaProperty, callExpression, nonNullExpression]),
   (yieldExpression, rightmost (seq ["yield", alt [seq ["*", expression], opt expression]])),
   (object,
    level .object <|
      seq [
        "\x7b",
        commaSep (opt (alt [pair, spreadElement, methodDefinition, alt [token .name, softWord]])),
        "\x7d"]),
   (objectPattern,
    level .object <|
      seq [
        "\x7b",
        commaSep <|
          opt <|
            alt [pairPattern, restPattern, objectAssignmentPattern, alt [token .name, softWord]],
        "\x7d"]),
   (assignmentPattern, seq [pattern, "=", expression]),
   (objectAssignmentPattern,
    seq [alt [alt [softWord, token .name], destructuring], "=", expression]),
   (array, seq ["[", commaSep (opt (alt [expression, spreadElement])), "]"]),
   (arrayPattern, seq ["[", commaSep (opt (alt [pattern, assignmentPattern])), "]"]),
   (optionalChain, .spelled "?."),
   (callExpression,
    alt [
      level .call (seq [alt [expression, importWord], opt typeArguments, arguments]),
      level .templateCall (seq [alt [primaryExpression, newExpression], templateString]),
      level .member (seq [primaryExpression, "?.", opt typeArguments, arguments])]),
   (newExpression,
    levelRight .newCall (seq ["new", primaryExpression, opt typeArguments, opt arguments])),
   (awaitExpression, level .unaryWord (seq ["await", expression])),
   (memberExpression,
    level .member <|
      seq [
        alt [expression, primaryExpression, importWord], alt [".", optionalChain],
        alt [token .hashName, token .name]]),
   (subscriptExpression,
    levelRight .member <|
      seq [alt [expression, primaryExpression], opt optionalChain, "[", expressions, "]"]),
   (assignmentExpression,
    levelRight .assign <|
      seq [opt "using", alt [parenthesizedExpression, assignable], "=", expression]),
   (augmentedTarget,
    alt [
      memberExpression, subscriptExpression, softWord, token .name, parenthesizedExpression,
      nonNullExpression]),
   (augmentedAssignmentExpression,
    levelRight .assign <|
      seq [
        augmentedTarget,
        alt [
          "+=", "-=", "*=", "/=", "%=", "^=", "&=", "|=", ">>=", ">>>=", "<<=", "**=", "&&=",
          "||=", "??="],
        expression]),
   (destructuring, alt [objectPattern, arrayPattern]),
   (spreadElement, seq ["...", expression]),
   (ternaryExpression,
    levelRight .conditional (seq [expression, token .conditionalMark, expression, ":", expression])),
   (binaryExpression,
    alt [
      operators .logicalAnd ["&&"], operators .logicalOr ["||"], operators .conditional ["??"],
      operators .bitAnd ["&"], operators .bitXor ["^"], operators .bitOr ["|"],
      operators .equality ["==", "===", "!=", "!=="],
      operators .relation ["<", "<=", ">=", ">", "instanceof", "in"],
      levelLeft .relation (seq [token .hashName, "in", expression]),
      operators .shift [">>", ">>>", "<<"], operators .sum ["+", "-"],
      operators .product ["*", "/", "%"],
      levelRight .power (seq [expression, "**", expression])]),
   (unaryExpression,
    levelLeft .unaryWord (seq [alt ["!", "~", "-", "+", "typeof", "void", "delete"], expression])),
   (updateExpression,
    leftmost (alt [seq [expression, alt ["++", "--"]], seq [alt ["++", "--"], expression]])),
   (sequenceExpression, rightmost (commaSep1 expression)),
   (string,
    alt [
      seq ["\"", many (alt [token .doubleText, token .escape]), "\""],
      seq ["'", many (alt [token .singleText, token .escape]), "'"]]),
   (templateString,
    seq ["`", many (alt [token .templateText, token .escape, templateSubstitution]), "`"]),
   (templateSubstitution, seq ["$\x7b", expressions, "\x7d"]),
   (patternLiteral, seq ["/", token .pattern, token .patternEnd, opt (token .patternFlags)]),
   (metaProperty, alt [seq ["new", ".", "target"], seq ["import", ".", "meta"]]),
   (arguments, seq ["(", commaSep (opt (alt [expression, spreadElement])), ")"]),
   (pattern, weigh (-1) (alt [assignable, restPattern])),
   (restPattern, rightmost (seq ["...", assignable])),
   (pair, seq [propertyName, ":", expression]),
   (pairPattern, seq [propertyName, ":", alt [pattern, assignmentPattern]]),
   (propertyName,
    alt [
      alt [token .name, softWord], token .hashName, string, token .number, computedPropertyName]),
   (computedPropertyName, seq ["[", expression, "]"]),
   (nonNullExpression, levelLeft .unary (seq [expression, "!"])),
   (typeAssertion, levelLeft .unary (seq [typeArguments, expression])),
   (asExpression, levelLeft .binary (seq [expression, "as", alt ["const", type]])),
   (satisfiesExpression, levelLeft .binary (seq [expression, "satisfies", type])),
   (instantiationExpression, level .instantiation (seq [expression, typeArguments]))]

end RouteAtlas.Script.Grammar
