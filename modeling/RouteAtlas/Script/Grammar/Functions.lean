import RouteAtlas.Script.Grammar.Names

/-!
# Rules: functions and classes
-/

namespace RouteAtlas.Script.Grammar

open Rule Phrase

/-- The rules of functions, classes and their members. -/
def functionRules : List (Phrase × Rule) :=
  [(functionExpression,
    level .literal (seq [opt "async", "function", opt (token .name), signature, statementBlock])),
   (functionDeclaration,
    levelRight .declare <|
      seq [opt "async", "function", token .name, signature, statementBlock, opt (token .lineEnd)]),
   (generatorFunction,
    level .literal <|
      seq [opt "async", "function", "*", opt (token .name), signature, statementBlock]),
   (generatorFunctionDeclaration,
    levelRight .declare <|
      seq [
        opt "async", "function", "*", token .name, signature, statementBlock, opt (token .lineEnd)]),
   (arrowFunction,
    seq [
      opt "async", alt [alt [softWord, token .name], signature], "=>",
      alt [expression, statementBlock]]),
   (signature,
    seq [
      opt typeParameters, formalParameters,
      opt (alt [typeAscription, assertsAscription, predicateAscription])]),
   (formalParameter, alt [requiredParameter, optionalParameter]),
   (formalParameters, seq ["(", opt (seq [commaSep1 formalParameter, opt ","]), ")"]),
   (requiredParameter, seq [parameterName, opt typeAscription, opt initializer]),
   (optionalParameter, seq [parameterName, "?", opt typeAscription, opt initializer]),
   (parameterName,
    seq [
      many decorator, opt accessibilityModifier, opt overrideModifier, opt "readonly",
      alt [pattern, "this"]]),
   (functionSignature,
    seq [opt "async", "function", token .name, signature, alt [semicolon, token .signatureEnd]]),
   (classExpression,
    level .literal <|
      seq [
        many decorator, "class", opt (token .name), opt typeParameters, opt classHeritage,
        classBody]),
   (classDeclaration,
    levelLeft .declare <|
      seq [
        many decorator, "class", token .name, opt typeParameters, opt classHeritage, classBody,
        opt (token .lineEnd)]),
   (abstractClassDeclaration,
    level .declare <|
      seq [
        many decorator, "abstract", "class", token .name, opt typeParameters, opt classHeritage,
        classBody]),
   (classHeritage, alt [seq [extendsClause, opt implementsClause], implementsClause]),
   (extendsClause, seq ["extends", commaSep1 extendsTarget]),
   (extendsTarget, level .heritage (seq [expression, opt typeArguments])),
   (implementsClause, seq ["implements", commaSep1 type]),
   (classBody,
    seq [
      "\x7b",
      many <|
        alt [
          decorator, seq [methodDefinition, opt semicolon],
          seq [methodSignature, alt [token .signatureEnd, ","]], classStaticBlock,
          seq [
            alt [abstractMethodSignature, indexSignature, methodSignature, publicFieldDefinition],
            alt [semicolon, ","]],
          ";"],
      "\x7d"]),
   (classStaticBlock, seq ["static", opt (token .lineEnd), statementBlock]),
   (methodDefinition,
    leftmost <|
      seq [
        opt accessibilityModifier, opt "static", opt overrideModifier, opt "readonly", opt "async",
        opt (alt ["get", "set", "*"]), propertyName, opt "?", signature, statementBlock]),
   (methodSignature,
    seq [
      opt accessibilityModifier, opt "static", opt overrideModifier, opt "readonly", opt "async",
      opt (alt ["get", "set", "*"]), propertyName, opt "?", signature]),
   (abstractMethodSignature,
    seq [
      opt accessibilityModifier, "abstract", opt overrideModifier, opt (alt ["get", "set", "*"]),
      propertyName, opt "?", signature]),
   (publicFieldDefinition,
    seq [
      many decorator,
      opt <|
        alt [
          seq ["declare", opt accessibilityModifier], seq [accessibilityModifier, opt "declare"]],
      alt [
        seq [opt "static", opt overrideModifier, opt "readonly"],
        seq [opt "abstract", opt "readonly"], seq [opt "readonly", opt "abstract"], opt "accessor"],
      propertyName, opt (alt ["?", "!"]), opt typeAscription, opt initializer]),
   (accessibilityModifier, alt ["public", "private", "protected"]),
   (overrideModifier, .spelled "override"),
   (decorator,
    seq [
      "@",
      alt [
        token .name, decoratorMemberExpression, decoratorCallExpression,
        decoratorParenthesizedExpression]]),
   (decoratorMemberExpression,
    level .member (seq [alt [token .name, decoratorMemberExpression], ".", token .name])),
   (decoratorCallExpression,
    level .call (seq [alt [token .name, decoratorMemberExpression], opt typeArguments, arguments])),
   (decoratorParenthesizedExpression,
    seq ["(", alt [token .name, decoratorMemberExpression, decoratorCallExpression], ")"])]

end RouteAtlas.Script.Grammar
