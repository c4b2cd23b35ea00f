import RouteAtlas.Script.Grammar.Names

/-!
# Rules: statements and declarations

A script is a list of statements. A statement ends with a semicolon, or with a line end that the
text allows to stand for one.
-/

namespace RouteAtlas.Script.Grammar

open Rule Phrase

/-- The rules of statements and of declarations other than functions and classes. -/
def statementRules : List (Phrase × Rule) :=
  [(program, seq [opt (token .hashBang), many statement]),
   (declaration,
    alt [
      functionDeclaration, generatorFunctionDeclaration, classDeclaration, lexicalDeclaration,
      variableDeclaration, functionSignature, abstractClassDeclaration, moduleDeclaration,
      level .declare namespaceDeclaration, typeAliasDeclaration, enumDeclaration,
      interfaceDeclaration, importAlias, ambientDeclaration]),
   (statement,
    alt [
      exportStatement, importStatement, debuggerStatement, expressionStatement, declaration,
      statementBlock, ifStatement, switchStatement, forStatement, forInStatement, whileStatement,
      doStatement, tryStatement, withStatement, breakStatement, continueStatement, returnStatement,
      throwStatement, emptyStatement, labeledStatement]),
   (expressionStatement, seq [expressions, semicolon]),
   (variableDeclaration, seq ["var", commaSep1 variableDeclarator, semicolon]),
   (lexicalDeclaration, seq [alt ["let", "const"], commaSep1 variableDeclarator, semicolon]),
   (variableDeclarator,
    alt [
      seq [alt [token .name, destructuring], opt typeAscription, opt initializer],
      level .declare (seq [token .name, "!", typeAscription])]),
   (initializer, seq ["=", expression]),
   (statementBlock, rightmost (seq ["\x7b", many statement, "\x7d", opt (token .lineEnd)])),
   (elseClause, seq ["else", statement]),
   (ifStatement, rightmost (seq ["if", parenthesizedExpression, statement, opt elseClause])),
   (switchStatement, seq ["switch", parenthesizedExpression, switchBody]),
   (forStatement,
    seq [
      "for", "(",
      alt [alt [lexicalDeclaration, variableDeclaration], seq [expressions, ";"], emptyStatement],
      alt [seq [expressions, ";"], emptyStatement], opt expressions, ")", statement]),
   (forInStatement, seq ["for", opt "await", forHeader, statement]),
   (forHeader,
    seq [
      "(",
      alt [
        alt [assignable, parenthesizedExpression],
        seq ["var", alt [token .name, destructuring], opt initializer],
        seq [alt ["let", "const"], alt [token .name, destructuring], opt (token .lineEnd)]],
      alt ["in", "of"], expressions, ")"]),
   (whileStatement, seq ["while", parenthesizedExpression, statement]),
   (doStatement,
    rightmost (seq ["do", statement, "while", parenthesizedExpression, opt semicolon])),
   (tryStatement, seq ["try", statementBlock, opt catchClause, opt finallyClause]),
   (withStatement, seq ["with", parenthesizedExpression, statement]),
   (breakStatement, seq ["break", opt (token .name), semicolon]),
   (continueStatement, seq ["continue", opt (token .name), semicolon]),
   (debuggerStatement, seq ["debugger", semicolon]),
   (returnStatement, seq ["return", opt expressions, semicolon]),
   (throwStatement, seq ["throw", expressions, semicolon]),
   (emptyStatement, .spelled ";"),
   (labeledStatement, weigh (-1) (seq [alt [token .name, softWord], ":", statement])),
   (switchBody, seq ["\x7b", many (alt [switchCase, switchDefault]), "\x7d"]),
   (switchCase, seq ["case", expressions, ":", many statement]),
   (switchDefault, seq ["default", ":", many statement]),
   (catchClause,
    seq [
      "catch", opt (seq ["(", alt [token .name, destructuring], opt typeAscription, ")"]),
      statementBlock]),
   (finallyClause, seq ["finally", statementBlock]),
   (ambientDeclaration,
    seq [
      "declare",
      alt [
        declaration, seq ["global", statementBlock],
        seq ["module", ".", token .name, ":", type, semicolon]]]),
   (moduleDeclaration, seq ["module", moduleParts]),
   (namespaceDeclaration, seq ["namespace", moduleParts]),
   (moduleParts,
    rightmost (seq [alt [string, token .name, nestedIdentifier], opt statementBlock])),
   (nestedIdentifier, level .member (seq [alt [token .name, nestedIdentifier], ".", token .name])),
   (interfaceDeclaration,
    seq ["interface", token .name, opt typeParameters, opt extendsTypeClause, objectType]),
   (extendsTypeClause,
    seq ["extends", commaSep1 (alt [token .name, nestedTypeIdentifier, genericType])]),
   (enumDeclaration, seq [opt "const", "enum", token .name, enumBody]),
   (enumBody,
    seq ["\x7b", opt (seq [commaSep1 (alt [propertyName, enumAssignment]), opt ","]), "\x7d"]),
   (enumAssignment, seq [propertyName, initializer]),
   (typeAliasDeclaration, seq ["type", token .name, opt typeParameters, "=", type, semicolon])]

end RouteAtlas.Script.Grammar
