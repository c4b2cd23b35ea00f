import RouteAtlas.Script.Grammar.Names

/-!
# Rules: imports and exports
-/

namespace RouteAtlas.Script.Grammar

open Rule Phrase

/-- The rules of imports and exports. -/
def moduleRules : List (Phrase × Rule) :=
  [(exportStatement,
    alt [
      alt [
        seq [
          "export",
          alt [
            seq ["*", fromClause], seq [namespaceExport, fromClause],
            seq [exportClause, fromClause], exportClause],
          semicolon],
        seq [
          many decorator, "export",
          alt [declaration, seq ["default", alt [declaration, seq [expression, semicolon]]]]]],
      seq ["export", "type", exportClause, opt fromClause, semicolon],
      seq ["export", "import", importAlias], seq ["export", "=", expression, semicolon],
      seq ["export", "as", "namespace", token .name, semicolon]]),
   (namespaceExport, seq ["*", "as", exportName]),
   (exportClause, seq ["\x7b", commaSep exportSpecifier, opt ",", "\x7d"]),
   (exportSpecifier,
    seq [opt (alt ["type", "typeof"]), seq [exportName, opt (seq ["as", exportName])]]),
   (exportName, alt [token .name, string]),
   (importWord, .spelled "import"),
   (importStatement,
    seq [
      "import", opt (alt ["type", "typeof"]),
      alt [seq [importClause, fromClause], importRequireClause, string], opt importAttribute,
      semicolon]),
   (importClause,
    alt [
      namespaceImport, namedImports,
      seq [importName, opt (seq [",", alt [namespaceImport, namedImports]])]]),
   (fromClause, seq ["from", string]),
   (namespaceImport, seq ["*", "as", token .name]),
   (namedImports, seq ["\x7b", commaSep importSpecifier, opt ",", "\x7d"]),
   (importSpecifier,
    seq [
      opt (alt ["type", "typeof"]),
      alt [importName, seq [alt [exportName, "type"], "as", importName]]]),
   (importAttribute, seq ["with", object]),
   (importName, alt [token .name, "type"]),
   (importRequireClause, seq [token .name, "=", "require", "(", string, ")"]),
   (importAlias, seq ["import", token .name, "=", alt [token .name, nestedIdentifier], semicolon])]

end RouteAtlas.Script.Grammar
