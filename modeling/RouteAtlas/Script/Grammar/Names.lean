import RouteAtlas.Script.Grammar.Rule

/-!
# Rules that several phrases share
-/

namespace RouteAtlas.Script.Grammar

open Rule Phrase

/-- The words that are keywords in some places and names in others. -/
def softWord : Rule :=
  alt [
    "declare", "namespace", "type", "public", "private", "protected", "override", "readonly",
    "module", "any", "number", "boolean", "string", "symbol", "object", "export", "get", "set",
    "async", "static", "let"]

/-- A name, or the word for the missing value. -/
def plainName : Rule := alt ["undefined", token .name]

/-- One or more expressions, with commas between. -/
def expressions : Rule := alt [expression, sequenceExpression]

/-- The end of a statement. -/
def semicolon : Rule := alt [token .lineEnd, ";"]

/-- What an assignment may change. -/
def assignable : Rule :=
  alt [memberExpression, subscriptExpression, plainName, softWord, destructuring, nonNullExpression]

end RouteAtlas.Script.Grammar
