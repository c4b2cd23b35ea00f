import RouteAtlas.Script.Grammar.Expressions
import RouteAtlas.Script.Grammar.Functions
import RouteAtlas.Script.Grammar.Modules
import RouteAtlas.Script.Grammar.Statements
import RouteAtlas.Script.Grammar.Types

/-!
# The grammar of scripts

- `Grammar.rules`: the rule of every phrase;
- `Grammar.spellings`: the keywords and marks of all rules.
-/

namespace RouteAtlas.Script

/-- The keywords and marks of a rule, in order. -/
def Rule.spellings : Rule → List String
  | .spelled text => [text]
  | .both a b | .either a b => a.spellings ++ b.spellings
  | .many1 r | .ranked _ _ r | .weighed _ r => r.spellings
  | .empty | .token _ | .phrase _ => []

namespace Grammar

/-- The rule of every phrase. -/
def rules : List (Phrase × Rule) :=
  statementRules ++ moduleRules ++ expressionRules ++ functionRules ++ typeRules

/-- The keywords and marks of the grammar, each once, in the order in which the rules come to
them. -/
def spellings : List String :=
  [";", "var", ",", "let", "const", "!", "=", "\x7b", "\x7d", "else", "if", "switch", "for", "(",
    ")", "await", "undefined", "declare", "namespace", "type", "public", "private", "protected",
    "override", "readonly", "module", "any", "number", "boolean", "string", "symbol", "object",
    "export", "get", "set", "async", "static", "in", "of", "while", "do", "try", "with", "break",
    "continue", "debugger", "return", "throw", ":", "case", "default", "catch", "finally",
    "global", ".", "interface", "extends", "enum", "*", "import", "as", "typeof", "from",
    "require", "this", "super", "true", "false", "null", "yield", "[", "]", "?.", "new", "using",
    "+=", "-=", "*=", "/=", "%=", "^=", "&=", "|=", ">>=", ">>>=", "<<=", "**=", "&&=", "||=",
    "??=", "...", "&&", "||", "??", "&", "^", "|", "==", "===", "!=", "!==", "<", "<=", ">=", ">",
    "instanceof", ">>", ">>>", "<<", "+", "-", "/", "%", "**", "~", "void", "delete", "++", "--",
    "\"", "\x27", "`", "$\x7b", "target", "meta", "satisfies", "function", "=>", "?", "class",
    "abstract", "implements", "accessor", "@", "-?:", "+?:", "?:", "asserts", "infer", "is",
    "keyof", "unique", "unknown", "never", "\x7b|", "|\x7d"]

end Grammar

end RouteAtlas.Script
