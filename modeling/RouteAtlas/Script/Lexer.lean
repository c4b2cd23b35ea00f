import RouteAtlas.Script.Automaton.Spot
import RouteAtlas.Script.Scan

/-!
# Reading one token

Which token stands at a position depends on the tokens that can come next: a slash divides or opens
a pattern, a word is a keyword only where one is asked for, a line end may stand for a semicolon.

- `Lexeme`: a token with its place in the text;
- `Source.lineEnd`: whether a statement may end without a semicolon;
- `Source.conditionalMark?`, `Source.templateText?`: tokens that are told by what follows them;
- `Source.lexeme?`: the token at a position.
-/

namespace RouteAtlas.Script

/-- A token with its place in the text. -/
structure Lexeme where
  token : Nat
  start : Nat
  stop : Nat
deriving DecidableEq

namespace Grammar

/-- The keywords, as characters and as tokens. -/
def words : List (List Char × Nat) :=
  (spellings.filter (·.toList.all isNameChar)).map fun w => (w.toList, Symbol.ofSpelling w)

/-- The keywords as a set. -/
def wordSet : TokenSet := .ofList (words.map (·.2))

/-- The most characters that a mark has. -/
def markLength : Nat := 4

/-- The marks, as characters and as tokens, longer ones first. -/
def marks : List (List Char × Nat) :=
  (List.range markLength).flatMap fun n =>
    (spellings.filter fun m => m.toList.length = markLength - n && !m.toList.all isNameChar).map
      fun m => (m.toList, Symbol.ofSpelling m)

end Grammar

namespace Source

/-! ## Line ends -/

/-- Passes blanks and comments, from behind a line end. Tells whether a token follows, where the
scan stopped, and whether it passed a comment up to the end of its line. -/
def passGap (s : Source) : (fuel : Nat) → Nat → Bool → Bool × Nat × Bool
  | 0, i, seen => (true, i, seen)
  | fuel + 1, i, seen =>
    let j := s.skipWhile isPlainSpace i
    if s.charAt j != '/' then (true, j, seen)
    else if s.charAt (j + 1) == '/' then
      passGap s fuel (s.skipWhile (· != '\n') (j + 2)) true
    else if s.charAt (j + 1) == '*' then passGap s fuel (s.blockEnd (j + 2)) seen
    else (false, j + 1, seen)

/-- The statement before a line end may end there, if the text behind the gap does not go on with
it; told with the place up to which the text was looked at. `operator` tells that an operator can
come next, `body` that a body can. -/
def endsBefore (s : Source) (operator body : Bool) (i : Nat) : Bool × Nat :=
  let c := s.charAt i
  let d := s.charAt (i + 1)
  if c ∈ ['`', ',', '.', ';', '*', '%', '>', '<', '=', '?', '^', '|', '&', '/', ':'] then (false, i)
  else if c == '\x7b' then (!body, i)
  else if c == '(' || c == '[' then (!operator, i)
  else if c == '+' || c == '-' then (d == c, i + 1)
  else if c == '!' then (d != '=', i + 1)
  else if c == 'i' && d == 'n' then
    if !isLetter (s.charAt (i + 2)) then (false, i + 2)
    else if s.hasAt (i + 2) "stanceof".toList then (isLetter (s.charAt (i + 10)), i + 10)
    else (true, i + 2)
  else (true, i)

/-- A statement may end at a position without a semicolon: at the end of the text, before a closing
brace, or at a line end whose next line does not go on with it. A brace before a colon closes a
pattern, unless an operator could come next. Told with the place up to which the text was looked
at, and whether a comment up to the end of its line was passed. -/
def lineEnd (s : Source) (operator body : Bool) (i : Nat) : Bool × Nat × Bool :=
  let j := s.skipWhile (fun c => isPlainSpace c && c != '\n') i
  if s.size ≤ j then (true, j, false)
  else if s.charAt j == '\x7d' then
    let k := s.skipWhile isPlainSpace (j + 1)
    (s.charAt k != ':' || operator, k, false)
  else if s.charAt j != '\n' then (false, j, false)
  else
    let (token, k, seen) := s.passGap s.size (j + 1) false
    if token then
      let (ends, l) := s.endsBefore operator body k
      (ends, l, seen)
    else (false, k, seen)

/-! ## Tokens that are told by what follows them -/

/-- The question mark of a conditional expression: one that no second question mark follows, nor
what follows the mark of an optional parameter or of an optional chain. -/
def conditionalMark? (s : Source) (i : Nat) : Option (Nat × Nat) :=
  let j := s.skipWhile isPlainSpace i
  if s.charAt j != '?' || s.charAt (j + 1) == '?' then none
  else
    let k := s.skipWhile isPlainSpace (j + 1)
    let c := s.charAt k
    if c == ':' || c == ')' || c == ',' then none
    else if c == '.' && !isDigit (s.charAt (k + 1)) then none
    else some (j, j + 1)

/-- The end of raw text in a template: the next backslash, quote or substitution. -/
def templateEnd (s : Source) (i : Nat) : Option Nat :=
  if h : i < s.size then
    if s[i] == '`' || s[i] == '\\' then some i
    else if s[i] == '$' && s.charAt (i + 1) == '\x7b' then some i
    else templateEnd s (i + 1)
  else none
termination_by s.size - i

/-- Raw text in a template that starts at a position. -/
def templateText? (s : Source) (i : Nat) : Option (Nat × Nat) :=
  match s.templateEnd i with
  | none => none
  | some j => if i < j then some (i, j) else none

/-- A comment in the manner of a web page behind a gap. -/
def pageComment? (s : Source) (i : Nat) : Option (Nat × Nat) :=
  let j := s.skipWhile isPlainSpace i
  (s.pageCommentEnd? j).map fun k => (j, k)

/-- The tokens that depend on more of the text than they take, and on what else can come next. -/
def outer? (s : Source) (valid : TokenSet) (i : Nat) : Option Lexeme :=
  let can (c : TokenClass) : Bool := valid.has c.code
  let operator := valid.has (Symbol.ofSpelling "||")
  let lexeme (c : TokenClass) : Nat × Nat → Lexeme := fun (j, k) => ⟨c.code, j, k⟩
  if can .templateText then
    if can .lineEnd then none else (s.templateText? i).map (lexeme .templateText)
  else if can .lineEnd || can .signatureEnd then
    let (ends, j, seen) := s.lineEnd operator (can .signatureEnd) i
    if ends then some ⟨TokenClass.lineEnd.code, i, i⟩
    else if !seen && can .conditionalMark && s.charAt j == '?' then
      (s.conditionalMark? j).map (lexeme .conditionalMark)
    else none
  else if can .conditionalMark then (s.conditionalMark? i).map (lexeme .conditionalMark)
  else if operator || can .escape || can .pattern then none
  else (s.pageComment? i).map (lexeme .pageComment)

/-! ## Other tokens -/

/-- A token that must start at the position itself: a part of a literal. -/
def inner? (s : Source) (valid : TokenSet) (i : Nat) : Option Lexeme :=
  let can (c : TokenClass) : Bool := valid.has c.code
  let raw (quote : Char) : Nat :=
    s.skipWhile (fun c => c != quote && c != '\\' && c != '\n' && c != '\r') i
  let flags := s.skipWhile (fun c => 'a' ≤ c && c ≤ 'z') i
  if can .doubleText && i < raw '\x22' then some ⟨TokenClass.doubleText.code, i, raw '\x22'⟩
  else if can .singleText && i < raw '\x27' then some ⟨TokenClass.singleText.code, i, raw '\x27'⟩
  else if can .escape && s.charAt i == '\\' then
    (s.escapeEnd? i).map fun j => ⟨TokenClass.escape.code, i, j⟩
  else if can .pattern && (s.commentEnd? (s.skipWhile isSpace i)).isNone &&
      i < s.patternEnd s.size i then
    some ⟨TokenClass.pattern.code, i, s.patternEnd s.size i⟩
  else if can .patternEnd && s.charAt i == '/' then some ⟨TokenClass.patternEnd.code, i, i + 1⟩
  else if can .patternFlags && i < flags && s.wordEnd i == flags then
    some ⟨TokenClass.patternFlags.code, i, flags⟩
  else none

/-- The longest mark at a position that can come next. -/
def mark? (s : Source) (valid : TokenSet) (i : Nat) : Option Lexeme :=
  Grammar.marks.findSome? fun (text, code) =>
    if s.hasAt i text && valid.has code then some ⟨code, i, i + text.length⟩ else none

/-- The word at a position: a keyword if it can come next, else a name. -/
def word? (s : Source) (valid : TokenSet) (i : Nat) : Option Lexeme :=
  let j := s.wordEnd i
  if j ≤ i then none
  else
    let code := (Grammar.words.lookup (s.slice i j)).getD TokenClass.name.code
    some ⟨if valid.has code then code else TokenClass.name.code, i, j⟩

/-- The longer of two tokens; the first if they are equally long. -/
def longer (a b : Option Lexeme) : Option Lexeme :=
  match a, b with
  | some x, some y => if x.stop < y.stop then b else a
  | none, _ => b
  | _, none => a

/-- A token behind a gap. -/
def plain? (s : Source) (valid : TokenSet) (i : Nat) : Option Lexeme :=
  let can (c : TokenClass) : Bool := valid.has c.code
  let i := s.skipWhile isSpace i
  let number := s.numberEnd i
  let hashName := s.wordEnd (i + 1)
  if s.size ≤ i then some ⟨TokenClass.endOfText.code, i, i⟩
  else match s.commentEnd? i with
    | some j => some ⟨TokenClass.comment.code, i, j⟩
    | none =>
      if can .hashBang && s.hasAt i ['#', '!'] then
        some ⟨TokenClass.hashBang.code, i, s.skipWhile (· != '\n') i⟩
      else
        let own : Option Lexeme :=
          if can .hashName && s.charAt i == '#' && i + 1 < hashName then
            some ⟨TokenClass.hashName.code, i, hashName⟩
          else if can .number && i < number then some ⟨TokenClass.number.code, i, number⟩
          else none
        match longer own (s.mark? valid i) with
        | some x => some x
        | none =>
          if can .name || valid.meets Grammar.wordSet then s.word? valid i else none

/-- The token at a position, given the tokens that can come next. A mark of the byte order at the
start of the text is passed over. -/
def lexeme? (s : Source) (valid : TokenSet) (i : Nat) : Option Lexeme :=
  let i := if i == 0 && s.charAt 0 == '\uFEFF' then 1 else i
  (s.outer? valid i).or ((s.inner? valid i).or (s.plain? valid i))

end Source

end RouteAtlas.Script
