import RouteAtlas.Script.Chars
import RouteAtlas.Script.Literal

/-!
# Scanning a text by position

The text of a script is an array of characters without NUL; reading past its end yields a NUL. The
functions of this module tell how far a part of the text reaches from a position.

- `Source.skipWhile`: a run of characters;
- `Source.commentEnd?`, `Source.nameEnd`, `Source.numberEnd`, `Source.escapeEnd?`,
  `Source.patternEnd`: the ends of the parts that tokens are made of.
-/

namespace RouteAtlas.Script

/-- The text of a script. -/
abbrev Source := Array Char

namespace Source

/-- The character at a position; NUL behind the end. -/
def charAt (s : Source) (i : Nat) : Char := s.getD i '\x00'

/-- The characters between two positions. -/
def slice (s : Source) (i j : Nat) : List Char := (s.extract i j).toList

/-- The text has the given characters at a position. -/
def hasAt (s : Source) (i : Nat) : List Char → Bool
  | [] => true
  | c :: cs => s.charAt i == c && hasAt s (i + 1) cs

/-- The first position from `i` on whose character does not belong to a class. -/
def skipWhile (p : Char → Bool) (s : Source) (i : Nat) : Nat :=
  if h : i < s.size then if p s[i] then skipWhile p s (i + 1) else i else i
termination_by s.size - i

/-! ## Comments -/

/-- The position behind the next `*/`, or the end of the text. -/
def blockEnd (s : Source) (i : Nat) : Nat :=
  if h : i < s.size then
    if s[i] == '*' && s.charAt (i + 1) == '/' then i + 2 else blockEnd s (i + 1)
  else i
termination_by s.size - i

/-- The end of a comment that starts at a position. -/
def commentEnd? (s : Source) (i : Nat) : Option Nat :=
  if s.charAt i != '/' then none
  else if s.charAt (i + 1) == '/' then some (s.skipWhile (!isLineBreak ·) (i + 2))
  else if s.charAt (i + 1) == '*' then
    let j := s.blockEnd (i + 2)
    if i + 4 ≤ j && s.charAt (j - 1) == '/' && s.charAt (j - 2) == '*' then some j else none
  else none

/-- The end of a comment in the manner of a web page that starts at a position. -/
def pageCommentEnd? (s : Source) (i : Nat) : Option Nat :=
  if s.hasAt i ['<', '!', '-', '-'] || s.hasAt i ['-', '-', '>'] then
    some (s.skipWhile (fun c => c != '\n' && c != '\u2028' && c != '\u2029') (i + 3))
  else none

/-! ## Escapes and names -/

/-- The position behind a run of hexadecimal digits. -/
def hexEnd (s : Source) (i : Nat) : Nat := s.skipWhile isHexDigit i

/-- The end of an escape whose `u` stands at a position: four digits, or digits in braces. -/
def unicodeEscapeEnd? (s : Source) (i : Nat) : Option Nat :=
  if s.charAt i != 'u' then none
  else if s.charAt (i + 1) == '\x7b' then
    let j := s.hexEnd (i + 2)
    if i + 2 < j && s.charAt j == '\x7d' then some (j + 1) else none
  else if i + 5 ≤ s.hexEnd (i + 1) then some (i + 5)
  else none

/-- The end of an escape whose backslash stands at a position. -/
def escapeEnd? (s : Source) (i : Nat) : Option Nat :=
  let c := s.charAt (i + 1)
  if s.size ≤ i + 1 then none
  else if c == 'x' then if i + 4 ≤ s.hexEnd (i + 2) then some (i + 4) else none
  else if c == 'u' then s.unicodeEscapeEnd? (i + 1)
  else if isOctalDigit c then some (min (i + 4) (s.skipWhile isOctalDigit (i + 1)))
  else if (c == '\r' || c == '?') && Escape.closesPair (s.charAt (i + 2)) then some (i + 3)
  else some (i + 2)

/-- The end of a name of which a part ends at a position; an escape may stand for a character. -/
def nameEnd (s : Source) : (fuel : Nat) → Nat → Nat
  | 0, i => i
  | fuel + 1, i =>
    let j := s.skipWhile isNameChar i
    if s.charAt j != '\\' then j
    else match s.unicodeEscapeEnd? (j + 1) with
      | none => j
      | some k => nameEnd s fuel k

/-- The end of a name that starts at a position; the position itself if none starts there. -/
def wordEnd (s : Source) (i : Nat) : Nat :=
  if isDigit (s.charAt i) then i else s.nameEnd (s.size + 1) i

/-! ## Numbers -/

/-- The end of digits of a class, of which one was read; an underscore may stand between two. -/
def digitsEnd (p : Char → Bool) (s : Source) : (fuel : Nat) → Nat → Nat
  | 0, i => i
  | fuel + 1, i =>
    let j := s.skipWhile p i
    if s.charAt j == '_' && p (s.charAt (j + 1)) then digitsEnd p s fuel (j + 2) else j

/-- The end of digits of a class that start at a position, if one does. -/
def digitsEnd? (p : Char → Bool) (s : Source) (i : Nat) : Option Nat :=
  if p (s.charAt i) then some (s.digitsEnd p s.size (i + 1)) else none

/-- The end of an exponent, or the position itself. -/
def exponentEnd (s : Source) (i : Nat) : Nat :=
  if s.charAt i == 'e' || s.charAt i == 'E' then
    let j := if s.charAt (i + 1) == '-' || s.charAt (i + 1) == '+' then i + 2 else i + 1
    (s.digitsEnd? isDigit j).getD i
  else i

/-- The digits behind a zero and a letter for the base. -/
def baseDigit? (c : Char) : Option (Char → Bool) :=
  if c == 'x' || c == 'X' then some isHexDigit
  else if c == 'b' || c == 'B' then some fun d => d == '0' || d == '1'
  else if c == 'o' || c == 'O' then some isOctalDigit
  else none

/-- The position behind the mark of a big integer, if one stands there. -/
def bigEnd (s : Source) (i : Nat) : Nat := if s.charAt i == 'n' then i + 1 else i

/-- The fraction and the exponent behind a point. -/
def fractionEnd (s : Source) (i : Nat) : Nat :=
  s.exponentEnd ((s.digitsEnd? isDigit i).getD i)

/-- The digits between two positions may stand before a point or an exponent: they are a zero
alone, or have at most one zero in front. -/
def isWhole (s : Source) (i j : Nat) : Bool :=
  let positive (c : Char) : Bool := isDigit c && c != '0'
  positive (s.charAt i) || j == i + 1 || positive (s.charAt (i + 1))

/-- The end of a number that starts at a position; the position itself if none starts there. -/
def numberEnd (s : Source) (i : Nat) : Nat :=
  if s.charAt i == '.' then
    if isDigit (s.charAt (i + 1)) then s.fractionEnd (i + 1) else i
  else match s.digitsEnd? isDigit i with
    | none => i
    | some j =>
      let based := (baseDigit? (s.charAt (i + 1))).bind fun p => s.digitsEnd? p (i + 2)
      match (if s.charAt i == '0' then based else none) with
      | some k => s.bigEnd k
      | none =>
        if s.isWhole i j && s.charAt j == '.' then s.fractionEnd (j + 1)
        else if s.isWhole i j && s.exponentEnd j != j then s.exponentEnd j
        else s.bigEnd j

/-! ## Patterns -/

/-- The end of a class of characters inside a pattern, from behind its bracket. -/
def classEnd? (s : Source) : (fuel : Nat) → Nat → Option Nat
  | 0, _ => none
  | fuel + 1, i =>
    let c := s.charAt i
    if s.size ≤ i || c == '\n' then none
    else if c == ']' then some (i + 1)
    else if c == '\\' then
      if s.size ≤ i + 1 || s.charAt (i + 1) == '\n' then none else classEnd? s fuel (i + 2)
    else classEnd? s fuel (i + 1)

/-- The end of a pattern between slashes, from behind the first one. -/
def patternEnd (s : Source) : (fuel : Nat) → Nat → Nat
  | 0, i => i
  | fuel + 1, i =>
    let c := s.charAt i
    if s.size ≤ i || c == '\n' || c == '/' then i
    else if c == '[' then
      match s.classEnd? s.size (i + 1) with
      | none => i
      | some j => patternEnd s fuel j
    else if c == '\\' then
      if s.size ≤ i + 1 || s.charAt (i + 1) == '\n' then i else patternEnd s fuel (i + 2)
    else patternEnd s fuel (i + 1)

end Source

end RouteAtlas.Script
