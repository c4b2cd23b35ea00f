import RouteAtlas.Text.CodePoint

/-!
# White space and line boundaries of texts

- `CodePoint.isBlank`: the characters removed at the ends of a text;
- `Text.strip`: the text without blanks at either end;
- `Text.lines`: the lines of a text, cut at every line boundary of Unicode.
-/

namespace RouteAtlas

/-- The Unicode white space characters, with the four information separators. -/
def CodePoint.isBlank (p : CodePoint) : Bool :=
  let n := p.val
  (9 ≤ n && n ≤ 13) || (28 ≤ n && n ≤ 32) || n == 0x85 || n == 0xA0 || n == 0x1680 ||
    (0x2000 ≤ n && n ≤ 0x200A) || n == 0x2028 || n == 0x2029 || n == 0x202F || n == 0x205F ||
    n == 0x3000

/-- The characters that end a line, alone or as the second of a carriage return and a line feed. -/
def CodePoint.isLineEnd (p : CodePoint) : Bool :=
  let n := p.val
  (10 ≤ n && n ≤ 13) || (28 ≤ n && n ≤ 30) || n == 0x85 || n == 0x2028 || n == 0x2029

namespace Text

/-- The text without its leading blanks. -/
def stripLeft (t : Text) : Text := t.dropWhile CodePoint.isBlank

/-- The text without its trailing blanks. -/
def stripRight (t : Text) : Text := (t.reverse.dropWhile CodePoint.isBlank).reverse

/-- The text without blanks at either end. -/
def strip (t : Text) : Text := t.stripLeft.stripRight

/-- The text holds nothing but blanks. -/
def isBlank (t : Text) : Bool := t.all CodePoint.isBlank

/-- The lines of a text; a line boundary at the very end opens no further line. -/
def lines : Text → List Text
  | [] => []
  | [p] => if p.isLineEnd then [[]] else [[p]]
  | p :: q :: t =>
    if p.isLineEnd then
      if p.is '\r' && q.is '\n' then
        -- the pair is one boundary: the line feed closes the same line
        match lines (q :: t) with
        | [] => [[]]
        | l :: ls => l :: ls
      else [] :: lines (q :: t)
    else match lines (q :: t) with
      | [] => [[p]]
      | l :: ls => (p :: l) :: ls

/-- Every carriage return, with or without a line feed after it, becomes one line feed. -/
def unifyNewlines : List Char → List Char
  | [] => []
  | '\r' :: '\n' :: cs => '\n' :: unifyNewlines cs
  | c :: cs => (if c = '\r' then '\n' else c) :: unifyNewlines cs

end Text

end RouteAtlas
