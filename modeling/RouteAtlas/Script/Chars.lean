/-!
# Characters of a script

- `isSpace`: the blanks between tokens;
- `isPlainSpace`: the blanks that do not hide a line end;
- `isNameStart`, `isNameChar`: the characters of a name.
-/

namespace RouteAtlas.Script

/-- A blank between tokens. -/
def isSpace (c : Char) : Bool :=
  let n := c.toNat
  (9 ≤ n && n ≤ 13) || n == 32 || n == 0xA0 || n == 0x1680 || (0x2000 ≤ n && n ≤ 0x200B) ||
    n == 0x2028 || n == 0x2029 || n == 0x202F || n == 0x205F || n == 0x2060 || n == 0x3000 ||
    n == 0xFEFF

/-- A blank that does not hide a line end behind it: the blanks that forbid a line break, and those
of no width, do hide it. -/
def isPlainSpace (c : Char) : Bool :=
  let n := c.toNat
  isSpace c && !(n == 0xA0 || n == 0x2007 || n == 0x200B || n == 0x202F || n == 0x2060 ||
    n == 0xFEFF)

/-- A decimal digit. -/
def isDigit (c : Char) : Bool := 48 ≤ c.toNat && c.toNat ≤ 57

/-- A letter, or any character beyond ASCII but a blank. -/
def isLetter (c : Char) : Bool :=
  let n := c.toNat
  if n < 128 then (97 ≤ n && n ≤ 122) || (65 ≤ n && n ≤ 90) else !isSpace c

/-- A character that may start a name: a letter, `_`, `$`, or the delete character. -/
def isNameStart (c : Char) : Bool :=
  isLetter c || c == '_' || c == '$' || c.toNat == 127

/-- A character that may continue a name. -/
def isNameChar (c : Char) : Bool := isNameStart c || isDigit c

/-- A character at which a comment up to the end of its line stops. -/
def isLineBreak (c : Char) : Bool := c == '\n' || c == '\r' || c == '\u2028' || c == '\u2029'

end RouteAtlas.Script
