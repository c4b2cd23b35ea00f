import RouteAtlas.Text.Names
import RouteAtlas.Text.Utf8

/-!
# String literals of a script

A quoted literal is a sequence of pieces, each a raw character or an escape sequence.

- `Escape.decode`: the text an escape sequence stands for;
- `Literal.value`: the text of a literal, its pieces decoded one by one.
-/

namespace RouteAtlas.Script

/-- The value of a hexadecimal digit. -/
def hexDigit? (c : Char) : Option Nat :=
  let n := c.toNat
  if 48 ≤ n ∧ n ≤ 57 then some (n - 48)
  else if 97 ≤ n ∧ n ≤ 102 then some (n - 87)
  else if 65 ≤ n ∧ n ≤ 70 then some (n - 55)
  else none

/-- The character is a hexadecimal digit. -/
def isHexDigit (c : Char) : Bool := (hexDigit? c).isSome

/-- The value of an octal digit. -/
def octalDigit? (c : Char) : Option Nat :=
  let n := c.toNat
  if 48 ≤ n ∧ n ≤ 55 then some (n - 48) else none

/-- The character is an octal digit. -/
def isOctalDigit (c : Char) : Bool := (octalDigit? c).isSome

namespace Escape

/-- Where a reader of escape sequences stands. -/
inductive State where
  /-- Between sequences. -/
  | plain
  /-- Just after a backslash. -/
  | opened
  /-- Inside a hexadecimal escape that wants `left` more digits. -/
  | hex (left : Nat) (acc : Nat)
  /-- Inside an octal escape that takes up to `left` more digits. -/
  | octal (left : Nat) (acc : Nat)
  /-- Just after the letter that announces a name. -/
  | named
  /-- Inside the braces around a name; its characters so far are reversed. -/
  | name (before : List Char)

/-- The code points of the UTF-8 bytes of a character. -/
def bytePoints (c : Char) : Text := (Utf8.encodePoint c.toNat).map CodePoint.ofNat

/-- The character that a backslash and one letter name. -/
def letter? : Char → Option Char
  | '\\' => some '\\'
  | '\x27' => some '\x27'
  | '\x22' => some '\x22'
  | 'a' => some '\x07'
  | 'b' => some '\x08'
  | 't' => some '\t'
  | 'n' => some '\n'
  | 'v' => some '\x0b'
  | 'f' => some '\x0c'
  | 'r' => some '\r'
  | _ => none

/-- Reads a text of escape sequences; a character outside them yields its UTF-8 bytes. An unknown
letter keeps its backslash; a sequence that is cut short, or names no character, is refused. -/
def read : State → List Char → Option Text
  | .plain, [] => some []
  | .plain, c :: cs =>
    if c = '\\' then read .opened cs else (read .plain cs).map (bytePoints c ++ ·)
  | .opened, [] => none
  | .opened, c :: cs =>
    match letter? c with
    | some d => (read .plain cs).map (CodePoint.ofChar d :: ·)
    | none =>
      if c = '\n' then read .plain cs
      else if c = 'x' then read (.hex 2 0) cs
      else if c = 'u' then read (.hex 4 0) cs
      else if c = 'U' then read (.hex 8 0) cs
      else if c = 'N' then read .named cs
      else match octalDigit? c with
        | some d => read (.octal 2 d) cs
        | none => (read .plain cs).map fun t => CodePoint.ofChar '\\' :: bytePoints c ++ t
  | .hex _ _, [] => none
  | .hex left acc, c :: cs =>
    match hexDigit? c with
    | none => none
    | some d =>
      let n := 16 * acc + d
      if left ≤ 1 then
        if n < 0x110000 then (read .plain cs).map (CodePoint.ofNat n :: ·) else none
      else read (.hex (left - 1) n) cs
  | .octal _ acc, [] => some [CodePoint.ofNat acc]
  | .octal left acc, c :: cs =>
    match octalDigit? c with
    | some d =>
      if left ≤ 1 then (read .plain cs).map (CodePoint.ofNat (8 * acc + d) :: ·)
      else read (.octal (left - 1) (8 * acc + d)) cs
    | none =>
      if c = '\\' then (read .opened cs).map (CodePoint.ofNat acc :: ·)
      else (read .plain cs).map fun t => CodePoint.ofNat acc :: bytePoints c ++ t
  | .named, [] => none
  | .named, c :: cs => if c = '\x7b' then read (.name []) cs else none
  | .name _, [] => none
  | .name before, c :: cs =>
    if c = '\x7d' then
      match Names.codePoint? before.reverse with
      | some n => (read .plain cs).map (CodePoint.ofNat n :: ·)
      | none => none
    else read (.name (c :: before)) cs

/-- The text of an escape sequence, written with its backslash: nothing for a line continuation,
and the sequence without its backslash where it cannot be read. -/
def decode (raw : List Char) : Text :=
  if raw = ['\\', '\n'] ∨ raw = ['\\', '\r', '\n'] then []
  else match read .plain raw with
    | some t => t
    | none => Text.ofChars (raw.drop 1)

/-- The line ends that may follow a carriage return or a question mark inside one escape. -/
def closesPair (c : Char) : Bool := c = '\n' || c = '\u2028' || c = '\u2029'

end Escape

/-- A piece of a string literal. -/
inductive Piece where
  | raw (c : Char)
  /-- The characters after the backslash. -/
  | escape (body : List Char)
deriving DecidableEq

/-- The text of a piece. -/
def Piece.value : Piece → Text
  | .raw c => [CodePoint.ofChar c]
  | .escape body => Escape.decode ('\\' :: body)

/-- A quoted string literal. -/
structure Literal where
  quote : Char
  pieces : List Piece
deriving DecidableEq

namespace Literal

/-- The text of a literal: the texts of its pieces in order. -/
def value (l : Literal) : Text := l.pieces.flatMap Piece.value

end Literal

end RouteAtlas.Script
