/-!
# Texts as sequences of code points

A string literal may name any code point, lone surrogates included, so a decoded text is a list
of code points rather than a `String`.

- `CodePoint`: a number below `0x110000`;
- `Text`: a list of code points, ordered lexicographically by number (`Text.le`);
- `Text.ofString`, `Text.ofChars`: a text of Unicode scalar values;
- `Text.toString?`: back to a `String`, refused where a surrogate stands.
-/

namespace RouteAtlas

/-- A Unicode code point; unlike `Char` it may be a surrogate. -/
structure CodePoint where
  val : Nat
  isLt : val < 0x110000
deriving DecidableEq

namespace CodePoint

/-- The code point of a scalar value. -/
def ofChar (c : Char) : CodePoint :=
  ⟨c.toNat, by
    have h := c.valid
    simp only [UInt32.isValidChar, Nat.isValidChar] at h
    simp only [Char.toNat]
    omega⟩

/-- The code point with the given number, `U+FFFD` for a number out of range. -/
def ofNat (n : Nat) : CodePoint :=
  if h : n < 0x110000 then ⟨n, h⟩ else ⟨0xFFFD, by decide⟩

/-- Surrogates are the code points `U+D800` to `U+DFFF`. -/
def isSurrogate (p : CodePoint) : Bool := 0xD800 ≤ p.val && p.val ≤ 0xDFFF

/-- The scalar value at a code point, absent for a surrogate. -/
def toChar? (p : CodePoint) : Option Char :=
  if p.isSurrogate then none else some (Char.ofNat p.val)

/-- The code point is the given character. -/
def is (p : CodePoint) (c : Char) : Bool := p.val == c.toNat

instance : Coe Char CodePoint := ⟨ofChar⟩

@[simp] theorem val_ofChar (c : Char) : (ofChar c).val = c.toNat := rfl

end CodePoint

/-- A text that may hold lone surrogates. -/
abbrev Text := List CodePoint

namespace Text

/-- The text of a list of scalar values. -/
def ofChars (cs : List Char) : Text := cs.map CodePoint.ofChar

/-- The text of a string. -/
def ofString (s : String) : Text := ofChars s.toList

instance : Coe String Text := ⟨ofString⟩

/-- The text as a list of scalar values, refused where a surrogate stands. -/
def toChars? (t : Text) : Option (List Char) := t.mapM CodePoint.toChar?

/-- The text as a string, refused where a surrogate stands. -/
def toString? (t : Text) : Option String := t.toChars?.map String.ofList

/-- The scalar values of a text; surrogates become `U+FFFD`. -/
def toChars (t : Text) : List Char := t.map fun p => (p.toChar?).getD (Char.ofNat 0xFFFD)

/-- Lexicographic order by code point: a proper beginning comes first. -/
def le : Text → Text → Bool
  | [], _ => true
  | _ :: _, [] => false
  | a :: s, b :: t => a.val < b.val || (a.val == b.val && le s t)

/-- The decimal text of a natural number. -/
def ofNat (n : Nat) : Text := ofString (toString n)

/-- The decimal text of an integer. -/
def ofInt (i : Int) : Text := ofString (toString i)

/-- The texts joined, with `sep` between neighbours. -/
def join (sep : Text) : List Text → Text
  | [] => []
  | [t] => t
  | t :: ts => t ++ sep ++ join sep ts

/-- The pieces of a text between occurrences of `sep`. -/
def splitOn (sep : Char) : Text → List Text
  | [] => [[]]
  | p :: t =>
    if p.is sep then [] :: splitOn sep t
    else match splitOn sep t with
      | [] => [[p]]
      | s :: ss => (p :: s) :: ss

/-- The text before and after the first occurrence of `sep`. -/
def cut? (sep : Char) : Text → Option (Text × Text)
  | [] => none
  | p :: t => if p.is sep then some ([], t) else (cut? sep t).map fun (a, b) => (p :: a, b)

/-- The text starts with the given string. -/
def startsWith (t : Text) (s : String) : Bool := (ofString s).isPrefixOf t

/-- Lower-case hexadecimal digits of `n`, at least `width` of them. -/
def hex (width n : Nat) : Text :=
  let ds := Nat.toDigits 16 n
  ofChars (List.replicate (width - ds.length) '0' ++ ds)

end Text

end RouteAtlas
