import RouteAtlas.Proofs.Script.Generated

/-!
# Every spelling of a text is read as that text

A text can be written between quotes in many ways: most characters as themselves, and all of them as
escape sequences. Wherever the pieces meet, they are found again as they were written, and decoded
one by one.

- `Spelling`: a raw character, an escape sequence, or a line that goes on behind a backslash; what
  is written (`source`) and what it stands for (`text`);
- `Spelling.takes_body`: an escape sequence ends where it was meant to, whatever stands behind it
  (**step lemma**);
- `Spelling.value_piece`: it is decoded to its text;
- `Spelling.literal_reads`: a literal of spellings can be told apart into them;
- `parse?_spelled_constant`: **a constant with any such literal is accepted**, and the value of the
  literal is the text that is spelled.
-/

namespace RouteAtlas.Script

/-! ## Spellings -/

/-- A hexadecimal digit; those above nine are written as small or as capital letters. -/
structure HexDigit where
  value : Fin 16
  capital : Bool

/-- The digit as written. -/
def HexDigit.char (d : HexDigit) : Char :=
  if d.value < 10 then Char.ofNat (48 + d.value)
  else if d.capital then Char.ofNat (55 + d.value)
  else Char.ofNat (87 + d.value)

/-- The characters that have a letter to name them behind a backslash, or name themselves there. -/
inductive Named where
  | lineFeed
  | tab
  | carriageReturn
  | backspace
  | formFeed
  | verticalTab
  | backslash
  | singleQuote
  | doubleQuote

namespace Named

/-- The letter behind the backslash. -/
def letter : Named → Char
  | lineFeed => 'n'
  | tab => 't'
  | carriageReturn => 'r'
  | backspace => 'b'
  | formFeed => 'f'
  | verticalTab => 'v'
  | backslash => '\\'
  | singleQuote => '\x27'
  | doubleQuote => '\x22'

/-- The character that is named. -/
def char : Named → Char
  | lineFeed => '\x0a'
  | tab => '\x09'
  | carriageReturn => '\x0d'
  | backspace => '\x08'
  | formFeed => '\x0c'
  | verticalTab => '\x0b'
  | backslash => '\x5c'
  | singleQuote => '\x27'
  | doubleQuote => '\x22'

end Named

/-- A piece of a literal between the given quotes, as it can be written. -/
inductive Spelling (q : Quote) where
  | raw (c : Char)
    (allowed : c ≠ '\x00' ∧ c ≠ '\\' ∧ c ≠ q.char ∧ c ≠ '\n' ∧ c ≠ '\r')
  | named (n : Named)
  /-- A code point of two digits. -/
  | byte (a b : HexDigit)
  /-- A code point of four digits. -/
  | unit (a b c d : HexDigit)
  /-- A line end behind a backslash, with or without a carriage return. -/
  | continuation (carriageReturn : Bool)

namespace Spelling

variable {q : Quote}

/-- What stands behind the backslash; nothing for a raw character. -/
def body : Spelling q → List Char
  | raw _ _ => []
  | named n => [n.letter]
  | byte a b => ['x', a.char, b.char]
  | unit a b c d => ['u', a.char, b.char, c.char, d.char]
  | continuation false => ['\n']
  | continuation true => ['\r', '\n']

/-- The spelling as written. -/
def source : Spelling q → List Char
  | raw c _ => [c]
  | p => '\\' :: p.body

/-- What is spelled: a code point, or nothing where a line goes on. A surrogate stays alone. -/
def text : Spelling q → Text
  | raw c _ => [.ofChar c]
  | named n => [.ofChar n.char]
  | byte a b => [.ofNat (16 * a.value + b.value)]
  | unit a b c d => [.ofNat (16 * (16 * (16 * a.value + b.value) + c.value) + d.value)]
  | continuation _ => []

/-- The piece that a spelling is read as. -/
def piece : Spelling q → Piece
  | raw c _ => .raw c
  | p => .escape p.body

theorem source_piece (p : Spelling q) : p.piece.source = p.source := by
  cases p <;> rfl

end Spelling

/-! ## Digits -/

namespace HexDigit

@[simp] theorem hexDigit?_char (d : HexDigit) : hexDigit? d.char = some d.value.val := by
  obtain ⟨value, capital⟩ := d
  revert value capital
  decide

@[simp] theorem isHexDigit_char (d : HexDigit) : isHexDigit d.char = true := by
  rw [isHexDigit, hexDigit?_char]
  rfl

/-- A digit is no character that is not a digit. -/
theorem char_ne (d : HexDigit) {c : Char} (h : hexDigit? c = none) : d.char ≠ c := by
  rintro rfl
  rw [hexDigit?_char] at h
  cases h

end HexDigit

/-! ## Reading -/

namespace Spelling

variable {q : Quote}

/-- **Step lemma**: an escape sequence takes the characters that it was written with, whatever
stands behind it. -/
theorem takes_body {p : Spelling q} (h : p.source = '\\' :: p.body) : Escape.Takes p.body := by
  cases p with
  | raw c allowed => exact absurd (List.cons.inj h).1 allowed.2.1
  | named n => cases n <;> exact Escape.takes_singleton (by decide) (by decide)
  | byte a b =>
    intro s i rest h
    have hlt : ¬s.size ≤ i + 1 := Nat.not_le.mpr h.tail.lt_size
    have hletter : s.charAt (i + 1) = 'x' := h.tail.charAt
    have hdigits : i + 2 + 2 ≤ s.hexEnd (i + 2) :=
      Source.After.le_skipWhile (a := [a.char, b.char]) h.tail.tail (by simp)
    rw [Source.escapeEnd?, hletter, if_neg hlt]
    simp [body, hdigits]
  | unit a b c d =>
    intro s i rest h
    have hlt : ¬s.size ≤ i + 1 := Nat.not_le.mpr h.tail.lt_size
    have hletter : s.charAt (i + 1) = 'u' := h.tail.charAt
    -- the first digit is not the brace around a longer number
    have hbrace : s.charAt (i + 1 + 1) ≠ '\x7b' := by
      rw [h.tail.tail.charAt]
      exact a.char_ne rfl
    have hdigits : i + 1 + 1 + 4 ≤ s.hexEnd (i + 1 + 1) :=
      Source.After.le_skipWhile (a := [a.char, b.char, c.char, d.char]) h.tail.tail (by simp)
    rw [Source.escapeEnd?, hletter, if_neg hlt]
    simp [body, Source.unicodeEscapeEnd?, hletter, hbrace, hdigits]
  | continuation carriageReturn =>
    cases carriageReturn with
    | false => exact Escape.takes_singleton (by decide) (by decide)
    | true =>
      intro s i rest h
      have hlt : ¬s.size ≤ i + 1 := Nat.not_le.mpr h.tail.lt_size
      have hreturn : s.charAt (i + 1) = '\r' := h.tail.charAt
      have hfeed : s.charAt (i + 2) = '\n' := h.tail.tail.charAt
      rw [Source.escapeEnd?, hreturn, hfeed, if_neg hlt]
      rfl

/-! ## Decoding -/

/-- A spelling is decoded to its text. -/
theorem value_piece (p : Spelling q) : p.piece.value = p.text := by
  cases p with
  | raw c _ => rfl
  | named n => cases n <;> rfl
  | byte a b =>
    have hvalue : 16 * a.value.val + b.value.val < 0x110000 := by omega
    simp [piece, body, text, Piece.value, Escape.decode, Escape.read, Escape.letter?, hvalue]
  | unit a b c d =>
    have hvalue : 16 * (16 * (16 * a.value.val + b.value.val) + c.value.val) + d.value.val <
        0x110000 := by omega
    simp [piece, body, text, Piece.value, Escape.decode, Escape.read, Escape.letter?, hvalue]
  | continuation carriageReturn => cases carriageReturn <;> rfl

/-- No spelling needs a NUL. -/
theorem nul_notMem_source (p : Spelling q) : '\x00' ∉ p.source := by
  have hdigit : ∀ d : HexDigit, '\x00' ≠ d.char := fun d => (d.char_ne rfl).symm
  cases p with
  | raw c allowed => exact fun h => allowed.1 (List.mem_singleton.mp h).symm
  | named n => cases n <;> simp [source, body, Named.letter]
  | byte a b => simp [source, body, hdigit]
  | unit a b c d => simp [source, body, hdigit]
  | continuation carriageReturn => cases carriageReturn <;> simp [source, body]

/-! ## Literals -/

/-- Spellings between their quotes, as written. -/
def quoted (ps : List (Spelling q)) : List Char := q.char :: (ps.flatMap source ++ [q.char])

/-- The literal that is written so. -/
def literal (ps : List (Spelling q)) : Literal := ⟨q.char, ps.map piece⟩

theorem pieces_source (ps : List (Spelling q)) :
    (literal ps).pieces.flatMap Piece.source = ps.flatMap source := by
  rw [literal, List.flatMap_map, funext source_piece]

theorem literal_source (ps : List (Spelling q)) : (literal ps).source = quoted ps := by
  rw [Literal.source, pieces_source]
  rfl

theorem literal_value (ps : List (Spelling q)) : (literal ps).value = ps.flatMap text := by
  rw [Literal.value, literal, List.flatMap_map, funext value_piece]

theorem literal_reads (ps : List (Spelling q)) : (literal ps).Reads where
  quoted := by
    cases q with
    | single => exact .inl rfl
    | double => exact .inr rfl
  raws c h := by
    obtain ⟨p, -, hp⟩ := List.mem_map.mp h
    cases p with
    | raw d allowed =>
      obtain rfl := Piece.raw.inj hp
      exact ⟨allowed.2.2.1, allowed.2.1, allowed.2.2.2⟩
    | named | byte | unit | continuation => cases hp
  escapes body h := by
    obtain ⟨p, -, hp⟩ := List.mem_map.mp h
    cases p with
    | raw d allowed => cases hp
    | named | byte | unit | continuation =>
      obtain rfl := Piece.escape.inj hp
      exact takes_body rfl

theorem nul_notMem_quoted (ps : List (Spelling q)) : '\x00' ∉ quoted ps := by
  have hquote : '\x00' ≠ q.char := by cases q <;> decide
  rw [quoted, List.mem_cons, List.mem_append, List.mem_singleton, or_iff_left hquote,
    or_iff_right hquote, List.mem_flatMap]
  rintro ⟨p, -, hp⟩
  exact nul_notMem_source p hp

end Spelling

open Spelling in
/-- **Every spelling is read as the text that it spells**: a script that binds a constant to a
quoted literal, made of any spellings in any order, is accepted, and the value of its literal is
what the spellings stand for, one after the other. So a text of Unicode characters is read back
however it is spelled. -/
theorem parse?_spelled_constant {q : Quote} (ps : List (Spelling q)) :
    ∃ l : Literal,
      parse? ("const s = ".toList ++ quoted ps) =
        some [.statement
          ⟨false, .variables true [.part ⟨.name "s", [], some (.quoted l), quoted ps, []⟩]⟩
          ("const s = ".toList ++ quoted ps)] ∧
      l.source = quoted ps ∧ l.value = ps.flatMap text ∧
      ∀ cs : List Char, ps.flatMap text = Text.ofChars cs → l.value = Text.ofChars cs := by
  have htext : (Declaration.constant "s" (literal ps)).text = "const s = ".toList ++ quoted ps := by
    have hname : "const s = ".toList = "const ".toList ++ ("s".toList ++ " = ".toList) := rfl
    have hstop : Declaration.stop false = [] := rfl
    rw [← literal_source, hname, ← List.append_nil (Declaration.text _),
      Declaration.constant_text_append, hstop]
    simp only [List.append_assoc, List.append_nil]
  have hnul : '\x00' ∉ (Declaration.constant "s" (literal ps)).text := by
    rw [htext, List.mem_append, or_iff_right (by decide)]
    exact nul_notMem_quoted ps
  have hparse := parse?_text (d := .constant "s" (literal ps))
    ⟨isName_of_isPlainName rfl, literal_reads ps⟩ hnul
  refine ⟨literal ps, ?_, literal_source ps, literal_value ps, ?_⟩
  · rw [← htext, hparse, ← literal_source]
    rfl
  · intro cs hspelled
    rw [literal_value, hspelled]

/-- Digits behind an escape of two digits, a backslash before a letter, a line that goes on between
two escapes. -/
def awkwardSpellings : List (Spelling .double) :=
  [.byte ⟨4, false⟩ ⟨1, false⟩, .raw '4' (by decide), .named .backslash, .raw 'n' (by decide),
    .continuation true, .unit ⟨0, false⟩ ⟨0, false⟩ ⟨14, true⟩ ⟨9, false⟩, .named .doubleQuote]

theorem parse?_spelled_constant_awkward :
    ∃ l : Literal, l.value = Text.ofString "A4\\n\u00e9\x22" ∧
      parse? "const s = \x22\\x414\\\\n\\\r\n\\u00E9\\\x22\x22".toList =
        some [.statement
          ⟨false, .variables true [.part ⟨.name "s", [], some (.quoted l), l.source, []⟩]⟩
          "const s = \x22\\x414\\\\n\\\r\n\\u00E9\\\x22\x22".toList] := by
  obtain ⟨l, hparse, hsource, -, hvalue⟩ := parse?_spelled_constant awkwardSpellings
  refine ⟨l, hvalue "A4\\n\u00e9\x22".toList (by decide), ?_⟩
  rw [hsource]
  exact hparse

end RouteAtlas.Script
