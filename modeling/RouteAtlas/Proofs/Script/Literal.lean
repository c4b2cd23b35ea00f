import RouteAtlas.Proofs.Script.Scan

/-!
# Quoted texts are read back

A text of one line is quoted by writing a backslash before each backslash and each single quote.
The literal that is written so has the text as its value.

- `Literal.source`: a literal as written;
- `Literal.Reads`: the pieces of a literal can be told apart as they are written;
- `LineText`: a text without line ends and NULs, and `LineText.quoted`, how it is quoted;
- `LineText.literal_reads`, `LineText.literal_value`: **reading and decoding undo quoting**.
-/

namespace RouteAtlas.Script

/-! ## Literals as written -/

/-- A piece as written. -/
def Piece.source : Piece → List Char
  | raw c => [c]
  | escape body => '\\' :: body

namespace Literal

/-- A literal as written, with its quotes. -/
def source (l : Literal) : List Char := l.quote :: (l.pieces.flatMap Piece.source ++ [l.quote])

/-- The number of line feeds inside a literal. -/
def newlines (l : Literal) : Nat :=
  (l.pieces.flatMap fun
    | .raw _ => []
    | .escape body => body).count '\n'

end Literal

/-- An escape sequence takes the given characters behind its backslash, whatever stands behind
them. -/
def Escape.Takes (body : List Char) : Prop :=
  ∀ (s : Source) (i : Nat) (rest : List Char), s.After i ('\\' :: (body ++ rest)) →
    s.escapeEnd? i = some (i + 1 + body.length)

/-- The literal is written between quotes, raw characters are none of those that mean more, and
escape sequences take what they are written with. -/
structure Literal.Reads (l : Literal) : Prop where
  quoted : l.quote = '\x27' ∨ l.quote = '\x22'
  raws : ∀ c, .raw c ∈ l.pieces → c ≠ l.quote ∧ c ≠ '\\' ∧ c ≠ '\n' ∧ c ≠ '\r'
  escapes : ∀ body, .escape body ∈ l.pieces → Escape.Takes body

/-- A character that neither announces digits nor may stand for two takes itself. -/
theorem Escape.takes_singleton {c : Char} (hc : c ≠ 'x' ∧ c ≠ 'u' ∧ c ≠ '\r' ∧ c ≠ '?')
    (hoctal : isOctalDigit c = false) : Takes [c] := by
  intro s i rest h
  have hnext : s.charAt (i + 1) = c := h.tail.charAt
  have hsize := h.size
  have hlt : ¬s.size ≤ i + 1 := by
    simp only [List.length_cons, List.length_append] at hsize
    omega
  rw [Source.escapeEnd?, hnext, if_neg hlt]
  simp [hc, hoctal]

/-! ## Quoted texts -/

/-- A text of Unicode characters that stands on one line and holds no NUL. -/
structure LineText where
  chars : List Char
  one_line : chars.all (fun c => c != '\n' && c != '\r' && c != '\x00') = true := by decide

namespace Literal

/-- A character inside single quotes: a backslash stands before a backslash and a quote. -/
def quoteChar (c : Char) : List Char := if c = '\\' ∨ c = '\x27' then ['\\', c] else [c]

/-- The piece that a quoted character is. -/
def quotedPiece (c : Char) : Piece := if c = '\\' ∨ c = '\x27' then .escape [c] else .raw c

theorem source_quotedPiece (c : Char) : (quotedPiece c).source = quoteChar c := by
  unfold quotedPiece quoteChar
  split
  · rfl
  · rfl

/-- A quoted character is read as itself: the two escapes name the characters behind their
backslashes. -/
theorem value_quotedPiece (c : Char) : (quotedPiece c).value = [CodePoint.ofChar c] := by
  unfold quotedPiece
  split
  next h =>
    rcases h with rfl | rfl
    · rfl
    · rfl
  next => rfl

/-- A literal that is written without a line feed stands on one line. -/
theorem newlines_eq_zero {l : Literal} (h : '\n' ∉ l.source) : l.newlines = 0 := by
  rw [newlines, List.count_eq_zero]
  intro hmem
  obtain ⟨p, hp, hbody⟩ := List.mem_flatMap.mp hmem
  have hsource : '\n' ∈ p.source := by
    cases p with
    | raw c => cases hbody
    | escape body => exact List.mem_cons_of_mem _ hbody
  refine h (List.mem_cons_of_mem _ (List.mem_append_left _ ?_))
  exact List.mem_flatMap.mpr ⟨p, hp, hsource⟩

end Literal

namespace LineText

open Literal

/-- The text in single quotes. -/
def quoted (t : LineText) : List Char := '\x27' :: (t.chars.flatMap quoteChar ++ ['\x27'])

/-- No character of the text ends a line or is a NUL. -/
theorem ne_of_mem (t : LineText) {c : Char} (h : c ∈ t.chars) :
    c ≠ '\n' ∧ c ≠ '\r' ∧ c ≠ '\x00' := by
  have hc := List.all_eq_true.mp t.one_line c h
  rw [Bool.and_eq_true, Bool.and_eq_true, bne_iff_ne, bne_iff_ne, bne_iff_ne] at hc
  exact ⟨hc.1.1, hc.1.2, hc.2⟩

/-- The literal that the quoted text is. -/
def literal (t : LineText) : Literal := ⟨'\x27', t.chars.map quotedPiece⟩

/-- The text as a sequence of code points. -/
def text (t : LineText) : Text := Text.ofChars t.chars

theorem pieces_source (t : LineText) :
    t.literal.pieces.flatMap Piece.source = t.chars.flatMap quoteChar := by
  rw [literal, List.flatMap_map]
  exact congrArg (t.chars.flatMap ·) (funext source_quotedPiece)

/-- The literal is written as the quoted text. -/
theorem literal_source (t : LineText) : t.literal.source = t.quoted := by
  rw [Literal.source, pieces_source]
  rfl

/-- **Decoding undoes quoting.** -/
theorem literal_value (t : LineText) : t.literal.value = t.text := by
  rw [Literal.value, literal, List.flatMap_map, text, Text.ofChars, List.map_eq_flatMap]
  exact congrArg (t.chars.flatMap ·) (funext value_quotedPiece)

/-- **Reading undoes quoting.** -/
theorem literal_reads (t : LineText) : t.literal.Reads where
  quoted := .inl rfl
  raws c h := by
    obtain ⟨d, hd, hpiece⟩ := List.mem_map.mp h
    obtain ⟨hfeed, hreturn, -⟩ := t.ne_of_mem hd
    unfold quotedPiece at hpiece
    split at hpiece
    next => cases hpiece
    next hplain =>
      obtain rfl := Piece.raw.inj hpiece
      exact ⟨fun he => hplain (.inr he), fun he => hplain (.inl he), hfeed, hreturn⟩
  escapes body h := by
    obtain ⟨d, -, hpiece⟩ := List.mem_map.mp h
    unfold quotedPiece at hpiece
    split at hpiece
    next hd =>
      obtain rfl := Piece.escape.inj hpiece
      rcases hd with rfl | rfl
      · exact Escape.takes_singleton (by decide) (by decide)
      · exact Escape.takes_singleton (by decide) (by decide)
    next => cases hpiece

/-- A character of a quoted text is a character of the text, a backslash or a quote. -/
theorem mem_quoted {t : LineText} {c : Char} (h : c ∈ t.quoted) :
    c ∈ t.chars ∨ c = '\\' ∨ c = '\x27' := by
  rw [quoted, List.mem_cons, List.mem_append, List.mem_singleton] at h
  rcases h with rfl | h | rfl
  · exact .inr (.inr rfl)
  · obtain ⟨d, hd, hc⟩ := List.mem_flatMap.mp h
    unfold quoteChar at hc
    split at hc
    · rw [List.mem_cons, List.mem_singleton] at hc
      rcases hc with rfl | rfl
      · exact .inr (.inl rfl)
      · exact .inl hd
    · exact .inl (List.mem_singleton.mp hc ▸ hd)
  · exact .inr (.inr rfl)

/-- What is not in a text is not in the quoted text, but for backslashes and quotes. -/
theorem notMem_quoted {t : LineText} {c : Char} (h : c ∉ t.chars) (hslash : c ≠ '\\')
    (hquote : c ≠ '\x27') : c ∉ t.quoted := by
  intro hmem
  rcases mem_quoted hmem with hmem | rfl | rfl
  · exact h hmem
  · exact hslash rfl
  · exact hquote rfl

/-- A quoted text holds no line feed. -/
theorem newline_notMem_quoted (t : LineText) : '\n' ∉ t.quoted :=
  notMem_quoted (fun h => (t.ne_of_mem h).1 rfl) (by decide) (by decide)

/-- A quoted text holds no NUL. -/
theorem nul_notMem_quoted (t : LineText) : '\x00' ∉ t.quoted :=
  notMem_quoted (fun h => (t.ne_of_mem h).2.2 rfl) (by decide) (by decide)

/-- The literal stands on one line. -/
theorem newlines_literal (t : LineText) : t.literal.newlines = 0 :=
  newlines_eq_zero (t.literal_source ▸ t.newline_notMem_quoted)

end LineText

end RouteAtlas.Script
