import Mathlib.Data.List.TakeWhile
import RouteAtlas.Text.Blank

/-!
# Blanks around a text, and its lines

- `Blanks`: a text of nothing but blanks;
- `Text.Trimmed`: no blank stands at either end of a text;
- `strip_blanks_append`, `strip_append_blanks`, `Trimmed.strip_eq`: **stripping takes the blanks
  around a trimmed text off**, and nothing else (`trimmed_strip`, `strip_sublist`);
- `strip_append_cons`: what is left behind a character that is no blank, however the text goes on;
- `Text.OneLine`: no line ends in the text;
- `lines_append_lineFeed`: **the lines of a text and of what stands behind it**, where a line feed
  comes between them, by induction over the characters (`lines_cons`).
-/

namespace RouteAtlas

theorem CodePoint.ofChar_is {c d : Char} : (ofChar c).is d = true ↔ c = d := by
  rw [CodePoint.is, val_ofChar, beq_iff_eq, Char.toNat_inj]

/-- Nothing but blanks. -/
structure Blanks where
  text : Text
  blank : text.isBlank = true := by decide

namespace Text

/-- The text has no blank at either end. -/
structure Trimmed (t : Text) : Prop where
  head : ∀ p ∈ t.head?, p.isBlank = false
  last : ∀ p ∈ t.getLast?, p.isBlank = false

end Text

namespace Blanks

theorem isBlank_of_mem (bs : Blanks) {p : CodePoint} (h : p ∈ bs.text) : p.isBlank = true :=
  List.all_eq_true.mp bs.blank p h

/-- No other character stands among blanks. -/
theorem is_eq_false (bs : Blanks) {c : Char} (hc : (CodePoint.ofChar c).isBlank = false) :
    ∀ p ∈ bs.text, p.is c = false := by
  intro p hp
  rw [CodePoint.is, beq_eq_false_iff_ne]
  intro hval
  have hblank := bs.isBlank_of_mem hp
  rw [CodePoint.isBlank, hval] at hblank
  exact Bool.false_ne_true (hc.symm.trans hblank)

end Blanks

namespace Text

variable {s t : Text} {p : CodePoint}

theorem stripLeft_of_head (h : ∀ p ∈ t.head?, p.isBlank = false) : t.stripLeft = t := by
  cases t with
  | nil => rfl
  | cons p t => rw [stripLeft, List.dropWhile_cons, h p rfl, if_neg Bool.false_ne_true]

theorem stripLeft_blanks_append (bs : Blanks) (t : Text) :
    stripLeft (bs.text ++ t) = t.stripLeft :=
  List.dropWhile_append_of_pos fun _ => bs.isBlank_of_mem

theorem stripRight_append_blanks (t : Text) (bs : Blanks) :
    stripRight (t ++ bs.text) = t.stripRight := by
  have hblank : ∀ p ∈ bs.text.reverse, p.isBlank = true :=
    fun p hp => bs.isBlank_of_mem (List.mem_reverse.mp hp)
  rw [stripRight, List.reverse_append, List.dropWhile_append_of_pos hblank]
  rfl

/-- Nothing is taken off in front of a character that is no blank. -/
theorem stripRight_append_cons (hp : p.isBlank = false) (s t : Text) :
    stripRight (s ++ p :: t) = s ++ p :: t.stripRight := by
  rw [stripRight, List.reverse_append, List.reverse_cons, List.append_assoc, List.dropWhile_append,
    stripRight]
  split
  next hempty => simp [List.isEmpty_iff.mp hempty, hp]
  next => simp

theorem stripRight_of_last (h : ∀ p ∈ t.getLast?, p.isBlank = false) : t.stripRight = t := by
  rcases List.eq_nil_or_concat t with rfl | ⟨s, p, rfl⟩
  · rfl
  · rw [List.concat_eq_append] at h ⊢
    exact stripRight_append_cons (h p List.getLast?_concat) s []

/-- What is taken off the end is blank. -/
theorem exists_append_blanks (t : Text) : ∃ bs : Blanks, t = t.stripRight ++ bs.text := by
  have hblank : isBlank (t.reverse.takeWhile CodePoint.isBlank).reverse = true := by
    rw [isBlank, List.all_reverse]
    exact List.all_takeWhile
  refine ⟨⟨_, hblank⟩, ?_⟩
  rw [stripRight, ← List.reverse_append, List.takeWhile_append_dropWhile, List.reverse_reverse]

theorem strip_blanks_append (bs : Blanks) (t : Text) : strip (bs.text ++ t) = t.strip := by
  rw [strip, stripLeft_blanks_append]
  rfl

theorem strip_append_blanks (t : Text) (bs : Blanks) : strip (t ++ bs.text) = t.strip := by
  rw [strip, stripLeft, List.dropWhile_append]
  split
  next hempty =>
    have hnil : t.stripLeft = [] := List.isEmpty_iff.mp hempty
    have hbs : bs.text.dropWhile CodePoint.isBlank = [] :=
      List.dropWhile_eq_nil_iff.mpr fun _ => bs.isBlank_of_mem
    rw [strip, hbs, hnil]
  next => exact stripRight_append_blanks _ bs

/-- Stripping once or twice comes to the same. -/
theorem strip_stripRight (t : Text) : t.stripRight.strip = t.strip := by
  obtain ⟨bs, hbs⟩ := exists_append_blanks t
  rw [hbs, strip_append_blanks, ← hbs]

/-- Stripping only takes off. -/
theorem strip_sublist (t : Text) : t.strip.Sublist t := by
  obtain ⟨bs, hbs⟩ := exists_append_blanks t.stripLeft
  have hright : t.stripLeft.stripRight.Sublist t.stripLeft :=
    List.IsPrefix.sublist ⟨bs.text, hbs.symm⟩
  exact hright.trans (List.dropWhile_suffix _).sublist

/-- What is left has no blank at either end. -/
theorem trimmed_strip (t : Text) : t.strip.Trimmed := by
  obtain ⟨bs, hbs⟩ := exists_append_blanks t.stripLeft
  constructor
  · intro p hp
    have hfirst := List.head?_dropWhile_not CodePoint.isBlank t
    have hp' : t.stripLeft.head? = some p := by
      have hp : t.stripLeft.stripRight.head? = some p := hp
      rw [hbs, List.head?_append, hp]
      rfl
    rw [stripLeft] at hp'
    rw [hp'] at hfirst
    exact hfirst
  · intro p hp
    have hlast := List.head?_dropWhile_not CodePoint.isBlank t.stripLeft.reverse
    rw [strip, stripRight, List.getLast?_reverse] at hp
    rw [hp] at hlast
    exact hlast

/-- A trimmed text is left as it is. -/
theorem Trimmed.strip_eq (h : t.Trimmed) : t.strip = t := by
  rw [strip, stripLeft_of_head h.head, stripRight_of_last h.last]

/-- In a text that starts with no blank, all is kept up to a character that is no blank. -/
theorem strip_append_cons (hs : ∀ q ∈ s.head?, q.isBlank = false) (hp : p.isBlank = false)
    (t : Text) : strip (s ++ p :: t) = s ++ p :: t.stripRight := by
  have hhead : ∀ q ∈ (s ++ p :: t).head?, q.isBlank = false := by
    cases s with
    | nil =>
      rintro _ ⟨⟩
      exact hp
    | cons q s => exact hs
  rw [strip, stripLeft_of_head hhead, stripRight_append_cons hp]

theorem strip_cons (hp : p.isBlank = false) (t : Text) : strip (p :: t) = p :: t.stripRight := by
  refine strip_append_cons (s := []) ?_ hp t
  rintro _ ⟨⟩

theorem startsWith_iff {word : String} : t.startsWith word = true ↔ ofString word <+: t :=
  List.isPrefixOf_iff_prefix

/-- A text is cut at the first character of its kind. -/
theorem cut?_append {sep : Char} (hs : ∀ q ∈ s, q.is sep = false) (hp : p.is sep = true)
    (t : Text) : cut? sep (s ++ p :: t) = some (s, t) := by
  induction s with
  | nil => rw [List.nil_append, cut?, if_pos hp]
  | cons q s ih =>
    obtain ⟨hq, hs⟩ := List.forall_mem_cons.mp hs
    rw [List.cons_append, cut?, hq, if_neg Bool.false_ne_true, ih hs]
    rfl

/-! ## Lines -/

/-- No line ends in the text. -/
def OneLine (t : Text) : Prop := ∀ p ∈ t, p.isLineEnd = false

instance (t : Text) : Decidable t.OneLine :=
  inferInstanceAs (Decidable (∀ p ∈ t, p.isLineEnd = false))

theorem oneLine_append : OneLine (s ++ t) ↔ s.OneLine ∧ t.OneLine := List.forall_mem_append

theorem oneLine_cons : OneLine (p :: t) ↔ p.isLineEnd = false ∧ t.OneLine := List.forall_mem_cons

theorem lines_ne_nil (h : t ≠ []) : t.lines ≠ [] := by
  fun_cases lines t <;> simp_all

/-- The lines of a text by its first character: it ends the first line, or belongs to it. -/
theorem lines_cons (p : CodePoint) (t : Text) :
    lines (p :: t) =
      if p.isLineEnd then
        if p.is '\r' && t.head?.any (·.is '\n') then t.lines else [] :: t.lines
      else (p :: t.lines.headD []) :: t.lines.tail := by
  cases t with
  | nil => simp [lines]
  | cons q t =>
    obtain ⟨l, ls, hlines⟩ := List.exists_cons_of_ne_nil (lines_ne_nil (List.cons_ne_nil q t))
    rw [lines, hlines]
    rfl

/-- **What follows a line feed has lines of its own.** -/
theorem lines_append_lineFeed (t rest : Text) :
    lines (t ++ .ofChar '\n' :: rest) = lines (t ++ [.ofChar '\n']) ++ rest.lines := by
  induction t with
  | nil =>
    have hfeed : ∀ r : Text, lines (.ofChar '\n' :: r) = [] :: r.lines := fun r => lines_cons _ r
    rw [List.nil_append, List.nil_append, hfeed, hfeed]
    rfl
  | cons p t ih =>
    -- the same character follows, whatever stands behind the line feed
    have hhead : (t ++ .ofChar '\n' :: rest).head? = (t ++ [CodePoint.ofChar '\n']).head? := by
      cases t <;> rfl
    obtain ⟨l, ls, hlines⟩ := List.exists_cons_of_ne_nil
      (lines_ne_nil (List.append_ne_nil_of_right_ne_nil t (List.cons_ne_nil (.ofChar '\n') [])))
    rw [List.cons_append, List.cons_append, lines_cons, lines_cons, hhead, ih, hlines]
    split
    · split <;> rfl
    · rfl

/-- A text without line ends is one line, with a line end behind it. -/
theorem OneLine.lines_append {ending : Text} (h : t.OneLine) (hending : ending.lines = [[]]) :
    lines (t ++ ending) = [t] := by
  induction t with
  | nil => exact hending
  | cons p t ih =>
    obtain ⟨hp, ht⟩ := oneLine_cons.mp h
    rw [List.cons_append, lines_cons, hp, if_neg Bool.false_ne_true, ih ht]
    rfl

end Text

end RouteAtlas
