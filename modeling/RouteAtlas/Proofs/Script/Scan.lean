import RouteAtlas.Script.Lexer

/-!
# Scanning what stands behind a position

What a scanning function tells about a position depends on the text behind it:

- `Source.After`: the text behind a position;
- `After.charAt_add`, `After.slice`, `After.skipWhile`, `After.hasAt`: what is seen of it;
- `After.wordEnd`, `After.lineEnd`: words, and line ends at which a statement may end.
-/

namespace RouteAtlas.Script

/-- The text behind a position. -/
structure Source.After (s : Source) (i : Nat) (cs : List Char) : Prop where
  le : i ≤ s.size
  drop : s.toList.drop i = cs

/-- A blank, or the end of a line. -/
def isGap (c : Char) : Bool := c == ' ' || c == '\n'

/-- The characters that may go on with a statement on the line before. -/
def continuing : List Char :=
  ['`', ',', '.', ';', '*', '%', '>', '<', '=', '?', '^', '|', '&', '/', ':'] ++
    ['\x7b', '(', '[', '+', '-', '!']

/-- The text does not go on with the statement on the line before it. -/
def opensLine : List Char → Bool
  | [] => true
  | c :: cs => !isSpace c && !continuing.contains c && !(c == 'i' && cs.headD '\x00' == 'n')

/-- A statement may end before the text. -/
def EndsHere (cs : List Char) : Prop :=
  cs = [] ∨ ∃ gap rest, cs = '\n' :: (gap ++ rest) ∧ gap.all isGap = true ∧ opensLine rest = true

namespace Source.After

variable {s : Source} {i : Nat} {cs : List Char}

theorem start (cs : List Char) : After cs.toArray 0 cs := ⟨Nat.zero_le _, rfl⟩

theorem size (h : s.After i cs) : s.size = i + cs.length := by
  have hle := h.le
  have hlength := congrArg List.length h.drop
  rw [List.length_drop, Array.length_toList] at hlength
  omega

/-- A part of the text is passed. -/
theorem skip {a : List Char} (h : s.After i (a ++ cs)) : s.After (i + a.length) cs := by
  refine ⟨?_, ?_⟩
  · have hsize := h.size
    rw [List.length_append] at hsize
    omega
  · rw [← List.drop_drop, h.drop, List.drop_left]

theorem tail {c : Char} (h : s.After i (c :: cs)) : s.After (i + 1) cs := skip (a := [c]) h

theorem getElem? (h : s.After i cs) (k : Nat) : s[i + k]? = cs[k]? := by
  rw [← Array.getElem?_toList, ← h.drop, List.getElem?_drop]

theorem charAt_add (h : s.After i cs) (k : Nat) : s.charAt (i + k) = cs.getD k '\x00' := by
  rw [charAt, Array.getD_eq_getD_getElem?, h.getElem?, List.getD_eq_getElem?_getD]

theorem charAt (h : s.After i cs) : s.charAt i = cs.headD '\x00' := by
  have hzero := h.charAt_add 0
  rw [Nat.add_zero] at hzero
  rw [hzero]
  cases cs <;> rfl

/-- The characters of a part. -/
theorem slice {a : List Char} (h : s.After i (a ++ cs)) : s.slice i (i + a.length) = a := by
  rw [Source.slice, Array.toList_extract, List.extract_eq_take_drop, h.drop,
    Nat.add_sub_cancel_left, List.take_left]

theorem getElem_eq {c : Char} (h : s.After i (c :: cs)) (hlt : i < s.size) : s[i] = c := by
  have hget := h.getElem? 0
  rw [Nat.add_zero, Array.getElem?_eq_getElem hlt] at hget
  exact Option.some.inj hget

theorem lt_size {c : Char} (h : s.After i (c :: cs)) : i < s.size := by
  have hsize := h.size
  rw [List.length_cons] at hsize
  omega

/-- **A run of characters** ends where a character of another class stands, or at the end. -/
theorem skipWhile {p : Char → Bool} {a : List Char} (h : s.After i (a ++ cs))
    (ha : a.all p = true) (hcs : ∀ c ∈ cs.head?, p c = false) :
    s.skipWhile p i = i + a.length := by
  induction a generalizing i with
  | nil =>
    cases cs with
    | nil =>
      have hsize := h.size
      rw [Source.skipWhile, dif_neg (by simp_all)]
      rfl
    | cons c cs =>
      rw [Source.skipWhile, dif_pos h.lt_size, h.getElem_eq h.lt_size, hcs c rfl]
      rfl
  | cons c a ih =>
    rw [List.all_cons, Bool.and_eq_true] at ha
    rw [Source.skipWhile, dif_pos h.lt_size, h.getElem_eq h.lt_size, if_pos ha.1, ih h.tail ha.2,
      List.length_cons]
    omega

/-- Nothing of a class stands at a position. -/
theorem skipWhile_none {p : Char → Bool} (h : s.After i cs) (hcs : ∀ c ∈ cs.head?, p c = false) :
    s.skipWhile p i = i := skipWhile (a := []) h rfl hcs

/-- A run of characters goes as far as all of its characters, and maybe farther. -/
theorem le_skipWhile {p : Char → Bool} {a : List Char} (h : s.After i (a ++ cs))
    (ha : a.all p = true) : i + a.length ≤ s.skipWhile p i := by
  have hrun : s.After i (a ++ (cs.takeWhile p ++ cs.dropWhile p)) := by
    rwa [List.takeWhile_append_dropWhile]
  rw [← List.append_assoc] at hrun
  have hskip := hrun.skipWhile (List.all_append ▸ Bool.and_eq_true_iff.mpr ⟨ha, List.all_takeWhile⟩)
    fun c hc => by
      have hstop := List.head?_dropWhile_not p cs
      rwa [Option.mem_def.mp hc] at hstop
  rw [hskip, List.length_append]
  omega

/-- Given characters stand at a position if the text behind it begins with them. -/
theorem hasAt (h : s.After i cs) {m : List Char} (hm : '\x00' ∉ m) :
    s.hasAt i m = m.isPrefixOf cs := by
  induction m generalizing i cs with
  | nil => rfl
  | cons c m ih =>
    rw [List.mem_cons, not_or] at hm
    rw [Source.hasAt, h.charAt]
    cases cs with
    | nil =>
      rw [List.headD_nil, List.isPrefixOf_cons_nil, Bool.and_eq_false_iff]
      exact .inl (beq_false_of_ne hm.1)
    | cons d cs =>
      rw [List.headD_cons, ih h.tail hm.2, List.isPrefixOf_cons_cons, Bool.beq_comm]

/-! ## Words -/

/-- **A word** ends where no more character of a name stands, nor an escape for one. -/
theorem wordEnd {n : List Char} (h : s.After i (n ++ cs)) (hall : n.all isNameChar = true)
    (hfirst : ∀ c ∈ n.head?, isDigit c = false) (hne : n ≠ [])
    (hcs : ∀ c ∈ cs.head?, isNameChar c = false ∧ c ≠ '\\') : s.wordEnd i = i + n.length := by
  obtain ⟨c, n, rfl⟩ := List.exists_cons_of_ne_nil hne
  have hskip := h.skipWhile hall fun d hd => (hcs d hd).1
  have hslash : s.charAt (i + (c :: n).length) ≠ '\\' := by
    rw [h.skip.charAt]
    cases cs with
    | nil => decide
    | cons d cs => exact (hcs d rfl).2
  have hdigit : isDigit (s.charAt i) = false := by
    rw [h.charAt]
    exact hfirst c rfl
  rw [Source.wordEnd, hdigit, nameEnd]
  simp only [hskip, bne_iff_ne.mpr hslash, if_true, Bool.false_eq_true, if_false]

/-! ## Line ends -/

theorem isPlainSpace_of_isGap {c : Char} (h : isGap c = true) : isPlainSpace c = true := by
  rw [isGap, Bool.or_eq_true, beq_iff_eq, beq_iff_eq] at h
  rcases h with rfl | rfl <;> decide

theorem isPlainSpace_eq_false {c : Char} (h : isSpace c = false) : isPlainSpace c = false := by
  rw [isPlainSpace, h, Bool.false_and]

/-- What does not go on with a statement lets it end. -/
theorem endsBefore (h : s.After i cs) (hopens : opensLine cs = true) (operator body : Bool) :
    (s.endsBefore operator body i).1 = true := by
  cases cs with
  | nil =>
    have hchar : s.charAt i = '\x00' := h.charAt
    rw [Source.endsBefore, hchar]
    rfl
  | cons c cs =>
    have hchar : s.charAt i = c := h.charAt
    have hnext : s.charAt (i + 1) = cs.headD '\x00' := h.tail.charAt
    rw [opensLine, Bool.and_eq_true, Bool.and_eq_true, Bool.not_eq_true', Bool.not_eq_true',
      Bool.not_eq_true'] at hopens
    obtain ⟨⟨-, hc⟩, hin⟩ := hopens
    have hne : ∀ d ∈ continuing, c ≠ d := by
      rintro d hd rfl
      rw [List.contains_iff_mem.mpr hd] at hc
      cases hc
    have hcommon :
        ¬c ∈ ['`', ',', '.', ';', '*', '%', '>', '<', '=', '?', '^', '|', '&', '/', ':'] :=
      fun hmem => hne c (List.mem_append_left _ hmem) rfl
    rw [Source.endsBefore, hchar, hnext]
    rw [if_neg hcommon, hin, beq_false_of_ne (hne '\x7b' (by decide)),
      beq_false_of_ne (hne '(' (by decide)), beq_false_of_ne (hne '[' (by decide)),
      beq_false_of_ne (hne '+' (by decide)), beq_false_of_ne (hne '-' (by decide)),
      beq_false_of_ne (hne '!' (by decide))]
    rfl

/-- **A statement may end** where a line ends and the next one does not go on with it, or at the end
of the text. -/
theorem lineEnd (h : s.After i cs) (hend : EndsHere cs) (operator body : Bool) :
    (s.lineEnd operator body i).1 = true := by
  rcases hend with rfl | ⟨gap, rest, rfl, hgap, hopens⟩
  · have hskip := h.skipWhile_none (p := fun c => isPlainSpace c && c != '\n') nofun
    have hsize := h.size
    rw [Source.lineEnd, hskip]
    simp_all
  · have hskip := h.skipWhile_none (p := fun c => isPlainSpace c && c != '\n') (by simp)
    have hlt := h.lt_size
    have hrest : s.After (i + 1 + gap.length) rest := h.tail.skip
    have hplain : ∀ c ∈ rest.head?, isPlainSpace c = false ∧ c ≠ '/' := by
      intro c hc
      obtain ⟨rest, rfl⟩ := List.head?_eq_some_iff.mp hc
      rw [opensLine, Bool.and_eq_true, Bool.and_eq_true, Bool.not_eq_true'] at hopens
      refine ⟨isPlainSpace_eq_false hopens.1.1, ?_⟩
      rintro rfl
      exact absurd hopens.1.2 (by decide)
    have hgap' : gap.all isPlainSpace = true :=
      List.all_eq_true.mpr fun c hc => isPlainSpace_of_isGap (List.all_eq_true.mp hgap c hc)
    have hslash : s.charAt (i + 1 + gap.length) ≠ '/' := by
      rw [hrest.charAt]
      cases rest with
      | nil => decide
      | cons c rest => exact (hplain c rfl).2
    have hpass : s.passGap s.size (i + 1) false = (true, i + 1 + gap.length, false) := by
      obtain ⟨k, hk⟩ : ∃ k, s.size = k + 1 := ⟨s.size - 1, by omega⟩
      rw [hk, passGap, h.tail.skipWhile hgap' fun c hc => (hplain c hc).1]
      simp [hslash]
    rw [Source.lineEnd, hskip, h.charAt]
    simp [Nat.not_le.mpr hlt, hpass, hrest.endsBefore hopens]

end Source.After

end RouteAtlas.Script
