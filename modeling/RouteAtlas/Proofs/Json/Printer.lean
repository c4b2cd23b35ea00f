import RouteAtlas.Json.Printer
import RouteAtlas.Proofs.Text.Scalar

/-!
# What a printed value consists of

- `Json.Plain`: values without numbers, of bounded depth, with distinct names in every object;
- `Json.Escaped`: the ways in which a code point is printed;
- `quote_scalar`: a quoted text holds a surrogate exactly when the text does;
- `Encodable`: no text in a value holds a surrogate, and `Plain.scalar_print`: then its print holds
  none, by induction over the value;
- `Plain.noControl_print`, `Plain.lineFeed_notMem_print`: **one line**: no control character is
  printed, so no line feed either.
-/

namespace RouteAtlas

namespace Json

/-- A value that holds no number, whose objects have distinct names, and in which at most `depth`
arrays and objects lie inside each other. -/
inductive Plain : (depth : Nat) → Json → Prop where
  | null {d : Nat} : Plain d .null
  | bool {d : Nat} (b : Bool) : Plain d (.bool b)
  | string {d : Nat} (t : Text) : Plain d (.string t)
  | array {d : Nat} {vs : List Json} (items : ∀ v ∈ vs, Plain d v) : Plain (d + 1) (.array vs)
  | object {d : Nat} {ms : List (Text × Json)} (distinct : (ms.map Prod.fst).Nodup)
    (values : ∀ m ∈ ms, Plain d m.2) : Plain (d + 1) (.object ms)

/-! ## How a code point is printed -/

/-- The characters that have a letter of their own behind a backslash. -/
def letters : List (Char × Char) :=
  [('\x22', '\x22'), ('\\', '\\'), ('\n', 'n'), ('\r', 'r'), ('\t', 't'), ('\x08', 'b'),
    ('\x0c', 'f')]

/-- The ways in which a code point is printed: by a letter, by its number, or as it is. -/
inductive Escaped (p : CodePoint) : Text → Prop where
  | letter (c l : Char) (hl : (c, l) ∈ letters) (hp : p = .ofChar c) :
    Escaped p [.ofChar '\\', .ofChar l]
  | number (hp : p.val < 0x20) : Escaped p (Text.ofString "\\u" ++ Text.hex 4 p.val)
  | itself (hp : 0x20 ≤ p.val) (hquote : p.is '\x22' = false) (hslash : p.is '\\' = false) :
    Escaped p [p]

theorem escaped_escapePoint (p : CodePoint) : Escaped p (escapePoint p) := by
  unfold escapePoint
  split_ifs with h₁ h₂ h₃ h₄ h₅ h₆ h₇ h₈
  · exact .letter '\x22' '\x22' (by decide) (CodePoint.eq_ofChar h₁)
  · exact .letter '\\' '\\' (by decide) (CodePoint.eq_ofChar h₂)
  · exact .letter '\n' 'n' (by decide) (CodePoint.eq_ofChar h₃)
  · exact .letter '\r' 'r' (by decide) (CodePoint.eq_ofChar h₄)
  · exact .letter '\t' 't' (by decide) (CodePoint.eq_ofChar h₅)
  · exact .letter '\x08' 'b' (by decide) (CodePoint.eq_ofChar h₆)
  · exact .letter '\x0c' 'f' (by decide) (CodePoint.eq_ofChar h₇)
  · exact .number h₈
  · exact .itself (Nat.le_of_not_lt h₈) (Bool.eq_false_iff.mpr h₁) (Bool.eq_false_iff.mpr h₂)

/-! ## Surrogates -/

/-- Only itself can be printed for a surrogate. -/
theorem Escaped.scalar_iff {p : CodePoint} {t : Text} (h : Escaped p t) :
    t.Scalar ↔ p.isSurrogate = false := by
  cases h with
  | letter c l hl hp =>
    have hc : p.isSurrogate = false := hp ▸ CodePoint.isSurrogate_ofChar c
    exact iff_of_true (Text.scalar_ofChars ['\\', l]) hc
  | number hp =>
    have hc : p.isSurrogate = false := by
      rw [CodePoint.isSurrogate, Bool.and_eq_false_iff]
      left
      rw [decide_eq_false_iff_not]
      omega
    exact iff_of_true (Text.scalar_append.mpr ⟨Text.scalar_ofString _, Text.scalar_hex _ _⟩) hc
  | itself => simp

/-- A quoted text can be printed exactly when the text can. -/
@[simp] theorem quote_scalar (t : Text) : (quote t).Scalar ↔ t.Scalar := by
  have hquote : (CodePoint.ofChar '\x22').isSurrogate = false := CodePoint.isSurrogate_ofChar _
  have hinside : Text.Scalar (t.flatMap escapePoint) ↔ t.Scalar := by
    rw [Text.scalar_flatMap]
    exact forall₂_congr fun p _ => (escaped_escapePoint p).scalar_iff
  simp [quote, hquote, hinside]

/-- No text in the value holds a surrogate: no string in it, and no name of an object. -/
inductive Encodable : Json → Prop where
  | null : Encodable .null
  | bool (b : Bool) : Encodable (.bool b)
  | int (i : Int) : Encodable (.int i)
  | float (x : Binary64) : Encodable (.float x)
  | string {t : Text} (text : t.Scalar) : Encodable (.string t)
  | array {vs : List Json} (items : ∀ v ∈ vs, Encodable v) : Encodable (.array vs)
  | object {ms : List (Text × Json)} (names : ∀ m ∈ ms, m.1.Scalar)
    (values : ∀ m ∈ ms, Encodable m.2) : Encodable (.object ms)

theorem scalar_printValues {vs : List Json} (h : ∀ v ∈ vs, v.print.Scalar) :
    (printValues vs).Scalar := by
  induction vs with
  | nil => exact Text.scalar_nil
  | cons v vs ih =>
    obtain ⟨hv, hvs⟩ := List.forall_mem_cons.mp h
    cases vs with
    | nil => exact hv
    | cons w vs =>
      rw [printValues, Text.scalar_append, Text.scalar_append]
      exact ⟨⟨hv, Text.scalar_ofString _⟩, ih hvs⟩

theorem scalar_printMembers {ms : List (Text × Json)}
    (h : ∀ m ∈ ms, m.1.Scalar ∧ m.2.print.Scalar) : (printMembers ms).Scalar := by
  induction ms with
  | nil => exact Text.scalar_nil
  | cons m ms ih =>
    obtain ⟨⟨hname, hvalue⟩, hms⟩ := List.forall_mem_cons.mp h
    have hfirst : (quote m.1 ++ Text.ofString ":" ++ m.2.print).Scalar := by
      rw [Text.scalar_append, Text.scalar_append, quote_scalar]
      exact ⟨⟨hname, Text.scalar_ofString _⟩, hvalue⟩
    cases ms with
    | nil => exact hfirst
    | cons n ms =>
      rw [printMembers, Text.scalar_append, Text.scalar_append]
      exact ⟨⟨hfirst, Text.scalar_ofString _⟩, ih hms⟩

/-- A value without numbers and without surrogates is printed without surrogates. -/
theorem Plain.scalar_print {d : Nat} {j : Json} (h : Plain d j) (hj : Encodable j) :
    j.print.Scalar := by
  induction h with
  | null => exact Text.scalar_ofString _
  | bool b => exact Text.scalar_ofString _
  | string t =>
    cases hj with
    | string ht => exact (quote_scalar t).mpr ht
  | array _ ih =>
    cases hj with
    | array hitems =>
      have hinside := scalar_printValues fun v hv => ih v hv (hitems v hv)
      rw [print, Text.scalar_append, Text.scalar_append]
      exact ⟨⟨Text.scalar_ofString _, hinside⟩, Text.scalar_ofString _⟩
  | object _ _ ih =>
    cases hj with
    | object hnames hvalues =>
      have hinside := scalar_printMembers fun m hm => ⟨hnames m hm, ih m hm (hvalues m hm)⟩
      rw [print, Text.scalar_append, Text.scalar_append]
      exact ⟨⟨Text.scalar_ofString _, hinside⟩, Text.scalar_ofString _⟩

/-! ## Control characters -/

/-- Every code point of the text comes after the control characters. -/
def NoControl (t : Text) : Prop := ∀ p ∈ t, 0x20 ≤ p.val

instance (t : Text) : Decidable (NoControl t) := inferInstanceAs (Decidable (∀ p ∈ t, 0x20 ≤ p.val))

theorem noControl_append {s t : Text} (hs : NoControl s) (ht : NoControl t) : NoControl (s ++ t) :=
  List.forall_mem_append.mpr ⟨hs, ht⟩

theorem noControl_hex : ∀ n < 0x20, NoControl (Text.hex 4 n) := by
  decide +kernel

/-- Control characters are escaped. -/
theorem Escaped.noControl {p : CodePoint} {t : Text} (h : Escaped p t) : NoControl t := by
  cases h with
  | letter c l hl _ =>
    have hletter : ∀ cl ∈ letters, NoControl [.ofChar '\\', .ofChar cl.2] := by decide
    exact hletter (c, l) hl
  | number hp => exact noControl_append (by decide) (noControl_hex _ hp)
  | itself hp _ _ =>
    intro q hq
    rw [List.mem_singleton.mp hq]
    exact hp

theorem noControl_quote (t : Text) : NoControl (quote t) := by
  have hinside : NoControl (t.flatMap escapePoint) := by
    intro p hp
    obtain ⟨q, -, hp⟩ := List.mem_flatMap.mp hp
    exact (escaped_escapePoint q).noControl p hp
  exact noControl_append (s := [CodePoint.ofChar '\x22']) (by decide)
    (noControl_append hinside (by decide))

theorem noControl_printValues {vs : List Json} (h : ∀ v ∈ vs, NoControl v.print) :
    NoControl (printValues vs) := by
  induction vs with
  | nil => exact fun _ hp => nomatch hp
  | cons v vs ih =>
    obtain ⟨hv, hvs⟩ := List.forall_mem_cons.mp h
    cases vs with
    | nil => exact hv
    | cons w vs => exact noControl_append (noControl_append hv (by decide)) (ih hvs)

theorem noControl_printMembers {ms : List (Text × Json)} (h : ∀ m ∈ ms, NoControl m.2.print) :
    NoControl (printMembers ms) := by
  induction ms with
  | nil => exact fun _ hp => nomatch hp
  | cons m ms ih =>
    obtain ⟨hm, hms⟩ := List.forall_mem_cons.mp h
    have hfirst : NoControl (quote m.1 ++ Text.ofString ":" ++ m.2.print) :=
      noControl_append (noControl_append (noControl_quote m.1) (by decide)) hm
    cases ms with
    | nil => exact hfirst
    | cons n ms => exact noControl_append (noControl_append hfirst (by decide)) (ih hms)

/-- No control character is printed. -/
theorem Plain.noControl_print {d : Nat} {j : Json} (h : Plain d j) : NoControl j.print := by
  induction h with
  | null => decide
  | bool b => cases b <;> decide
  | string t => exact noControl_quote t
  | array _ ih =>
    exact noControl_append (noControl_append (by decide) (noControl_printValues ih)) (by decide)
  | object _ _ ih =>
    exact noControl_append (noControl_append (by decide) (noControl_printMembers ih)) (by decide)

/-- No line feed is printed. -/
theorem Plain.lineFeed_notMem_print {d : Nat} {j : Json} (h : Plain d j) :
    CodePoint.ofChar '\n' ∉ j.print := by
  intro hfeed
  have hcontrol : 0x20 ≤ (CodePoint.ofChar '\n').val := h.noControl_print _ hfeed
  exact absurd hcontrol (by decide)

end Json

end RouteAtlas
