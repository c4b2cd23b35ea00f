import Mathlib.Tactic.SplitIfs
import RouteAtlas.Text.Utf8

/-!
# Encoding and decoding are inverse

- `Utf8.Form`: a character and its bytes, by the four lengths that a form can have;
- `form_encodePoint`, `Form.step_append`, `form_of_step`: **one step** of decoding reads back what
  encoding a character writes, and it reads nothing else;
- `decode_encode`, `encode_of_decode`: the same for **whole texts**, by induction over the
  characters and over the bytes;
- `decode_eq_ok_iff`: the byte sequences that can be decoded are those of texts.
-/

namespace RouteAtlas.Utf8

/-! ## The forms of a character -/

/-- The bytes are the form of a character: a lead byte that announces how many there are, a second
byte that fits it, further continuation bytes, and the number that they make up. -/
inductive Form (c : Char) : List Nat → Prop where
  | one {b : Nat} (hb : announced b = 1) (hc : c.toNat = b) : Form c [b]
  | two {b b₂ : Nat} (hb : announced b = 2) (h₂ : fits b b₂ = true)
      (hc : c.toNat = (b - 0xC0) * 64 + (b₂ - 0x80)) : Form c [b, b₂]
  | three {b b₂ b₃ : Nat} (hb : announced b = 3) (h₂ : fits b b₂ = true)
      (h₃ : isContinuation b₃ = true)
      (hc : c.toNat = (b - 0xE0) * 4096 + (b₂ - 0x80) * 64 + (b₃ - 0x80)) : Form c [b, b₂, b₃]
  | four {b b₂ b₃ b₄ : Nat} (hb : announced b = 4) (h₂ : fits b b₂ = true)
      (h₃ : isContinuation b₃ = true) (h₄ : isContinuation b₄ = true)
      (hc : c.toNat = (b - 0xF0) * 262144 + (b₂ - 0x80) * 4096 + (b₃ - 0x80) * 64 + (b₄ - 0x80)) :
      Form c [b, b₂, b₃, b₄]

theorem announced_eq_one {b : Nat} : announced b = 1 ↔ b < 0x80 := by
  grind [announced]

theorem announced_eq_two {b : Nat} : announced b = 2 ↔ 0xC2 ≤ b ∧ b < 0xE0 := by
  grind [announced]

theorem announced_eq_three {b : Nat} : announced b = 3 ↔ 0xE0 ≤ b ∧ b < 0xF0 := by
  grind [announced]

theorem announced_eq_four {b : Nat} : announced b = 4 ↔ 0xF0 ≤ b ∧ b < 0xF5 := by
  grind [announced]

theorem isContinuation_iff {b : Nat} : isContinuation b = true ↔ 0x80 ≤ b ∧ b < 0xC0 := by
  simp [isContinuation]

theorem fits_iff {b b₂ : Nat} :
    fits b b₂ = true ↔ (0x80 ≤ b₂ ∧ b₂ < 0xC0) ∧ (b = 0xE0 → 0xA0 ≤ b₂) ∧
      (b = 0xED → b₂ < 0xA0) ∧ (b = 0xF0 → 0x90 ≤ b₂) ∧ (b = 0xF4 → b₂ < 0x90) := by
  simp only [fits, isContinuation, Bool.and_eq_true, Bool.not_eq_true', Bool.and_eq_false_iff,
    decide_eq_true_eq, beq_eq_false_iff_ne, decide_eq_false_iff_not]
  omega

/-- A character is no surrogate, and not past the last one. -/
theorem toNat_range (c : Char) :
    c.toNat < 0xD800 ∨ 0xE000 ≤ c.toNat ∧ c.toNat < 0x110000 := by
  have h := c.valid
  simp only [UInt32.isValidChar, Nat.isValidChar] at h
  simp only [Char.toNat]
  omega

/-- A number outside of the surrogates is that of a character. -/
theorem toNat_ofNat {n : Nat} (h : n < 0xD800 ∨ 0xE000 ≤ n ∧ n < 0x110000) :
    (Char.ofNat n).toNat = n := by
  have hvalid : n.isValidChar := by
    simp only [Nat.isValidChar]
    omega
  rw [Char.ofNat, dif_pos hvalid]
  rfl

/-- What is written for a character is its form. -/
theorem form_encodePoint (c : Char) : Form c (encodePoint c.toNat) := by
  have hc := toNat_range c
  unfold encodePoint
  split_ifs with h₁ h₂ h₃
  · exact .one (announced_eq_one.mpr h₁) rfl
  · refine .two (announced_eq_two.mpr ?_) (fits_iff.mpr ?_) ?_ <;> omega
  · refine .three (announced_eq_three.mpr ?_) (fits_iff.mpr ?_) (isContinuation_iff.mpr ?_) ?_ <;>
      omega
  · refine .four (announced_eq_four.mpr ?_) (fits_iff.mpr ?_) (isContinuation_iff.mpr ?_)
      (isContinuation_iff.mpr ?_) ?_ <;> omega

/-- A character has no other form. -/
theorem Form.encodePoint_eq {c : Char} {bytes : List Nat} (h : Form c bytes) :
    encodePoint c.toNat = bytes := by
  cases h with
  | one hb hc =>
    rw [announced_eq_one] at hb
    rw [hc, encodePoint, if_pos hb]
  | two hb h₂ hc =>
    rw [announced_eq_two] at hb
    rw [fits_iff] at h₂
    rw [encodePoint, if_neg (by omega), if_pos (by omega)]
    simp only [List.cons.injEq, and_true]
    omega
  | three hb h₂ h₃ hc =>
    rw [announced_eq_three] at hb
    rw [fits_iff] at h₂
    rw [isContinuation_iff] at h₃
    rw [encodePoint, if_neg (by omega), if_neg (by omega), if_pos (by omega)]
    simp only [List.cons.injEq, and_true]
    omega
  | four hb h₂ h₃ h₄ hc =>
    rw [announced_eq_four] at hb
    rw [fits_iff] at h₂
    rw [isContinuation_iff] at h₃ h₄
    rw [encodePoint, if_neg (by omega), if_neg (by omega), if_neg (by omega)]
    simp only [List.cons.injEq, and_true]
    omega

theorem Form.ne_nil {c : Char} {bytes : List Nat} (h : Form c bytes) : bytes ≠ [] := by
  cases h <;> exact List.cons_ne_nil _ _

/-! ## One step -/

/-- **One step** reads a form back, whatever follows it. -/
theorem Form.step_append {c : Char} {bytes : List Nat} (h : Form c bytes) (r : List Nat) :
    step (bytes ++ r) = .char c bytes.length := by
  cases h with
  | one hb hc =>
    subst hc
    simp [step, hb, Char.ofNat_toNat]
  | two hb h₂ hc => simp [step, hb, h₂, ← hc, Char.ofNat_toNat]
  | three hb h₂ h₃ hc => simp [step, hb, h₂, h₃, ← hc, Char.ofNat_toNat]
  | four hb h₂ h₃ h₄ hc => simp [step, hb, h₂, h₃, h₄, ← hc, Char.ofNat_toNat]

/-- A step that finds a character has read its form. -/
theorem form_of_step {bytes : List Nat} {c : Char} {size : Nat} :
    step bytes = .char c size → ∃ form r, bytes = form ++ r ∧ form.length = size ∧ Form c form := by
  fun_cases step bytes with
  | case2 b r hb =>
    intro h
    obtain ⟨rfl, rfl⟩ := Step.char.inj h
    refine ⟨[b], r, rfl, rfl, .one hb (toNat_ofNat ?_)⟩
    rw [announced_eq_one] at hb
    omega
  | case4 b b₂ r hb h₂ =>
    intro h
    obtain ⟨rfl, rfl⟩ := Step.char.inj h
    refine ⟨[b, b₂], r, rfl, rfl, .two hb h₂ (toNat_ofNat ?_)⟩
    rw [announced_eq_two] at hb
    rw [fits_iff] at h₂
    omega
  | case9 b b₂ hb h₂ b₃ r h₃ =>
    intro h
    obtain ⟨rfl, rfl⟩ := Step.char.inj h
    rw [Bool.not_eq_true, Bool.not_eq_false'] at h₂
    refine ⟨[b, b₂, b₃], r, rfl, rfl, .three hb h₂ h₃ (toNat_ofNat ?_)⟩
    -- the second byte keeps the surrogates out
    rw [announced_eq_three] at hb
    rw [fits_iff] at h₂
    rw [isContinuation_iff] at h₃
    omega
  | case16 b b₂ hb h₂ b₃ h₃ b₄ r h₄ =>
    intro h
    obtain ⟨rfl, rfl⟩ := Step.char.inj h
    rw [Bool.not_eq_true, Bool.not_eq_false'] at h₂ h₃
    refine ⟨[b, b₂, b₃, b₄], r, rfl, rfl, .four hb h₂ h₃ h₄ (toNat_ofNat ?_)⟩
    -- the second byte keeps out what is past the last character
    rw [announced_eq_four] at hb
    rw [fits_iff] at h₂
    rw [isContinuation_iff] at h₃ h₄
    omega
  | case1 | case3 | case5 | case6 | case7 | case8 | case10 | case11 | case12 | case13 | case14
  | case15 | case17 | case18 => exact fun h => nomatch h

/-- Something is found at the front of bytes that are there. -/
theorem step_cons_ne_done (b : Nat) (r : List Nat) : step (b :: r) ≠ .done := by
  generalize hbytes : b :: r = bytes
  fun_cases step bytes
  case case1 => cases hbytes
  all_goals exact fun h => nomatch h

/-! ## Whole texts -/

@[simp] theorem encode_nil : encode [] = [] := rfl

theorem encode_cons (c : Char) (cs : List Char) :
    encode (c :: cs) = encodePoint c.toNat ++ encode cs := rfl

/-- The bytes of a character that was read are passed over. -/
theorem decodeFrom_append : ∀ (skipped : List Nat) (pos : Nat) (r : List Nat),
    decodeFrom pos skipped.length (skipped ++ r) = decodeFrom (pos + skipped.length) 0 r
  | [], _, _ => rfl
  | b :: skipped, pos, r => by
    show decodeFrom (pos + 1) skipped.length (skipped ++ r) = _
    rw [decodeFrom_append skipped (pos + 1) r, List.length_cons]
    congr 1
    omega

/-- **Decoding reads back** what encoding wrote, from any position on. -/
theorem decodeFrom_encode (cs : List Char) : ∀ pos, decodeFrom pos 0 (encode cs) = .ok cs := by
  induction cs with
  | nil => exact fun _ => rfl
  | cons c cs ih =>
    intro pos
    have hstep := (form_encodePoint c).step_append (encode cs)
    obtain ⟨b, form, hform⟩ := List.exists_cons_of_ne_nil (form_encodePoint c).ne_nil
    rw [hform, List.cons_append] at hstep
    rw [encode_cons, hform, List.cons_append, decodeFrom, hstep]
    -- the lead byte is read by the step, the others are passed over
    show (decodeFrom (pos + 1) form.length (form ++ encode cs)).map (c :: ·) = _
    rw [decodeFrom_append, ih]
    rfl

theorem decode_encode (cs : List Char) : decode (encode cs) = .ok cs := decodeFrom_encode cs 0

/-- What was decoded is written as the bytes that were not passed over. -/
theorem encode_of_decodeFrom : ∀ {bytes : List Nat} {pos skip : Nat} {cs : List Char},
    decodeFrom pos skip bytes = .ok cs → encode cs = bytes.drop skip
  | [], _, skip, cs, h => by
    have hcs : cs = [] := by
      cases skip with
      | zero => exact (Except.ok.inj h).symm
      | succ skip => exact (Except.ok.inj h).symm
    rw [hcs, List.drop_nil, encode_nil]
  | _ :: r, pos, skip + 1, cs, h => by
    have h : decodeFrom (pos + 1) skip r = .ok cs := h
    rw [encode_of_decodeFrom h, List.drop_succ_cons]
  | b :: r, pos, 0, cs, h => by
    rw [decodeFrom] at h
    cases hstep : step (b :: r) with
    | done => exact absurd hstep (step_cons_ne_done b r)
    | bad length reason =>
      rw [hstep] at h
      cases h
    | char c size =>
      rw [hstep] at h
      obtain ⟨form, rest, hbytes, rfl, hform⟩ := form_of_step hstep
      cases hrest : decodeFrom (pos + 1) (form.length - 1) r with
      | error e =>
        simp only [hrest] at h
        cases h
      | ok cs' =>
        simp only [hrest] at h
        cases h
        -- the step has read the form, and what is left of the bytes is decoded behind it
        obtain ⟨b', form', rfl⟩ := List.exists_cons_of_ne_nil hform.ne_nil
        obtain ⟨rfl, rfl⟩ := List.cons.inj hbytes
        have ih : encode cs' = (form' ++ rest).drop form'.length := encode_of_decodeFrom hrest
        rw [encode_cons, hform.encodePoint_eq, ih, List.drop_left, List.drop_zero]
        rfl

theorem encode_of_decode {bytes : List Nat} {cs : List Char} (h : decode bytes = .ok cs) :
    encode cs = bytes :=
  encode_of_decodeFrom h

/-- **The byte sequences that can be decoded are those of texts**, each of one text. -/
theorem decode_eq_ok_iff {bytes : List Nat} {cs : List Char} :
    decode bytes = .ok cs ↔ encode cs = bytes := by
  constructor
  · exact encode_of_decode
  · rintro rfl
    exact decode_encode cs

end RouteAtlas.Utf8
