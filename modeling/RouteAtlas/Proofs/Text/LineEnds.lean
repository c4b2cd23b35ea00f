import RouteAtlas.Proofs.Text.Blank
import RouteAtlas.Proofs.Text.Utf8

/-!
# Line ends of texts and of bytes

Line ends are unified in a text that was decoded. The bytes could as well be unified before:

- `Utf8.unifyLineEnds`: bytes in which every line end is a line feed;
- `encode_unifyNewlines`: unifying **commutes with encoding**, since no byte of a longer form looks
  like a carriage return or a line feed (`Form.toNat_of_mem`);
- `decode_unifyLineEnds_iff`: hence it commutes with decoding, and it neither mends nor breaks a
  byte sequence;
- `SomeCrlf`, `allCr`: bytes with other line ends, which unifying takes back
  (`SomeCrlf.unifyLineEnds_eq`, `unifyLineEnds_allCr`);
- `Text.lines_unifyNewlines`: a text whose line ends are unified has the same lines.
-/

namespace RouteAtlas.Utf8

/-- The bytes with every pair of a carriage return (`0x0D`) and a line feed (`0x0A`), and every
other carriage return, replaced by a line feed. -/
def unifyLineEnds : List Nat → List Nat
  | [] => []
  | 0x0D :: 0x0A :: bs => 0x0A :: unifyLineEnds bs
  | b :: bs => (if b = 0x0D then 0x0A else b) :: unifyLineEnds bs

theorem unifyLineEnds_cons {b : Nat} (h : b ≠ 0x0D) (bs : List Nat) :
    unifyLineEnds (b :: bs) = b :: unifyLineEnds bs := by
  rw [unifyLineEnds, if_neg h]
  exact fun _ hb _ => h hb

theorem unifyLineEnds_cr {bs : List Nat} (h : bs.head? ≠ some 0x0A) :
    unifyLineEnds (0x0D :: bs) = 0x0A :: unifyLineEnds bs := by
  rw [unifyLineEnds, if_pos rfl]
  rintro bs' - rfl
  exact h rfl

/-- A carriage return becomes a line feed, whatever follows it. -/
theorem head?_unifyLineEnds_cr (bs : List Nat) :
    (unifyLineEnds (0x0D :: bs)).head? = some 0x0A := by
  by_cases h : bs.head? = some 0x0A
  · obtain ⟨bs', rfl⟩ := List.head?_eq_some_iff.mp h
    rfl
  · rw [unifyLineEnds_cr h]
    rfl

/-- Bytes without a carriage return stay as they are in front of others. -/
theorem unifyLineEnds_append {bs : List Nat} (h : 0x0D ∉ bs) (rest : List Nat) :
    unifyLineEnds (bs ++ rest) = bs ++ unifyLineEnds rest := by
  induction bs with
  | nil => rfl
  | cons b bs ih =>
    rw [List.mem_cons, not_or] at h
    rw [List.cons_append, unifyLineEnds_cons (Ne.symm h.1), ih h.2]
    rfl

theorem unifyLineEnds_of_notMem {bs : List Nat} (h : 0x0D ∉ bs) :
    unifyLineEnds bs = bs := by
  have happend := unifyLineEnds_append h []
  rwa [List.append_nil, unifyLineEnds, List.append_nil] at happend

/-- Bytes other than line feeds were there before. -/
theorem exists_append_of_unifyLineEnds {front rest : List Nat} (hfront : 0x0A ∉ front) :
    ∀ {bs : List Nat}, unifyLineEnds bs = front ++ rest →
      ∃ bs', bs = front ++ bs' ∧ unifyLineEnds bs' = rest := by
  induction front with
  | nil => exact fun h => ⟨_, rfl, h⟩
  | cons b front ih =>
    rw [List.mem_cons, not_or] at hfront
    intro bs h
    cases bs with
    | nil => cases h
    | cons b' bs =>
      by_cases hcr : b' = 0x0D
      · -- a carriage return would have become a line feed
        have hhead := head?_unifyLineEnds_cr bs
        rw [← hcr, h, List.cons_append, List.head?_cons, Option.some.injEq] at hhead
        exact absurd hhead.symm hfront.1
      · rw [unifyLineEnds_cons hcr, List.cons_append, List.cons.injEq] at h
        obtain ⟨rfl, h⟩ := h
        obtain ⟨bs', rfl, hrest⟩ := ih hfront.2 h
        exact ⟨bs', rfl, hrest⟩

/-! ## Characters that look like line ends -/

/-- A byte below `0x80` in the form of a character is the character itself. -/
theorem Form.toNat_of_mem {c : Char} {bytes : List Nat} (h : Form c bytes) {b : Nat}
    (hmem : b ∈ bytes) (hb : b < 0x80) : c.toNat = b := by
  cases h with
  | one _ hc =>
    rw [List.mem_singleton.mp hmem]
    exact hc
  | two hlead h₂ _ =>
    rw [announced_eq_two] at hlead
    rw [fits_iff] at h₂
    simp only [List.mem_cons, List.not_mem_nil, or_false] at hmem
    omega
  | three hlead h₂ h₃ _ =>
    rw [announced_eq_three] at hlead
    rw [fits_iff] at h₂
    rw [isContinuation_iff] at h₃
    simp only [List.mem_cons, List.not_mem_nil, or_false] at hmem
    omega
  | four hlead h₂ h₃ h₄ _ =>
    rw [announced_eq_four] at hlead
    rw [fits_iff] at h₂
    rw [isContinuation_iff] at h₃ h₄
    simp only [List.mem_cons, List.not_mem_nil, or_false] at hmem
    omega

/-- A byte below `0x80` in what is written for a character is the character itself. -/
theorem eq_of_mem_encodePoint {c d : Char} (hd : d.toNat < 0x80)
    (h : d.toNat ∈ encodePoint c.toNat) : c = d := by
  have hc := (form_encodePoint c).toNat_of_mem h hd
  rw [← Char.ofNat_toNat c, hc, Char.ofNat_toNat]

theorem carriageReturn_notMem_encodePoint {c : Char} (h : c ≠ '\r') :
    0x0D ∉ encodePoint c.toNat :=
  fun hmem => h (eq_of_mem_encodePoint (by decide) hmem)

theorem lineFeed_notMem_encodePoint {c : Char} (h : c ≠ '\n') :
    0x0A ∉ encodePoint c.toNat :=
  fun hmem => h (eq_of_mem_encodePoint (by decide) hmem)

/-- What is written for a text starts with a line feed only if the text does. -/
theorem head?_encode_ne {cs : List Char} (h : ∀ cs', cs ≠ '\n' :: cs') :
    (encode cs).head? ≠ some 0x0A := by
  cases cs with
  | nil => exact nofun
  | cons c cs =>
    intro hhead
    have hc : c ≠ '\n' := fun hc => h cs (by rw [hc])
    obtain ⟨b, form, hform⟩ := List.exists_cons_of_ne_nil (form_encodePoint c).ne_nil
    rw [encode_cons, hform, List.cons_append, List.head?_cons, Option.some.injEq] at hhead
    exact lineFeed_notMem_encodePoint hc (hform ▸ hhead ▸ List.mem_cons_self)

/-! ## Unifying before and after decoding -/

/-- **Unifying commutes with encoding.** -/
theorem encode_unifyNewlines (cs : List Char) :
    encode (Text.unifyNewlines cs) = unifyLineEnds (encode cs) := by
  fun_induction Text.unifyNewlines cs with
  | case1 => rfl
  | case2 cs ih => exact congrArg (0x0A :: ·) ih
  | case3 c cs hpair ih =>
    by_cases hc : c = '\r'
    · subst hc
      have hhead : (encode cs).head? ≠ some 0x0A :=
        head?_encode_ne fun cs' hcs => hpair cs' rfl hcs
      exact (congrArg (0x0A :: ·) ih).trans (unifyLineEnds_cr hhead).symm
    · rw [if_neg hc, encode_cons, encode_cons, ih,
        unifyLineEnds_append (carriageReturn_notMem_encodePoint hc)]

/-- Bytes that are those of a text once their line ends are unified were so before. -/
theorem exists_encode_of_unifyLineEnds {bs : List Nat} {cs : List Char}
    (h : unifyLineEnds bs = encode cs) : ∃ cs', bs = encode cs' := by
  induction cs generalizing bs with
  | nil =>
    cases bs with
    | nil => exact ⟨[], rfl⟩
    | cons b bs =>
      by_cases hb : b = 0x0D
      · have hhead := head?_unifyLineEnds_cr bs
        rw [← hb, h] at hhead
        cases hhead
      · rw [unifyLineEnds_cons hb] at h
        cases h
  | cons c cs ih =>
    by_cases hc : c = '\n'
    · subst hc
      -- the line feed was there, or it stands for one of the two other line ends
      have h : unifyLineEnds bs = 0x0A :: encode cs := h
      cases bs with
      | nil => cases h
      | cons b bs =>
        by_cases hb : b = 0x0D
        · subst hb
          by_cases hhead : bs.head? = some 0x0A
          · obtain ⟨bs', rfl⟩ := List.head?_eq_some_iff.mp hhead
            obtain ⟨cs', rfl⟩ := ih (List.cons.inj h).2
            exact ⟨'\r' :: '\n' :: cs', rfl⟩
          · rw [unifyLineEnds_cr hhead] at h
            obtain ⟨cs', rfl⟩ := ih (List.cons.inj h).2
            exact ⟨'\r' :: cs', rfl⟩
        · rw [unifyLineEnds_cons hb, List.cons.injEq] at h
          obtain ⟨rfl, hrest⟩ := h
          obtain ⟨cs', rfl⟩ := ih hrest
          exact ⟨'\n' :: cs', rfl⟩
    · obtain ⟨bs', rfl, hrest⟩ := exists_append_of_unifyLineEnds (lineFeed_notMem_encodePoint hc) h
      obtain ⟨cs', rfl⟩ := ih hrest
      exact ⟨c :: cs', rfl⟩

/-- **Unifying commutes with decoding**: bytes can be decoded with their line ends unified exactly
when they can be decoded as they are, and then the text is the same with its line ends unified. -/
theorem decode_unifyLineEnds_iff {bs : List Nat} {cs : List Char} :
    decode (unifyLineEnds bs) = .ok cs ↔ ∃ cs', decode bs = .ok cs' ∧ Text.unifyNewlines cs' = cs := by
  constructor
  · intro h
    obtain ⟨cs', rfl⟩ := exists_encode_of_unifyLineEnds (encode_of_decode h).symm
    rw [← encode_unifyNewlines, decode_encode] at h
    exact ⟨cs', decode_encode cs', Except.ok.inj h⟩
  · rintro ⟨cs', h, rfl⟩
    rw [← encode_of_decode h, ← encode_unifyNewlines, decode_encode]

/-! ## Other line ends -/

/-- Some line feeds, any of them, become pairs of a carriage return and a line feed. -/
inductive SomeCrlf : List Nat → List Nat → Prop where
  | nil : SomeCrlf [] []
  | keep (b : Nat) {bs bs' : List Nat} (h : SomeCrlf bs bs') : SomeCrlf (b :: bs) (b :: bs')
  | pair {bs bs' : List Nat} (h : SomeCrlf bs bs') : SomeCrlf (0x0A :: bs) (0x0D :: 0x0A :: bs')

/-- All line feeds become carriage returns. -/
def allCr (bs : List Nat) : List Nat := bs.map fun b => if b = 0x0A then 0x0D else b

/-- Unifying takes the pairs back. -/
theorem SomeCrlf.unifyLineEnds_eq {bs bs' : List Nat} (h : SomeCrlf bs bs') (hcr : 0x0D ∉ bs) :
    unifyLineEnds bs' = bs := by
  induction h with
  | nil => rfl
  | keep b _ ih =>
    rw [List.mem_cons, not_or] at hcr
    rw [unifyLineEnds_cons (Ne.symm hcr.1), ih hcr.2]
  | pair _ ih =>
    rw [List.mem_cons, not_or] at hcr
    rw [unifyLineEnds, ih hcr.2]

/-- Unifying takes the carriage returns back. -/
theorem unifyLineEnds_allCr {bs : List Nat} (hcr : 0x0D ∉ bs) : unifyLineEnds (allCr bs) = bs := by
  induction bs with
  | nil => rfl
  | cons b bs ih =>
    rw [List.mem_cons, not_or] at hcr
    by_cases hb : b = 0x0A
    · -- no line feed is left that could make a pair with this carriage return
      have hhead : (allCr bs).head? ≠ some 0x0A := by
        cases bs with
        | nil => exact nofun
        | cons b' bs =>
          rw [allCr, List.map_cons, List.head?_cons, ne_eq, Option.some.injEq]
          split <;> omega
      rw [hb, allCr, List.map_cons, if_pos rfl]
      exact (unifyLineEnds_cr hhead).trans (congrArg _ (ih hcr.2))
    · rw [allCr, List.map_cons, if_neg hb, unifyLineEnds_cons (Ne.symm hcr.1)]
      exact congrArg _ (ih hcr.2)

end RouteAtlas.Utf8

namespace RouteAtlas.Text

/-- With one kind of line end the lines of a text are the same. -/
theorem lines_unifyNewlines (cs : List Char) :
    lines (ofChars (unifyNewlines cs)) = lines (ofChars cs) := by
  fun_induction unifyNewlines cs with
  | case1 => rfl
  | case2 cs ih =>
    show lines (.ofChar '\n' :: ofChars (unifyNewlines cs)) =
      lines (.ofChar '\r' :: .ofChar '\n' :: ofChars cs)
    rw [lines_cons, lines_cons, lines_cons, ih]
    rfl
  | case3 c cs hpair ih =>
    show lines (.ofChar (if c = '\r' then '\n' else c) :: ofChars (unifyNewlines cs)) =
      lines (.ofChar c :: ofChars cs)
    rw [lines_cons, lines_cons, ih]
    by_cases hc : c = '\r'
    · -- a carriage return that stands alone
      have halone : (ofChars cs).head?.any (·.is '\n') = false := by
        cases cs with
        | nil => rfl
        | cons d cs =>
          rw [← Bool.not_eq_true]
          exact fun hfeed => hpair cs hc (congrArg (· :: cs) (CodePoint.ofChar_is.mp hfeed))
      rw [hc, halone]
      rfl
    · have hreturn : (CodePoint.ofChar c).is '\r' = false := by
        rw [← Bool.not_eq_true, CodePoint.ofChar_is]
        exact hc
      rw [if_neg hc, hreturn, Bool.false_and, Bool.false_and]

end RouteAtlas.Text
