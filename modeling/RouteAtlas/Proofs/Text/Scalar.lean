import Mathlib.Tactic.ByContra
import Mathlib.Tactic.SplitIfs
import RouteAtlas.Text.Quoted
import RouteAtlas.Text.Utf8

/-!
# Texts without surrogates

- `Text.Scalar`: every code point is a Unicode scalar value; these are exactly the texts that can be
  printed (`unencodable?_eq_none`);
- the pieces that messages are put together from are such texts, whatever they speak of: numbers,
  quoted texts (`scalar_quoted`), the wording of encoding and decoding failures.
-/

namespace RouteAtlas

/-- A code point that is the given character. -/
theorem CodePoint.eq_ofChar {p : CodePoint} {c : Char} (h : p.is c = true) : p = ofChar c := by
  obtain ⟨n, hn⟩ := p
  obtain rfl : n = c.toNat := beq_iff_eq.mp h
  rfl

/-- A character is no surrogate. -/
theorem CodePoint.isSurrogate_ofChar (c : Char) : (ofChar c).isSurrogate = false := by
  have h := c.valid
  simp only [UInt32.isValidChar, Nat.isValidChar] at h
  rw [Bool.eq_false_iff]
  intro hs
  rw [isSurrogate, Bool.and_eq_true, decide_eq_true_eq, decide_eq_true_eq, val_ofChar,
    Char.toNat] at hs
  omega

/-- A surrogate is shown by its number. -/
theorem CodePoint.isPrintable_of_isSurrogate {p : CodePoint} (h : p.isSurrogate = true) :
    p.isPrintable = false := by
  simp only [isSurrogate, Bool.and_eq_true, decide_eq_true_eq] at h
  -- the surrogates lie inside one of the ranges
  rw [isPrintable, if_neg (by omega), Bool.not_eq_false', List.any_eq_true]
  refine ⟨(0xD7FC, 0xF8FF), by decide, ?_⟩
  simp only [Bool.and_eq_true, decide_eq_true_eq]
  omega

namespace Text

/-- No surrogate stands in the text. -/
def Scalar (t : Text) : Prop := ∀ p ∈ t, p.isSurrogate = false

/-- Searching for what cannot be written ends without a find exactly when nothing is refused. -/
theorem unencodableFrom_eq_none {refuse : CodePoint → Bool} :
    ∀ {pos : Nat} {t : Text},
      unencodableFrom refuse pos t = none ↔ ∀ p ∈ t, refuse p = false
  | _, [] => by simp [unencodableFrom]
  | pos, p :: t => by
    rw [unencodableFrom]
    cases h : refuse p with
    | true => simp [h]
    | false => simp [h, @unencodableFrom_eq_none refuse (pos + 1) t]

/-- The texts without surrogates are those that can be printed. -/
theorem unencodable?_eq_none {t : Text} : t.unencodable? = none ↔ t.Scalar :=
  unencodableFrom_eq_none

/-! ## Putting texts together -/

@[simp] theorem scalar_nil : Scalar [] := fun _ h => nomatch h

@[simp] theorem scalar_cons {p : CodePoint} {t : Text} :
    Scalar (p :: t) ↔ p.isSurrogate = false ∧ t.Scalar := List.forall_mem_cons

@[simp] theorem scalar_append {s t : Text} : Scalar (s ++ t) ↔ s.Scalar ∧ t.Scalar :=
  List.forall_mem_append

@[simp] theorem scalar_ofChars (cs : List Char) : (ofChars cs).Scalar := by
  intro p hp
  obtain ⟨c, -, rfl⟩ := List.mem_map.mp hp
  exact CodePoint.isSurrogate_ofChar c

@[simp] theorem scalar_ofString (s : String) : (ofString s).Scalar := scalar_ofChars s.toList

@[simp] theorem scalar_ofNat (n : Nat) : (ofNat n).Scalar := scalar_ofString _

@[simp] theorem scalar_ofInt (i : Int) : (ofInt i).Scalar := scalar_ofString _

@[simp] theorem scalar_hex (width n : Nat) : (hex width n).Scalar := scalar_ofChars _

theorem scalar_flatMap {α : Type} {f : α → Text} {xs : List α} :
    Scalar (xs.flatMap f) ↔ ∀ x ∈ xs, (f x).Scalar := by
  constructor
  · intro h x hx p hp
    exact h p (List.mem_flatMap.mpr ⟨x, hx, hp⟩)
  · intro h p hp
    obtain ⟨x, hx, hp⟩ := List.mem_flatMap.mp hp
    exact h x hx p hp

/-- Joining texts brings in nothing but the separator. -/
theorem scalar_join {sep : Text} (hsep : sep.Scalar) :
    ∀ {ts : List Text}, (∀ t ∈ ts, t.Scalar) → (join sep ts).Scalar
  | [], _ => scalar_nil
  | [t], h => h t (List.mem_singleton.mpr rfl)
  | t :: u :: ts, h => by
    rw [join, scalar_append, scalar_append]
    · refine ⟨⟨h t List.mem_cons_self, hsep⟩, ?_⟩
      exact scalar_join hsep fun v hv => h v (List.mem_cons_of_mem t hv)
    · exact List.cons_ne_nil u ts

/-- Between quotes no code point stays a surrogate. -/
theorem scalar_quotedPoint (quote : Char) (p : CodePoint) : (quotedPoint quote p).Scalar := by
  have hslash : (CodePoint.ofChar '\\').isSurrogate = false := CodePoint.isSurrogate_ofChar _
  have his : ∀ c : Char, p.is c = true → p.isSurrogate = false := by
    intro c hc
    have hval : p.val = (CodePoint.ofChar c).val := beq_iff_eq.mp hc
    rw [CodePoint.isSurrogate, hval]
    exact CodePoint.isSurrogate_ofChar c
  unfold quotedPoint
  split
  next h =>
    rcases Bool.or_eq_true_iff.mp h with h | h
    · simp [hslash, his _ h]
    · simp [hslash, his _ h]
  next =>
    split_ifs with hn hr ht hp
    · exact scalar_ofString _
    · exact scalar_ofString _
    · exact scalar_ofString _
    · have hp : p.isSurrogate = false := by
        by_contra hs
        rw [CodePoint.isPrintable_of_isSurrogate (by simpa using hs)] at hp
        cases hp
      simp [hp]
    · simp
    · simp
    · simp

/-- A quoted text holds no surrogate, whatever is quoted. -/
@[simp] theorem scalar_quoted (t : Text) : t.quoted.Scalar := by
  have hquote : (CodePoint.ofChar t.quoteFor).isSurrogate = false := CodePoint.isSurrogate_ofChar _
  simp [quoted, hquote, scalar_flatMap, scalar_quotedPoint]

end Text

/-! ## The wording of encoding failures -/

@[simp] theorem Unencodable.scalar_message (u : Unencodable) : u.message.Scalar := by
  rw [message]
  split_ifs <;> simp

@[simp] theorem Utf8.Fault.scalar_message (f : Utf8.Fault) : f.message.Scalar := by
  rw [message]
  split_ifs <;> simp

end RouteAtlas
