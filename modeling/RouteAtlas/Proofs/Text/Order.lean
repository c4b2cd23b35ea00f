import Mathlib.Data.List.Lex
import RouteAtlas.Text.CodePoint

/-!
# Sorting by text

- `Text.le_iff`: the order of texts is the lexicographic order of their code points as numbers;
- `withKey_mergeSort`: sorting by a text is **stable**: what has one text keeps its order;
- `eq_of_sorted_of_withKey_eq`: a sorted list is determined by the order within every text.
-/

namespace RouteAtlas

namespace CodePoint

/-- A code point is determined by its number. -/
theorem val_injective {p q : CodePoint} (h : p.val = q.val) : p = q := by
  cases p
  cases q
  cases h
  rfl

end CodePoint

namespace Text

/-- The code points of a text as numbers. -/
def vals (t : Text) : List Nat := t.map CodePoint.val

/-- A text is determined by its numbers. -/
theorem vals_injective {s t : Text} (h : s.vals = t.vals) : s = t :=
  List.map_inj_right (fun _ _ => CodePoint.val_injective) |>.mp h

/-- Texts are ordered as the lists of their code points. -/
theorem le_iff : ∀ s t : Text, s.le t = true ↔ s.vals ≤ t.vals
  | [], t => by
    have hle : ([] : List Nat) ≤ t.vals := not_lt.mp (List.not_lt_nil _)
    exact iff_of_true rfl hle
  | a :: s, [] => by
    have hlt : ([] : List Nat) < vals (a :: s) := List.nil_lt_cons _ _
    exact iff_of_false Bool.false_ne_true (not_le.mpr hlt)
  | a :: s, b :: t => by
    have ih : le s t = true ↔ ¬vals t < vals s := (le_iff s t).trans not_lt.symm
    have hlt : vals (b :: t) < vals (a :: s) ↔
        b.val < a.val ∨ b.val = a.val ∧ vals t < vals s := List.cons_lt_cons_iff
    have hle : le (a :: s) (b :: t) = true ↔
        a.val < b.val ∨ a.val = b.val ∧ le s t = true := by
      simp only [le, Bool.or_eq_true, Bool.and_eq_true, decide_eq_true_eq, beq_iff_eq]
    rw [← not_lt, hlt, hle, ih]
    by_cases hts : vals t < vals s
    · simp only [hts, not_true_eq_false, and_false, and_true, or_false]
      omega
    · simp only [hts, not_false_eq_true, and_false, and_true, or_false]
      omega

theorem le_trans {s t u : Text} (h : s.le t) (h' : t.le u) : s.le u := by
  rw [le_iff] at *
  exact h.trans h'

theorem le_total (s t : Text) : (s.le t || t.le s) = true := by
  rw [Bool.or_eq_true, le_iff, le_iff]
  exact LinearOrder.le_total _ _

theorem le_antisymm {s t : Text} (h : s.le t) (h' : t.le s) : s = t := by
  rw [le_iff] at h h'
  exact vals_injective (h.antisymm h')

theorem le_refl (t : Text) : t.le t = true := by
  have h := le_total t t
  rwa [Bool.or_self] at h

end Text

/-! ## Lists sorted by a text -/

section Sorted

variable {α : Type} (key : α → Text)

/-- The elements of a list with the given text, in their order. -/
def withKey (t : Text) (l : List α) : List α := l.filter fun a => key a = t

@[simp] theorem withKey_nil (t : Text) : withKey key t [] = [] := rfl

theorem withKey_cons (t : Text) (a : α) (l : List α) :
    withKey key t (a :: l) = if key a = t then a :: withKey key t l else withKey key t l := by
  simp [withKey, List.filter_cons]

theorem mem_withKey {t : Text} {a : α} {l : List α} : a ∈ withKey key t l ↔ a ∈ l ∧ key a = t := by
  simp [withKey]

/-- The order by text. -/
def keyLe (a b : α) : Bool := (key a).le (key b)

theorem keyLe_trans (a b c : α) (h : keyLe key a b) (h' : keyLe key b c) : keyLe key a c :=
  Text.le_trans h h'

theorem keyLe_total (a b : α) : (keyLe key a b || keyLe key b a) = true :=
  Text.le_total (key a) (key b)

/-- No text comes before that of an earlier element. -/
def SortedBy (l : List α) : Prop := l.Pairwise fun a b => keyLe key a b = true

theorem sortedBy_mergeSort (l : List α) : SortedBy key (l.mergeSort (keyLe key)) :=
  List.pairwise_mergeSort (keyLe_trans key) (keyLe_total key) l

/-- **Stability**: the elements of one text keep their order when a list is sorted. -/
theorem withKey_mergeSort (t : Text) (l : List α) :
    withKey key t (l.mergeSort (keyLe key)) = withKey key t l := by
  have hsorted : SortedBy key (withKey key t l) := by
    refine List.pairwise_iff_forall_sublist.mpr fun {a b} hab => ?_
    have ha : key a = t := ((mem_withKey key).mp (hab.subset (by simp))).2
    have hb : key b = t := ((mem_withKey key).mp (hab.subset (by simp))).2
    rw [keyLe, ha, hb]
    exact Text.le_refl t
  have hsub : (withKey key t l).Sublist (l.mergeSort (keyLe key)) :=
    List.sublist_mergeSort (keyLe_trans key) (keyLe_total key) hsorted List.filter_sublist
  -- what is kept of the sorted list holds the sublist, and is no longer than it
  have hkept : (withKey key t (withKey key t l)).Sublist (withKey key t (l.mergeSort (keyLe key))) :=
    hsub.filter _
  have hlen : (withKey key t (l.mergeSort (keyLe key))).length = (withKey key t l).length :=
    ((List.mergeSort_perm l (keyLe key)).filter _).length_eq
  have hidem : withKey key t (withKey key t l) = withKey key t l := by
    simp [withKey]
  rw [hidem] at hkept
  exact (hkept.eq_of_length hlen.symm).symm

/-- **A sorted list is determined by its order within every text.** -/
theorem eq_of_sorted_of_withKey_eq :
    ∀ {l m : List α}, SortedBy key l → SortedBy key m →
      (∀ t, withKey key t l = withKey key t m) → l = m
  | [], [], _, _, _ => rfl
  | [], b :: m, _, _, h => by
    have hb := h (key b)
    simp [withKey_cons] at hb
  | a :: l, [], _, _, h => by
    have ha := h (key a)
    simp [withKey_cons] at ha
  | a :: l, b :: m, hl, hm, h => by
    obtain ⟨hal, hl'⟩ := List.pairwise_cons.mp hl
    obtain ⟨hbm, hm'⟩ := List.pairwise_cons.mp hm
    -- each head occurs in the other list, so neither text comes before the other
    have hmem : ∀ x, x ∈ a :: l ↔ x ∈ b :: m := fun x => by
      have hx := congrArg (x ∈ ·) (h (key x))
      simpa [mem_withKey] using hx
    have hab : (key a).le (key b) = true := by
      rcases List.mem_cons.mp ((hmem b).mpr List.mem_cons_self) with rfl | hb
      · exact Text.le_refl _
      · exact hal b hb
    have hba : (key b).le (key a) = true := by
      rcases List.mem_cons.mp ((hmem a).mp List.mem_cons_self) with rfl | ha
      · exact Text.le_refl _
      · exact hbm a ha
    have hkey : key a = key b := Text.le_antisymm hab hba
    have hhead : a = b := by
      have hk := h (key a)
      rw [withKey_cons, withKey_cons, if_pos rfl, if_pos hkey.symm] at hk
      exact (List.cons.inj hk).1
    subst hhead
    have htail : ∀ t, withKey key t l = withKey key t m := fun t => by
      have ht := h t
      rw [withKey_cons, withKey_cons] at ht
      by_cases hk : key a = t
      · rw [if_pos hk, if_pos hk] at ht
        exact (List.cons.inj ht).2
      · rwa [if_neg hk, if_neg hk] at ht
    rw [eq_of_sorted_of_withKey_eq hl' hm' htail]

end Sorted

end RouteAtlas
