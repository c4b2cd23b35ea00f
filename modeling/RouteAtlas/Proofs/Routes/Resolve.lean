import RouteAtlas.Routes.Resolve

/-!
# Resolving sees tables as maps

`unwrap` walks along a table for a number of steps that depends on the length of the table, so two
tables with the same bindings could in principle be walked differently. They are not:

- `fresh`: the bindings whose keys the walk has not met, which is what the walk consumes;
- `follow_fuel`: any number of steps above that count ends the walk at the same name;
- `resolve_congr`: tables that look the same resolve every name alike, cycles included.
-/

namespace RouteAtlas

variable {α β : Type} [DecidableEq α]

/-- The number of bindings whose keys are not among the names met so far. -/
def fresh (wraps : Table α α) (seen : List α) : Nat := wraps.countP fun p => p.1 ∉ seen

/-- Nothing has been met at the start, so there are as many fresh bindings as bindings. -/
theorem fresh_nil (wraps : Table α α) : fresh wraps [] = wraps.length := by
  simp [fresh]

/-- Meeting one more name makes no binding fresh. -/
theorem fresh_cons_le (wraps : Table α α) (seen : List α) (x : α) :
    fresh wraps (x :: seen) ≤ fresh wraps seen := by
  refine List.countP_mono_left fun p _ hp => ?_
  simp only [List.mem_cons, not_or, decide_eq_true_eq] at hp ⊢
  exact hp.2

/-- A step of the walk uses up a fresh binding: the one of the name that it leaves. -/
theorem fresh_cons_lt {wraps : Table α α} {seen : List α} {x inner : α}
    (h : wraps.get? x = some inner) (hx : x ∉ seen) :
    fresh wraps (x :: seen) < fresh wraps seen := by
  induction wraps with
  | nil => cases h
  | cons p wraps ih =>
    obtain ⟨k, v⟩ := p
    by_cases hk : k = x
    · subst hk
      have hle := fresh_cons_le wraps seen k
      simp only [fresh, List.countP_cons, List.mem_cons, true_or, not_true_eq_false, hx,
        not_false_eq_true, decide_true, decide_false, if_true, Bool.false_eq_true, if_false,
        Nat.add_zero] at hle ⊢
      exact Nat.lt_succ_of_le hle
    · have htail : Table.get? wraps x = some inner := by
        simpa [Table.get?, hk] using h
      have hlt := ih htail
      simp only [fresh, List.countP_cons, List.mem_cons, hk, false_or] at hlt ⊢
      exact Nat.add_lt_add_right hlt _

/-- **Fuel independence of the walk**: any two numbers of steps above the number of fresh bindings
lead to the same name. -/
theorem follow_fuel (wraps : Table α α) {n m : Nat} {seen : List α} (x : α)
    (hn : fresh wraps seen < n) (hm : fresh wraps seen < m) :
    follow wraps n seen x = follow wraps m seen x := by
  induction n generalizing m seen x with
  | zero => exact absurd hn (Nat.not_lt_zero _)
  | succ n ih =>
    cases m with
    | zero => exact absurd hm (Nat.not_lt_zero _)
    | succ m =>
      cases h : wraps.get? x with
      | none => simp [follow, h]
      | some inner =>
        by_cases hx : x ∈ seen
        · simp [follow, h, hx]
        · -- the step is taken on both sides, and it uses up the binding of `x`
          have hlt := fresh_cons_lt h hx
          simp only [follow, h, hx, if_false]
          exact ih inner (by omega) (by omega)

/-- Any number of steps above the length of the table unwraps a name. -/
theorem unwrap_eq_follow {wraps : Table α α} {n : Nat} (hn : wraps.length < n) (x : α) :
    unwrap wraps x = follow wraps n [] x := by
  refine follow_fuel wraps x ?_ ?_
  · rw [fresh_nil]
    exact Nat.lt_succ_self _
  · rw [fresh_nil]
    exact hn

/-- The walk looks at its table only by looking names up in it. -/
theorem follow_congr {wraps wraps' : Table α α} (h : ∀ x, wraps.get? x = wraps'.get? x) :
    ∀ (n : Nat) (seen : List α) (x : α), follow wraps n seen x = follow wraps' n seen x
  | 0, _, _ => rfl
  | n + 1, seen, x => by
    simp only [follow, h x]
    cases wraps'.get? x with
    | none => rfl
    | some inner =>
      show (if x ∈ seen then x else follow wraps n (x :: seen) inner) =
        if x ∈ seen then x else follow wraps' n (x :: seen) inner
      rw [follow_congr h n (x :: seen) inner]

/-- Tables that look the same are unwrapped alike, though they may differ in length. -/
theorem unwrap_congr {wraps wraps' : Table α α} (h : ∀ x, wraps.get? x = wraps'.get? x) (x : α) :
    unwrap wraps x = unwrap wraps' x := by
  calc unwrap wraps x
      = follow wraps (wraps.length + wraps'.length + 1) [] x := unwrap_eq_follow (by omega) x
    _ = follow wraps' (wraps.length + wraps'.length + 1) [] x := follow_congr h _ _ _
    _ = unwrap wraps' x := (unwrap_eq_follow (by omega) x).symm

/-- **Tables are maps** to the resolver: tables that look the same resolve every name alike. -/
theorem resolve_congr {wraps wraps' makes makes' : Table α α} {imports imports' : Table α β}
    (hw : ∀ x, wraps.get? x = wraps'.get? x) (hm : ∀ x, makes.get? x = makes'.get? x)
    (hi : ∀ x, imports.get? x = imports'.get? x) (x : α) :
    resolve wraps makes imports x = resolve wraps' makes' imports' x := by
  simp only [resolve]
  rw [unwrap_congr hw x, hm, hi]

end RouteAtlas
