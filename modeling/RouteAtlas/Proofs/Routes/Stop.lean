import Mathlib.Data.List.Dedup
import Mathlib.Data.List.Perm.Subperm
import RouteAtlas.Proofs.Routes.Resolve
import RouteAtlas.Proofs.Table

/-!
# Where the walk along the wrappers stops

From a name the walk goes to the name that it wraps, to the one that this wraps, and so on. These
names leave the table after a while, or they run into a cycle behind a tail of any length. The walk
is told here by the names alone, without the list of those met so far:

- `nameAt`: the name after a number of steps;
- `Final`, `StopsAt`: **the stop** is the first name that wraps nothing or came before;
- `Walking`: the invariant of the walk, with what one step preserves (`Walking.step`) and what its
  end establishes (`Walking.stop`);
- `exists_stopsAt`: the walk stops after at most as many steps as there are keys, since it leaves
  another key with each of them;
- `nameAt_follow`: what the walk comes to in any number of steps, by induction over them;
- `StopsAt.eq_of_unbound`, `StopsAt.firstOnCycle`, `StopsAt.of_inner`: the stop of names that leave
  the table, of names that do not, and of a name that wraps another one;
- `resolve_stop`: what a name resolves to, in these terms.
-/

namespace RouteAtlas

variable {α β : Type} [DecidableEq α]

/-- The keys of a table, each of them once. -/
def Table.keys (t : Table α β) : List α := (t.map Prod.fst).dedup

/-- What is bound is a key. -/
theorem Table.mem_keys_of_get? {t : Table α β} {a : α} {b : β} (h : t.get? a = some b) :
    a ∈ t.keys := by
  rw [keys, List.mem_dedup]
  exact List.mem_map.mpr ⟨_, mem_of_get? h, rfl⟩

/-- A table has no more keys than bindings. -/
theorem Table.length_keys_le (t : Table α β) : t.keys.length ≤ t.length := by
  have hle := (List.dedup_sublist (t.map Prod.fst)).length_le
  rwa [List.length_map] at hle

/-! ## The names on the way -/

/-- The name `n` steps along `wraps` from `x`; absent behind a name that wraps nothing. -/
def nameAt (wraps : Table α α) (x : α) : Nat → Option α
  | 0 => some x
  | n + 1 => (nameAt wraps x n).bind wraps.get?

section Names

variable {wraps : Table α α} {x y s : α} {i j k m n : Nat}

/-- Steps behind a name that is reached are steps from it. -/
theorem nameAt_add (h : nameAt wraps x m = some y) (n : Nat) :
    nameAt wraps x (m + n) = nameAt wraps y n := by
  induction n with
  | zero => exact h
  | succ n ih =>
    show (nameAt wraps x (m + n)).bind wraps.get? = (nameAt wraps y n).bind wraps.get?
    rw [ih]

/-- The first step leads to the name inside. -/
theorem nameAt_succ_of_inner {inner : α} (h : wraps.get? x = some inner) (n : Nat) :
    nameAt wraps x (n + 1) = nameAt wraps inner n := by
  have hone : nameAt wraps x 1 = some inner := h
  rw [Nat.add_comm n 1]
  exact nameAt_add hone n

/-- Every name before one that is reached is reached too, and wraps another one. -/
theorem exists_inner_of_lt (h : nameAt wraps x k = some s) (hj : j < k) :
    ∃ y inner, nameAt wraps x j = some y ∧ wraps.get? y = some inner := by
  induction k generalizing s with
  | zero => exact absurd hj (Nat.not_lt_zero j)
  | succ k ih =>
    obtain ⟨y, hy, hinner⟩ := Option.bind_eq_some_iff.mp h
    rcases Nat.lt_succ_iff_lt_or_eq.mp hj with hj | rfl
    · exact ih hy hj
    · exact ⟨y, s, hy, hinner⟩

/-! ## The stop -/

/-- The walk cannot go on from the name after `k` steps: it wraps nothing, or it came before. -/
structure Final (wraps : Table α α) (x : α) (k : Nat) (s : α) : Prop where
  reached : nameAt wraps x k = some s
  ends : wraps.get? s = none ∨ ∃ i < k, nameAt wraps x i = some s

/-- The walk stops after `k` steps, at the name `s`, and it could go on from every name before. -/
structure StopsAt (wraps : Table α α) (x : α) (k : Nat) (s : α) : Prop where
  final : Final wraps x k s
  first : ∀ j < k, ∀ y, ¬Final wraps x j y

/-- There is one stop. -/
theorem StopsAt.unique {k' : Nat} {s' : α} (h : StopsAt wraps x k s) (h' : StopsAt wraps x k' s') :
    k = k' ∧ s = s' := by
  obtain hlt | rfl | hlt := Nat.lt_trichotomy k k'
  · exact absurd h.final (h'.first k hlt s)
  · have hs := h.final.reached
    rw [h'.final.reached, Option.some.injEq] at hs
    exact ⟨rfl, hs.symm⟩
  · exact absurd h'.final (h.first k' hlt s')

/-- Before the stop no name comes twice. -/
theorem StopsAt.ne_of_lt (h : StopsAt wraps x k s) (hij : i < j) (hj : j < k)
    (hy : nameAt wraps x i = some y) : nameAt wraps x j ≠ some y := by
  intro hagain
  exact h.first j hj y ⟨hagain, .inr ⟨i, hij, hy⟩⟩

/-! ## The walk -/

/-- The walk from `x` has met the names in `seen`, one with each step, and has come to `y`; it could
go on from each of them, so they are distinct keys. -/
structure Walking (wraps : Table α α) (x : α) (seen : List α) (y : α) : Prop where
  here : nameAt wraps x seen.length = some y
  met : ∀ z, z ∈ seen ↔ ∃ i < seen.length, nameAt wraps x i = some z
  going : ∀ i < seen.length, ∀ z, ¬Final wraps x i z
  distinct : seen.Nodup
  bound : ∀ z ∈ seen, z ∈ wraps.keys

/-- The walk starts with nothing met. -/
theorem walking_nil (wraps : Table α α) (x : α) : Walking wraps x [] x where
  here := rfl
  met _ := iff_of_false List.not_mem_nil fun ⟨i, hi, _⟩ => Nat.not_lt_zero i hi
  going i hi := absurd hi (Nat.not_lt_zero i)
  distinct := List.nodup_nil
  bound _ hz := absurd hz List.not_mem_nil

variable {seen : List α}

/-- **One step** goes on from a name that wraps another one and was not met before. -/
theorem Walking.step (h : Walking wraps x seen y) {inner : α} (hy : wraps.get? y = some inner)
    (hnew : y ∉ seen) : Walking wraps x (y :: seen) inner where
  here := by
    show (nameAt wraps x seen.length).bind wraps.get? = some inner
    rw [h.here]
    exact hy
  met z := by
    rw [List.mem_cons, List.length_cons, h.met z]
    constructor
    · rintro (rfl | ⟨i, hi, hz⟩)
      · exact ⟨seen.length, Nat.lt_succ_self _, h.here⟩
      · exact ⟨i, Nat.lt_succ_of_lt hi, hz⟩
    · rintro ⟨i, hi, hz⟩
      rcases Nat.lt_succ_iff_lt_or_eq.mp hi with hi | rfl
      · exact .inr ⟨i, hi, hz⟩
      · rw [h.here, Option.some.injEq] at hz
        exact .inl hz.symm
  going i hi z hz := by
    rcases Nat.lt_succ_iff_lt_or_eq.mp hi with hi | rfl
    · exact h.going i hi z hz
    · -- the name that is left now is `y`, and nothing ends the walk there
      obtain rfl : z = y := by
        have hhere := h.here
        rw [hz.reached, Option.some.injEq] at hhere
        exact hhere
      rcases hz.ends with hnone | hbefore
      · rw [hy] at hnone
        cases hnone
      · exact hnew ((h.met z).mpr hbefore)
  distinct := List.nodup_cons.mpr ⟨hnew, h.distinct⟩
  bound := List.forall_mem_cons.mpr ⟨Table.mem_keys_of_get? hy, h.bound⟩

/-- **The end** of the walk: a name that wraps nothing or was met before is the stop. -/
theorem Walking.stop (h : Walking wraps x seen y) (hy : wraps.get? y = none ∨ y ∈ seen) :
    StopsAt wraps x seen.length y where
  final := ⟨h.here, hy.imp_right (h.met y).mp⟩
  first := h.going

/-- Distinct keys have been met, so there are no more of them than keys. -/
theorem Walking.length_le (h : Walking wraps x seen y) : seen.length ≤ wraps.keys.length :=
  (h.distinct.subperm h.bound).length_le

/-- The walk has not gone beyond the stop. -/
theorem Walking.length_le_stop (h : Walking wraps x seen y) (hs : StopsAt wraps x k s) :
    seen.length ≤ k :=
  Nat.le_of_not_lt fun hlt => h.going k hlt s hs.final

/-- A walk under way comes to a stop. -/
theorem Walking.exists_stopsAt {seen : List α} {y : α} (h : Walking wraps x seen y) :
    ∃ k s, StopsAt wraps x k s ∧ k ≤ wraps.keys.length := by
  cases hy : wraps.get? y with
  | none => exact ⟨_, y, h.stop (.inl hy), h.length_le⟩
  | some inner =>
    by_cases hmet : y ∈ seen
    · exact ⟨_, y, h.stop (.inr hmet), h.length_le⟩
    · -- the step leaves one key fewer to be met
      have hnext := h.step hy hmet
      have hkeys : seen.length < wraps.keys.length := hnext.length_le
      exact hnext.exists_stopsAt
termination_by wraps.keys.length - seen.length
decreasing_by
  rw [List.length_cons]
  omega

/-- **The walk stops**, after at most as many steps as there are keys. -/
theorem exists_stopsAt (wraps : Table α α) (x : α) :
    ∃ k s, StopsAt wraps x k s ∧ k ≤ wraps.keys.length :=
  (walking_nil wraps x).exists_stopsAt

/-- In `n` steps more the walk comes `n` names further, but not beyond the stop. -/
theorem Walking.nameAt_follow (h : Walking wraps x seen y) (hs : StopsAt wraps x k s) (n : Nat) :
    nameAt wraps x (min (seen.length + n) k) = some (follow wraps n seen y) := by
  induction n generalizing seen y with
  | zero =>
    rw [Nat.add_zero, Nat.min_eq_left (h.length_le_stop hs)]
    exact h.here
  | succ n ih =>
    -- where the walk stops, it stays, and the stop has been reached
    have hstay : wraps.get? y = none ∨ y ∈ seen →
        nameAt wraps x (min (seen.length + (n + 1)) k) = some y := by
      intro hy
      obtain ⟨rfl, -⟩ := hs.unique (h.stop hy)
      rw [Nat.min_eq_right (by omega)]
      exact h.here
    rw [follow]
    cases hy : wraps.get? y with
    | none => exact hstay (.inl hy)
    | some inner =>
      show _ = some (if y ∈ seen then y else follow wraps n (y :: seen) inner)
      by_cases hmet : y ∈ seen
      · rw [if_pos hmet]
        exact hstay (.inr hmet)
      · rw [if_neg hmet, ← ih (h.step hy hmet), List.length_cons, Nat.add_right_comm,
          Nat.add_assoc]

/-- **What the walk comes to** in `n` steps: the name after `n` steps, or the stop before it. -/
theorem StopsAt.nameAt_follow (hs : StopsAt wraps x k s) (n : Nat) :
    nameAt wraps x (min n k) = some (follow wraps n [] x) := by
  have hrun := (walking_nil wraps x).nameAt_follow hs n
  rwa [List.length_nil, Nat.zero_add] at hrun

/-- Unwrapping leads to the stop. -/
theorem StopsAt.unwrap_eq (hs : StopsAt wraps x k s) : unwrap wraps x = s := by
  have hk : k ≤ wraps.length := by
    obtain ⟨k', s', hs', hk'⟩ := exists_stopsAt wraps x
    obtain ⟨rfl, -⟩ := hs.unique hs'
    exact Nat.le_trans hk' wraps.length_keys_le
  have hrun := hs.nameAt_follow (wraps.length + 1)
  rw [Nat.min_eq_right (by omega), hs.final.reached, Option.some.injEq] at hrun
  exact hrun.symm

theorem StopsAt.resolve_eq (hs : StopsAt wraps x k s) (makes : Table α α) (imports : Table α β) :
    resolve wraps makes imports x = imports.get? ((makes.get? s).getD s) := by
  rw [resolve, hs.unwrap_eq]

/-! ## Names that leave the table, and names that do not -/

/-- A name from which the walk comes back to it. -/
def OnCycle (wraps : Table α α) (x : α) : Prop := ∃ n, 0 < n ∧ nameAt wraps x n = some x

/-- The name after `i` steps is the first one on a cycle. -/
def FirstOnCycle (wraps : Table α α) (x s : α) : Prop :=
  ∃ i, nameAt wraps x i = some s ∧ OnCycle wraps s ∧
    ∀ j < i, ∀ y, nameAt wraps x j = some y → ¬OnCycle wraps y

/-- Once a name has come again, the names go round: each later one is one of those between. -/
theorem exists_between (hi : nameAt wraps x i = some s) (hk : nameAt wraps x k = some s)
    (hik : i < k) (him : i ≤ m) :
    ∃ j, i ≤ j ∧ j < k ∧ nameAt wraps x m = nameAt wraps x j := by
  induction m using Nat.strongRecOn with
  | _ m ih =>
    by_cases hmk : m < k
    · exact ⟨m, him, hmk, rfl⟩
    · -- one round earlier stands the same name
      obtain ⟨j, hij, hjk, hj⟩ := ih (i + (m - k)) (by omega) (by omega)
      refine ⟨j, hij, hjk, ?_⟩
      calc nameAt wraps x m
          = nameAt wraps x (k + (m - k)) := by rw [Nat.add_sub_cancel' (Nat.le_of_not_lt hmk)]
        _ = nameAt wraps s (m - k) := nameAt_add hk _
        _ = nameAt wraps x (i + (m - k)) := (nameAt_add hi _).symm
        _ = nameAt wraps x j := hj

/-- A name that came before lies on a cycle. -/
theorem onCycle_of_again (hi : nameAt wraps x i = some s) (hk : nameAt wraps x k = some s)
    (hik : i < k) : OnCycle wraps s := by
  refine ⟨k - i, by omega, ?_⟩
  rw [← nameAt_add hi, Nat.add_sub_cancel' (Nat.le_of_lt hik), hk]

/-- From a name on a cycle every number of steps leads to a name that wraps another one. -/
theorem OnCycle.exists_inner (h : OnCycle wraps x) (m : Nat) :
    ∃ y inner, nameAt wraps x m = some y ∧ wraps.get? y = some inner := by
  obtain ⟨n, hn, hagain⟩ := h
  obtain ⟨j, -, hjn, hj⟩ := exists_between (i := 0) rfl hagain hn (Nat.zero_le m)
  rw [hj]
  exact exists_inner_of_lt hagain hjn

/-- **Where the names leave the table**, the stop is the last of them. -/
theorem StopsAt.eq_of_unbound (hs : StopsAt wraps x k s) (hy : nameAt wraps x j = some y)
    (hnone : wraps.get? y = none) : s = y := by
  -- no step leads on from `y`, so the stop is not behind it; and nothing stops the walk before
  have hjk : j ≤ k := Nat.le_of_not_lt fun hkj => by
    obtain ⟨z, inner, hz, hinner⟩ := exists_inner_of_lt hy hkj
    rw [hs.final.reached, Option.some.injEq] at hz
    subst hz
    rcases hs.final.ends with hends | ⟨i, hik, hi⟩
    · rw [hinner] at hends
      cases hends
    · obtain ⟨y', inner', hy', hinner'⟩ := (onCycle_of_again hi hs.final.reached hik).exists_inner
        (j - k)
      rw [← nameAt_add hs.final.reached, Nat.add_sub_cancel' (Nat.le_of_lt hkj), hy,
        Option.some.injEq] at hy'
      rw [← hy', hnone] at hinner'
      cases hinner'
  have hkj : k ≤ j := Nat.le_of_not_lt fun hlt => hs.first j hlt y ⟨hy, .inl hnone⟩
  obtain rfl : k = j := Nat.le_antisymm hkj hjk
  have hsame := hs.final.reached
  rw [hy, Option.some.injEq] at hsame
  exact hsame.symm

/-- **Where the names never leave the table**, the stop is the first of them on a cycle. -/
theorem StopsAt.firstOnCycle (hs : StopsAt wraps x k s)
    (h : ∀ j y, nameAt wraps x j = some y → wraps.get? y ≠ none) : FirstOnCycle wraps x s := by
  have hreached := hs.final.reached
  rcases hs.final.ends with hnone | ⟨i, hik, hi⟩
  · exact absurd hnone (h k s hreached)
  · refine ⟨i, hi, onCycle_of_again hi hreached hik, ?_⟩
    -- a name before it on a cycle would come again between `i` and the stop, where none does
    rintro j hji y hy ⟨n, hn, hagain⟩
    rw [← nameAt_add hy] at hagain
    by_cases hin : i ≤ j + n
    · obtain ⟨j', hij', hj'k, hj'⟩ := exists_between hi hreached hik hin
      rw [hagain] at hj'
      exact hs.ne_of_lt (Nat.lt_of_lt_of_le hji hij') hj'k hy hj'.symm
    · exact hs.ne_of_lt (Nat.lt_add_of_pos_right hn) (by omega) hy hagain

/-- A name on a cycle is its own stop. -/
theorem StopsAt.eq_of_onCycle (hs : StopsAt wraps x k s) (h : OnCycle wraps x) : s = x := by
  have hbound : ∀ j y, nameAt wraps x j = some y → wraps.get? y ≠ none := by
    intro j y hy
    obtain ⟨z, inner, hz, hinner⟩ := h.exists_inner j
    rw [hy, Option.some.injEq] at hz
    subst hz
    rw [hinner]
    exact Option.some_ne_none inner
  obtain ⟨i, hi, -, hbefore⟩ := hs.firstOnCycle hbound
  cases i with
  | zero => exact (Option.some.inj hi).symm
  | succ i => exact absurd h (hbefore 0 (Nat.succ_pos i) x rfl)

/-- The stop of a name that wraps another one and is on no cycle is the stop of the one inside. -/
theorem StopsAt.of_inner {inner : α} (hs : StopsAt wraps x k s) (hx : wraps.get? x = some inner)
    (hcycle : ¬OnCycle wraps x) : ∃ k', StopsAt wraps inner k' s := by
  have hstep := nameAt_succ_of_inner hx
  cases k with
  | zero =>
    -- the walk does not stop at its start, which wraps a name
    have hsame : x = s := Option.some.inj hs.final.reached
    rcases hs.final.ends with hnone | ⟨i, hi, -⟩
    · rw [← hsame, hx] at hnone
      cases hnone
    · exact absurd hi (Nat.not_lt_zero i)
  | succ k =>
    refine ⟨k, ⟨?_, ?_⟩, ?_⟩
    · rw [← hstep]
      exact hs.final.reached
    · refine hs.final.ends.imp_right ?_
      rintro ⟨i, hi, hsi⟩
      cases i with
      | zero =>
        have hsame : x = s := Option.some.inj hsi
        exact absurd ⟨k + 1, Nat.succ_pos k, hsame ▸ hs.final.reached⟩ hcycle
      | succ i => exact ⟨i, Nat.lt_of_succ_lt_succ hi, (hstep i).symm.trans hsi⟩
    · intro j hj y hy
      refine hs.first (j + 1) (Nat.succ_lt_succ hj) y ⟨(hstep j).trans hy.reached, ?_⟩
      refine hy.ends.imp_right ?_
      rintro ⟨i, hi, hyi⟩
      exact ⟨i + 1, Nat.succ_lt_succ hi, (hstep i).trans hyi⟩

end Names

/-! ## Resolving -/

/-- **What a name resolves to.** The walk from `x` stops after at most as many steps as the table
has keys: the name that it comes to in any number of steps is the one after as many steps, or the
stop `s`. From the stop one `makes` at most and the imports lead to the module. Where the names
leave the table, the stop is the last of them; where they do not, it is the first one on a cycle, so
a name on a cycle is its own stop; and a name that wraps another one and is on no cycle resolves
like the one inside. -/
theorem resolve_stop (wraps makes : Table α α) (imports : Table α β) (x : α) :
    ∃ k s, StopsAt wraps x k s ∧ k ≤ wraps.keys.length ∧
      (∀ n, nameAt wraps x (min n k) = some (follow wraps n [] x)) ∧
      resolve wraps makes imports x = imports.get? ((makes.get? s).getD s) ∧
      (∀ j y, nameAt wraps x j = some y → wraps.get? y = none → s = y) ∧
      ((∀ j y, nameAt wraps x j = some y → wraps.get? y ≠ none) → FirstOnCycle wraps x s) ∧
      (OnCycle wraps x → s = x) ∧
      ∀ inner, wraps.get? x = some inner → ¬OnCycle wraps x →
        resolve wraps makes imports x = resolve wraps makes imports inner := by
  obtain ⟨k, s, hs, hk⟩ := exists_stopsAt wraps x
  refine ⟨k, s, hs, hk, hs.nameAt_follow, hs.resolve_eq makes imports, ?_, hs.firstOnCycle,
    hs.eq_of_onCycle, ?_⟩
  · intro j y hy hnone
    exact hs.eq_of_unbound hy hnone
  · intro inner hx hcycle
    obtain ⟨k', hs'⟩ := hs.of_inner hx hcycle
    rw [hs.resolve_eq, hs'.resolve_eq]

/-- A tail into a cycle: the walk stops where it enters the cycle. -/
example : unwrap [(0, 1), (1, 2), (2, 3), (3, 2)] 0 = 2 := by decide

end RouteAtlas
