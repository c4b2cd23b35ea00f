import RouteAtlas.Table

/-!
# What a filled table holds

A table is filled by binding one pair after the other. What looking up sees of it afterwards does
not depend on how the table is laid out, only on the list of pairs:

- `Table.bindAll`: the table with a list of pairs bound one after the other;
- `Table.LastWins`: looking up sees the last pair of every key (**last binding wins**);
- `lastWins_bindAll`: filling an empty table gives such a table;
- `lookup_reverse_perm`: where no key is bound twice, the order of the pairs is unobservable;
- `insert_of_notMem`: a new key is bound at the end;
- `mem_of_get?`, `get?_of_mem`: what is found is bound, and conversely where no key occurs twice.
-/

namespace RouteAtlas.Table

variable {α β : Type} [DecidableEq α]

/-- The table with a list of pairs bound one after the other. -/
def bindAll (t : Table α β) (ps : List (α × β)) : Table α β :=
  ps.foldl (fun t p => t.insert p.1 p.2) t

@[simp] theorem bindAll_nil (t : Table α β) : t.bindAll [] = t := rfl

theorem bindAll_append (t : Table α β) (ps qs : List (α × β)) :
    t.bindAll (ps ++ qs) = (t.bindAll ps).bindAll qs := List.foldl_append

/-- Looking up sees the last value that the table assigns to a key among the given pairs, and
nothing else. -/
def LastWins (t : Table α β) (ps : List (α × β)) : Prop :=
  ∀ a, t.get? a = ps.reverse.lookup a

/-- The pairs bound last are looked at first; a key that is not among them is as before. -/
theorem get?_bindAll (t : Table α β) (ps : List (α × β)) (a : α) :
    (t.bindAll ps).get? a = (ps.reverse.lookup a).or (t.get? a) := by
  induction ps generalizing t with
  | nil => rfl
  | cons p ps ih =>
    obtain ⟨k, v⟩ := p
    show ((t.insert k v).bindAll ps).get? a = _
    rw [ih, get?_insert, List.reverse_cons, List.lookup_append, Option.or_assoc]
    congr 1
    by_cases h : k = a
    · simp [h]
    · simp [List.lookup_cons, h, beq_false_of_ne (Ne.symm h)]

/-- A key that is not bound is as before. -/
theorem get?_bindAll_of_notMem {ps : List (α × β)} {a : α} (h : a ∉ ps.map Prod.fst)
    (t : Table α β) : (t.bindAll ps).get? a = t.get? a := by
  have hnone : ps.reverse.lookup a = none := by
    rw [List.lookup_eq_none_iff]
    intro p hp
    rw [bne_iff_ne]
    rintro rfl
    exact h (List.mem_map_of_mem (List.mem_reverse.mp hp))
  rw [get?_bindAll, hnone, Option.none_or]

/-- A key that is bound has the value that it is bound to last. -/
theorem get?_bindAll_append_cons {after : List (α × β)} {a : α} (h : a ∉ after.map Prod.fst)
    (t : Table α β) (before : List (α × β)) (b : β) :
    (t.bindAll (before ++ (a, b) :: after)).get? a = some b := by
  have hbind : t.bindAll (before ++ (a, b) :: after) =
      ((t.bindAll before).insert a b).bindAll after := bindAll_append t before _
  rw [hbind, get?_bindAll_of_notMem h, get?_insert, if_pos rfl]

/-- What is found after binding and was not there before is among the pairs. -/
theorem mem_of_get?_bindAll {t : Table α β} {ps : List (α × β)} {a : α} {b : β}
    (h : (t.bindAll ps).get? a = some b) (hnew : t.get? a ≠ some b) : (a, b) ∈ ps := by
  rw [get?_bindAll, Option.or_eq_some_iff] at h
  rcases h with h | ⟨-, h⟩
  · obtain ⟨l, r, hlr, -⟩ := List.lookup_eq_some_iff.mp h
    rw [← List.mem_reverse, hlr]
    exact List.mem_append_right l List.mem_cons_self
  · exact absurd h hnew

/-- **Last binding wins** in a table that was empty before. -/
theorem lastWins_bindAll (ps : List (α × β)) : LastWins (bindAll [] ps) ps := by
  intro a
  rw [get?_bindAll, get?_nil, Option.or_none]

/-- Two tables of the same pairs look the same. -/
theorem LastWins.get?_eq {t u : Table α β} {ps : List (α × β)} (ht : t.LastWins ps)
    (hu : u.LastWins ps) (a : α) : t.get? a = u.get? a :=
  (ht a).trans (hu a).symm

/-- A key that is not bound yet is bound at the end. -/
theorem insert_of_notMem {t : Table α β} {a : α} (h : a ∉ t.map Prod.fst) (b : β) :
    t.insert a b = t ++ [(a, b)] := by
  induction t with
  | nil => rfl
  | cons p t ih =>
    obtain ⟨k, v⟩ := p
    rw [List.map_cons, List.mem_cons, not_or] at h
    rw [insert, if_neg (Ne.symm h.1), ih h.2]
    rfl

/-- What is found is one of the bindings. -/
theorem mem_of_get? {t : Table α β} {a : α} {b : β} (h : t.get? a = some b) : (a, b) ∈ t := by
  induction t with
  | nil => cases h
  | cons p t ih =>
    obtain ⟨k, v⟩ := p
    rw [get?] at h
    split at h
    next hk =>
      cases h
      exact hk ▸ List.mem_cons_self
    next => exact List.mem_cons_of_mem _ (ih h)

/-! ## Pairs without repeated keys -/

/-- Where no key occurs twice, every binding is found. -/
theorem get?_of_mem {t : Table α β} {a : α} {b : β} (hd : (t.map Prod.fst).Nodup)
    (h : (a, b) ∈ t) : t.get? a = some b := by
  induction t with
  | nil => cases h
  | cons p t ih =>
    obtain ⟨k, v⟩ := p
    obtain ⟨hk, hd⟩ := List.nodup_cons.mp hd
    rcases List.mem_cons.mp h with h | h
    · cases h
      exact if_pos rfl
    · have hne : k ≠ a := by
        rintro rfl
        exact hk (List.mem_map.mpr ⟨_, h, rfl⟩)
      rw [get?, if_neg hne, ih hd h]

/-- Where no key occurs twice, looking up finds exactly the pairs of the list. -/
theorem lookup_eq_some_iff_mem {ps : List (α × β)} (hd : (ps.map Prod.fst).Nodup) {a : α} {b : β} :
    ps.lookup a = some b ↔ (a, b) ∈ ps := by
  induction ps with
  | nil => simp
  | cons p ps ih =>
    obtain ⟨k, v⟩ := p
    obtain ⟨hk, hps⟩ := List.nodup_cons.mp hd
    by_cases h : a = k
    · subst h
      have hnot : (a, b) ∉ ps := fun hm => hk (List.mem_map.mpr ⟨_, hm, rfl⟩)
      simp [hnot, eq_comm]
    · simp [List.lookup_cons, beq_false_of_ne h, h, ih hps]

/-- Where no key occurs twice, the order of the pairs is unobservable. -/
theorem lookup_reverse_perm {ps qs : List (α × β)} (hp : ps.Perm qs)
    (hd : (ps.map Prod.fst).Nodup) (a : α) : ps.reverse.lookup a = qs.reverse.lookup a := by
  have hps : (ps.reverse.map Prod.fst).Nodup :=
    ((List.reverse_perm ps).map Prod.fst).nodup_iff.mpr hd
  have hqs : (qs.reverse.map Prod.fst).Nodup :=
    (((List.reverse_perm qs).trans hp.symm).map Prod.fst).nodup_iff.mpr hd
  ext b
  rw [lookup_eq_some_iff_mem hps, lookup_eq_some_iff_mem hqs, List.mem_reverse, List.mem_reverse]
  exact hp.mem_iff

/-- Tables filled with the same pairs in two orders look the same, where no key occurs twice. -/
theorem LastWins.get?_eq_of_perm {t u : Table α β} {ps qs : List (α × β)} (ht : t.LastWins ps)
    (hu : u.LastWins qs) (hp : ps.Perm qs) (hd : (ps.map Prod.fst).Nodup) (a : α) :
    t.get? a = u.get? a := by
  rw [ht a, hu a]
  exact lookup_reverse_perm hp hd a

end RouteAtlas.Table
