/-!
# Finite tables

A table is a list of bindings in the order in which their keys were first bound. Binding a key
again changes its value in place, so the last binding wins and no key occurs twice.

- `Table.get?`: the value bound to a key;
- `Table.insert`: binds a key;
- `get?_insert`: what looking up sees of a binding.
-/

namespace RouteAtlas

/-- A finite map as a list of bindings. -/
abbrev Table (α β : Type) := List (α × β)

namespace Table

variable {α β : Type} [DecidableEq α]

/-- The value bound to a key. -/
def get? : Table α β → α → Option β
  | [], _ => none
  | (k, v) :: t, a => if k = a then some v else get? t a

/-- The key is bound. -/
def contains (t : Table α β) (a : α) : Bool := (t.get? a).isSome

/-- Binds a key; a key bound before keeps its place. -/
def insert : Table α β → α → β → Table α β
  | [], a, b => [(a, b)]
  | (k, v) :: t, a, b => if k = a then (a, b) :: t else (k, v) :: insert t a b

/-- Removes the binding of a key. -/
def erase (t : Table α β) (a : α) : Table α β := t.filter fun p => p.1 ≠ a

@[simp] theorem get?_nil (a : α) : get? ([] : Table α β) a = none := rfl

/-- Looking up sees the new value at its key, and every other key as before. -/
theorem get?_insert (t : Table α β) (a : α) (b : β) (x : α) :
    (t.insert a b).get? x = if a = x then some b else t.get? x := by
  induction t with
  | nil => simp [insert, get?]
  | cons p t ih =>
    obtain ⟨k, v⟩ := p
    by_cases hk : k = a
    · subst hk
      by_cases hx : k = x <;> simp [insert, get?, hx]
    · by_cases hx : k = x
      · subst hx
        simp [insert, get?, hk, Ne.symm hk]
      · simp [insert, get?, hk, hx, ih]

end Table

end RouteAtlas
