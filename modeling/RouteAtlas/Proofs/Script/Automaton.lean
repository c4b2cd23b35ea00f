import RouteAtlas.Script.Parser

/-!
# States are what their numbers stand for

The reader makes a state when it first comes to it, keeps it under a number, and looks it up
afterwards. Looking up is no different from making the state anew:

- `State.goto`: the state behind a symbol, made anew;
- `Automaton.Sound`: what is kept is what would be made;
- `Automaton.Extends`: no state is lost or changed;
- `Automaton.goto_spec`: following a symbol keeps both, and leads to the state made anew.
-/

namespace RouteAtlas.Script

/-- The state behind a symbol, made anew. -/
def State.goto (q : State) (x : Nat) : State := .ofKernel (q.advance x)

namespace Automaton

variable {a b c : Automaton}

/-- What is kept is what would be made. The first state, in which a script may also end, is behind
no symbol. -/
structure Sound (a : Automaton) : Prop where
  first : a.states[0]? = some .start
  index : ∀ (k : Kernel) (n : Nat), a.index[k]? = some n → 0 < n ∧ a.states[n]? = some (.ofKernel k)
  gotos : ∀ (n x m : Nat), a.gotos[(n, x)]? = some m →
    0 < m ∧ ∃ q : State, a.states[n]? = some q ∧ a.states[m]? = some (q.goto x)

/-- All states of the first automaton stand in the second one under the same numbers. -/
def Extends (a b : Automaton) : Prop :=
  ∀ (n : Nat) (q : State), a.states[n]? = some q → b.states[n]? = some q

theorem Extends.refl (a : Automaton) : Extends a a := fun _ _ h => h

theorem Extends.trans (hab : Extends a b) (hbc : Extends b c) : Extends a c :=
  fun n q h => hbc n q (hab n q h)

theorem state_eq {n : Nat} {q : State} (h : a.states[n]? = some q) : a.state n = q := by
  rw [state, Array.getD_eq_getD_getElem?, h]
  rfl

theorem init_sound : Sound init where
  first := rfl
  index k n h := by
    have hnone : init.index[k]? = none := Std.HashMap.getElem?_empty
    rw [hnone] at h
    cases h
  gotos n x m h := by
    have hnone : init.gotos[(n, x)]? = none := Std.HashMap.getElem?_empty
    rw [hnone] at h
    cases h

/-- One more state behind all others. -/
theorem extends_push (a : Automaton) (q : State) (index : Std.HashMap Kernel Nat) :
    Extends a { a with states := a.states.push q, index } := by
  intro n r h
  have hlt : n < a.states.size := (Array.getElem?_eq_some_iff.mp h).1
  show (a.states.push q)[n]? = some r
  rw [Array.getElem?_push_lt hlt, ← h, Array.getElem?_eq_getElem hlt]

/-- **Step lemma**: a kernel is looked up, or its state is made and kept. -/
theorem add_spec (ha : a.Sound) (k : Kernel) :
    (a.add k).1.Sound ∧ Extends a (a.add k).1 ∧
      0 < (a.add k).2 ∧ (a.add k).1.states[(a.add k).2]? = some (.ofKernel k) := by
  rw [add]
  cases hk : a.index[k]? with
  | some n => exact ⟨ha, .refl a, ha.index k n hk⟩
  | none =>
    have hsize : 0 < a.states.size := (Array.getElem?_eq_some_iff.mp ha.first).1
    have hextends := extends_push a (.ofKernel k) (a.index.insert k a.states.size)
    have hlast : (a.states.push (.ofKernel k))[a.states.size]? = some (.ofKernel k) :=
      Array.getElem?_push_size
    refine ⟨⟨hextends _ _ ha.first, ?_, ?_⟩, hextends, hsize, hlast⟩
    · intro l n hl
      rw [Std.HashMap.getElem?_insert] at hl
      split at hl
      next he =>
        obtain rfl := eq_of_beq he
        obtain rfl := Option.some.inj hl
        exact ⟨hsize, hlast⟩
      next =>
        obtain ⟨hpos, hn⟩ := ha.index l n hl
        exact ⟨hpos, hextends _ _ hn⟩
    · intro n x m hm
      obtain ⟨hpos, q, hn, hq⟩ := ha.gotos n x m hm
      exact ⟨hpos, q, hextends _ _ hn, hextends _ _ hq⟩

/-- **Following a symbol** leads to the state that would be made anew. -/
theorem goto_spec (ha : a.Sound) {n : Nat} {q : State} (hn : a.states[n]? = some q) (x : Nat) :
    (a.goto n x).1.Sound ∧ Extends a (a.goto n x).1 ∧
      0 < (a.goto n x).2 ∧ (a.goto n x).1.states[(a.goto n x).2]? = some (q.goto x) := by
  rw [goto]
  cases hm : a.gotos[(n, x)]? with
  | some m =>
    obtain ⟨hpos, r, hr, hrm⟩ := ha.gotos n x m hm
    obtain rfl := Option.some.inj (hn.symm.trans hr)
    exact ⟨ha, .refl a, hpos, hrm⟩
  | none =>
    rw [state_eq hn]
    obtain ⟨hs, hextends, hpos, hstate⟩ := add_spec ha (q.advance x)
    refine ⟨⟨hs.first, hs.index, ?_⟩, hextends, hpos, hstate⟩
    intro l y m' hm'
    rw [Std.HashMap.getElem?_insert] at hm'
    split at hm'
    next he =>
      obtain ⟨rfl, rfl⟩ := Prod.mk.inj (eq_of_beq he)
      obtain rfl := Option.some.inj hm'
      exact ⟨hpos, q, hextends _ _ hn, hstate⟩
    next => exact hs.gotos l y m' hm'

end Automaton

end RouteAtlas.Script
