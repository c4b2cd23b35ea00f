import RouteAtlas.Proofs.Script.Automaton

/-!
# Reading without a choice

Where every token leaves only one thing to do, the graph of readings is a pile: each reading lies on
the one before it, and there is one head. The reader then shifts tokens and ends phrases like any
reader of its kind:

- `Pile`: readings on top of each other, each with the state behind it;
- `Pile.Step`: ends a phrase, or goes over a token (**one step of the reader**);
- `Stack.Holds`: the graph is a pile;
- `Stack.Holds.takeOver_step`: the reader does what the step says;
- `Source.read?_of_steps`: **a run of steps to the end of a text is what the reader reads**.
-/

namespace RouteAtlas.Script

/-! ## Piles -/

/-- Readings on top of each other, the last one first, each with the state behind it. -/
abbrev Pile := List (Reading × State)

namespace Pile

/-- The state behind the last reading. -/
def top : Pile → State
  | [] => .start
  | (_, q) :: _ => q

/-- The position behind the last reading. -/
def stop : Pile → Nat
  | [] => 0
  | (r, _) :: _ => r.stop

/-- The readings from the first one on. -/
def readings (σ : Pile) : List Reading := (σ.map (·.1)).reverse

/-- A reading on top of all others. -/
def push (σ : Pile) (r : Reading) : Pile := (r, σ.top.goto r.symbol) :: σ

/-- What to do on a token. An empty script ends at once. -/
def actions (σ : Pile) (token : Nat) : List Action :=
  if σ.isEmpty ∧ token = TokenClass.endOfText.code then [.accept] else σ.top.actions token

/-- The readings of a phrase that ends on top of a pile, put together. -/
def end_ (σ : Pile) (i : Spot) : Pile :=
  push (σ.drop i.done)
    (.ofChildren (Grammar.tokenCount + i.phrase) i.weight (readings (σ.take i.done)))

/-- A phrase ends where its last part does. -/
theorem stop_end {σ : Pile} {i : Spot} (hpos : 0 < i.done) (hdone : i.done ≤ σ.length) :
    (σ.end_ i).stop = σ.stop := by
  cases σ with
  | nil => exact absurd hdone (by simp; omega)
  | cons e σ =>
    obtain ⟨k, hk⟩ := Nat.exists_eq_succ_of_ne_zero (Nat.ne_of_gt hpos)
    have hlast : (readings ((e :: σ).take i.done)).getLast? = some e.1 := by
      rw [hk, readings, List.take_succ_cons, List.map_cons, List.getLast?_reverse]
      rfl
    show (((readings ((e :: σ).take i.done)).getLast?.map Reading.stop).getD 0) = e.1.stop
    rw [hlast]
    rfl

/-- The script that a pile is, put together. -/
def whole (σ : Pile) : Reading := .ofChildren (Symbol.ofPhrase .program) 0 σ.readings

end Pile

/-- The token is a comment. -/
def Lexeme.isComment (x : Lexeme) : Bool :=
  x.token == TokenClass.comment.code || x.token == TokenClass.pageComment.code

/-- The token at a position is the given one, and no comment. -/
structure Source.Next (s : Source) (q : State) (i : Nat) (x : Lexeme) : Prop where
  lexeme : s.lexeme? q.valid i = some x
  part : x.isComment = false

/-- One step of the reader, where there is nothing else to do: it ends a phrase before the token, or
goes over the token to the next one. -/
inductive Pile.Step (s : Source) : Pile → Lexeme → Pile → Lexeme → Prop where
  | ends {σ : Pile} {x : Lexeme} {i : Spot} (hdo : σ.actions x.token = [.reduce i])
      (hpos : 0 < i.done) (hdone : i.done ≤ σ.length) : Step s σ x (σ.end_ i) x
  | goes {σ : Pile} {x y : Lexeme} (hdo : σ.actions x.token = [.shift])
      (hnext : s.Next (σ.top.goto x.token) x.stop y) :
      Step s σ x (σ.push (.leaf x (x.start - σ.stop) false)) y

/-- A number of steps. -/
inductive Pile.Steps (s : Source) : Nat → Pile → Lexeme → Pile → Lexeme → Prop where
  | refl (σ : Pile) (x : Lexeme) : Steps s 0 σ x σ x
  | head {n : Nat} {σ τ υ : Pile} {x y z : Lexeme} (h : Step s σ x τ y) (hs : Steps s n τ y υ z) :
      Steps s (n + 1) σ x υ z

namespace Pile.Steps

variable {s : Source} {m n : Nat} {σ τ υ : Pile} {x y z : Lexeme}

theorem single (h : Step s σ x τ y) : Steps s 1 σ x τ y := .head h (.refl _ _)

theorem trans (hs : Steps s m σ x τ y) (ht : Steps s n τ y υ z) : Steps s (m + n) σ x υ z := by
  induction hs with
  | refl => rwa [Nat.zero_add]
  | head h _ ih =>
    rw [Nat.add_right_comm]
    exact .head h (ih ht)

end Pile.Steps

/-! ## Graphs that are piles -/

namespace Stack

/-- The nodes down from the given one are a pile. -/
inductive Built (a : Automaton) (nodes : Array Node) : Nat → Pile → Prop where
  | bottom {w : Int} (hnode : nodes[0]? = some ⟨0, 0, [], w⟩) : Built a nodes 0 []
  | above {n m k : Nat} {r : Reading} {q : State} {w : Int} {σ : Pile}
      (hnode : nodes[n]? = some ⟨k, r.stop, [⟨m, r⟩], w⟩) (hpos : 0 < k)
      (hstate : a.states[k]? = some q) (haside : r.isAside = false) (hlt : m < n)
      (hbelow : Built a nodes m σ) : Built a nodes n ((r, q) :: σ)

/-- The graph is a pile with one head, and no end of the script has been found. -/
structure Holds (p : Stack) (n : Nat) (σ : Pile) : Prop where
  sound : p.automaton.Sound
  heads : p.heads = #[⟨n, .active⟩]
  built : Built p.automaton p.nodes n σ
  finished : p.finished = none

/-- Every node of the first array stands in the second one under the same number. -/
def Longer (ns ms : Array Node) : Prop := ∀ (n : Nat) (x : Node), ns[n]? = some x → ms[n]? = some x

theorem longer_push (ns : Array Node) (x : Node) : Longer ns (ns.push x) := by
  intro n y h
  have hlt : n < ns.size := (Array.getElem?_eq_some_iff.mp h).1
  rw [Array.getElem?_push_lt hlt, ← h, Array.getElem?_eq_getElem hlt]

namespace Built

variable {a b : Automaton} {nodes more : Array Node} {n : Nat} {σ : Pile}

theorem mono (hab : a.Extends b) (hlonger : Longer nodes more) (h : Built a nodes n σ) :
    Built b more n σ := by
  induction h with
  | bottom hnode => exact .bottom (hlonger _ _ hnode)
  | above hnode hpos hstate haside hlt _ ih =>
    exact .above (hlonger _ _ hnode) hpos (hab _ _ hstate) haside hlt ih

/-- What stands in the node. -/
theorem exists_node (h : Built a nodes n σ) (ha : a.Sound) :
    ∃ x : Node, nodes[n]? = some x ∧ nodes.getD n default = x ∧ x.position = σ.stop ∧
      a.states[x.state]? = some σ.top ∧ ∀ token, a.actions x.state token = σ.actions token := by
  cases h with
  | bottom hnode =>
    refine ⟨_, hnode, by rw [Array.getD_eq_getD_getElem?, hnode]; rfl, rfl, ha.first, ?_⟩
    intro token
    simp [Automaton.actions, Pile.actions, Automaton.state_eq ha.first, Pile.top]
  | above hnode hpos hstate =>
    refine ⟨_, hnode, by rw [Array.getD_eq_getD_getElem?, hnode]; rfl, rfl, hstate, ?_⟩
    intro token
    rw [Automaton.actions, if_neg (fun h => absurd h.1 (Nat.ne_of_gt hpos)),
      Automaton.state_eq hstate]
    rfl

theorem lt_size (h : Built a nodes n σ) : n < nodes.size := by
  cases h with
  | bottom hnode => exact (Array.getElem?_eq_some_iff.mp hnode).1
  | above hnode => exact (Array.getElem?_eq_some_iff.mp hnode).1

/-- A pile is no higher than the number of its node. -/
theorem length_le (h : Built a nodes n σ) : σ.length ≤ n := by
  induction h with
  | bottom => exact Nat.le_refl 0
  | above _ _ _ _ hlt _ ih =>
    rw [List.length_cons]
    omega

/-! ### The way down -/

/-- A way ends where no parts are left. -/
theorem waysDown_zero (nodes : Array Node) (n : Nat) (rs : List Reading) (depth : Nat) :
    Stack.waysDown nodes (depth + 1) [⟨n, rs, 0⟩] [] = [(n, [rs])] := by
  cases depth <;> rfl

/-- A way goes on over the one link of its node. -/
theorem waysDown_succ {m i : Nat} {r : Reading} {w : Int}
    (hnode : nodes[n]? = some ⟨i, r.stop, [⟨m, r⟩], w⟩) (haside : r.isAside = false)
    (rs : List Reading) (k depth : Nat) :
    Stack.waysDown nodes (depth + 1) [⟨n, rs, k + 1⟩] [] =
      Stack.waysDown nodes depth [⟨m, r :: rs, k⟩] [] := by
  have hstep : stepDown nodes [⟨n, rs, k + 1⟩] [] = ([⟨m, r :: rs, k⟩], []) := by
    simp [stepDown, hnode, Way.over, haside]
  rw [Stack.waysDown.eq_def]
  simp only [hstep]

/-- **The one way down** over a number of parts ends below them, with their readings. -/
theorem waysDown (h : Built a nodes n σ) :
    ∀ (k : Nat) (rs : List Reading) (depth : Nat), k ≤ σ.length → k < depth →
      ∃ m, Stack.waysDown nodes depth [⟨n, rs, k⟩] [] =
          [(m, [Pile.readings (σ.take k) ++ rs])] ∧ Built a nodes m (σ.drop k) := by
  induction h with
  | @bottom w hnode =>
    intro k rs depth hk hdepth
    obtain rfl := Nat.le_zero.mp hk
    obtain ⟨d, rfl⟩ := Nat.exists_eq_add_of_lt hdepth
    exact ⟨0, waysDown_zero nodes 0 rs (0 + d), .bottom hnode⟩
  | @above n m k' r q w σ hnode hpos hstate haside hlt hbelow ih =>
    intro k rs depth hk hdepth
    obtain ⟨d, rfl⟩ := Nat.exists_eq_add_of_lt hdepth
    cases k with
    | zero =>
      exact ⟨n, waysDown_zero nodes n rs (0 + d), .above hnode hpos hstate haside hlt hbelow⟩
    | succ k =>
      obtain ⟨j, hj, hbuilt⟩ :=
        ih k (r :: rs) (k + 1 + d) (Nat.le_of_succ_le_succ hk) (by omega)
      refine ⟨j, ?_, hbuilt⟩
      rw [waysDown_succ hnode haside rs k (k + 1 + d), hj, Pile.readings, Pile.readings,
        List.take_succ_cons, List.map_cons, List.reverse_cons, List.append_assoc]
      rfl

/-- The reading of the whole pile. -/
theorem whole (h : Built a nodes n σ) :
    ∀ {depth : Nat} (rs : List Reading), σ.length < depth →
      Stack.whole nodes depth n rs = σ.readings ++ rs := by
  induction h with
  | @bottom w hnode =>
    intro depth rs hdepth
    obtain ⟨d, rfl⟩ := Nat.exists_eq_add_of_lt hdepth
    have hget : nodes.getD 0 default = ⟨0, 0, [], w⟩ := by
      rw [Array.getD_eq_getD_getElem?, hnode]
      rfl
    rw [Stack.whole, hget]
    rfl
  | @above n m k' r q w σ hnode _ _ _ _ _ ih =>
    intro depth rs hdepth
    obtain ⟨d, rfl⟩ := Nat.exists_eq_add_of_lt hdepth
    have hget : nodes.getD n default = ⟨k', r.stop, [⟨m, r⟩], w⟩ := by
      rw [Array.getD_eq_getD_getElem?, hnode]
      rfl
    rw [Stack.whole, hget]
    show Stack.whole nodes _ m (r :: rs) = _
    rw [ih (r :: rs) (by rw [List.length_cons]; omega), Pile.readings, Pile.readings, List.map_cons,
      List.reverse_cons, List.append_assoc]
    rfl

theorem isAside_eq (h : Built a nodes n σ) : ∀ e ∈ σ, e.1.isAside = false := by
  induction h with
  | bottom => exact List.forall_mem_nil _
  | above _ _ _ haside _ _ ih => exact List.forall_mem_cons.mpr ⟨haside, ih⟩

/-- One more reading on top. -/
theorem push (h : Built a nodes n σ) {r : Reading} (haside : r.isAside = false)
    {k : Nat} (hpos : 0 < k) (hstate : b.states[k]? = some (σ.top.goto r.symbol))
    (hab : a.Extends b) (w : Int) :
    Built b (nodes.push ⟨k, r.stop, [⟨n, r⟩], w⟩) nodes.size (σ.push r) :=
  .above Array.getElem?_push_size hpos hstate haside h.lt_size (h.mono hab (longer_push _ _))

end Built

/-! ## Steps on a pile -/

/-- Readings none of which is a comment are all parts of their phrase. -/
theorem splitAsides_eq {rs : List Reading} (h : ∀ r ∈ rs, r.isAside = false) :
    splitAsides rs = (rs, []) := by
  have hnone : rs.reverse.takeWhile Reading.isAside = [] := by
    cases hrs : rs.reverse with
    | nil => rfl
    | cons r ts =>
      have haside := h r (List.mem_reverse.mp (hrs ▸ List.mem_cons_self))
      rw [List.takeWhile_cons, haside]
      rfl
  rw [splitAsides, hnone]
  simp

variable {p : Stack} {n : Nat} {σ : Pile}

theorem Holds.top (h : p.Holds n σ) :
    (p.top 0).position = σ.stop ∧ p.automaton.states[(p.top 0).state]? = some σ.top ∧
      ∀ token, p.automaton.actions (p.top 0).state token = σ.actions token := by
  obtain ⟨x, -, hget, hpos, hstate, hactions⟩ := h.built.exists_node h.sound
  have htop : p.top 0 = x := by
    rw [Stack.top, head, h.heads]
    exact hget
  rw [htop]
  exact ⟨hpos, hstate, hactions⟩

/-- Going over a token puts it on top of the pile. -/
theorem Holds.shift (h : p.Holds n σ) (x : Lexeme) (gap : Nat) {p' : Stack} {k : Nat}
    (hgoto : p.goto (p.top 0).state x.token = (p', k)) :
    ∃ m, (p'.push 0 (.leaf x gap false) k).Holds m (σ.push (.leaf x gap false)) := by
  obtain ⟨-, hstate, -⟩ := h.top
  obtain ⟨automaton, nodes, heads, finished⟩ := p
  obtain ⟨hsound, hheads, hbuilt, hfinished⟩ := h
  obtain rfl : heads = #[⟨n, .active⟩] := hheads
  obtain rfl : finished = none := hfinished
  obtain ⟨hsound', hextends, hpos, hgoal⟩ := Automaton.goto_spec hsound hstate x.token
  obtain ⟨rfl, rfl⟩ := Prod.mk.inj hgoto
  exact ⟨nodes.size, hsound', rfl,
    hbuilt.push (r := .leaf x gap false) rfl hpos hgoal hextends _, rfl⟩

/-- The second of two heads in the place of the first. -/
theorem replaceHeads (h k : Head) :
    (#[h, k].setIfInBounds 0 (#[h, k].getD 1 default)).eraseIdxIfInBounds 1 = #[k] := by
  simp [Array.eraseIdxIfInBounds]

/-- Ending a phrase makes one new head, and the pile below that has the phrase on top. -/
theorem Holds.reduce (h : p.Holds n σ) {i : Spot} (hdone : i.done ≤ σ.length) :
    ∃ p' m, p.reduce 0 i = (p', some 1) ∧ (p'.replaceHead 0 1).Holds m (σ.end_ i) := by
  obtain ⟨automaton, nodes, heads, finished⟩ := p
  obtain ⟨hsound, hheads, hbuilt, hfinished⟩ := h
  obtain rfl : heads = #[⟨n, .active⟩] := hheads
  obtain rfl : finished = none := hfinished
  change automaton.Sound at hsound
  change Built automaton nodes n σ at hbuilt
  have hlt := hbuilt.lt_size
  have hle := hbuilt.length_le
  obtain ⟨m, hways, hbelow⟩ := hbuilt.waysDown i.done [] (nodes.size + 2) hdone (by omega)
  rw [List.append_nil] at hways
  obtain ⟨x, hx, hget, -, hstate, -⟩ := hbelow.exists_node hsound
  obtain ⟨hsound', hextends, hpos, hgoal⟩ :=
    Automaton.goto_spec hsound hstate (Grammar.tokenCount + i.phrase)
  -- the phrase over the one way down; no comment stands behind its last part
  let r : Reading :=
    .ofChildren (Grammar.tokenCount + i.phrase) i.weight (Pile.readings (σ.take i.done))
  have hbest : best (Grammar.tokenCount + i.phrase) i.weight [Pile.readings (σ.take i.done)] =
      some (r, []) := by
    have hnone : ∀ t ∈ Pile.readings (σ.take i.done), t.isAside = false := by
      intro t ht
      obtain ⟨e, he, rfl⟩ := List.mem_map.mp (List.mem_reverse.mp ht)
      exact hbuilt.isAside_eq e (List.mem_of_mem_take he)
    rw [best, List.foldl_nil, phraseOver, splitAsides_eq hnone]
  have haside : r.isAside = false := rfl
  have hpop : pop ⟨automaton, nodes, #[⟨n, .active⟩], none⟩ 0 i.done =
      [(m, [Pile.readings (σ.take i.done)])] := hways
  have hnode : (node ⟨automaton, nodes, #[⟨n, .active⟩], none⟩ m).state = x.state :=
    congrArg Node.state hget
  let goal := automaton.goto x.state (Grammar.tokenCount + i.phrase)
  let top : Node := ⟨goal.2, r.stop, [⟨m, r⟩], (nodes.getD m default).weight + r.weight⟩
  refine ⟨⟨goal.1, nodes.push top, #[⟨n, .active⟩, ⟨nodes.size, .active⟩], none⟩, nodes.size, ?_,
    hsound', replaceHeads _ _, hbelow.push (r := r) haside hpos hgoal hextends _, rfl⟩
  rw [Stack.reduce, hpop]
  simp only [List.foldl_cons, List.foldl_nil, addPhrase, hbest, hnode]
  rfl

/-! ## Runs of steps -/

theorem act_shift (v : Nat) (x : Lexeme) (r : Reading) (p : Stack) :
    act v x r [.shift] none p =
      ((p.goto (p.top v).state x.token).1.push v r (p.goto (p.top v).state x.token).2,
        some .over) := rfl

theorem act_reduce {v : Nat} {i : Spot} {p p' : Stack} {new : Nat}
    (h : p.reduce v i = (p', some new)) (x : Lexeme) (r : Reading) :
    act v x r [.reduce i] none p = (p', some (.ended (some new))) := by
  rw [act, h]
  rfl

/-- **Step lemma**: a head goes over a token, or goes on with it behind a phrase that ends. -/
theorem Holds.takeOver_step (h : p.Holds n σ) {x : Lexeme} (hx : x.isComment = false)
    (gap fuel : Nat) :
    (σ.actions x.token = [.shift] →
      ∃ m, (takeOver 0 gap (fuel + 1) x p).Holds m (σ.push (.leaf x gap false))) ∧
    ∀ i, σ.actions x.token = [.reduce i] → i.done ≤ σ.length →
      ∃ p' m, takeOver 0 gap (fuel + 1) x p = takeOver 0 gap fuel x p' ∧ p'.Holds m (σ.end_ i) := by
  have hcomment : ¬(x.token = TokenClass.comment.code ∨ x.token = TokenClass.pageComment.code) := by
    simpa [Lexeme.isComment] using hx
  obtain ⟨-, -, hactions⟩ := h.top
  constructor
  · intro hdo
    obtain ⟨m, hm⟩ := h.shift x gap rfl
    refine ⟨m, ?_⟩
    rw [Stack.takeOver]
    simp only [if_neg hcomment, hactions, hdo, act_shift]
    exact hm
  · intro i hdo hdone
    obtain ⟨p', m, hreduce, hm⟩ := h.reduce hdone
    refine ⟨_, m, ?_, hm⟩
    rw [Stack.takeOver]
    simp only [if_neg hcomment, hactions, hdo, act_reduce hreduce]

/-- The script ends at the head. -/
theorem Holds.takeOver_accept (h : p.Holds n σ) {x : Lexeme} (hx : x.isComment = false)
    (hdo : σ.actions x.token = [.accept]) (gap fuel : Nat) :
    (takeOver 0 gap (fuel + 1) x p).finished = some σ.whole ∧
      (takeOver 0 gap (fuel + 1) x p).heads = #[⟨n, .done⟩] := by
  have hcomment : ¬(x.token = TokenClass.comment.code ∨ x.token = TokenClass.pageComment.code) := by
    simpa [Lexeme.isComment] using hx
  obtain ⟨-, -, hactions⟩ := h.top
  have htake : takeOver 0 gap (fuel + 1) x p = p.finish 0 := by
    rw [Stack.takeOver]
    simp only [if_neg hcomment, hactions, hdo, act]
  obtain ⟨automaton, nodes, heads, finished⟩ := p
  obtain ⟨hsound, hheads, hbuilt, hfinished⟩ := h
  obtain rfl : heads = #[⟨n, .active⟩] := hheads
  obtain rfl : finished = none := hfinished
  have hlt : σ.length < nodes.size + 1 :=
    Nat.lt_succ_of_lt (Nat.lt_of_le_of_lt hbuilt.length_le hbuilt.lt_size)
  have hwhole : Stack.whole nodes (nodes.size + 1) n [] = σ.readings := by
    rw [hbuilt.whole [] hlt, List.append_nil]
  rw [htake]
  constructor
  · show some (Reading.ofChildren _ 0 (Stack.whole nodes (nodes.size + 1) n [])) = _
    rw [hwhole]
    rfl
  · rfl

variable {s : Source} {τ : Pile} {k : Nat} {y : Lexeme}

/-- The head still has the given number of steps to the end of the script. -/
structure Left (s : Source) (p : Stack) (τ : Pile) (y : Lexeme) (k : Nat) : Prop where
  run : ∃ n σ x, p.Holds n σ ∧ s.Next σ.top σ.stop x ∧ Pile.Steps s k σ x τ y

/-- The script has been read. -/
structure Read (p : Stack) (τ : Pile) : Prop where
  finished : p.finished = some τ.whole
  heads : ∃ n, p.heads = #[⟨n, .done⟩]

/-- **A token is taken**: phrases end until the head can go over it, or the script ends. -/
theorem takeOver_run (haccept : τ.actions y.token = [.accept]) {x : Lexeme}
    (hs : Pile.Steps s k σ x τ y) :
    ∀ {p : Stack} {n fuel : Nat}, p.Holds n σ → x.isComment = false → k < fuel →
      (∃ l < k, Left s (takeOver 0 (x.start - σ.stop) fuel x p) τ y l) ∨
        Read (takeOver 0 (x.start - σ.stop) fuel x p) τ := by
  -- on the steps that are left: a phrase that ends takes one, and the head goes on; a token that is
  -- gone over ends its turn
  induction hs with
  | refl σ x =>
    intro p n fuel h hx hfuel
    obtain ⟨fuel, rfl⟩ := Nat.exists_eq_add_of_lt hfuel
    obtain ⟨hfinished, hheads⟩ := h.takeOver_accept hx haccept (x.start - σ.stop) (0 + fuel)
    exact .inr ⟨hfinished, n, hheads⟩
  | @head k σ τ' υ x y' z hstep hs ih =>
    intro p n fuel h hx hfuel
    obtain ⟨fuel, rfl⟩ : ∃ f, fuel = f + 1 := ⟨fuel - 1, by omega⟩
    obtain ⟨hshift, hends⟩ := h.takeOver_step hx (x.start - σ.stop) fuel
    cases hstep with
    | ends hdo hpos hdone =>
      obtain ⟨p', m, htake, hm⟩ := hends _ hdo hdone
      rw [htake, ← Pile.stop_end hpos hdone]
      rcases ih haccept hm hx (Nat.lt_of_succ_lt_succ hfuel) with ⟨l, hl, hleft⟩ | hread
      · exact .inl ⟨l, by omega, hleft⟩
      · exact .inr hread
    | goes hdo hnext =>
      obtain ⟨m, hm⟩ := hshift hdo
      exact .inl ⟨k, by omega, m, _, _, hm, hnext, hs⟩

/-- One token further. -/
theorem advance_run (haccept : τ.actions y.token = [.accept]) (h : Left s p τ y k)
    (hk : k < bound s) : (∃ l < k, Left s (advance s 0 p) τ y l) ∨ Read (advance s 0 p) τ := by
  obtain ⟨n, σ, x, hholds, hnext, hs⟩ := h
  obtain ⟨hposition, hstate, -⟩ := hholds.top
  have hadvance : advance s 0 p = takeOver 0 (x.start - σ.stop) (bound s) x p := by
    rw [advance]
    simp only [Automaton.state_eq hstate, hposition, hnext.lexeme]
  rw [hadvance]
  exact takeOver_run haccept hs hholds hnext.part hk

theorem Left.active (h : Left s p τ y k) : (p.head 0).status = .active := by
  obtain ⟨n, σ, x, hholds, -, -⟩ := h
  rw [head, hholds.heads]
  rfl

theorem Read.not_active (h : Read p τ) : ¬(p.head 0).status = .active := by
  obtain ⟨n, hheads⟩ := h.heads
  rw [head, hheads]
  exact nofun

/-- As far as the head goes in its turn. -/
theorem advanceTo_run (haccept : τ.actions y.token = [.accept]) :
    ∀ {fuel k : Nat} {p : Stack} (position : Nat), Left s p τ y k → k < bound s → k < fuel →
      (∃ l < k, Left s (advanceTo s 0 fuel position p).1 τ y l) ∨
        Read (advanceTo s 0 fuel position p).1 τ
  | 0, k, _, _, _, _, hfuel => absurd hfuel (Nat.not_lt_zero k)
  | fuel + 1, k, p, position, h, hk, hfuel => by
    rw [advanceTo, if_pos h.active]
    dsimp only
    -- every token that is taken leaves fewer steps, so the fuel lasts
    rcases advance_run haccept h hk with ⟨l, hl, hleft⟩ | hread
    · split
      · exact .inl ⟨l, hl, hleft⟩
      · rcases advanceTo_run haccept position hleft (by omega) (show l < fuel by omega) with
          ⟨j, hj, hleft⟩ | hread
        · exact .inl ⟨j, by omega, hleft⟩
        · exact .inr hread
    · right
      split
      · exact hread
      · cases fuel with
        | zero => exact hread
        | succ fuel =>
          rw [advanceTo, if_neg hread.not_active]
          exact hread

/-- One head stays as it is, unless it is done. -/
theorem condense_eq {n : Nat} {st : Status} (h : p.heads = #[⟨n, st⟩]) :
    (condense p).finished = p.finished ∧
      if st = .done then (condense p).heads = #[] else condense p = p := by
  obtain ⟨automaton, nodes, heads, finished⟩ := p
  obtain rfl : heads = #[⟨n, st⟩] := h
  cases st with
  | active => simp [condense, changeHeads, settleHeads, settleHead, keptHeads]
  | stuck => simp [condense, changeHeads, settleHeads, settleHead, keptHeads]
  | done => simp [condense, changeHeads, settleHeads, keptHeads]

/-- A round of all heads is one turn of the only head. -/
theorem advanceAll_run (haccept : τ.actions y.token = [.accept]) (position : Nat)
    (h : Left s p τ y k) (hk : k < bound s) :
    (∃ l < k, Left s (condense (advanceAll s (bound s) 0 position p).1) τ y l) ∨
      (condense (advanceAll s (bound s) 0 position p).1).finished = some τ.whole ∧
        (condense (advanceAll s (bound s) 0 position p).1).heads = #[] := by
  have hsize : ∀ {p : Stack} {e : Head}, p.heads = #[e] → p.heads.size = 1 := by
    intro p e he
    rw [he]
    rfl
  obtain ⟨b, hb⟩ : ∃ b, bound s = b + 2 := ⟨64 * (s.size + 16) - 2, by rw [bound]; omega⟩
  have hactive : 0 < p.heads.size := by
    obtain ⟨n, σ, x, hholds, -, -⟩ := h
    rw [hsize hholds.heads]
    exact Nat.one_pos
  -- the round is over after the first head, for there is no second one
  have hround : ∀ {e : Head}, (advanceTo s 0 (bound s) position p).1.heads = #[e] →
      (advanceAll s (bound s) 0 position p).1 = (advanceTo s 0 (bound s) position p).1 := by
    intro e he
    have hone : ¬1 < (advanceTo s 0 (b + 2) position p).1.heads.size := by
      rw [← hb, hsize he]
      exact Nat.lt_irrefl 1
    rw [hb, advanceAll, if_pos hactive, ← hb]
    dsimp only
    rw [advanceAll, hb, Nat.zero_add, if_neg hone]
  rcases advanceTo_run haccept position h hk hk with ⟨l, hl, hleft⟩ | hread
  · left
    obtain ⟨n, σ, x, hholds, hnext, hs⟩ := hleft
    rw [hround hholds.heads, (condense_eq hholds.heads).2]
    exact ⟨l, hl, n, σ, x, hholds, hnext, hs⟩
  · right
    obtain ⟨n, hheads⟩ := hread.heads
    obtain ⟨hfinished, hempty⟩ := condense_eq hheads
    rw [hround hheads]
    exact ⟨hfinished.trans hread.finished, hempty⟩

/-- **All tokens are taken.** -/
theorem run_run (haccept : τ.actions y.token = [.accept]) :
    ∀ {fuel k : Nat} {p : Stack} (position : Nat), Left s p τ y k → k < bound s → k < fuel →
      (run s fuel position p).finished = some τ.whole
  | 0, k, _, _, _, _, hfuel => absurd hfuel (Nat.not_lt_zero k)
  | fuel + 1, k, p, position, h, hk, hfuel => by
    have hany : p.heads.any (·.status = .active) = true := by
      obtain ⟨n, σ, x, hholds, -, -⟩ := h
      simp [hholds.heads]
    rw [run, if_pos hany]
    dsimp only
    rcases advanceAll_run haccept position h hk with ⟨l, hl, hleft⟩ | ⟨hfinished, hheads⟩
    · exact run_run haccept _ hleft (by omega) (by omega)
    · cases fuel with
      | zero => exact hfinished
      | succ fuel =>
        rw [run, hheads, if_neg (by simp)]
        exact hfinished

theorem init_holds : init.Holds 0 [] where
  sound := Automaton.init_sound
  heads := rfl
  built := .bottom (w := 0) rfl
  finished := rfl

end Stack

/-- **A run of steps is what the reader reads**: from the first token of a text to its end, with
fewer steps than the reader has. -/
theorem Source.read?_of_steps {s : Source} {k : Nat} {τ : Pile} {x y : Lexeme}
    (hfirst : s.Next .start 0 x) (hs : Pile.Steps s k [] x τ y)
    (haccept : τ.actions y.token = [.accept]) (hk : k < Stack.bound s) :
    s.read? = some τ.whole := by
  rw [Source.read?]
  exact Stack.run_run haccept 0 ⟨0, [], x, Stack.init_holds, hfirst, hs⟩ hk hk

end RouteAtlas.Script
