import RouteAtlas.Script.Stack

/-!
# Reading a script

The heads of a stack take turns, each going on until it has passed the place that the others have
come to. A head whose next token does not fit is dropped as long as another one goes on. A script
is well-formed if a head comes to its end.

- `Stack.advance`: takes one head over one token;
- `Stack.condense`: orders the heads, and drops those that are of no use;
- `Source.read?`: the reading of a script.
-/

namespace RouteAtlas.Script

namespace Stack

variable (s : Source)

/-- The reading of a script that ends at a head: all readings below it, in order. -/
def whole (nodes : Array Node) : (depth : Nat) → Nat → List Reading → List Reading
  | 0, _, rs => rs
  | depth + 1, n, rs =>
    match (nodes.getD n default).links with
    | [] => rs
    | l :: _ => whole nodes depth l.node (l.reading :: rs)

/-- Ends the script at a head; the better one of two readings stays. -/
def finish (p : Stack) (v : Nat) : Stack :=
  let rs := whole p.nodes (p.nodes.size + 1) (p.head v).node []
  let new := Reading.ofChildren (Symbol.ofPhrase .program) 0 rs
  let finished := match p.finished with
    | none => new
    | some old => if old.isBetter new then new else old
  { p.setStatus v .done with finished }

/-- Puts the head `new` in the place of the head `v`. -/
def replaceHead (p : Stack) (v new : Nat) : Stack :=
  p.changeHeads fun hs => (hs.setIfInBounds v (hs.getD new default)).eraseIdxIfInBounds new

/-- What a round of actions has come to. -/
inductive Round where
  /-- The head is over the token, or at the end of the script. -/
  | over
  /-- Phrases were ended; the first new head of the last one, if any is left. -/
  | ended (new : Option Nat)

/-- Does the actions of a token in turn. Ending a phrase makes new heads, going over the token
moves the head itself. -/
def act (v : Nat) (x : Lexeme) (r : Reading) : List Action → Option Round → Stack →
    Stack × Option Round
  | [], round, p => (p, round)
  | .accept :: _, _, p => (p.finish v, some .over)
  | .shift :: _, _, p =>
    let (p, state) := p.goto (p.top v).state x.token
    (p.push v r state, some .over)
  | .reduce spot :: as, round, p =>
    let (p, new) := p.reduce v spot
    let round := match round, new with
      | some (.ended (some m)), none => .ended (some m)
      | _, new => .ended new
    act v x r as (some round) p

/-- Takes a head over a token. Where phrases end, the head goes on as the new head with the same
token; the other new heads read theirs anew. A keyword that does not fit is tried as a name. -/
def takeOver (v : Nat) (gap : Nat) : (fuel : Nat) → Lexeme → Stack → Stack
  | 0, _, p => p.setStatus v .stuck
  | fuel + 1, x, p =>
    let state := (p.top v).state
    if x.token = TokenClass.comment.code ∨ x.token = TokenClass.pageComment.code then
      p.push v (.leaf x gap true) state
    else
      let actions := p.automaton.actions state x.token
      match act v x (.leaf x gap false) actions none p with
      | (p, some .over) => p
      | (p, some (.ended (some new))) => takeOver v gap fuel x (p.replaceHead v new)
      | (p, some (.ended none)) => p.setStatus v .done
      | (p, none) =>
        if Grammar.wordSet.has x.token &&
            !(p.automaton.actions state TokenClass.name.code).isEmpty then
          takeOver v gap fuel { x with token := TokenClass.name.code } p
        else p.setStatus v .stuck

/-- A bound for the number of steps that a text takes. -/
def bound : Nat := 64 * (s.size + 16)

/-- Takes a head over one token. -/
def advance (v : Nat) (p : Stack) : Stack :=
  let n := p.top v
  match s.lexeme? (p.automaton.state n.state).valid n.position with
  | none => p.setStatus v .stuck
  | some x => takeOver v (x.start - n.position) (bound s) x p

/-- Takes a head on until it has passed a position; a head other than the first stops there
too. -/
def advanceTo (v : Nat) : (fuel : Nat) → Nat → Stack → Stack × Nat
  | 0, position, p => (p, position)
  | fuel + 1, position, p =>
    if (p.head v).status = .active then
      let p := advance s v p
      let reached := (p.top v).position
      if position < reached ∨ 0 < v ∧ position = reached then (p, reached)
      else advanceTo v fuel position p
    else (p, position)

/-- Takes all heads on, those that are made on the way too. -/
def advanceAll : (fuel : Nat) → (v position : Nat) → Stack → Stack × Nat
  | 0, _, position, p => (p, position)
  | fuel + 1, v, position, p =>
    if v < p.heads.size then
      let (p, position) := advanceTo s v (bound s) position p
      advanceAll fuel (v + 1) position p
    else (p, position)

/-! ## Heads of no use -/

/-- Compares the head `i` with the heads from `j` to before it: a stuck head gives way, heads that
can be made one are, and a heavier head comes first. Tells the number of the last head looked
at. -/
def settleHead : (fuel : Nat) → (i j : Nat) → Stack → Stack × Nat
  | 0, i, _, p => (p, i)
  | fuel + 1, i, j, p =>
    if i ≤ j then (p, i)
    else
      let a := p.head j
      let b := p.head i
      if a.status ≠ .stuck ∧ b.status = .stuck then
        (p.changeHeads (·.eraseIdxIfInBounds i), i - 1)
      else if a.status = .stuck ∧ b.status ≠ .stuck then
        settleHead fuel (i - 1) j (p.changeHeads (·.eraseIdxIfInBounds j))
      else if p.canMerge j i then (p.merge j i, i - 1)
      else
        let heavier := (p.node a.node).weight < (p.node b.node).weight
        settleHead fuel i (j + 1)
          (if heavier then p.changeHeads (·.swapIfInBounds i j) else p)

/-- Settles the heads from `i` on. -/
def settleHeads : (fuel : Nat) → (i : Nat) → Stack → Stack
  | 0, _, p => p
  | fuel + 1, i, p =>
    if p.heads.size ≤ i then p
    else
      let (p, i) := settleHead p.heads.size i 0 p
      settleHeads fuel (i + 1) p

/-- The number of heads that are kept. -/
def keptHeads : Nat := 6

/-- Drops the heads that are done, settles the others, and keeps the first of them. -/
def condense (p : Stack) : Stack :=
  let p := p.changeHeads (·.filter fun h => h.status != .done)
  let p := settleHeads (p.heads.size + 1) 0 p
  p.changeHeads (·.take keptHeads)

/-- Goes on until no head is active. -/
def run : (fuel : Nat) → (position : Nat) → Stack → Stack
  | 0, _, p => p
  | fuel + 1, position, p =>
    if p.heads.any (·.status = .active) then
      let (p, position) := advanceAll s (bound s) 0 position p
      run fuel position (condense p)
    else p

end Stack

/-- The reading of a script, if it is well-formed. -/
def Source.read? (s : Source) : Option Reading :=
  (Stack.run s (Stack.bound s) 0 .init).finished

end RouteAtlas.Script
