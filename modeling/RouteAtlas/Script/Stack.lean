import RouteAtlas.Script.Automaton.State
import RouteAtlas.Script.Reading

/-!
# Stacks of readings

A text may have several readings until more of it is seen. They are kept together in one graph:
each node stands for a state at a position, and its links lead, each over a reading, to the nodes
before. Readings that come to the same state at the same position share a node from there on.

- `Stack`: the graph, with one head for every set of readings that is still open;
- `Stack.merge`: makes two heads one;
- `Stack.pop`: the ways down from a node over a number of parts;
- `Stack.reduce`: puts phrases in the place of their parts.
-/

namespace RouteAtlas.Script

/-- A link to an earlier node, over a reading. -/
structure Link where
  node : Nat
  reading : Reading
deriving Inhabited

/-- A state at a position. -/
structure Node where
  state : Nat
  position : Nat
  links : List Link
  /-- The greatest weight of the readings that lead to the node. -/
  weight : Int
deriving Inhabited

/-- How a head fares. -/
inductive Status where
  | active
  /-- The next token does not fit. -/
  | stuck
  /-- The text has been read, or another head has taken over. -/
  | done
deriving DecidableEq, Inhabited

/-- A node at which readings are still open. -/
structure Head where
  node : Nat
  status : Status
deriving Inhabited

/-- The graph of readings. -/
structure Stack where
  automaton : Automaton
  nodes : Array Node
  heads : Array Head
  /-- The best reading of the whole text. -/
  finished : Option Reading

namespace Stack

/-- A stack at the start of a text. -/
def init : Stack := ⟨.init, #[⟨0, 0, [], 0⟩], #[⟨0, .active⟩], none⟩

/-- The node of a number. -/
def node (p : Stack) (n : Nat) : Node := p.nodes.getD n default

/-- The head of a number. -/
def head (p : Stack) (v : Nat) : Head := p.heads.getD v default

/-- The node of a head. -/
def top (p : Stack) (v : Nat) : Node := p.node (p.head v).node

/-- Changes a node. -/
def changeNode (p : Stack) (n : Nat) (f : Node → Node) : Stack :=
  let ⟨automaton, nodes, heads, finished⟩ := p
  ⟨automaton, nodes.modify n f, heads, finished⟩

/-- Changes the heads. -/
def changeHeads (p : Stack) (f : Array Head → Array Head) : Stack :=
  let ⟨automaton, nodes, heads, finished⟩ := p
  ⟨automaton, nodes, f heads, finished⟩

/-- Sets the status of a head. -/
def setStatus (p : Stack) (v : Nat) (s : Status) : Stack :=
  p.changeHeads (·.modify v fun h => { h with status := s })

/-- Adds a node behind another, over a reading; tells its number. -/
def addNode (p : Stack) (before : Nat) (r : Reading) (state : Nat) : Stack × Nat :=
  let ⟨automaton, nodes, heads, finished⟩ := p
  let weight := (nodes.getD before default).weight + r.weight
  let n := nodes.size
  (⟨automaton, nodes.push ⟨state, r.stop, [⟨before, r⟩], weight⟩, heads, finished⟩, n)

/-- Moves a head over a reading to a state. -/
def push (p : Stack) (v : Nat) (r : Reading) (state : Nat) : Stack :=
  let (p, n) := p.addNode (p.head v).node r state
  p.changeHeads (·.modify v fun h => { h with node := n })

/-- The state behind a symbol. -/
def goto (p : Stack) (state x : Nat) : Stack × Nat :=
  let ⟨automaton, nodes, heads, finished⟩ := p
  let (automaton, n) := automaton.goto state x
  (⟨automaton, nodes, heads, finished⟩, n)

/-! ## Merging -/

/-- The two nodes can be made one. -/
def canJoin (p : Stack) (m n : Nat) : Bool :=
  (p.node m).position == (p.node n).position &&
    p.automaton.agree (p.node m).state (p.node n).state

/-- Gives the first node the states of both. -/
def joinStates (p : Stack) (m n : Nat) : Stack :=
  let a := (p.node m).state
  let b := (p.node n).state
  let ⟨automaton, nodes, heads, finished⟩ := p
  let (automaton, s) := automaton.join a b
  ⟨automaton, nodes.modify m fun x => { x with state := s }, heads, finished⟩

/-- The most links that a node can have. -/
def maxLinks : Nat := 8

/-- Adds a link to a node. A link that looks like one of the node leads to the same node as that
one, or to a node that is made one with it; of two links between the same nodes the heavier one
stays. The depth bounds how far down nodes are made one. -/
def addLink : (depth : Nat) → Stack → Nat → Link → Stack
  | 0, p, _, _ => p
  | depth + 1, p, n, l =>
    let weight := (p.node l.node).weight + l.reading.weight
    let raise (p : Stack) : Stack := p.changeNode n fun x => { x with weight := max x.weight weight }
    let like? := (p.node n).links.findIdx? fun e =>
      e.reading.isAlike l.reading && (e.node == l.node || p.canJoin e.node l.node)
    if l.node = n then p
    else match like? with
      | none =>
        if maxLinks ≤ (p.node n).links.length then p
        else raise (p.changeNode n fun x => { x with links := x.links ++ [l] })
      | some i =>
        let e := (p.node n).links.getD i default
        if e.node = l.node then
          if e.reading.weight < l.reading.weight then
            p.changeNode n fun x => { x with links := x.links.set i l, weight }
          else p
        else
          let links := (p.node l.node).links
          raise (links.foldl (fun p m => addLink depth p e.node m) (p.joinStates e.node l.node))

/-- The two heads can be made one: they are at one position, and their states agree. -/
def canMerge (p : Stack) (u v : Nat) : Bool :=
  (p.head u).status = .active && (p.head v).status = .active &&
    p.canJoin (p.head u).node (p.head v).node

/-- Makes the head `v` one with the head `u` before it. -/
def merge (p : Stack) (u v : Nat) : Stack :=
  let m := (p.head u).node
  let n := (p.head v).node
  let links := (p.node n).links
  let p := if m = n then p
    else links.foldl (fun p l => addLink p.nodes.size p m l) (p.joinStates m n)
  p.changeHeads (·.eraseIdxIfInBounds v)

/-! ## Reducing -/

/-- A way down the graph: the node reached, the readings passed, the number of parts still to
pass. -/
structure Way where
  node : Nat
  readings : List Reading
  left : Nat

/-- The most ways that are followed at a time. -/
def maxWays : Nat := 64

/-- A way one link further. -/
def Way.over (w : Way) (l : Link) : Way :=
  ⟨l.node, l.reading :: w.readings, if l.reading.isAside then w.left else w.left - 1⟩

/-- Ways that end at the same node, each with the readings passed. -/
abbrev Ends := List (Nat × List (List Reading))

/-- Adds a way that has ended. -/
def Ends.add (n : Nat) (rs : List Reading) : Ends → Ends
  | [] => [(n, [rs])]
  | (m, ways) :: es => if m = n then (m, ways ++ [rs]) :: es else (m, ways) :: Ends.add n rs es

/-- Moves all ways one link down. The first link of a node is taken by the way itself, the others
by new ways behind all. -/
def stepDown (nodes : Array Node) (ways : List Way) (ends : Ends) : List Way × Ends :=
  let (_, on, more, ends) := ways.foldl
    (fun (size, on, more, ends) w =>
      if w.left = 0 then (size - 1, on, more, Ends.add w.node w.readings ends)
      else match (nodes.getD w.node default).links with
        | [] => (size - 1, on, more, ends)
        | l :: ls =>
          let new := (ls.take (maxWays - size)).map w.over
          (size + new.length, w.over l :: on, more ++ new, ends))
    (ways.length, [], [], ends)
  (on.reverse ++ more, ends)

/-- The ways down over a number of parts, once all have ended. -/
def waysDown (nodes : Array Node) : (depth : Nat) → List Way → Ends → Ends
  | 0, _, ends => ends
  | _ + 1, [], ends => ends
  | depth + 1, ways, ends =>
    let (ways, ends) := stepDown nodes ways ends
    waysDown nodes depth ways ends

/-- The ways down from a head over a number of parts. -/
def pop (p : Stack) (v count : Nat) : Ends :=
  waysDown p.nodes (p.nodes.size + 2) [⟨(p.head v).node, [], count⟩] []

/-- The parts of a phrase, and the comments behind the last one. -/
def splitAsides (rs : List Reading) : List Reading × List Reading :=
  let behind := (rs.reverse.takeWhile Reading.isAside).reverse
  (rs.take (rs.length - behind.length), behind)

/-- The phrase over a way, with the comments behind it. -/
def phraseOver (symbol : Nat) (weight : Int) (rs : List Reading) : Reading × List Reading :=
  let (parts, behind) := splitAsides rs
  (.ofChildren symbol weight parts, behind)

/-- The best phrase over one of several ways, with the comments behind it. -/
def best (symbol : Nat) (weight : Int) : List (List Reading) → Option (Reading × List Reading)
  | [] => none
  | rs :: ways =>
    some <| ways.foldl
      (fun old rs =>
        let new := phraseOver symbol weight rs
        if old.1.isBetter new.1 then new else old)
      (phraseOver symbol weight rs)

/-- The most heads that may stand before a new one. -/
def maxHeads : Nat := 10

/-- Makes a new head one with the first earlier head that it can be made one with, the head `v`
left out. -/
def mergeNew (p : Stack) (v new : Nat) : Stack :=
  match (List.range new).find? fun u => u != v && p.canMerge u new with
  | none => p
  | some u => p.merge u new

/-- Puts a phrase behind a node: a new head over the best of the ways. -/
def addPhrase (p : Stack) (v : Nat) (i : Spot) (end_ : Nat × List (List Reading)) : Stack :=
  let (n, ways) := end_
  let new := p.heads.size
  if maxHeads < new then p
  else match best (Grammar.tokenCount + i.phrase) i.weight ways with
    | none => p
    | some (r, behind) =>
      let (p, state) := p.goto (p.node n).state r.symbol
      let (p, m) := p.addNode n r state
      let (p, m) := behind.foldl (fun (p, m) c => addNode p m c state) (p, m)
      mergeNew (p.changeHeads (·.push ⟨m, .active⟩)) v new

/-- Ends the phrase of a spot at a head: for every node below its parts a new head. Tells the
first new head, if one is left. -/
def reduce (p : Stack) (v : Nat) (i : Spot) : Stack × Option Nat :=
  let first := p.heads.size
  let ends := p.pop v i.done
  let p := ends.foldl (fun p e => addPhrase p v i e) p
  let left := p.heads.size
  (p, if first < left then some first else none)

end Stack

end RouteAtlas.Script
