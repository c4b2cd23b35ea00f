import RouteAtlas.Script.Lexer

/-!
# Readings of a text

A reading of a part of a text is a tree of phrases whose leaves are its tokens. Comments are leaves
too; they stand among the children of a phrase without being parts of it.

- `Reading`: a reading;
- `Reading.compare`: the order in which readings of equal weight are preferred;
- `Reading.isBetter`: the choice between two readings of the same part.
-/

namespace RouteAtlas.Script

/-- A reading of a part of a text. -/
inductive Reading where
  /-- A token; `gap` is the number of characters between it and the token before, `aside` tells that
  it is a comment. -/
  | leaf (lexeme : Lexeme) (gap : Nat) (aside : Bool)
  /-- A phrase: its symbol, its weight, its place, the gap before it, and its children. -/
  | node (symbol : Nat) (weight : Int) (start stop gap : Nat) (children : List Reading)
deriving Inhabited

namespace Reading

/-- The symbol of a reading. -/
def symbol : Reading → Nat
  | leaf x _ _ => x.token
  | node symbol _ _ _ _ _ => symbol

/-- The weight of a reading. -/
def weight : Reading → Int
  | leaf _ _ _ => 0
  | node _ weight _ _ _ _ => weight

/-- The position of the first character. -/
def start : Reading → Nat
  | leaf x _ _ => x.start
  | node _ _ start _ _ _ => start

/-- The position behind the last character. -/
def stop : Reading → Nat
  | leaf x _ _ => x.stop
  | node _ _ _ stop _ _ => stop

/-- The number of characters between a reading and the token before. -/
def gap : Reading → Nat
  | leaf _ gap _ => gap
  | node _ _ _ _ gap _ => gap

/-- The reading is a comment. -/
def isAside : Reading → Bool
  | leaf _ _ aside => aside
  | node _ _ _ _ _ _ => false

/-- The parts of a phrase, with the comments among them. -/
def children : Reading → List Reading
  | leaf _ _ _ => []
  | node _ _ _ _ _ children => children

mutual

/-- Compares two readings: by symbol, then by the number of children, then by the children from the
left. -/
def compare : Reading → Reading → Ordering
  | leaf x _ _, leaf y _ _ => Ord.compare x.token y.token
  | leaf x _ _, node t _ _ _ _ ds =>
    (Ord.compare x.token t).then (Ord.compare 0 ds.length)
  | node s _ _ _ _ cs, leaf y _ _ =>
    (Ord.compare s y.token).then (Ord.compare cs.length 0)
  | node s _ _ _ _ cs, node t _ _ _ _ ds =>
    (Ord.compare s t).then ((Ord.compare cs.length ds.length).then (compareAll cs ds))

/-- Compares readings from the left. -/
def compareAll : List Reading → List Reading → Ordering
  | r :: rs, t :: ts =>
    match compare r t with
    | .eq => compareAll rs ts
    | o => o
  | _, _ => .eq

end

/-- The second reading of a part is to be taken for the first: it weighs more, or it weighs as much
and comes first. -/
def isBetter (old new : Reading) : Bool :=
  if old.weight = new.weight then old.compare new == .gt else old.weight < new.weight

/-- The two readings look alike from outside. -/
def isAlike (r t : Reading) : Bool :=
  r.symbol == t.symbol && r.gap == t.gap && r.stop - r.start == t.stop - t.start &&
    r.children.length == t.children.length && r.isAside == t.isAside

/-- The phrase with the given children; its weight is that of the production and of the children
together. -/
def ofChildren (symbol : Nat) (weight : Int) (children : List Reading) : Reading :=
  node symbol (children.foldl (fun w r => w + r.weight) weight)
    ((children.head?.map start).getD 0) ((children.getLast?.map stop).getD 0)
    ((children.head?.map gap).getD 0) children

end Reading

end RouteAtlas.Script
