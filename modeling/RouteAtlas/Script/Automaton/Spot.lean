import RouteAtlas.Script.Grammar.Production

/-!
# Spots

A spot is a production with a place among its steps. Of what has been read, only the number of
steps and the rank and the side of the last one are kept: two spots of which the rest is the same
are one.

- `TokenSet`: sets of symbols;
- `Spot`: a spot; `Spot.next` is the symbol behind its place;
- `Spot.compare`: the order in which the spots of a state are kept;
- `Grammar.starts`: the spots behind the first symbol of a production.
-/

namespace RouteAtlas.Script

/-- A set of symbols, as the number whose bits are its members. -/
abbrev TokenSet := Nat

namespace TokenSet

/-- The set of one symbol. -/
def single (x : Nat) : TokenSet := 1 <<< x

/-- The set of the given symbols. -/
def ofList (xs : List Nat) : TokenSet := xs.foldl (fun s x => s ||| single x) 0

/-- The symbol belongs to the set. -/
def has (s : TokenSet) (x : Nat) : Bool := s.testBit x

/-- The two sets share a symbol. -/
def meets (s r : TokenSet) : Bool := s &&& r != 0

end TokenSet

/-- A production with a place among its steps. -/
structure Spot where
  /-- What it is a production of, numbered from the first phrase. -/
  phrase : Nat
  /-- The number of steps before the place. -/
  done : Nat
  /-- The rank and the side of the step before the place. -/
  rank : Option Rank
  side : Option Side
  weight : Int
  /-- The steps behind the place. -/
  rest : List Step
deriving DecidableEq, Hashable, Inhabited

namespace Spot

/-- The symbol behind the place. -/
def next (i : Spot) : Option Nat :=
  match i.rest with
  | [] => none
  | s :: _ => some s.symbol

/-- The spot with its place one step further. -/
def after (i : Spot) : Spot :=
  match i.rest with
  | [] => i
  | s :: rest => ⟨i.phrase, i.done + 1, s.rank, s.side, i.weight, rest⟩

/-- The spot behind the first step of a production, if that is the given symbol. -/
def behind? (x : Nat) (p : Production) : Option Spot :=
  match p.steps with
  | [] => none
  | s :: rest => if s.symbol = x then some ⟨p.phrase, 1, s.rank, s.side, p.weight, rest⟩ else none

/-! ## The order of spots -/

/-- A number for every integer. -/
def ofInt : Int → Nat
  | .ofNat n => 2 * n
  | .negSucc n => 2 * n + 1

/-- A number for every rank. -/
def ofRank : Option Rank → Nat
  | none => 0
  | some (.level l) => 2 * l.ctorIdx + 1
  | some (.number n) => 2 * ofInt n + 2

/-- A number for every side. -/
def ofSide : Option Side → Nat
  | none => 0
  | some .left => 1
  | some .right => 2

/-- Compares two lists of numbers from the left. -/
def compareAll : List Nat → List Nat → Ordering
  | [], [] => .eq
  | [], _ :: _ => .lt
  | _ :: _, [] => .gt
  | a :: as, b :: bs => if a = b then compareAll as bs else if a < b then .lt else .gt

/-- The place and the symbols of a spot. -/
def symbols (i : Spot) : List Nat := i.done :: i.phrase :: i.rest.map Step.symbol

/-- The weight, the ranks and the sides of a spot. -/
def ranks (i : Spot) : List Nat :=
  ofInt i.weight :: ofRank i.rank :: ofSide i.side ::
    i.rest.flatMap fun s => [ofRank s.rank, ofSide s.side]

/-- Compares two spots, by their ranks only where their symbols are the same. -/
def compare (i j : Spot) : Ordering :=
  match compareAll i.symbols j.symbols with
  | .eq => compareAll i.ranks j.ranks
  | o => o

end Spot

/-- Spots in rising order, each with the tokens that may follow its phrase. -/
abbrev Kernel := List (Spot × TokenSet)

namespace Kernel

/-- Divides a kernel at a spot: what is below, the tokens at the spot itself, what is above. -/
def split (i : Spot) : Kernel → Kernel × TokenSet × Kernel
  | [] => ([], 0, [])
  | (j, s) :: k =>
    match i.compare j with
    | .lt => ([], 0, (j, s) :: k)
    | .eq => ([], s, k)
    | .gt =>
      let (below, at_, above) := split i k
      ((j, s) :: below, at_, above)

/-- The spots of two kernels. -/
def union : Kernel → Kernel → Kernel
  | [], k => k
  | (i, s) :: l, k =>
    let (below, at_, above) := split i k
    below ++ (i, s ||| at_) :: union l above

/-- The kernel of any spots, by halves; the depth bounds how often they are divided. -/
def ofSpots : (depth : Nat) → List (Spot × TokenSet) → Kernel
  | 0, l => l
  | _, [] => []
  | _, [i] => [i]
  | depth + 1, l => union (ofSpots depth (l.take (l.length / 2))) (ofSpots depth (l.drop (l.length / 2)))

end Kernel

namespace Grammar

/-! ## What starts with a symbol -/

/-- The rule may stand for nothing. -/
def isNullable : Rule → Bool
  | .empty => true
  | .both a b => isNullable a && isNullable b
  | .either a b => isNullable a || isNullable b
  | .ranked _ _ r | .weighed _ r => isNullable r
  | .token _ | .spelled _ | .phrase _ | .many1 _ => false

/-- The first symbols of the sequences that a rule stands for. -/
def heads : Rule → List Nat
  | .empty => []
  | .both a b => heads a ++ if isNullable a then heads b else []
  | .either a b => heads a ++ heads b
  | .ranked _ _ r | .weighed _ r => heads r
  | r => [Symbol.ofRule r]

/-- The first two symbols of the sequences that a rule stands for; the second one is absent where
there is only one. -/
def openings : Rule → List (Nat × Option Nat)
  | .empty => []
  | .both a b =>
    ((openings a).flatMap fun
      | (x, some y) => [(x, some y)]
      | (x, none) => (heads b).map (fun y => (x, some y)) ++
          if isNullable b then [(x, none)] else []) ++
    if isNullable a then openings b else []
  | .either a b => openings a ++ openings b
  | .ranked _ _ r | .weighed _ r => openings r
  | r => [(Symbol.ofRule r, none)]

/-- The first symbols of every phrase and repetition. -/
def headSets : List TokenSet := numbered.map fun r => .ofList (heads r)

/-- The phrases and repetitions that have a production with the given first symbol, each with the
spots behind that symbol. -/
def startsWith (x : Nat) : List (Nat × List Spot) :=
  (headSets.zip numbered).zipIdx.filterMap fun ((heads, r), n) =>
    if TokenSet.has heads x then
      let spots := (productionsOf n r).filterMap (Spot.behind? x)
      some (n, (Kernel.ofSpots spots.length (spots.map fun i => (i, 0))).map (·.1))
    else none

/-- The same for all symbols, each worked out when it is first asked for. -/
def startTable : Array (Thunk (List (Nat × List Spot))) :=
  ((List.range (tokenCount + ruleCount)).map fun x => Thunk.mk fun _ => startsWith x).toArray

@[inherit_doc startsWith]
def starts (x : Nat) : List (Nat × List Spot) := (startTable.getD x default).get

end Grammar

end RouteAtlas.Script
