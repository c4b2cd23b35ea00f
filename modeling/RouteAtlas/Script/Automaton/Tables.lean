import RouteAtlas.Script.Automaton.Spot

/-!
# What a phrase can start with

- `SetTable`: sets of symbols for all phrases and repetitions, in one number;
- `Grammar.first`: the tokens that a symbol can start with;
- `Grammar.reach?`: what may follow a phrase at the start of another.
-/

namespace RouteAtlas.Script

/-- A set for every phrase and repetition, all in one number: each takes as many bits as there are
tokens, and two more. -/
abbrev SetTable := Nat

namespace SetTable

/-- The number of bits of a set. -/
def width : Nat := Grammar.tokenCount + 2

/-- The set of a phrase. -/
def row (t : SetTable) (a : Nat) : TokenSet := (t >>> (a * width)) % (1 <<< width)

/-- Adds a set to that of a phrase. -/
def join (t : SetTable) (a : Nat) (s : TokenSet) : SetTable := t ||| s <<< (a * width)

end SetTable

namespace Grammar

/-! ## First tokens -/

/-- The tokens of a set of symbols. -/
def tokensOf (s : TokenSet) : TokenSet := s % (1 <<< tokenCount)

/-- The phrases among the first symbols of every phrase. -/
def firstPhrases : List (List Nat) :=
  numbered.map fun r => (heads r).filterMap fun x =>
    if x < tokenCount then none else some (x - tokenCount)

/-- Adds to the first tokens of each phrase those of the phrases that it can start with. -/
def spread (firsts : SetTable) : SetTable :=
  firstPhrases.zipIdx.foldl
    (fun t (bs, a) => bs.foldl (fun t b => SetTable.join t a (SetTable.row t b)) t) firsts

/-- The first tokens of all phrases: `spread` as long as it adds one. A phrase starts within at
most as many phrases as there are, so that `n` rounds for `n` phrases are enough. -/
def settle : Nat → SetTable → SetTable
  | 0, firsts => firsts
  | n + 1, firsts =>
    let more := spread firsts
    if more = firsts then firsts else settle n more

/-- The tokens that phrases and repetitions can start with. -/
def firsts : SetTable :=
  settle ruleCount (headSets.zipIdx.foldl (fun t (s, a) => SetTable.join t a (tokensOf s)) 0)

/-- The tokens that a symbol can start with. -/
def first (x : Nat) : TokenSet :=
  if x < tokenCount then .single x else SetTable.row firsts (x - tokenCount)

/-! ## Phrases at the start of others -/

end Grammar

/-- What may follow a phrase at the start of another: some tokens, and, if it may be all of the
outer phrase, whatever follows that one. -/
structure Reach where
  follow : TokenSet
  whole : Bool
deriving DecidableEq

namespace Reach

/-- What stands in a set for a phrase that can stand at the start. -/
def present : TokenSet := .single Grammar.tokenCount

/-- What stands in a set for a phrase that may be all of the outer one. -/
def wholeMark : TokenSet := .single (Grammar.tokenCount + 1)

/-- The reach that a set stands for. -/
def ofSet (s : TokenSet) : Option Reach :=
  if s = 0 then none else some ⟨Grammar.tokensOf s, s.testBit (Grammar.tokenCount + 1)⟩

end Reach

namespace Grammar

/-- The phrases that the productions of each phrase start with, each with the symbol behind it. -/
def edges : List (List (Nat × Option Nat)) :=
  numbered.map fun r => (openings r).filterMap fun (x, y) =>
    if x < tokenCount then none else some (x - tokenCount, y)

/-- The same, to be looked up by number. -/
def edgeTable : Array (List (Nat × Option Nat)) := edges.toArray

/-- Follows the edges of the phrases in `work`, and of those for which something new is found. -/
def chase : Nat → List Nat → SetTable → SetTable
  | 0, _, reaches => reaches
  | _ + 1, [], reaches => reaches
  | n + 1, a :: work, reaches =>
    let outer := SetTable.row reaches a
    let (reaches, work) := (edgeTable.getD a []).foldl
      (fun (reaches, work) (b, behind) =>
        let r := match behind with
          | none => outer
          | some x => first x ||| Reach.present
        if SetTable.row reaches b &&& r = r then (reaches, work)
        else (SetTable.join reaches b r, b :: work))
      (reaches, work)
    chase n work reaches

/-- The phrases that a phrase can start with, itself among them. Each of them can be new once for
every token and twice more, which bounds the number of rounds. -/
def closureOf (a : Nat) : SetTable :=
  chase (ruleCount * (tokenCount + 3)) [a] (SetTable.join 0 a (Reach.present ||| Reach.wholeMark))

/-- The same for all phrases, each worked out when it is first asked for. -/
def closureTable : Array (Thunk SetTable) :=
  ((List.range ruleCount).map fun a => Thunk.mk fun _ => closureOf a).toArray

/-- What may follow the phrase `b` at the start of the phrase `a`, if it can stand there. -/
def reach? (a b : Nat) : Option Reach :=
  Reach.ofSet (SetTable.row (closureTable.getD a default).get b)

end Grammar

end RouteAtlas.Script
