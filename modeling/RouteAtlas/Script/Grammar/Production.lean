import RouteAtlas.Script.Grammar

/-!
# Productions

A rule stands for a number of sequences of symbols, its productions. A symbol is a token, a phrase,
or the repetition of a part of a rule; all three are numbered, tokens first. A repetition has two
kinds of productions: itself twice, and those of the part.

- `Symbol`: the numbers of tokens, phrases and repetitions;
- `Step`: a symbol with the rank and the side that hold behind it;
- `Rule.expand`: the sequences of steps that a rule stands for;
- `Grammar.numbered`: the rules of phrases and repetitions, by their numbers;
- `Grammar.productions`: the productions of every phrase and repetition.
-/

namespace RouteAtlas.Script

/-- The parts of a rule that are repeated, inner ones first. -/
def Rule.repeats : Rule → List Rule
  | .many1 r => r.repeats ++ [r]
  | .both a b | .either a b => a.repeats ++ b.repeats
  | .ranked _ _ r | .weighed _ r => r.repeats
  | .empty | .token _ | .spelled _ | .phrase _ => []

namespace Grammar

/-- The repeated parts of all rules, each once. -/
def repeats : List Rule := (rules.flatMap fun r => r.2.repeats).eraseDups

/-- The number of tokens. -/
def tokenCount : Nat := TokenClass.count + spellings.length

/-- The number of phrases. -/
def phraseCount : Nat := rules.length

/-- The number of phrases and repetitions. -/
def ruleCount : Nat := phraseCount + repeats.length

end Grammar

namespace Symbol

/-- The number of a keyword or a mark, if it is among the given ones, which are numbered from `n`
on. -/
def find (text : String) : (n : Nat) → List String → Nat
  | _, [] => TokenClass.endOfText.code
  | n, w :: ws => if text = w then n else find text (n + 1) ws

/-- The number of a keyword or a mark. -/
def ofSpelling (text : String) : Nat := find text TokenClass.count Grammar.spellings

/-- The number of a phrase. -/
def ofPhrase (p : Phrase) : Nat := Grammar.tokenCount + p.ctorIdx

/-- The number of the repetition of a part. -/
def ofRepeat (r : Rule) : Nat :=
  Grammar.tokenCount + Grammar.phraseCount + Grammar.repeats.idxOf r

/-- The number of a rule that is a single symbol. -/
def ofRule : Rule → Nat
  | .token t => t.code
  | .spelled text => ofSpelling text
  | .phrase p => ofPhrase p
  | .many1 r => ofRepeat r
  | _ => 0

end Symbol

/-- A step of a production: a symbol, with the rank and the side that hold behind it. -/
structure Step where
  symbol : Nat
  rank : Option Rank
  side : Option Side
deriving DecidableEq, Hashable

/-- Of two weights, the one farther from zero. -/
def heavier (v w : Int) : Int := if v.natAbs < w.natAbs then w else v

/-- Changes the last step. -/
def changeLast (f : Step → Step) : List Step → List Step
  | [] => []
  | [s] => [f s]
  | s :: ss => s :: changeLast f ss

/-- The sequences of steps that a rule stands for, each with its weight. The rank and the side are
those of the rules around it; they come back behind a ranked rule that is not the `last` one. -/
def Rule.expand (rank : Option Rank) (side : Option Side) (last : Bool) :
    Rule → List (List Step × Int)
  | .empty => [([], 0)]
  | .token t => [([⟨t.code, rank, side⟩], 0)]
  | .spelled text => [([⟨Symbol.ofSpelling text, rank, side⟩], 0)]
  | .phrase p => [([⟨Symbol.ofPhrase p, rank, side⟩], 0)]
  | .many1 r => [([⟨Symbol.ofRepeat r, rank, side⟩], 0)]
  | .both a b =>
    let ys := b.expand rank side last
    (a.expand rank side false).flatMap fun x => ys.map fun y => (x.1 ++ y.1, heavier x.2 y.2)
  | .either a b => a.expand rank side last ++ b.expand rank side last
  | .ranked k s r =>
    let back (t : Step) : Step :=
      if last then t
      else ⟨t.symbol, if k.isSome then rank else t.rank, if s.isSome then side else t.side⟩
    (r.expand (k.or rank) (s.or side) last).map fun x => (changeLast back x.1, x.2)
  | .weighed w r => (r.expand rank side last).map fun x => (x.1, heavier w x.2)

/-- A production: what it is a production of, numbered from the first phrase, its steps, and its
weight. -/
structure Production where
  phrase : Nat
  steps : List Step
  weight : Int

namespace Grammar

/-- The productions of a rule. -/
def productionsOf (phrase : Nat) (r : Rule) : List Production :=
  (r.expand none none true).map fun x => ⟨phrase, x.1, x.2⟩

/-- The rule of a phrase. -/
def ruleOf (n : Nat) : Rule := ((rules.find? fun r => r.1.ctorIdx == n).map (·.2)).getD .empty

/-- The rule of a repetition: the repetition twice, or the part. -/
def repetitionOf (r : Rule) : Rule := .either (.both (.many1 r) (.many1 r)) r

/-- The rules of phrases and repetitions in the order of their numbers. -/
def numbered : List Rule := (List.range phraseCount).map ruleOf ++ repeats.map repetitionOf

/-- The productions of every phrase and repetition. -/
def productions : List Production := numbered.zipIdx.flatMap fun r => productionsOf r.2 r.1

end Grammar

end RouteAtlas.Script
