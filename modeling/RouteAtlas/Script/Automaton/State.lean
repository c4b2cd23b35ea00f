import RouteAtlas.Script.Automaton.Tables
import RouteAtlas.Script.Grammar.Precedence
import Std.Data.HashMap

/-!
# States of the reader

A state is a set of spots that the text read so far may be in the middle of, each with the tokens
that may follow its phrase. States are made when they are first met, and kept.

- `State`: a state; `State.valid` holds the tokens that can come next;
- `Automaton.goto`: the state behind a symbol;
- `State.actions`: what to do on a token;
- `State.agrees`: two states that can be made one.
-/

namespace RouteAtlas.Script

/-- A state of the reader. -/
structure State where
  kernel : Kernel
  /-- The tokens that can come next. -/
  valid : TokenSet
deriving Inhabited

/-- What to do on a token. -/
inductive Action where
  /-- The script ends here. -/
  | accept
  /-- The phrase of a spot ends before the token. -/
  | reduce (spot : Spot)
  /-- The token belongs to a phrase that is going on. -/
  | shift
deriving DecidableEq

namespace State

/-- The state of a kernel. -/
def ofKernel (kernel : Kernel) : State :=
  ⟨kernel, kernel.foldl
    (fun s (i, follow) => s ||| match i.next with
      | none => follow
      | some x => Grammar.first x)
    0⟩

/-- The number of the phrase that is a whole script with its end. -/
def wholePhrase : Nat := Grammar.ruleCount

/-- The spot before the whole script. -/
def startSpot : Spot := ⟨wholePhrase, 0, none, none, 0, [⟨Symbol.ofPhrase .program, none, none⟩]⟩

/-- The first state, in which a script may also end. -/
def start : State :=
  let s := ofKernel [(startSpot, .single TokenClass.endOfText.code)]
  { s with valid := s.valid ||| .single TokenClass.endOfText.code }

/-- The tokens that may follow a phrase where it starts within one of the spots, if it does. -/
def follow? (s : State) (b : Nat) : Option TokenSet :=
  s.kernel.foldl
    (fun found (i, follow) =>
      match i.next with
      | none => found
      | some y =>
        if y < Grammar.tokenCount then found
        else match Grammar.reach? (y - Grammar.tokenCount) b with
          | none => found
          | some r =>
            let behind := match i.after.next with
              | none => follow
              | some z => Grammar.first z
            some (found.getD 0 ||| if r.whole then r.follow ||| behind else r.follow))
    none

/-- The kernel behind a symbol: spots that go on over it, and spots that start with it. -/
def advance (s : State) (x : Nat) : Kernel :=
  let onward := s.kernel.foldl
    (fun k (i, follow) => if i.next = some x then Kernel.union [(i.after, follow)] k else k) []
  (Grammar.starts x).foldl
    (fun k (b, spots) =>
      match s.follow? b with
      | none => k
      | some follow => Kernel.union (spots.map fun i => (i, follow)) k)
    onward

/-! ## Actions -/

/-- Phrases that end before a token: their spots, of equal rank, and their sides. -/
structure Endings where
  spots : List Spot := []
  contender : Contender := ⟨none, []⟩
  sides : List (Option Side) := []

/-- Adds a phrase that can end; of two ranks the higher one stays. -/
def Endings.add (e : Endings) (i : Spot) : Endings :=
  let fresh (e : Endings) : Endings :=
    { spots := e.spots ++ [i]
      contender := ⟨i.rank,
        if e.contender.phrases.contains i.phrase then e.contender.phrases
        else e.contender.phrases ++ [i.phrase]⟩
      sides := i.side :: e.sides }
  if e.spots.isEmpty then fresh {}
  else match (Contender.mk i.rank [i.phrase]).compare e.contender with
    | .gt => fresh {}
    | .eq => fresh e
    | .lt => e

/-- The phrases that can end before a token. -/
def endings (s : State) (token : Nat) : Endings :=
  s.kernel.foldl
    (fun e (i, follow) => if i.next.isNone && TokenSet.has follow token then e.add i else e)
    {}

/-- The spots that a token can go on with. -/
def ongoing (s : State) (token : Nat) : List Spot :=
  s.kernel.filterMap fun (i, _) =>
    match i.next with
    | none => none
    | some x => if TokenSet.has (Grammar.first x) token then some i else none

/-- The phrases that end are of higher or lower rank than one of those that go on. -/
def ranked (e : Endings) (going : List Spot) (o : Ordering) : Bool :=
  going.any fun i => (Contender.mk i.rank [i.phrase]).compare e.contender == o

/-- What to do on a token: end phrases, or go on. Where both can be done, the ranks decide, and
after them the side to which the ending phrases lean; if neither does, both are done. A repetition
that could go on or end is ended, since it can still be part of a longer one. -/
def actions (s : State) (token : Nat) : List Action :=
  let e := s.endings token
  let going := s.ongoing token
  let ends := e.spots.map Action.reduce
  if e.spots.any (·.phrase = wholePhrase) then [.accept]
  else if going.isEmpty then ends
  else if ends.isEmpty then [.shift]
  else
    let owners := (going.map (·.phrase) ++ e.contender.phrases).eraseDups
    let higher := ranked e going .gt
    let lower := ranked e going .lt
    if owners.length = 1 ∧ owners.all (Grammar.phraseCount ≤ ·) then ends
    else if higher ∧ ¬lower then [.shift]
    else if lower ∧ ¬higher then ends
    else if higher ∧ lower then ends ++ [.shift]
    else if e.sides.all (· = some .left) then ends
    else if e.sides.all (· = some .right) then [.shift]
    else ends ++ [.shift]

/-! ## States that can be made one -/

/-- The marks that begin with another mark, where what follows the shorter one may look like the
rest of the longer. -/
def continuations : List (String × List String) :=
  [(">", [">>", ">>>", ">=", ">>=", ">>>="]), ("<", ["<<", "<<="]), ("&", ["&&", "&&="]),
   ("|", ["||="]), ("\x7b", ["\x7b|"]), ("+", ["++"]), ("-", ["--"]), ("/", ["/="]),
   ("*", ["*="]), ("?", ["?.", "??", "??=", "?:"]), ("!", ["!=", "!=="])]

/-- The longer marks, each with the shorter ones it begins with. -/
def longerMarks : List (Nat × TokenSet) :=
  (continuations.flatMap fun (short, longs) => longs.map fun long =>
    (Symbol.ofSpelling long, TokenSet.single (Symbol.ofSpelling short)))

/-- A mark that only the first set holds begins with a mark of the second. -/
def blurs (a b : TokenSet) : Bool :=
  longerMarks.any fun (long, short) => a.has long && !b.has long && b.meets short

/-- The tokens whose reading depends on what may come next: the semicolons that are not written,
and the tokens that tell the insides of literals and operators apart. -/
def sensitive : TokenSet :=
  [TokenClass.lineEnd, .signatureEnd, .templateText, .conditionalMark, .escape, .pattern].foldl
    (fun s c => s ||| .single c.code) (.single (Symbol.ofSpelling "||"))

/-- The two states are in the middle of the same spots, read the same tokens alike, and do the same
on every token that both expect. -/
def agrees (s r : State) : Bool :=
  s.kernel.map (·.1) == r.kernel.map (·.1) &&
  s.valid &&& sensitive == r.valid &&& sensitive &&
  !blurs s.valid r.valid && !blurs r.valid s.valid &&
  (s.kernel.zip r.kernel).all fun ((i, a), (_, b)) =>
    a == b ||
      if i.next.isNone then (a ^^^ b) &&& (s.valid &&& r.valid) == 0
      else (a ^^^ b) &&& sensitive == 0 && !blurs a b && !blurs b a

end State

/-! ## The automaton -/

/-- The states met so far. -/
structure Automaton where
  states : Array State := #[]
  index : Std.HashMap Kernel Nat := {}
  gotos : Std.HashMap (Nat × Nat) Nat := {}

namespace Automaton

/-- The state of a number. -/
def state (a : Automaton) (n : Nat) : State := a.states.getD n default

/-- The number of the state of a kernel. -/
def add (a : Automaton) (k : Kernel) : Automaton × Nat :=
  match a.index[k]? with
  | some n => (a, n)
  | none =>
    let n := a.states.size
    ({ a with states := a.states.push (.ofKernel k), index := a.index.insert k n }, n)

/-- The automaton with its first state. No symbol leads back to that one. -/
def init : Automaton := { states := #[.start] }

/-- The state behind a symbol. -/
def goto (a : Automaton) (n x : Nat) : Automaton × Nat :=
  match a.gotos[(n, x)]? with
  | some m => (a, m)
  | none =>
    let (a, m) := a.add ((a.state n).advance x)
    ({ a with gotos := a.gotos.insert (n, x) m }, m)

/-- What to do on a token in a state. An empty script ends in the first state. -/
def actions (a : Automaton) (n token : Nat) : List Action :=
  if n = 0 ∧ token = TokenClass.endOfText.code then [.accept]
  else (a.state n).actions token

/-- The two states are equal or can be made one. -/
def agree (a : Automaton) (m n : Nat) : Bool :=
  m == n || (a.state m).agrees (a.state n)

/-- The state of two states made one. -/
def join (a : Automaton) (m n : Nat) : Automaton × Nat :=
  if m = n then (a, m)
  else a.add (Kernel.union (a.state n).kernel (a.state m).kernel)

end Automaton

end RouteAtlas.Script
