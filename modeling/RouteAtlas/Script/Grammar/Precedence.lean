import RouteAtlas.Script.Grammar.Rule

/-!
# Which rule stands

Where one part of a text can end a phrase or go on with it, or end two different phrases, the ranks
of the rules decide. Ranks that are numbers are compared as numbers. Levels and phrases are
compared by lists that each hold some of them in falling order; the first list that holds both
sides in different places decides.

- `Grammar.orders`: the lists;
- `Rank.compare`: the comparison.
-/

namespace RouteAtlas.Script

/-- An entry of a list by which rules are compared. -/
inductive Place where
  | level (l : Level)
  | phrase (p : Phrase)

namespace Grammar

open Place

/-- The levels and phrases in falling order. -/
def orders : List (List Place) :=
  [[level .member, level .templateCall, level .call, phrase .updateExpression, level .unaryWord,
    level .power, level .product, level .sum, level .shift, level .relation, level .equality,
    level .bitAnd, level .bitXor, level .bitOr, level .logicalAnd, level .logicalOr,
    level .conditional, phrase .sequenceExpression, phrase .arrowFunction],
   [level .member, level .templateCall, level .newCall, level .call, phrase .expression],
   [level .declare, level .literal],
   [phrase .primaryExpression, phrase .statementBlock, level .object],
   [phrase .metaProperty, phrase .importWord],
   [phrase .exportStatement, phrase .primaryExpression],
   [phrase .lexicalDeclaration, phrase .primaryExpression],
   [level .call, level .instantiation, level .unary, level .binary, phrase .awaitExpression,
    phrase .arrowFunction],
   [level .heritage, level .instantiation],
   [phrase .intersectionType, phrase .unionType, phrase .conditionalType, phrase .functionType,
    level .binary, phrase .typePredicate, phrase .readonlyType],
   [phrase .mappedTypeClause, phrase .primaryExpression],
   [phrase .accessibilityModifier, phrase .primaryExpression],
   [level .declare, phrase .expression],
   [phrase .predefinedType, phrase .unaryExpression],
   [phrase .type, phrase .flowMaybeType],
   [phrase .readonlyType, phrase .pattern],
   [phrase .readonlyType, phrase .primaryExpression],
   [phrase .typeQuery, phrase .querySubscript],
   [phrase .nestedTypeIdentifier, phrase .genericType, phrase .primaryType, phrase .lookupType,
    phrase .indexTypeQuery, phrase .type],
   [phrase .asExpression, phrase .satisfiesExpression, phrase .primaryType],
   [phrase .memberExpression, phrase .importedMember],
   [phrase .queryMember, phrase .primaryExpression],
   [phrase .queryCall, phrase .primaryExpression],
   [phrase .queryInstantiation, phrase .primaryExpression],
   [phrase .typeQuery, phrase .primaryExpression],
   [phrase .overrideModifier, phrase .primaryExpression],
   [phrase .decoratorCallExpression, phrase .decorator],
   [phrase .literalType, phrase .pattern],
   [phrase .predefinedType, phrase .pattern],
   [phrase .callExpression, phrase .queryCall],
   [phrase .callExpression, phrase .importedCall]]

end Grammar

/-- One side of a comparison: a rank, and the phrases whose rules have it. -/
structure Contender where
  rank : Option Rank
  phrases : List Nat

namespace Contender

/-- The contender stands at a place of a list. -/
def standsAt (c : Contender) : Place → Bool
  | .level l => c.rank = some (.level l)
  | .phrase p => c.phrases.contains p.ctorIdx

/-- The comparison by one list; `a` and `b` tell that a side was met before. -/
def compareIn (c d : Contender) : (a b : Bool) → List Place → Option Ordering
  | _, _, [] => none
  | a, b, p :: ps =>
    if c.standsAt p then if b then some .lt else compareIn c d true b ps
    else if d.standsAt p then if a then some .gt else compareIn c d a true ps
    else compareIn c d a b ps

/-- The number of a rank that is a number; a contender without a rank has zero. -/
def number? (c : Contender) : Option Int :=
  match c.rank with
  | none => some 0
  | some (.number n) => some n
  | some (.level _) => none

/-- Compares two contenders. -/
def compare (c d : Contender) : Ordering :=
  let byLists := ((Grammar.orders.findSome? (compareIn c d false false)).getD .eq)
  match c.number?, d.number? with
  | some m, some n => if m = 0 ∧ n = 0 then byLists else Ord.compare m n
  | _, _ => byLists

end Contender

end RouteAtlas.Script
