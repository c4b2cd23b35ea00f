import RouteAtlas.Decimal.Binary64
import RouteAtlas.Text.CodePoint

/-!
# The shortest decimal of a number

- `Binary64.shortest`: the decimal with the fewest digits that is read back as the number, and of
  those the nearest to it;
- `NumberFormat`: how a decimal is laid out;
- `Binary64.text`: the text of a number.
-/

namespace RouteAtlas

namespace Binary64

/-- The decimals `c * 10 ^ k` and `x * 2 ^ e` brought to a common unit. -/
def sides (c : Nat) (k : Int) (x : Nat) (e : Int) : Nat × Nat :=
  (c * Nat.pow 10 k.toNat * Nat.pow 2 (-e).toNat, x * Nat.pow 2 e.toNat * Nat.pow 10 (-k).toNat)

/-- The power of ten of the first digit of `m * 2 ^ e`, for a positive `m`. -/
def leadingPower (m : Nat) (e : Int) : Int :=
  let n := m * Nat.pow 2 e.toNat
  let d := Nat.pow 2 (-e).toNat
  if d ≤ n then ((Nat.toDigits 10 (n / d)).length : Int) - 1
  else -((Nat.toDigits 10 ((d + n - 1) / n - 1)).length : Int)

/-- The decimal `c * 10 ^ k` is read back as `m * 2 ^ e`: it lies in the interval around the number
that reaches halfway to its neighbours, with the ends if `m` is even. -/
def readsBack (m : Nat) (e : Int) (c : Nat) (k : Int) : Bool :=
  let lower := if m = Nat.pow 2 52 ∧ minExponent < e then 4 * m - 1 else 4 * m - 2
  let (a, lo) := sides c k lower (e - 2)
  let (b, hi) := sides c k (4 * m + 2) (e - 2)
  if m % 2 = 0 then lo ≤ a && b ≤ hi else lo < a && b < hi

/-- Of the two decimals `c` and `c + 1` at `10 ^ k` around `m * 2 ^ e`, the one to prefer: that
which is read back, the nearer of two, the even one of two equally near. -/
def nearer? (m : Nat) (e : Int) (c : Nat) (k : Int) : Option Nat :=
  match readsBack m e c k, readsBack m e (c + 1) k with
  | false, false => none
  | true, false => some c
  | false, true => some (c + 1)
  | true, true =>
    let (middle, value) := sides (2 * c + 1) k (2 * m) e
    if value < middle then some c
    else if middle < value then some (c + 1)
    else some (if c % 2 = 0 then c else c + 1)

/-- The first decimal that is read back, from the given number of digits on. -/
def shortestFrom (m : Nat) (e : Int) (power : Int) : (steps digits : Nat) → Nat × Int
  | 0, _ => (m, e)
  | steps + 1, digits =>
    let k := power - (digits - 1 : Nat)
    let (unit, value) := sides 1 k m e
    match nearer? m e (value / unit) k with
    | some c => (c, k)
    | none => shortestFrom m e power steps (digits + 1)

/-- Moves zeros at the end of the digits into the power of ten. -/
def trimZeros : Nat → Nat × Int → Nat × Int
  | 0, p => p
  | n + 1, (c, k) => if c % 10 = 0 then trimZeros n (c / 10, k + 1) else (c, k)

/-- The digits and the power of ten of the shortest decimal of `m * 2 ^ e`; seventeen digits are
always enough. -/
def shortest (m : Nat) (e : Int) : Nat × Int :=
  trimZeros 18 (shortestFrom m e (leadingPower m e) 17 1)

end Binary64

/-- How a decimal is laid out. -/
structure NumberFormat where
  /-- The least and greatest power of ten of the first digit of a number written positionally. -/
  least : Int
  greatest : Int
  /-- The least number of digits of an exponent. -/
  exponentDigits : Nat

/-- Numbers from `0.0001` up to below `10 ^ 16` are written positionally, always with a point;
others with an exponent of two digits or more. -/
def NumberFormat.standard : NumberFormat := ⟨-4, 15, 2⟩

namespace NumberFormat

/-- The digits `ds` with the first at the power `power` of ten, written positionally. -/
def positional (ds : List Char) (power : Int) : List Char :=
  if power < 0 then ['0', '.'] ++ List.replicate (-power - 1).toNat '0' ++ ds
  else
    let whole := power.toNat + 1
    let filled := ds ++ List.replicate (whole - ds.length) '0'
    let fraction := filled.drop whole
    filled.take whole ++ '.' :: (if fraction.isEmpty then ['0'] else fraction)

/-- The digits `ds` with the first at the power `power` of ten, written with an exponent. -/
def scientific (f : NumberFormat) (ds : List Char) (power : Int) : List Char :=
  let exponent := Nat.toDigits 10 power.natAbs
  let padded := List.replicate (f.exponentDigits - exponent.length) '0' ++ exponent
  let mantissa := match ds with
    | [] => []
    | [d] => [d]
    | d :: rest => d :: '.' :: rest
  mantissa ++ 'e' :: (if power < 0 then '-' else '+') :: padded

/-- The text of a positive decimal `c * 10 ^ k`. -/
def decimal (f : NumberFormat) (c : Nat) (k : Int) : List Char :=
  let ds := Nat.toDigits 10 c
  let power := k + ds.length - 1
  if f.least ≤ power ∧ power ≤ f.greatest then positional ds power else f.scientific ds power

end NumberFormat

/-- The text of a number: its shortest decimal in the standard layout. -/
def Binary64.text : Binary64 → Text
  | .nan => Text.ofString "nan"
  | .infinite negative => Text.ofString (if negative then "-inf" else "inf")
  | .finite negative m e =>
    let sign := if negative then ['-'] else []
    if m = 0 then Text.ofChars (sign ++ ['0', '.', '0'])
    else
      let (c, k) := shortest m e
      Text.ofChars (sign ++ NumberFormat.standard.decimal c k)

end RouteAtlas
