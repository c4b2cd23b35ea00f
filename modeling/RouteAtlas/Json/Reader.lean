import RouteAtlas.Json.Value
import RouteAtlas.Text.Blank

/-!
# Reading JSON

Besides the standard, the names `NaN`, `Infinity` and `-Infinity` are numbers. Of two members of
one name the last wins. An escaped surrogate pair is one character; a lone surrogate stays.

Arrays and objects are read by recursion, and how deep they may lie depends on the stack that the
caller has left. `Json.maxDepth` is the depth for a caller who has used ten frames of a thousand;
the program started from a shell has used fewer, and reads a few levels more.

- `Json.Problem`, `Json.ReadError`: what is wrong with a text, and where;
- `Json.value`: the value at the front of a text;
- `Json.parse`: the value of a whole text.
-/

namespace RouteAtlas

namespace Json

/-- What is wrong with a text. -/
inductive Problem where
  | byteOrderMark
  | value
  | memberName
  | colon
  | comma
  | extra
  | unterminated
  | escape
  | unicodeEscape
  | control
deriving DecidableEq

/-- The wording of a problem. -/
def Problem.message : Problem → String
  | .byteOrderMark => "Unexpected UTF-8 BOM (decode using utf-8-sig)"
  | .value => "Expecting value"
  | .memberName => "Expecting property name enclosed in double quotes"
  | .colon => "Expecting ':' delimiter"
  | .comma => "Expecting ',' delimiter"
  | .extra => "Extra data"
  | .unterminated => "Unterminated string starting at"
  | .escape => "Invalid \\escape"
  | .unicodeEscape => "Invalid \\uXXXX escape"
  | .control => "Invalid control character at"

/-- The values that hold others. -/
inductive Container where
  | array
  | object
deriving DecidableEq

/-- The word for a value that holds others. -/
def Container.word : Container → String
  | .array => "array"
  | .object => "object"

/-- Why a reader stops: a problem and the text from there on, a number that is too long, or a value
that lies too deep in others. -/
inductive Stop where
  | problem (p : Problem) (rest : Text)
  | digits (count : Nat)
  | depth (container : Container)

/-- The outcome of a reader: what it read, and the text after it. -/
abbrev Read (α : Type) := Except Stop (α × Text)

/-- A blank between tokens. -/
def isBlank (p : CodePoint) : Bool := p.is ' ' || p.is '\t' || p.is '\n' || p.is '\r'

/-- The text without its leading blanks. -/
def skipBlanks (t : Text) : Text := t.dropWhile isBlank

/-! ## Strings -/

/-- The value of a hexadecimal digit. -/
def hexValue? (p : CodePoint) : Option Nat :=
  let n := p.val
  if 48 ≤ n ∧ n ≤ 57 then some (n - 48)
  else if 97 ≤ n ∧ n ≤ 102 then some (n - 87)
  else if 65 ≤ n ∧ n ≤ 70 then some (n - 55)
  else none

/-- The number that the first four characters name in hexadecimal. -/
def hexFour? : Text → Option Nat
  | a :: b :: c :: d :: _ => do
    let a ← hexValue? a
    let b ← hexValue? b
    let c ← hexValue? c
    let d ← hexValue? d
    return ((a * 16 + b) * 16 + c) * 16 + d
  | _ => none

/-- The character that a letter after a backslash names. -/
def letterEscape? (p : CodePoint) : Option Char :=
  if p.is '\x22' then some '\x22'
  else if p.is '\\' then some '\\'
  else if p.is '/' then some '/'
  else if p.is 'b' then some '\x08'
  else if p.is 'f' then some '\x0c'
  else if p.is 'n' then some '\n'
  else if p.is 'r' then some '\r'
  else if p.is 't' then some '\t'
  else none

/-- The character outside the first plane that a pair of surrogates stands for. -/
def joinPair (high low : Nat) : CodePoint :=
  CodePoint.ofNat (0x10000 + (high - 0xD800) * 0x400 + (low - 0xDC00))

/-- Reads the low half of a pair after its high half, if one follows: the code point and the number
of characters it took. -/
def lowHalf (high : Nat) (t : Text) : Except Stop (Option CodePoint) :=
  match t with
  | b :: u :: r =>
    if b.is '\\' && u.is 'u' && 6 < t.length then
      match hexFour? r with
      | none => .error (.problem .unicodeEscape (u :: r))
      | some n => .ok (if 0xDC00 ≤ n ∧ n ≤ 0xDFFF then some (joinPair high n) else none)
    else .ok none
  | _ => .ok none

/-- Reads the escape after a backslash: the code point and the number of characters after the
backslash. `here` is the text from the backslash on, `start` that from the opening quote on. -/
def escape (start here : Text) : Text → Except Stop (CodePoint × Nat)
  | [] => .error (.problem .unterminated start)
  | p :: t =>
    if p.is 'u' then
      match hexFour? t with
      | none => .error (.problem .unicodeEscape (p :: t))
      | some n =>
        if t.length ≤ 4 then .error (.problem .unicodeEscape (p :: t))
        else if 0xD800 ≤ n ∧ n ≤ 0xDBFF then
          match lowHalf n (t.drop 4) with
          | .error e => .error e
          | .ok (some q) => .ok (q, 11)
          | .ok none => .ok (CodePoint.ofNat n, 5)
        else .ok (CodePoint.ofNat n, 5)
    else match letterEscape? p with
      | some c => .ok (CodePoint.ofChar c, 1)
      | none => .error (.problem .escape here)

/-- The inside of a string up to its closing quote; `start` is the text from the opening quote on.
The first `skip` characters belong to an escape already read. -/
def stringTo (start : Text) : (skip : Nat) → Text → Read Text
  | _, [] => .error (.problem .unterminated start)
  | skip + 1, _ :: t => stringTo start skip t
  | 0, p :: t =>
    if p.is '\x22' then .ok ([], t)
    else if p.is '\\' then
      match escape start (p :: t) t with
      | .error e => .error e
      | .ok (q, n) => (stringTo start n t).map fun (s, r) => (q :: s, r)
    else if p.val ≤ 0x1F then .error (.problem .control (p :: t))
    else (stringTo start 0 t).map fun (s, r) => (p :: s, r)

/-! ## Numbers -/

/-- A decimal digit. -/
def isDigit (p : CodePoint) : Bool := 48 ≤ p.val && p.val ≤ 57

/-- The number that decimal digits name. -/
def digitsValue (ds : Text) : Nat := ds.foldl (fun n d => 10 * n + (d.val - 48)) 0

/-- The digits of a fraction, with the text after them. -/
def fraction (t : Text) : Text × Text :=
  match t with
  | p :: d :: r =>
    if p.is '.' && isDigit d then ((d :: r).takeWhile isDigit, (d :: r).dropWhile isDigit)
    else ([], t)
  | _ => ([], t)

/-- An exponent, if there is one, with the text after it. -/
def exponent (t : Text) : Option Int × Text :=
  let read (negative : Bool) (ds : Text) : Option Int × Text :=
    let digits := ds.takeWhile isDigit
    if digits.isEmpty then (none, t)
    else
      let n : Int := digitsValue digits
      (some (if negative then -n else n), ds.dropWhile isDigit)
  match t with
  | p :: r =>
    if p.is 'e' || p.is 'E' then
      match r with
      | s :: ds =>
        if s.is '-' then read true ds else if s.is '+' then read false ds else read false r
      | [] => (none, t)
    else (none, t)
  | [] => (none, t)

/-- The most digits that an integer may have. -/
def maxDigits : Nat := 4300

/-- The number that starts with the digits of `whole`, before the text `t`. -/
def numberFrom (negative : Bool) (whole t : Text) : Read Json :=
  let (part, r) := fraction t
  let (power?, r) := exponent r
  match part, power? with
  | [], none =>
    if maxDigits < whole.length then .error (.digits whole.length)
    else
      let n : Int := digitsValue whole
      .ok (.int (if negative then -n else n), r)
  | _, _ =>
    .ok (.float (.ofDecimal negative (digitsValue (whole ++ part))
      (power?.getD 0 - part.length)), r)

/-- The number at the front of `t`; `here` is the text from its sign on. -/
def number (negative : Bool) (here t : Text) : Read Json :=
  match t with
  | p :: r =>
    if p.is '0' then numberFrom negative [p] r
    else if isDigit p then
      numberFrom negative (t.takeWhile isDigit) (t.dropWhile isDigit)
    else .error (.problem .value here)
  | [] => .error (.problem .value here)

/-! ## Values -/

/-- The values that have a name. -/
def named : List (String × Json) :=
  [("null", .null), ("true", .bool true), ("false", .bool false), ("NaN", .float .nan),
    ("Infinity", .float (.infinite false)), ("-Infinity", .float (.infinite true))]

/-- The value whose name stands at the front of a text. -/
def named? (t : Text) : Option (Json × Text) :=
  (named.find? fun (s, _) => t.startsWith s).map fun (s, v) => (v, t.drop s.length)

/-- A value without parts: a name or a number. -/
def scalar (t : Text) : Read Json :=
  match named? t with
  | some found => .ok found
  | none =>
    match t with
    | p :: r => if p.is '-' then number true t r else number false t t
    | [] => .error (.problem .value t)

/-- The most arrays and objects that may lie inside each other, for a caller who has used ten frames
of the thousand that there are. -/
def maxDepth : Nat := 990

mutual

/-- The value at the front of a text; `depth` arrays and objects may lie inside each other. -/
def value : (fuel depth : Nat) → Text → Read Json
  | 0, _, t => .error (.problem .value t)
  | n + 1, depth, t =>
    match t with
    | [] => .error (.problem .value t)
    | p :: r =>
      if p.is '\x22' then (stringTo t 0 r).map fun (s, r) => (.string s, r)
      else if p.is '\x7b' then
        match depth, skipBlanks r with
        | 0, _ => .error (.depth .object)
        | depth + 1, q :: s =>
          if q.is '\x7d' then .ok (.object [], s) else members n depth [] (q :: s)
        | depth + 1, [] => members n depth [] []
      else if p.is '[' then
        match depth, skipBlanks r with
        | 0, _ => .error (.depth .array)
        | depth + 1, q :: s => if q.is ']' then .ok (.array [], s) else elements n depth [] (q :: s)
        | depth + 1, [] => elements n depth [] []
      else scalar t

/-- The members of an object from a name on; those before are given. -/
def members : (fuel depth : Nat) → List (Text × Json) → Text → Read Json
  | 0, _, _, t => .error (.problem .value t)
  | n + 1, depth, before, t =>
    match t with
    | [] => .error (.problem .memberName t)
    | p :: r =>
      if !p.is '\x22' then .error (.problem .memberName t)
      else match stringTo t 0 r with
        | .error e => .error e
        | .ok (name, r) =>
          match skipBlanks r with
          | [] => .error (.problem .colon [])
          | c :: r =>
            if !c.is ':' then .error (.problem .colon (c :: r))
            else match value n depth (skipBlanks r) with
              | .error e => .error e
              | .ok (v, r) =>
                let now := Table.insert before name v
                match skipBlanks r with
                | [] => .error (.problem .comma [])
                | c :: r =>
                  if c.is '\x7d' then .ok (.object now, r)
                  else if c.is ',' then members n depth now (skipBlanks r)
                  else .error (.problem .comma (c :: r))

/-- The elements of an array from a value on; those before are given, reversed. -/
def elements : (fuel depth : Nat) → List Json → Text → Read Json
  | 0, _, _, t => .error (.problem .value t)
  | n + 1, depth, before, t =>
    match value n depth t with
    | .error e => .error e
    | .ok (v, r) =>
      match skipBlanks r with
      | [] => .error (.problem .comma [])
      | c :: r =>
        if c.is ']' then .ok (.array (v :: before).reverse, r)
        else if c.is ',' then elements n depth (v :: before) (skipBlanks r)
        else .error (.problem .comma (c :: r))

end

/-! ## Whole texts -/

/-- Why a text is no JSON value. -/
inductive ReadError where
  /-- A problem, with its line and column, counted from one, and its index. -/
  | malformed (problem : Problem) (line column index : Nat)
  /-- An integer of too many digits. -/
  | digits (count : Nat)
  /-- An array or object that lies in too many others. -/
  | depth (container : Container)
deriving DecidableEq

/-- The wording of an error. -/
def ReadError.message : ReadError → Text
  | .malformed problem line column index =>
    Text.ofString problem.message ++ Text.ofString ": line " ++ Text.ofNat line ++
      Text.ofString " column " ++ Text.ofNat column ++ Text.ofString " (char " ++
      Text.ofNat index ++ Text.ofString ")"
  | .digits count =>
    Text.ofString "Exceeds the limit (" ++ Text.ofNat maxDigits ++
      Text.ofString " digits) for integer string conversion: value has " ++ Text.ofNat count ++
      Text.ofString " digits; use sys.set_int_max_str_digits() to increase the limit"
  | .depth container =>
    Text.ofString "maximum recursion depth exceeded while decoding a JSON " ++
      Text.ofString container.word ++ Text.ofString " from a unicode string"

/-- The error of a reader that stopped in `whole`. -/
def Stop.error (whole : Text) : Stop → ReadError
  | .digits count => .digits count
  | .depth container => .depth container
  | .problem p rest =>
    let index := whole.length - rest.length
    let before := whole.take index
    let line := before.countP (·.is '\n') + 1
    let column := (before.reverse.takeWhile fun q => !q.is '\n').length + 1
    .malformed p line column index

/-- The value of a whole text. -/
def parse (t : Text) : Except ReadError Json :=
  let result : Except Stop Json :=
    if t.head?.any fun p => p.val = 0xFEFF then .error (.problem .byteOrderMark t)
    else match value (2 * t.length + 2) maxDepth (skipBlanks t) with
      | .error e => .error e
      | .ok (v, r) =>
        match skipBlanks r with
        | [] => .ok v
        | rest => .error (.problem .extra rest)
  match result with
  | .ok v => .ok v
  | .error e => .error (e.error t)

end Json

end RouteAtlas
