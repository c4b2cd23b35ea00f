import RouteAtlas.Text.CodePoint

/-!
# UTF-8

- `Utf8.encodePoint`, `Utf8.encode`: the bytes of scalar values;
- `Utf8.decode`: the scalar values of a byte sequence, or the `Fault` at the first byte that
  belongs to no character;
- `Text.unencodable?`: the first run of surrogates, which no encoding can write.
-/

namespace RouteAtlas

namespace Utf8

/-- The bytes of the number `n` of a code point, by the length class it falls into. -/
def encodePoint (n : Nat) : List Nat :=
  if n < 0x80 then [n]
  else if n < 0x800 then [0xC0 + n / 64, 0x80 + n % 64]
  else if n < 0x10000 then [0xE0 + n / 4096, 0x80 + n / 64 % 64, 0x80 + n % 64]
  else [0xF0 + n / 262144, 0x80 + n / 4096 % 64, 0x80 + n / 64 % 64, 0x80 + n % 64]

/-- The bytes of a text of scalar values. -/
def encode (cs : List Char) : List Nat := cs.flatMap fun c => encodePoint c.toNat

/-- Why bytes cannot be read. -/
inductive Reason where
  | startByte
  | continuation
  | truncated
deriving DecidableEq

/-- The bytes from `start`, `length` of them, of which the first is `byte`, cannot be read. -/
structure Fault where
  start : Nat
  length : Nat
  byte : Nat
  reason : Reason
deriving DecidableEq

/-- The wording of a reason. -/
def Reason.message : Reason → String
  | .startByte => "invalid start byte"
  | .continuation => "invalid continuation byte"
  | .truncated => "unexpected end of data"

/-- The wording of a fault: one byte is named, several are given by their range. -/
def Fault.message (f : Fault) : Text :=
  let place :=
    if f.length = 1 then
      Text.ofString "byte 0x" ++ Text.hex 2 f.byte ++ Text.ofString " in position " ++
        Text.ofNat f.start
    else
      Text.ofString "bytes in position " ++ Text.ofNat f.start ++ Text.ofString "-" ++
        Text.ofNat (f.start + f.length - 1)
  Text.ofString "'utf-8' codec can't decode " ++ place ++ Text.ofString ": " ++
    Text.ofString f.reason.message

/-- Continuation bytes are `0x80` to `0xBF`. -/
def isContinuation (b : Nat) : Bool := 0x80 ≤ b && b < 0xC0

/-- How many bytes a lead byte announces; `0` for a byte that leads nothing. -/
def announced (b : Nat) : Nat :=
  if b < 0x80 then 1
  else if b < 0xC2 then 0
  else if b < 0xE0 then 2
  else if b < 0xF0 then 3
  else if b < 0xF5 then 4
  else 0

/-- The second byte fits the lead byte: no overlong form, no surrogate, nothing past `U+10FFFF`. -/
def fits (lead second : Nat) : Bool :=
  isContinuation second &&
    !(lead == 0xE0 && second < 0xA0) && !(lead == 0xED && 0xA0 ≤ second) &&
    !(lead == 0xF0 && second < 0x90) && !(lead == 0xF4 && 0x90 ≤ second)

/-- What one step of decoding finds at the front of the bytes. -/
inductive Step where
  | done
  | char (c : Char) (size : Nat)
  | bad (length : Nat) (reason : Reason)

/-- Reads the character at the front of the bytes. -/
def step : List Nat → Step
  | [] => .done
  | b :: r =>
    match announced b, r with
    | 1, _ => .char (Char.ofNat b) 1
    | 2, [] => .bad 1 .truncated
    | 2, b₂ :: _ =>
      if fits b b₂ then .char (Char.ofNat ((b - 0xC0) * 64 + (b₂ - 0x80))) 2
      else .bad 1 .continuation
    | 3, [] => .bad 1 .truncated
    | 3, b₂ :: r₂ =>
      if !fits b b₂ then .bad 1 .continuation
      else match r₂ with
        | [] => .bad 2 .truncated
        | b₃ :: _ =>
          if isContinuation b₃ then
            .char (Char.ofNat ((b - 0xE0) * 4096 + (b₂ - 0x80) * 64 + (b₃ - 0x80))) 3
          else .bad 2 .continuation
    | 4, [] => .bad 1 .truncated
    | 4, b₂ :: r₂ =>
      if !fits b b₂ then .bad 1 .continuation
      else match r₂ with
        | [] => .bad 2 .truncated
        | b₃ :: r₃ =>
          if !isContinuation b₃ then .bad 2 .continuation
          else match r₃ with
            | [] => .bad 3 .truncated
            | b₄ :: _ =>
              if isContinuation b₄ then
                .char (Char.ofNat ((b - 0xF0) * 262144 + (b₂ - 0x80) * 4096 +
                  (b₃ - 0x80) * 64 + (b₄ - 0x80))) 4
              else .bad 3 .continuation
    | _, _ => .bad 1 .startByte

/-- Decodes from position `pos` on; `skip` bytes belong to the character already read. -/
def decodeFrom (pos : Nat) : (skip : Nat) → List Nat → Except Fault (List Char)
  | _, [] => .ok []
  | skip + 1, _ :: r => decodeFrom (pos + 1) skip r
  | 0, b :: r =>
    match step (b :: r) with
    | .done => .ok []
    | .char c size => (decodeFrom (pos + 1) (size - 1) r).map (c :: ·)
    | .bad length reason => .error ⟨pos, length, b, reason⟩

/-- The scalar values of a byte sequence. -/
def decode (bytes : List Nat) : Except Fault (List Char) := decodeFrom 0 0 bytes

end Utf8

/-- A run of code points that cannot be written as bytes. -/
structure Unencodable where
  start : Nat
  length : Nat
  point : CodePoint
deriving DecidableEq

/-- The wording of an encoding failure: one code point is named, several are given by range. -/
def Unencodable.message (u : Unencodable) : Text :=
  let place :=
    if u.length = 1 then
      Text.ofString "character '\\u" ++ Text.hex 4 u.point.val ++ Text.ofString "' in position " ++
        Text.ofNat u.start
    else
      Text.ofString "characters in position " ++ Text.ofNat u.start ++ Text.ofString "-" ++
        Text.ofNat (u.start + u.length - 1)
  Text.ofString "'utf-8' codec can't encode " ++ place ++ Text.ofString ": surrogates not allowed"

namespace CodePoint

/-- A surrogate that no file name can hold: `U+DC80` to `U+DCFF` stand for single bytes. -/
def isUnnameable (p : CodePoint) : Bool :=
  p.isSurrogate && !(0xDC80 ≤ p.val && p.val ≤ 0xDCFF)

/-- The number of bytes that a code point takes in a file name: one for a byte that was kept as a
surrogate. -/
def nameBytes (p : CodePoint) : Nat :=
  if p.isSurrogate then (if p.isUnnameable then 3 else 1) else (Utf8.encodePoint p.val).length

end CodePoint

namespace Text

/-- The first run of surrogates that starts with one refused by `refuse`, from position `pos`. -/
def unencodableFrom (refuse : CodePoint → Bool) (pos : Nat) : Text → Option Unencodable
  | [] => none
  | p :: t =>
    if refuse p then some ⟨pos, 1 + (t.takeWhile CodePoint.isSurrogate).length, p⟩
    else unencodableFrom refuse (pos + 1) t

/-- The first run of surrogates of a text to be printed. -/
def unencodable? (t : Text) : Option Unencodable := unencodableFrom CodePoint.isSurrogate 0 t

/-- The first run of surrogates that no file name can hold. -/
def unnameable? (t : Text) : Option Unencodable := unencodableFrom CodePoint.isUnnameable 0 t

/-- The number of bytes that a text takes in a file name. -/
def byteCount (t : Text) : Nat := t.foldl (fun n p => n + p.nameBytes) 0

end Text

end RouteAtlas
