import RouteAtlas.Text.Names.Aliases
import RouteAtlas.Text.Names.Alphabets
import RouteAtlas.Text.Names.Ancient
import RouteAtlas.Text.Names.Formulas
import RouteAtlas.Text.Names.Forms
import RouteAtlas.Text.Names.Hieroglyphs
import RouteAtlas.Text.Names.Kana
import RouteAtlas.Text.Names.Marks
import RouteAtlas.Text.Names.Patterns
import RouteAtlas.Text.Names.Pictures
import RouteAtlas.Text.Names.Syllabaries

/-!
# Names of characters

Most names are listed in rosters. A line of a roster has entries with commas between them: `=` and a
hexadecimal number gives the code point of the next name, every name after it has the next code
point. A name is written as a digit, which tells how many words it takes from the name before it,
and its other words. The names of ideographs are numbered, those of Hangul syllables are spelled.

- `Names.seek`: the code point of a name in the entries of a roster;
- `Names.numbered?`, `Names.ideograph?`, `Names.syllable?`: the code points of names that follow a
  rule;
- `Names.codePoint?`: the code point of a name.
-/

namespace RouteAtlas.Names

/-- The parts of a text between separators. -/
def parts (separator : Char) : List Char → List (List Char)
  | [] => [[]]
  | c :: cs =>
    match parts separator cs with
    | [] => [[c]]
    | p :: ps => if c = separator then [] :: p :: ps else (c :: p) :: ps

/-! ## Rosters -/

/-- The value of a hexadecimal digit in capitals. -/
def hexDigit? (c : Char) : Option Nat :=
  if '0' ≤ c ∧ c ≤ '9' then some (c.toNat - 48)
  else if 'A' ≤ c ∧ c ≤ 'F' then some (c.toNat - 55)
  else none

/-- The number that hexadecimal digits in capitals name. -/
def hexValue? (ds : List Char) : Option Nat :=
  ds.foldlM (fun n d => (hexDigit? d).map (16 * n + ·)) 0

/-- The code point of a name, given by its words, in the entries of a roster. The next name has the
code point `next`, the words of the last one are `last`. -/
def seek (name : List (List Char)) : (next : Nat) → (last entries : List (List Char)) → Option Nat
  | _, _, [] => none
  | next, last, [] :: entries => seek name next last entries
  | next, last, (c :: cs) :: entries =>
    if c = '=' then seek name ((hexValue? cs).getD next) last entries
    else
      let words := last.take (c.toNat - 48) ++ parts ' ' cs
      if words = name then some next else seek name (next + 1) words entries

/-- All rosters. -/
def rosters : List (List String) :=
  [aliases, alphabets, syllabaries, marks, patterns, kana, forms, ancient, hieroglyphs, formulas,
    pictures]

/-- The code point of a name in a roster. -/
def listed? (name : List Char) : Option Nat :=
  rosters.findSome? fun lines =>
    seek (parts ' ' name) 0 [] (lines.flatMap fun line => parts ',' line.toList)

/-! ## Names by rule -/

/-- Names that end with the number of their code point, with the ranges of these. -/
def numbered : List (String × List (Nat × Nat)) :=
  [("CJK COMPATIBILITY IDEOGRAPH-", [(0xF900, 0xFA6D), (0xFA70, 0xFAD9), (0x2F800, 0x2FA1D)]),
    ("KHITAN SMALL SCRIPT CHARACTER-", [(0x18B00, 0x18CD5)]),
    ("NUSHU CHARACTER-", [(0x1B170, 0x1B2FB)])]

/-- The ranges of the unified ideographs. -/
def unifiedRanges : List (Nat × Nat) :=
  [(0x3400, 0x4DBF), (0x4E00, 0x9FFF), (0x20000, 0x2A6DF), (0x2A700, 0x2B738), (0x2B740, 0x2B81D),
    (0x2B820, 0x2CEA1), (0x2CEB0, 0x2EBE0), (0x30000, 0x3134A)]

/-- The text after the given start of a name. -/
def after? (start : String) (name : List Char) : Option (List Char) :=
  if start.toList.isPrefixOf name then some (name.drop start.length) else none

/-- The number that digits name, if it lies in one of the ranges. -/
def within? (ranges : List (Nat × Nat)) (digits : List Char) : Option Nat :=
  (hexValue? digits).filter fun n => ranges.any fun (first, last) => first ≤ n && n ≤ last

/-- The code point of a name that ends with its number, written without leading zeros. -/
def numbered? (name : List Char) : Option Nat :=
  numbered.findSome? fun (start, ranges) => do
    let digits ← after? start name
    if digits.head? = some '0' then none else within? ranges digits

/-- The code point of the name of a unified ideograph; its number has four or five digits. -/
def ideograph? (name : List Char) : Option Nat := do
  let digits ← after? "CJK UNIFIED IDEOGRAPH-" name
  if digits.length = 4 ∨ digits.length = 5 then within? unifiedRanges digits else none

/-- The spellings of the first consonants of syllables. -/
def leads : List String :=
  ["G", "GG", "N", "D", "DD", "R", "M", "B", "BB", "S", "SS", "", "J", "JJ", "C", "K", "T", "P", "H"]

/-- The spellings of the vowels of syllables. -/
def vowels : List String :=
  ["A", "AE", "YA", "YAE", "EO", "E", "YEO", "YE", "O", "WA", "WAE", "OE", "YO", "U", "WEO", "WE",
    "WI", "YU", "EU", "YI", "I"]

/-- The spellings of the last consonants of syllables. -/
def tails : List String :=
  ["", "G", "GG", "GS", "N", "NJ", "NH", "D", "L", "LG", "LM", "LB", "LS", "LT", "LP", "LH", "M",
    "B", "BS", "S", "SS", "NG", "J", "C", "K", "T", "P", "H"]

/-- The ways to take one of the spellings off the front of a text: its number, and the rest. -/
def takeOff (spellings : List String) (t : List Char) : List (Nat × List Char) :=
  spellings.zipIdx.filterMap fun (s, i) => (after? s t).map fun r => (i, r)

/-- The code point of the name of a Hangul syllable, which is spelled from its letters. -/
def syllable? (name : List Char) : Option Nat := do
  let spelling ← after? "HANGUL SYLLABLE " name
  (takeOff leads spelling).findSome? fun (lead, t) =>
    (takeOff vowels t).findSome? fun (vowel, t) =>
      (takeOff tails t).findSome? fun (tail, t) =>
        if t.isEmpty then some (0xAC00 + (lead * vowels.length + vowel) * tails.length + tail)
        else none

/-! ## All names -/

/-- The code point of a name. Small letters may stand for capitals, but not in the names of unified
ideographs and Hangul syllables. -/
def codePoint? (name : List Char) : Option Nat :=
  let capitals := name.map Char.toUpper
  (syllable? name).or ((ideograph? name).or ((numbered? capitals).or (listed? capitals)))

end RouteAtlas.Names
