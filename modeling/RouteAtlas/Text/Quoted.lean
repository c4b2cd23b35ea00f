import RouteAtlas.Text.Printable

/-!
# Quoted texts in messages

- `Text.quoteFor`: single quotes, unless only single ones occur inside;
- `Text.quoted`: a text between quotes, everything unprintable escaped by number.
-/

namespace RouteAtlas

namespace Text

/-- The quote for a text: double if the text holds a single quote and no double one. -/
def quoteFor (t : Text) : Char :=
  if t.any (·.is '\x27') && !t.any (·.is '\x22') then '\x22' else '\x27'

/-- A code point between the given quotes. -/
def quotedPoint (quote : Char) (p : CodePoint) : Text :=
  if p.is quote || p.is '\\' then [CodePoint.ofChar '\\', p]
  else if p.is '\n' then ofString "\\n"
  else if p.is '\r' then ofString "\\r"
  else if p.is '\t' then ofString "\\t"
  else if p.isPrintable then [p]
  else if p.val < 0x100 then ofString "\\x" ++ hex 2 p.val
  else if p.val < 0x10000 then ofString "\\u" ++ hex 4 p.val
  else ofString "\\U" ++ hex 8 p.val

/-- A text between quotes. -/
def quoted (t : Text) : Text :=
  let quote := t.quoteFor
  CodePoint.ofChar quote :: (t.flatMap (quotedPoint quote) ++ [CodePoint.ofChar quote])

end Text

end RouteAtlas
