import RouteAtlas.Text.Quoted

/-!
# Faults of a script

- `Script.Fault`: what is wrong with a script, and where;
- `Script.Fault.toText`: the message with its place, in the file if it has a name;
- `Script.Blemish`: what the reader points at in a malformed script;
- `Script.Blemish.fault`: the fault that is reported for it.
-/

namespace RouteAtlas.Script

/-- What is wrong with a script, and where. -/
structure Fault where
  message : Text
  line : Int := 1
  column : Int := 1
  file : Option Text := none
deriving DecidableEq

/-- The place of a fault; a file without a name is not mentioned. -/
def Fault.place (f : Fault) : Text :=
  let file := f.file.getD []
  (if file.isEmpty then Text.ofString "line " else file ++ Text.ofString ":") ++
    Text.ofInt f.line ++ Text.ofString ":" ++ Text.ofInt f.column

/-- The text of a fault. -/
def Fault.toText (f : Fault) : Text :=
  f.message ++ Text.ofString " (" ++ f.place ++ Text.ofString ")"

/-- What the reader points at in a malformed script: a token that is missing, or a text that does
not fit. Lines and columns are counted from one. -/
structure Blemish where
  missing : Bool
  /-- The text at the place. -/
  text : Text
  line : Nat
  column : Nat
deriving DecidableEq

/-- How much of the text at a place is shown. -/
def Blemish.shownLength : Nat := 40

/-- The fault that is reported. -/
def Blemish.fault (b : Blemish) : Fault where
  message := Text.ofString (if b.missing then "missing token near " else "unexpected syntax near ") ++
    Text.quoted (b.text.take shownLength)
  line := b.line
  column := b.column

end RouteAtlas.Script
