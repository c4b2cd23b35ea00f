import RouteAtlas.Proofs.Script.Declaration
import RouteAtlas.Proofs.Script.Written

/-!
# How declarations are meant to be read

The text of a declaration, with the tokens and phrases that it is meant to be read as. The texts of
all declarations are of one form, and on every text of this form the reader has only one thing to do
at each token:

- `Declaration.written`: a declaration with its tokens and phrases;
- `Sketch.layout`: the form of declarations, one below the other;
- `layout_reads`: the reader does what is meant on every text of the form, checked by running
  through the form;
- `matches_statements`: the declarations have the form.
-/

namespace RouteAtlas.Script

/-- The repetition of a part of the rule of a phrase. -/
def Phrase.repetition (f : Phrase) (n : Nat) : Nat :=
  Symbol.ofRepeat ((Grammar.ruleOf f.ctorIdx).repeats.getD n .empty)

/-- The repetition of what stands between the quotes. -/
def Quote.repetition : Quote → Nat
  | single => Phrase.string.repetition 1
  | double => Phrase.string.repetition 0

/-- The quote that is written so. -/
def Quote.ofChar (c : Char) : Quote := if c = '\x22' then double else single

/-! ## Declarations with their tokens and phrases -/

namespace Written

section

variable (g : Gap) (gap : List Char) (text : String) (f : Phrase) (parts rest : Written)

/-- A name, and what stands behind it. -/
def name : Written := token ⟨⟨g, .name⟩, gap, text.toList⟩ rest

@[inherit_doc name]
def word : Written := token ⟨⟨g, .word text⟩, gap, text.toList⟩ rest

@[inherit_doc name]
def mark : Written := token ⟨⟨g, .mark text⟩, gap, text.toList⟩ rest

/-- A phrase, and what stands behind it. -/
def andThen : Written := phrase (Symbol.ofPhrase f) parts rest

/-- A phrase with nothing behind it. -/
def of : Written := andThen f parts nil

end

/-- A text and others like it, as a repetition. -/
def chain (n : Nat) (v : Written) : List Written → Written
  | [] => v
  | w :: ws => chain n (phrase n v (phrase n w nil)) ws

/-! ### Literals -/

/-- What stands between quotes: escapes, and runs of raw characters. -/
def runs (q : Quote) : List Piece → List (Form × List Char)
  | [] => []
  | .escape body :: ps => (.escape, '\\' :: body) :: runs q ps
  | .raw c :: ps =>
    match runs q ps with
    | [] => [(.raw q, [c])]
    | (f, cs) :: rs => if f = .raw q then (f, c :: cs) :: rs else (.raw q, [c]) :: (f, cs) :: rs

/-- A token without blanks before it. -/
def run (r : Form × List Char) : Written := token ⟨⟨.none, r.1⟩, [], r.2⟩ nil

/-- What stands between quotes, and the closing quote. -/
def between (q : Quote) : List (Form × List Char) → Written
  | [] => mark .none [] q.text nil
  | r :: rs =>
    phrase q.repetition (chain q.repetition (run r) (rs.map run)) (mark .none [] q.text nil)

/-- A literal. -/
def literal (g : Gap) (gap : List Char) (l : Literal) (rest : Written) : Written :=
  let q := Quote.ofChar l.quote
  andThen .string (mark g gap q.text (between q (runs q l.pieces))) rest

/-! ### Expressions -/

/-- An expression that is a name. -/
def nameValue (g : Gap) (gap : List Char) (n : String) (rest : Written) : Written :=
  andThen .expression (of .primaryExpression (name g gap n nil)) rest

/-- An entry of an object. -/
def pair (key : String) (value rest : Written) : Written :=
  andThen .pair
    (andThen .propertyName (name .lines ['\n', ' ', ' '] key nil) <|
      mark .none [] ":" <| of .expression (of .primaryExpression value))
    rest

/-- A function that returns a constant. -/
def constantly (n : String) : Written :=
  of .arrowFunction
    (andThen .signature (of .formalParameters (mark .blanks [' '] "(" (mark .none [] ")" nil))) <|
      mark .blanks [' '] "=>" <| nameValue .blanks [' '] n nil)

/-- The entries of the options of a route behind the first one. -/
def moreOptions (path : Literal) (parent : String) : Written :=
  chain (Phrase.object.repetition 0)
    (mark .none [] "," (pair "path" (literal .blanks [' '] path nil) nil))
    [mark .none [] "," (pair "getParentRoute" (constantly parent) nil), mark .none [] "," nil]

/-- The options of a route. -/
def options (id path : Literal) (parent : String) (rest : Written) : Written :=
  andThen .expression
    (of .asExpression
      (andThen .expression
        (of .primaryExpression
          (of .object
            (mark .none [] "\x7b" <| pair "id" (literal .blanks [' '] id nil) <|
              phrase (Phrase.object.repetition 0) (moreOptions path parent) <|
                mark .lines ['\n'] "\x7d" nil))) <|
        word .blanks [' '] "as" <|
          of .type (of .primaryType (of .predefinedType (word .blanks [' '] "any" nil)))))
    rest

/-- An argument. -/
def argument : Argument → Written → Written
  | .name n, rest => nameValue .none [] n rest
  | .options id path parent, rest => options id path parent rest

/-- A call of a method of a constant. -/
def call (object method : String) (a : Argument) : Written :=
  of .callExpression
    (andThen .expression
      (of .primaryExpression
        (of .memberExpression
          (andThen .primaryExpression (name .blanks [' '] object nil) <|
            mark .none [] "." <| name .none [] method nil))) <|
      of .arguments (mark .none [] "(" (argument a (mark .none [] ")" nil))))

/-! ### Declarations -/

/-- The end of a statement. -/
def finish (semicolon : Bool) : Written :=
  if semicolon then mark .none [] ";" nil else token ⟨⟨.none, .lineEnd⟩, [], []⟩ nil

/-- A constant and its value. -/
def constant (gap : List Char) (n : String) (value : Written) (semicolon : Bool) : Written :=
  of .declaration
    (of .lexicalDeclaration
      (word .lines gap "const" <|
        andThen .variableDeclarator
          (name .blanks [' '] n <|
            of .initializer (mark .blanks [' '] "=" <|
              of .expression (of .primaryExpression value))) <|
          finish semicolon))

/-- The key and the type of a member of an interface. -/
def memberParts (m : Literal × String) : Written :=
  andThen .propertyName (literal .lines ['\n', ' ', ' '] m.1 nil) <|
    of .typeAscription
      (mark .none [] ":" <|
        of .type (of .primaryType
          (of .typeQuery (word .blanks [' '] "typeof" <| name .blanks [' '] m.2 nil))))

/-- A member of an interface, and what stands behind it. -/
def member (m : Literal × String) (rest : Written) : Written :=
  andThen .propertySignature (memberParts m) rest

/-- The end of a line, and what stands behind it. -/
def lineEnd (rest : Written) : Written := token ⟨⟨.none, .lineEnd⟩, [], []⟩ rest

/-- The members of an interface, and the closing brace. -/
def members : List (Literal × String) → Written
  | [] => mark .lines ['\n'] "\x7d" nil
  | [m] => member m <| lineEnd <| mark .lines ['\n'] "\x7d" nil
  | m :: m' :: ms =>
    member m <|
      phrase (Phrase.objectType.repetition 0)
        (chain (Phrase.objectType.repetition 0) (lineEnd (member m' nil))
          (ms.map fun m => lineEnd (member m nil))) <|
      lineEnd <| mark .lines ['\n'] "\x7d" nil

end Written

open Written in
/-- The one part of the statement that a declaration is, with the given blanks and line ends before
it. -/
def Declaration.writtenPart (gap : List Char) : Declaration → Written
  | import_ imported bound source semicolon =>
    of .importStatement
      (word .lines gap "import" <|
        andThen .importClause
          (of .namedImports
            (mark .blanks [' '] "\x7b" <|
              andThen .importSpecifier
                (andThen .exportName (name .blanks [' '] imported nil) <|
                  word .blanks [' '] "as" <| of .importName (name .blanks [' '] bound nil)) <|
              mark .blanks [' '] "\x7d" nil)) <|
        andThen .fromClause
          (word .blanks [' '] "from" <| literal .blanks [' '] source nil) <|
        finish semicolon)
  | constant n value semicolon =>
    Written.constant gap n (literal .blanks [' '] value nil) semicolon
  | call n object method a semicolon =>
    Written.constant gap n (Written.call object method a) semicolon
  | interface_ n ms =>
    of .exportStatement
      (word .lines gap "export" <|
        of .declaration
          (of .interfaceDeclaration
            (word .blanks [' '] "interface" <| name .blanks [' '] n <|
              of .objectType (mark .blanks [' '] "\x7b" (members ms)))))

/-- A declaration, with the given blanks and line ends before it. -/
def Declaration.written (gap : List Char) (d : Declaration) : Written :=
  .of .statement (d.writtenPart gap)

/-- Declarations with line ends between them. -/
def Written.statements (d : Declaration) (ds : List Declaration) : Written :=
  phrase (Phrase.program.repetition 0)
    (chain (Phrase.program.repetition 0) (d.written []) (ds.map (Declaration.written ['\n']))) nil

/-! ## Their form -/

namespace Sketch

section

variable (g : Gap) (text : String) (f : Phrase) (parts rest : Sketch)

/-- A name, and what stands behind it. -/
def name : Sketch := token ⟨g, .name⟩ rest

@[inherit_doc name]
def word : Sketch := token ⟨g, .word text⟩ rest

@[inherit_doc name]
def mark : Sketch := token ⟨g, .mark text⟩ rest

/-- A phrase, and what stands behind it. -/
def andThen : Sketch := phrase (Symbol.ofPhrase f) parts rest

/-- A phrase with nothing behind it. -/
def of : Sketch := andThen f parts nil

end

/-- What stands behind the opening quote. -/
def between (q : Quote) : Sketch :=
  either (mark .none q.text nil)
    (many q.repetition (either (token ⟨.none, .raw q⟩ nil) (token ⟨.none, .escape⟩ nil))
      (mark .none q.text nil))

/-- A literal. -/
def literal (g : Gap) (rest : Sketch) : Sketch :=
  andThen .string
    (either (mark g Quote.single.text (between .single))
      (mark g Quote.double.text (between .double)))
    rest

/-- An expression that is a name. -/
def nameValue (g : Gap) (rest : Sketch) : Sketch :=
  andThen .expression (of .primaryExpression (name g nil)) rest

/-- An entry of an object. -/
def pair (value rest : Sketch) : Sketch :=
  andThen .pair
    (andThen .propertyName (name .lines nil) <|
      mark .none ":" <| of .expression (of .primaryExpression value))
    rest

/-- A function that returns a constant. -/
def constantly : Sketch :=
  of .arrowFunction
    (andThen .signature (of .formalParameters (mark .blanks "(" (mark .none ")" nil))) <|
      mark .blanks "=>" <| nameValue .blanks nil)

/-- The options of a route. -/
def options (rest : Sketch) : Sketch :=
  andThen .expression
    (of .asExpression
      (andThen .expression
        (of .primaryExpression
          (of .object
            (mark .none "\x7b" <| pair (literal .blanks nil) <|
              many (Phrase.object.repetition 0)
                (mark .none ","
                  (either (pair (either (literal .blanks nil) constantly) nil) nil)) <|
                mark .lines "\x7d" nil))) <|
        word .blanks "as" <|
          of .type (of .primaryType (of .predefinedType (word .blanks "any" nil)))))
    rest

/-- A call of a method of a constant. -/
def call : Sketch :=
  of .callExpression
    (andThen .expression
      (of .primaryExpression
        (of .memberExpression
          (andThen .primaryExpression (name .blanks nil) <| mark .none "." <| name .none nil))) <|
      of .arguments
        (mark .none "(" <|
          either (nameValue .none (mark .none ")" nil)) (options (mark .none ")" nil))))

/-- The end of a statement. -/
def finish : Sketch := either (token ⟨.none, .lineEnd⟩ nil) (mark .none ";" nil)

/-- An import. -/
def import_ : Sketch :=
  of .importStatement
    (word .lines "import" <|
      andThen .importClause
        (of .namedImports
          (mark .blanks "\x7b" <|
            andThen .importSpecifier
              (andThen .exportName (name .blanks nil) <|
                word .blanks "as" <| of .importName (name .blanks nil)) <|
            mark .blanks "\x7d" nil)) <|
      andThen .fromClause (word .blanks "from" <| literal .blanks nil) finish)

/-- A constant and its value. -/
def constant : Sketch :=
  of .declaration
    (of .lexicalDeclaration
      (word .lines "const" <|
        andThen .variableDeclarator
          (name .blanks <|
            of .initializer
              (mark .blanks "=" <|
                of .expression (of .primaryExpression (either (literal .blanks nil) call))))
          finish))

/-- A member of an interface. -/
def member (rest : Sketch) : Sketch :=
  andThen .propertySignature
    (andThen .propertyName (literal .lines nil) <|
      of .typeAscription
        (mark .none ":" <|
          of .type (of .primaryType (of .typeQuery (word .blanks "typeof" <| name .blanks nil)))))
    rest

/-- The end of a line, and what stands behind it. -/
def lineEnd (rest : Sketch) : Sketch := token ⟨.none, .lineEnd⟩ rest

/-- The members of an interface, and the closing brace. -/
def members : Sketch :=
  either (mark .lines "\x7d" nil) <|
    member <|
      either (lineEnd <| mark .lines "\x7d" nil) <|
        many (Phrase.objectType.repetition 0) (lineEnd (member nil)) <|
          lineEnd <| mark .lines "\x7d" nil

/-- An interface. -/
def interface_ : Sketch :=
  of .exportStatement
    (word .lines "export" <|
      of .declaration
        (of .interfaceDeclaration
          (word .blanks "interface" <| name .blanks <|
            of .objectType (mark .blanks "\x7b" members))))

/-- The form of declarations, one below the other. -/
def layout : Sketch :=
  many (Phrase.program.repetition 0)
    (of .statement (either import_ (either constant interface_))) nil

end Sketch

/-- **The reader does what is meant** on declarations: at each token there is one thing to do. -/
theorem layout_reads : Sketch.layout.reads = true := by decide +kernel

/-! ## The declarations have the form -/

namespace Sketch.Matches

variable {sk rest : Sketch} {v w : Written} {f : Phrase} {g : Gap} {gap : List Char} {text : String}

theorem nil : Matches .nil .nil := trivial

theorem name (h : rest.Matches w) : (Sketch.name g rest).Matches (Written.name g gap text w) :=
  ⟨rfl, h⟩

theorem word (h : rest.Matches w) : (Sketch.word g text rest).Matches (Written.word g gap text w) :=
  ⟨rfl, h⟩

theorem mark (h : rest.Matches w) : (Sketch.mark g text rest).Matches (Written.mark g gap text w) :=
  ⟨rfl, h⟩

theorem andThen (hv : sk.Matches v) (hw : rest.Matches w) :
    (Sketch.andThen f sk rest).Matches (Written.andThen f v w) := ⟨rfl, hv, hw⟩

theorem of (hv : sk.Matches v) : (Sketch.of f sk).Matches (Written.of f v) := ⟨rfl, hv, trivial⟩

end Sketch.Matches

open Sketch (Matches)

theorem repeated_chain {n : Nat} {P : Written → Prop} :
    ∀ {ws : List Written} {v : Written}, Repeated n P v → (∀ w ∈ ws, P w) →
      Repeated n P (Written.chain n v ws)
  | [], _, hv, _ => hv
  | w :: ws, v, hv, hws => by
    rw [Written.chain]
    exact repeated_chain (.more hv (hws w List.mem_cons_self)) fun u hu =>
      hws u (List.mem_cons_of_mem w hu)

/-- A raw character joins the run of raw characters behind it; where there is none, it is a run of
its own. -/
theorem Written.runs_raw (q : Quote) (c : Char) (ps : List Piece) :
    (runs q (.raw c :: ps) = (.raw q, [c]) :: runs q ps ∧
      ∀ r ∈ (runs q ps).head?, r.1 ≠ .raw q) ∨
    ∃ cs rs, runs q ps = (.raw q, cs) :: rs ∧
      runs q (.raw c :: ps) = (.raw q, c :: cs) :: rs := by
  rw [runs]
  split
  next heq =>
    rw [heq]
    exact .inl ⟨rfl, nofun⟩
  next f cs rs heq =>
    rw [heq]
    split
    next hf =>
      obtain rfl := hf
      exact .inr ⟨cs, rs, rfl, rfl⟩
    next hf =>
      refine .inl ⟨rfl, ?_⟩
      rintro _ ⟨⟩
      exact hf

/-- Between quotes there are escapes and raw characters only. -/
theorem form_of_mem_runs (q : Quote) :
    ∀ ps : List Piece, ∀ r ∈ Written.runs q ps, r.1 = .raw q ∨ r.1 = .escape
  | .escape body :: ps, r, h => by
    rcases List.mem_cons.mp h with rfl | h
    · exact .inr rfl
    · exact form_of_mem_runs q ps r h
  | .raw c :: ps, r, h => by
    have ih := form_of_mem_runs q ps
    rcases Written.runs_raw q c ps with ⟨heq, -⟩ | ⟨cs, rs, hrs, heq⟩
    · rw [heq] at h
      rcases List.mem_cons.mp h with rfl | h
      · exact .inl rfl
      · exact ih r h
    · rw [heq] at h
      rw [hrs] at ih
      rcases List.mem_cons.mp h with rfl | h
      · exact .inl rfl
      · exact ih r (List.mem_cons_of_mem _ h)

theorem matches_between (q : Quote) (ps : List Piece) :
    (Sketch.between q).Matches (Written.between q (Written.runs q ps)) := by
  have hform : ∀ r ∈ Written.runs q ps,
      (Sketch.either (.token ⟨.none, .raw q⟩ .nil) (.token ⟨.none, .escape⟩ .nil)).Matches
        (Written.run r) := by
    intro r hr
    refine (form_of_mem_runs q ps r hr).imp (fun hf => ⟨?_, trivial⟩) (fun hf => ⟨?_, trivial⟩)
    · rw [hf]
    · rw [hf]
  cases hruns : Written.runs q ps with
  | nil => exact .inl ⟨rfl, trivial⟩
  | cons r rs =>
    rw [hruns] at hform
    refine .inr ⟨rfl, repeated_chain (.one (hform r List.mem_cons_self)) ?_, rfl, trivial⟩
    intro w hw
    obtain ⟨u, hu, rfl⟩ := List.mem_map.mp hw
    exact hform u (List.mem_cons_of_mem r hu)

theorem matches_literal (g : Gap) (gap : List Char) (l : Literal) {sk : Sketch} {w : Written}
    (h : sk.Matches w) : (Sketch.literal g sk).Matches (Written.literal g gap l w) := by
  refine ⟨rfl, ?_, h⟩
  have hinside := fun q => matches_between q l.pieces
  cases hq : Quote.ofChar l.quote with
  | single => exact .inl ⟨rfl, hinside .single⟩
  | double => exact .inr ⟨rfl, hinside .double⟩

theorem matches_pair (key : String) {value rest : Sketch} {v w : Written} (hv : value.Matches v)
    (hw : rest.Matches w) : (Sketch.pair value rest).Matches (Written.pair key v w) :=
  .andThen (.andThen (.name .nil) (.mark (.of (.of hv)))) hw

theorem matches_nameValue (g : Gap) (gap : List Char) (n : String) {rest : Sketch} {w : Written}
    (hw : rest.Matches w) : (Sketch.nameValue g rest).Matches (Written.nameValue g gap n w) :=
  .andThen (.of (.name .nil)) hw

theorem matches_argument (a : Argument) {rest : Sketch} {w : Written} (h : rest.Matches w) :
    (Sketch.either (.nameValue .none rest) (.options rest)).Matches (Written.argument a w) := by
  cases a with
  | name n => exact .inl (matches_nameValue _ _ n h)
  | options id path parent =>
    have hparent : Sketch.constantly.Matches (Written.constantly parent) :=
      .of (.andThen (.of (.mark (.mark .nil))) (.mark (matches_nameValue _ _ parent .nil)))
    -- the two other entries, and the comma behind them
    have hmore : Repeated (Phrase.object.repetition 0)
        (Matches (.mark .none ","
          (.either (.pair (.either (.literal .blanks .nil) .constantly) .nil) .nil)))
        (Written.moreOptions path parent) := by
      refine repeated_chain (.one (.mark (.inl (matches_pair _ (.inl ?_) .nil)))) ?_
      · exact matches_literal _ _ path .nil
      · intro w hw
        rcases List.mem_cons.mp hw with rfl | hw
        · exact .mark (.inl (matches_pair _ (.inr hparent) .nil))
        · obtain rfl := List.mem_singleton.mp hw
          exact .mark (.inr .nil)
    exact .inr (.andThen (.of (.andThen (.of (.of (.mark (matches_pair _
      (matches_literal _ _ id .nil) ⟨rfl, hmore, .mark .nil⟩))))
      (.word (.of (.of (.of (.word .nil))))))) h)

theorem matches_finish (semicolon : Bool) :
    Sketch.finish.Matches (Written.finish semicolon) := by
  cases semicolon with
  | false => exact .inl ⟨rfl, trivial⟩
  | true => exact .inr ⟨rfl, trivial⟩

theorem matches_member (m : Literal × String) {rest : Sketch} {w : Written} (h : rest.Matches w) :
    (Sketch.member rest).Matches (Written.member m w) :=
  .andThen (.andThen (matches_literal _ _ m.1 .nil)
    (.of (.mark (.of (.of (.of (.word (.name .nil)))))))) h

theorem matches_members (ms : List (Literal × String)) :
    Sketch.members.Matches (Written.members ms) := by
  have hclose : (Sketch.lineEnd (.mark .lines "\x7d" .nil)).Matches
      (Written.lineEnd (.mark .lines ['\n'] "\x7d" .nil)) := ⟨rfl, .mark .nil⟩
  have hmore : ∀ m, (Sketch.lineEnd (.member .nil)).Matches (Written.lineEnd (.member m .nil)) :=
    fun m => ⟨rfl, matches_member m .nil⟩
  match ms with
  | [] => exact .inl (.mark .nil)
  | [m] => exact .inr (matches_member m (.inl hclose))
  | m :: m' :: ms =>
    refine .inr (matches_member m (.inr ⟨rfl, repeated_chain (.one (hmore m')) ?_, hclose⟩))
    intro w hw
    obtain ⟨n, -, rfl⟩ := List.mem_map.mp hw
    exact hmore n

theorem matches_constant (gap : List Char) (n : String) (semicolon : Bool) {v : Written}
    (h : (Sketch.either (.literal .blanks .nil) .call).Matches v) :
    Sketch.constant.Matches (Written.constant gap n v semicolon) :=
  .of (.of (.word (.andThen (.name (.of (.mark (.of (.of h))))) (matches_finish semicolon))))

theorem matches_written (gap : List Char) (d : Declaration) :
    (Sketch.of .statement (.either .import_ (.either .constant .interface_))).Matches
      (d.written gap) := by
  cases d with
  | import_ imported bound source semicolon =>
    exact .of (.inl (.of (.word (.andThen (.of (.mark (.andThen (.andThen (.name .nil)
      (.word (.of (.name .nil)))) (.mark .nil))))
      (.andThen (.word (matches_literal _ _ source .nil)) (matches_finish semicolon))))))
  | constant n value semicolon =>
    refine .of (.inr (.inl (matches_constant gap n semicolon (.inl ?_))))
    exact matches_literal _ _ value .nil
  | call n object method a semicolon =>
    refine .of (.inr (.inl (matches_constant gap n semicolon (.inr ?_))))
    exact .of (.andThen (.of (.of (.andThen (.name .nil) (.mark (.name .nil)))))
      (.of (.mark (matches_argument a (.mark .nil)))))
  | interface_ n ms =>
    refine .of (.inr (.inr (.of (.word (.of (.of (.word (.name (.of (.mark ?_))))))))))
    exact matches_members ms

/-- **Declarations have the form.** -/
theorem matches_statements (d : Declaration) (ds : List Declaration) :
    Sketch.layout.Matches (Written.statements d ds) := by
  refine ⟨rfl, repeated_chain (.one (matches_written [] d)) ?_, trivial⟩
  intro w hw
  obtain ⟨d, -, rfl⟩ := List.mem_map.mp hw
  exact matches_written _ d

end RouteAtlas.Script
