import RouteAtlas.Proofs.Script.Build
import RouteAtlas.Proofs.Script.Spelled
import RouteAtlas.Script.Reader

/-!
# What is read off the trees of declarations

The readings that a declaration is meant to have, and what the outline of such a tree says.

- `Written.spreadAll_chain`: the parts of a repetition stand one behind the other;
- `Written.chars_place`: the characters of a phrase are those that it is written with;
- `Source.literal_written`: **a literal is read as the pieces that it is written with**;
- `Source.statement_import`, `Source.statement_constant`, `Source.statement_interface`,
  `Source.interfaceMember?_written`: what the trees of statements and members say.
-/

namespace RouteAtlas.Script

open Reading

/-! ## Places of tokens and phrases -/

namespace Written

variable {g : Gap} {gap cs : List Char} {t : String} {f : Phrase} {parts rest : Written} {n i : Nat}
  {s : Source}

@[simp] theorem place_nil : nil.place i = [] := rfl

@[simp] theorem place_name : (name g gap t rest).place i =
    tokenAt (.token .name) (i + gap.length) (i + gap.length + t.toList.length) gap.length ::
      rest.place (i + (gap ++ t.toList).length) := rfl

@[simp] theorem place_word : (word g gap t rest).place i =
    tokenAt (.spelled t) (i + gap.length) (i + gap.length + t.toList.length) gap.length ::
      rest.place (i + (gap ++ t.toList).length) := rfl

@[simp] theorem place_mark : (mark g gap t rest).place i =
    tokenAt (.spelled t) (i + gap.length) (i + gap.length + t.toList.length) gap.length ::
      rest.place (i + (gap ++ t.toList).length) := rfl

@[simp] theorem place_andThen : (andThen f parts rest).place i =
    phraseOf f (parts.place i) :: rest.place (i + parts.text.length) := rfl

@[simp] theorem place_of : (of f parts).place i = [phraseOf f (parts.place i)] := rfl

@[simp] theorem place_literal {l : Literal} : (literal g gap l rest).place i =
    phraseOf .string ((mark g gap (Quote.ofChar l.quote).text
      (between (Quote.ofChar l.quote) (runs (Quote.ofChar l.quote) l.pieces))).place i) ::
        rest.place (i + (mark g gap (Quote.ofChar l.quote).text
          (between (Quote.ofChar l.quote) (runs (Quote.ofChar l.quote) l.pieces))).text.length) :=
  rfl

@[simp] theorem place_lineEnd : (lineEnd rest).place i =
    tokenAt (.token .lineEnd) i i 0 :: rest.place i := rfl

end Written

/-! ## Where tokens and phrases stand -/

namespace Source.After

variable {s : Source} {i n : Nat} {cs : List Char} {x : Ink} {v w : Written}

/-- What stands behind a token. -/
theorem next (h : s.After i ((Written.token x w).text ++ cs)) :
    s.After (i + x.text.length) (w.text ++ cs) := by
  rw [Written.text, List.append_assoc] at h
  exact h.skip

/-- The parts of a phrase. -/
theorem parts (h : s.After i ((Written.phrase n v w).text ++ cs)) :
    s.After i (v.text ++ (w.text ++ cs)) := by
  rwa [Written.text, List.append_assoc] at h

/-- What stands behind a phrase. -/
theorem behind (h : s.After i ((Written.phrase n v w).text ++ cs)) :
    s.After (i + v.text.length) (w.text ++ cs) := h.parts.skip

/-- The text of a name. -/
theorem text_name {g : Gap} {gap : List Char} {t : String}
    (h : s.After i ((Written.name g gap t w).text ++ cs)) :
    s.text (tokenAt (.token .name) (i + gap.length) (i + gap.length + t.toList.length) gap.length) =
      t := by
  rw [Written.text_name, List.append_assoc, List.append_assoc] at h
  exact (congrArg String.ofList h.skip.slice).trans String.ofList_toList

end Source.After

namespace Written

variable {g : Gap} {gap cs : List Char} {t : String} {f : Phrase} {parts rest : Written} {n i : Nat}
  {s : Source}

/-- Texts one behind the other, at their places. -/
def placeAll : List Written → Nat → List Reading
  | [], _ => []
  | w :: ws, i => w.place i ++ placeAll ws (i + w.text.length)

theorem spreadAll_append (as bs rs : List Reading) :
    spreadAll (as ++ bs) rs = spreadAll as (spreadAll bs rs) := by
  induction as with
  | nil => rfl
  | cons a as ih => rw [List.cons_append, spreadAll, spreadAll, ih]

/-- A repetition is replaced by its children. -/
theorem spread_repetition (hn : Grammar.tokenCount + Grammar.phraseCount ≤ n)
    (cs rs : List Reading) : (Reading.ofChildren n 0 cs).spread rs = spreadAll cs rs := by
  rw [ofChildren, spread, if_pos hn]

/-- The parts of a repetition stand one behind the other. -/
theorem spreadAll_chain (hn : Grammar.tokenCount + Grammar.phraseCount ≤ n) :
    ∀ (ws : List Written) (v : Written) (i : Nat) (rs : List Reading),
      spreadAll ((chain n v ws).place i) rs =
        spreadAll (v.place i ++ placeAll ws (i + v.text.length)) rs
  | [], v, i, rs => by rw [chain, placeAll, List.append_nil]
  | w :: ws, v, i, rs => by
    have htext : (phrase n v (phrase n w nil)).text = v.text ++ w.text := by simp
    rw [chain, spreadAll_chain hn ws, placeAll, htext, List.length_append, ← Nat.add_assoc,
      spreadAll_append, spreadAll_append, spreadAll_append]
    show (Reading.ofChildren n 0 (v.place i)).spread
      ((Reading.ofChildren n 0 (w.place (i + v.text.length))).spread _) = _
    rw [spread_repetition hn, spread_repetition hn]
    rfl

/-- The last token of a text stands at its end: no phrase behind it is empty. -/
def endsInToken : Written → Bool
  | nil => false
  | token _ nil => true
  | token _ rest => rest.endsInToken
  | phrase _ parts nil => parts.endsInToken
  | phrase _ _ rest => rest.endsInToken

theorem endsInToken_literal (l : Literal) : (literal g gap l nil).endsInToken = true := by
  show (of .string (mark g gap (Quote.ofChar l.quote).text
    (between (Quote.ofChar l.quote) (runs (Quote.ofChar l.quote) l.pieces)))).endsInToken = true
  cases runs (Quote.ofChar l.quote) l.pieces <;> rfl

/-- The readings of a text end where the text does. -/
theorem stop_place {w : Written} :
    ∀ {i : Nat}, w.endsInToken = true →
      ((w.place i).getLast?.map stop).getD 0 = i + w.text.length := by
  induction w with
  | nil => nofun
  | token x rest ih =>
    intro i h
    cases rest with
    | nil =>
      rw [text, text, List.append_nil]
      exact x.stop_lexeme i
    | token | phrase =>
      rw [text, List.length_append, ← Nat.add_assoc, ← ih h]
      rfl
  | phrase n parts rest ihparts ih =>
    intro i h
    cases rest with
    | nil =>
      rw [text, text, List.append_nil, ← ihparts h]
      rfl
    | token | phrase =>
      rw [text, List.length_append, ← Nat.add_assoc, ← ih h]
      rfl

/-- **The characters of a phrase** are those that it is written with, from its first token on. -/
theorem chars_place (w : Written) (f : Phrase) (gap body : List Char)
    (hend : w.endsInToken = true) (htext : w.text = gap ++ body)
    (hstart : (phraseOf f (w.place i)).start = i + gap.length) (h : s.After i (w.text ++ cs)) :
    s.chars (phraseOf f (w.place i)) = body := by
  have hstop : (phraseOf f (w.place i)).stop = i + gap.length + body.length := by
    rw [Nat.add_assoc, ← List.length_append, ← htext]
    exact stop_place hend
  rw [htext, List.append_assoc] at h
  rw [Source.chars, hstart, hstop]
  exact h.skip.slice

theorem le_repetition (f : Phrase) (k : Nat) :
    Grammar.tokenCount + Grammar.phraseCount ≤ f.repetition k := Nat.le_add_right _ _

end Written

/-! ## Literals -/

namespace Source

variable {s : Source} {i : Nat} {cs : List Char}

theorem chars_tokenAt (gap : List Char) {chars : List Char}
    (h : s.After i (gap ++ (chars ++ cs))) (t : Rule) (k : Nat) :
    s.chars (tokenAt t (i + gap.length) (i + gap.length + chars.length) k) = chars :=
  h.skip.slice

/-- The pieces that a run of characters between quotes is made of. -/
def runPieces (r : Form × List Char) : List Piece :=
  if r.1 = .escape then [.escape (r.2.drop 1)] else r.2.map .raw

theorem flatMap_runPieces (q : Quote) :
    ∀ ps : List Piece, (Written.runs q ps).flatMap runPieces = ps
  | [] => rfl
  | .escape body :: ps => by
    rw [Written.runs, List.flatMap_cons, flatMap_runPieces q ps]
    rfl
  | .raw c :: ps => by
    have ih := flatMap_runPieces q ps
    rcases Written.runs_raw q c ps with ⟨heq, -⟩ | ⟨cs, rs, hrs, heq⟩
    · rw [heq, List.flatMap_cons, ih]
      rfl
    · rw [heq, ← ih, hrs]
      rfl

theorem pieces_run {q : Quote} {r : Form × List Char} (hr : r.1 = .raw q ∨ r.1 = .escape)
    (h : s.After i (r.2 ++ cs)) :
    ((Written.run r).place i).flatMap s.pieces = runPieces r := by
  obtain ⟨f, chars⟩ := r
  have hchars : s.chars (tokenAt f.token (i + 0) (i + 0 + chars.length) 0) = chars :=
    chars_tokenAt [] h _ _
  have hplace : (Written.run (f, chars)).place i =
      [tokenAt f.token (i + 0) (i + 0 + chars.length) 0] := rfl
  rw [hplace, List.flatMap_singleton, pieces, hchars, runPieces]
  rcases hr with rfl | rfl
  · cases q <;> rfl
  · rfl

theorem pieces_runs {q : Quote} : ∀ {rs : List (Form × List Char)} {i : Nat},
    (∀ r ∈ rs, r.1 = .raw q ∨ r.1 = .escape) → s.After i (rs.flatMap (·.2) ++ cs) →
      (Written.placeAll (rs.map Written.run) i).flatMap s.pieces = rs.flatMap runPieces
  | [], _, _, _ => rfl
  | r :: rs, i, hrs, h => by
    obtain ⟨hr, hrs⟩ := List.forall_mem_cons.mp hrs
    rw [List.flatMap_cons, List.append_assoc] at h
    rw [List.map_cons, Written.placeAll, List.flatMap_append, pieces_run hr h, Written.text_run,
      pieces_runs hrs h.skip, List.flatMap_cons]

/-- Runs are parts on their own. -/
theorem spreadAll_runs (rest : List Reading) :
    ∀ (rs : List (Form × List Char)) (i : Nat),
      spreadAll (Written.placeAll (rs.map Written.run) i) rest =
        Written.placeAll (rs.map Written.run) i ++ rest
  | [], _ => rfl
  | r :: rs, i => by
    rw [List.map_cons, Written.placeAll, Written.spreadAll_append, spreadAll_runs rest rs,
      List.append_assoc]
    rfl

theorem pieces_mark (text : String) (a b k : Nat) :
    s.pieces (tokenAt (.spelled text) a b k) = [] := by
  simp [pieces, isToken_tokenAt_spelled]

/-- Between its quotes a literal has its pieces. -/
theorem pieces_between {q : Quote} {ps : List Piece}
    (h : s.After i (ps.flatMap Piece.source ++ cs)) :
    (spreadAll ((Written.between q (Written.runs q ps)).place i) []).flatMap s.pieces = ps := by
  have hps := flatMap_runPieces q ps
  have hform := form_of_mem_runs q ps
  rw [← Written.text_runs q] at h
  cases hruns : Written.runs q ps with
  | nil =>
    rw [hruns] at hps
    rw [← hps]
    show s.pieces (tokenAt (.spelled q.text) _ _ _) ++ [] = []
    rw [pieces_mark, List.append_nil]
  | cons r rs =>
    have hn : Grammar.tokenCount + Grammar.phraseCount ≤ q.repetition := by
      cases q <;> exact Written.le_repetition _ _
    rw [hruns] at hps hform h
    show ((Reading.ofChildren q.repetition 0 _).spread [tokenAt (.spelled q.text) _ _ _]).flatMap
      s.pieces = ps
    rw [Written.spread_repetition hn, Written.spreadAll_chain hn]
    show (spreadAll (Written.placeAll ((r :: rs).map Written.run) i) _).flatMap s.pieces = ps
    rw [spreadAll_runs, List.flatMap_append, pieces_runs hform h, hps, List.flatMap_singleton,
      pieces_mark, List.append_nil]

/-- **A literal is read as the pieces that it is written with.** -/
theorem literal_written {l : Literal} (hl : l.Reads) {g : Gap} {gap : List Char} {w : Written}
    (h : s.After i ((Written.literal g gap l w).text ++ cs)) :
    s.literal (phraseOf .string ((Written.mark g gap (Quote.ofChar l.quote).text
      (Written.between (Quote.ofChar l.quote)
        (Written.runs (Quote.ofChar l.quote) l.pieces))).place i)) = l := by
  rw [Written.text_literal hl, List.append_assoc, List.append_assoc] at h
  have hchar : s.charAt (i + gap.length) = l.quote := h.skip.charAt
  have hinside : s.After (i + (gap ++ (Quote.ofChar l.quote).text.toList).length)
      (l.pieces.flatMap Piece.source ++ (l.quote :: (w.text ++ cs))) := by
    rw [Written.toList_quote hl, List.length_append, ← Nat.add_assoc]
    refine (show s.After _ ([l.quote] ++ _) from ?_).skip
    have hskip := h.skip
    rw [Literal.source, List.cons_append, List.append_assoc] at hskip
    exact hskip
  rw [literal, Written.place_mark, parts_phraseOf, spreadAll, spread_tokenAt, List.flatMap_cons,
    pieces_mark, List.nil_append, pieces_between hinside]
  exact congrArg (Literal.mk · l.pieces) hchar

end Source

/-! ## What the trees say -/

/-- The reading is a token of the given sort, wherever it stands. -/
def Reading.Is (t : Rule) (r : Reading) : Prop := ∃ i j k : Nat, r = tokenAt t i j k

/-- The readings are the end of a statement: a line end or a semicolon. -/
def Finishes (rs : List Reading) : Prop :=
  ∃ r : Reading, rs = [r] ∧ (r.Is (.token .lineEnd) ∨ r.Is ";")

theorem Written.finishes_finish (semicolon : Bool) (i : Nat) :
    Finishes ((finish semicolon).place i) := by
  cases semicolon with
  | false => exact ⟨_, rfl, .inl ⟨_, _, _, rfl⟩⟩
  | true => exact ⟨_, rfl, .inr ⟨_, _, _, rfl⟩⟩

namespace Source

variable {s : Source} {cs ends : List Reading}

theorem specifier?_written {imported as_ bound : Reading} (himported : imported.Is (.token .name))
    (has : as_.Is "as") (hbound : bound.Is (.token .name)) :
    s.specifier? (phraseOf .importSpecifier [phraseOf .exportName [imported], as_,
      phraseOf .importName [bound]]) = some ⟨.name (s.text imported), some (s.text bound), []⟩ := by
  obtain ⟨_, _, _, rfl⟩ := himported
  obtain ⟨_, _, _, rfl⟩ := has
  obtain ⟨_, _, _, rfl⟩ := hbound
  have hspelled : ∀ a b k, (tokenAt "as" a b k).isSpelled "as" = true := by
    intro a b k
    rw [isSpelled, symbol_tokenAt, Symbol.ofRule, beq_self_eq_true]
  simp [specifier?, spreadAll, comments, hspelled, exportName, part?]
  exact ⟨rfl, rfl⟩

theorem statement_import {imp open_ imported as_ bound close from_ : Reading}
    (himp : imp.Is "import") (hopen : open_.Is "\x7b") (himported : imported.Is (.token .name))
    (has : as_.Is "as") (hbound : bound.Is (.token .name)) (hclose : close.Is "\x7d")
    (hfrom : from_.Is "from") (hends : Finishes ends) :
    s.statement (phraseOf .statement [phraseOf .importStatement (imp ::
      phraseOf .importClause [phraseOf .namedImports [open_,
        phraseOf .importSpecifier [phraseOf .exportName [imported], as_,
          phraseOf .importName [bound]], close]] ::
      phraseOf .fromClause [from_, phraseOf .string cs] :: ends)]) =
      ⟨false, .import_ ⟨none, none, [.part ⟨.name (s.text imported), some (s.text bound), []⟩],
        some (s.literal (phraseOf .string cs)), []⟩⟩ := by
  have hspecifier := s.specifier?_written himported has hbound
  obtain ⟨_, _, _, rfl⟩ := himp
  obtain ⟨_, _, _, rfl⟩ := hopen
  obtain ⟨_, _, _, rfl⟩ := hclose
  obtain ⟨_, _, _, rfl⟩ := hfrom
  have hnone : ∀ text a b k, s.specifier? (tokenAt (.spelled text) a b k) = none := by
    intro text a b k
    simp [specifier?]
  obtain ⟨_, rfl, ⟨_, _, _, rfl⟩ | ⟨_, _, _, rfl⟩⟩ := hends
  all_goals
    simp [statement, core_of_choice, isChoice, body, import_, part?, spreadAll, comments, entries,
      hspecifier, hnone]

theorem statement_constant {const_ target equals : Reading} {es : List Reading}
    (hconst : const_.Is "const") (htarget : target.Is (.token .name)) (hequals : equals.Is "=")
    (hends : Finishes ends) :
    s.statement (phraseOf .statement [phraseOf .declaration [phraseOf .lexicalDeclaration (const_ ::
      phraseOf .variableDeclarator [target, phraseOf .initializer [equals,
        phraseOf .expression es]] :: ends)]]) =
      ⟨false, .variables true [.part ⟨.name (s.text target), [],
        some (s.outline (phraseOf .expression es)), s.chars (phraseOf .expression es), []⟩]⟩ := by
  obtain ⟨_, _, _, rfl⟩ := hconst
  obtain ⟨_, _, _, rfl⟩ := htarget
  obtain ⟨_, _, _, rfl⟩ := hequals
  obtain ⟨_, rfl, ⟨_, _, _, rfl⟩ | ⟨_, _, _, rfl⟩⟩ := hends
  all_goals
    simp [statement, core_of_choices, isChoice, body, entries, spreadAll, declarator?, part?,
      comments]

/-- A token is no member of an interface. -/
theorem interfaceMember?_tokenAt (start line : Nat) (t : Rule) (i j k : Nat)
    (h : (tokenAt t i j k).isPhrase .propertySignature = false) :
    s.interfaceMember? start line (tokenAt t i j k) = none := by
  unfold interfaceMember?
  rw [h]
  rfl

theorem outline_string :
    s.outline (phraseOf .expression [phraseOf .primaryExpression [phraseOf .string cs]]) =
      .quoted (s.literal (phraseOf .string cs)) := by
  simp [outline, core_of_choices, isChoice, isName_phraseOf]

theorem outline_call {object dot method : Reading} {as : List Reading}
    (hobject : object.Is (.token .name)) (hdot : dot.Is ".") (hmethod : method.Is (.token .name)) :
    s.outline (phraseOf .expression [phraseOf .primaryExpression [phraseOf .callExpression [
      phraseOf .expression [phraseOf .primaryExpression [phraseOf .memberExpression [
        phraseOf .primaryExpression [object], dot, method]]], phraseOf .arguments as]]]) =
      .call (s.text object) (s.text method) []
        (s.slice method.stop (phraseOf .arguments as).stop) := by
  obtain ⟨_, _, _, rfl⟩ := hobject
  obtain ⟨_, _, _, rfl⟩ := hdot
  obtain ⟨_, _, _, rfl⟩ := hmethod
  simp [outline, core_of_choices, isChoice, isName_phraseOf, isName_tokenAt, member?, spreadAll,
    core_of_choice, comments, text, chars, start_phraseOf, stop_phraseOf]

theorem interfaceMember?_written {colon typeof_ name : Reading} (start line : Nat)
    (hcolon : colon.Is ":") (htypeof : typeof_.Is "typeof") (hname : name.Is (.token .name)) :
    s.interfaceMember? start line (phraseOf .propertySignature [
      phraseOf .propertyName [phraseOf .string cs], phraseOf .typeAscription [colon,
        phraseOf .type [phraseOf .primaryType [phraseOf .typeQuery [typeof_, name]]]]]) =
      some (.property (line + s.linesBetween start (phraseOf .string cs).start)
        (.quoted (s.literal (phraseOf .string cs))) (some ⟨[], .typeof [] (s.text name)⟩) []) := by
  obtain ⟨_, _, _, rfl⟩ := hcolon
  obtain ⟨_, _, _, rfl⟩ := htypeof
  obtain ⟨_, _, _, rfl⟩ := hname
  simp [interfaceMember?, part?, spreadAll, key, ascription, typeOutline, comments, core_of_choices,
    isChoice, start_phraseOf]

theorem statement_interface {export_ interface_ name open_ : Reading}
    (hexport : export_.Is "export") (hinterface : interface_.Is "interface")
    (hname : name.Is (.token .name)) (hopen : open_.Is "\x7b") :
    s.statement (phraseOf .statement [phraseOf .exportStatement [export_, phraseOf .declaration [
      phraseOf .interfaceDeclaration [interface_, name, phraseOf .objectType (open_ :: cs)]]]]) =
      ⟨true, .interface_ ⟨s.text name, s.slice name.stop open_.start,
        s.entries (s.interfaceMember? open_.start (1 + s.linesBetween 0 open_.start))
          (spreadAll cs []), []⟩⟩ := by
  obtain ⟨_, _, _, rfl⟩ := hexport
  obtain ⟨_, _, _, rfl⟩ := hinterface
  obtain ⟨_, _, _, rfl⟩ := hname
  obtain ⟨_, _, _, rfl⟩ := hopen
  simp [statement, core_of_choice, isChoice, body, interface_, part?, spreadAll, comments, entries,
    interfaceMember?_tokenAt, isToken_tokenAt_spelled, start_phraseOf]

end Source

end RouteAtlas.Script
