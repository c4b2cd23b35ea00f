import RouteAtlas.Proofs.Script.Layout

/-!
# Declarations are spelled as they are meant to be read

Of the text around a token little is asked: a name ends before something that does not go on with
it, a mark is not part of a longer one, a line ends where the next one does not go on with the
statement.

- `Declaration.Readable`: declarations made of names and of literals that can be told apart;
- `Declaration.isPlain`: a test for such declarations, which those with plain literals pass;
- `layout_tokens`: the keywords and marks of declarations, with what must not follow them;
- `Declaration.spelled_written`: **the tokens of a declaration are spelled**;
- `Declaration.text_written`: together they are the text of the declaration;
- `Declaration.size_written`: there are not too many of them.
-/

namespace RouteAtlas.Script

/-! ## Names -/

/-- The text is a name: a word that is no keyword. -/
structure IsName (n : String) : Prop where
  word : IsWord n.toList
  free : Grammar.words.lookup n.toList = none

/-- A word that is too short for a keyword, or has a character that no keyword has. -/
def isPlainName (n : List Char) : Bool :=
  n.all isNameChar && n.head?.any (!isDigit ·) && (n.length == 1 || !n.all isSmall)

theorem isName_of_isPlainName {n : String} (h : isPlainName n.toList = true) : IsName n := by
  rw [isPlainName, Bool.and_eq_true, Bool.and_eq_true] at h
  obtain ⟨⟨hall, hfirst⟩, hplain⟩ := h
  obtain ⟨c, cs, hn⟩ : ∃ c cs, n.toList = c :: cs := by
    cases hn : n.toList with
    | nil =>
      rw [hn] at hfirst
      cases hfirst
    | cons c cs => exact ⟨c, cs, rfl⟩
  refine ⟨⟨hn ▸ List.cons_ne_nil c cs, hall, ?_⟩, ?_⟩
  · rw [hn, List.head?_cons, Option.any_some] at hfirst ⊢
    rwa [Bool.not_eq_true'] at hfirst
  · cases hlookup : Grammar.words.lookup n.toList with
    | none => rfl
    | some code =>
      obtain ⟨front, back, hsplit, -⟩ := List.lookup_eq_some_iff.mp hlookup
      obtain ⟨hlong, hsmall, -⟩ := Grammar.words_spec (n.toList, code)
        (hsplit ▸ List.mem_append_right _ List.mem_cons_self)
      rw [hsmall, Bool.not_true, Bool.or_false, beq_iff_eq] at hplain
      rw [hplain] at hlong
      exact absurd hlong (by decide)

/-- The names of an argument are no keywords, and its literals can be read. -/
def Argument.Readable : Argument → Prop
  | .name n => IsName n
  | .options id path parent => id.Reads ∧ path.Reads ∧ IsName parent

/-- The names of a declaration are no keywords, and its literals can be read. -/
def Declaration.Readable : Declaration → Prop
  | .import_ imported bound source _ => IsName imported ∧ IsName bound ∧ source.Reads
  | .constant name value _ => IsName name ∧ value.Reads
  | .call name object method a _ => IsName name ∧ IsName object ∧ IsName method ∧ a.Readable
  | .interface_ name members => IsName name ∧ ∀ m ∈ members, m.1.Reads ∧ IsName m.2

/-! ## Tokens -/

/-- The marks of declarations, each with the characters that must not follow it. -/
def layoutMarks : List (String × List Char) :=
  [("\x7b", ['|']), ("\x7d", []), (":", []), (",", []), (".", ['.']), ("=", ['=', '>']), ("(", []),
    (")", []), ("=>", []), (";", []), ("\x22", []), ("\x27", [])]

/-- The keywords of declarations. -/
def layoutWords : List String :=
  ["import", "as", "from", "const", "any", "export", "interface", "typeof"]

/-- The fixed names of declarations that have small letters only, and others beside them. -/
def layoutNames : List String := ["id", "path", "getParentRoute", "update", "_addFileChildren"]

theorem layout_tokens :
    (∀ m ∈ layoutMarks, (m.1.toList, Symbol.ofSpelling m.1) ∈ Grammar.marks ∧
      (Grammar.extensions m.1.toList).all m.2.contains = true) ∧
    (∀ w ∈ layoutWords, (w.toList, Symbol.ofSpelling w) ∈ Grammar.words) ∧
    ∀ n ∈ layoutNames, Grammar.words.lookup n.toList = none := by
  decide +kernel

theorem isName_of_mem_layoutNames {n : String} (h : n ∈ layoutNames) : IsName n := by
  have hnames : ∀ n ∈ layoutNames, n.toList ≠ [] ∧ n.toList.all isNameChar = true ∧
      n.toList.head?.any isDigit = false := by decide
  obtain ⟨hne, hall, hfirst⟩ := hnames n h
  exact ⟨⟨hne, hall, hfirst⟩, layout_tokens.2.2 n h⟩

/-! ## A test for readable declarations -/

/-- The text can be seen to be a name. -/
def seemsName (n : String) : Bool := isPlainName n.toList || layoutNames.contains n

theorem isName_of_seemsName {n : String} (h : seemsName n = true) : IsName n := by
  rw [seemsName, Bool.or_eq_true, List.contains_iff_mem] at h
  exact h.elim isName_of_isPlainName isName_of_mem_layoutNames

/-- The literal is quoted and has raw characters only. -/
def Literal.isPlain (l : Literal) : Bool :=
  (l.quote == '\x27' || l.quote == '\x22') && l.pieces.all fun
    | .raw c => c != l.quote && c != '\\' && c != '\n' && c != '\r'
    | .escape _ => false

theorem Literal.reads_of_isPlain {l : Literal} (h : l.isPlain = true) : l.Reads := by
  rw [isPlain, Bool.and_eq_true, Bool.or_eq_true, beq_iff_eq, beq_iff_eq, List.all_eq_true] at h
  refine ⟨h.1, fun c hc => ?_, fun body hbody => absurd (h.2 _ hbody) Bool.false_ne_true⟩
  have hplain := h.2 _ hc
  simp only [Bool.and_eq_true, bne_iff_ne] at hplain
  exact ⟨hplain.1.1.1, hplain.1.1.2, hplain.1.2, hplain.2⟩

/-- The declaration can be seen to be readable. -/
def Declaration.isPlain : Declaration → Bool
  | .import_ imported bound source _ => seemsName imported && seemsName bound && source.isPlain
  | .constant name value _ => seemsName name && value.isPlain
  | .call name object method (.name n) _ =>
    seemsName name && seemsName object && seemsName method && seemsName n
  | .call _ _ _ (.options _ _ _) _ => false
  | .interface_ name members =>
    seemsName name && members.all fun m => m.1.isPlain && seemsName m.2

theorem Declaration.readable_of_isPlain {d : Declaration} (h : d.isPlain = true) : d.Readable := by
  match d with
  | .import_ _ _ _ _ =>
    rw [isPlain, Bool.and_eq_true, Bool.and_eq_true] at h
    exact ⟨isName_of_seemsName h.1.1, isName_of_seemsName h.1.2, Literal.reads_of_isPlain h.2⟩
  | .constant _ _ _ =>
    rw [isPlain, Bool.and_eq_true] at h
    exact ⟨isName_of_seemsName h.1, Literal.reads_of_isPlain h.2⟩
  | .call _ _ _ (.name _) _ =>
    rw [isPlain, Bool.and_eq_true, Bool.and_eq_true, Bool.and_eq_true] at h
    exact ⟨isName_of_seemsName h.1.1.1, isName_of_seemsName h.1.1.2, isName_of_seemsName h.1.2,
      isName_of_seemsName h.2⟩
  | .call _ _ _ (.options _ _ _) _ => cases h
  | .interface_ _ _ =>
    rw [isPlain, Bool.and_eq_true, List.all_eq_true] at h
    refine ⟨isName_of_seemsName h.1, fun m hm => ?_⟩
    have hplain := Bool.and_eq_true_iff.mp (h.2 m hm)
    exact ⟨Literal.reads_of_isPlain hplain.1, isName_of_seemsName hplain.2⟩

theorem Declaration.readable_of_all {ds : List Declaration} (h : ds.all isPlain = true) :
    ∀ d ∈ ds, d.Readable := fun d hd => readable_of_isPlain (List.all_eq_true.mp h d hd)

namespace Written

variable {g : Gap} {gap cs : List Char} {t : String} {parts rest : Written} {f : Phrase} {n : Nat}

theorem spelled_name (hg : g.Holds gap) (ht : IsName t)
    (hend : goesOnName (rest.text ++ cs) = false) (h : rest.Spelled cs) :
    (name g gap t rest).Spelled cs :=
  ⟨⟨hg, ht.word, ht.free, hend⟩, h⟩

theorem spelled_word (hg : g.Holds gap) (ht : t ∈ layoutWords)
    (hend : goesOnName (rest.text ++ cs) = false) (h : rest.Spelled cs) :
    (word g gap t rest).Spelled cs := by
  have hwords : ∀ w ∈ layoutWords, w.toList ≠ [] ∧ w.toList.all isNameChar = true ∧
      w.toList.head?.any isDigit = false := by decide
  obtain ⟨hne, hall, hfirst⟩ := hwords t ht
  exact ⟨⟨hg, rfl, ⟨hne, hall, hfirst⟩, layout_tokens.2.1 t ht, hend⟩, h⟩

theorem spelled_mark (avoid : List Char) (hg : g.Holds gap) (ht : (t, avoid) ∈ layoutMarks)
    (hend : (rest.text ++ cs).head?.all (!avoid.contains ·) = true) (h : rest.Spelled cs) :
    (mark g gap t rest).Spelled cs := by
  obtain ⟨hmark, hextensions⟩ := layout_tokens.1 _ ht
  refine ⟨⟨hg, rfl, hmark, fun c hc hmem => ?_⟩, h⟩
  rw [Option.mem_def.mp hc, Option.all_some, List.all_eq_true.mp hextensions c hmem] at hend
  cases hend

/-- A mark that is not part of a longer one, whatever stands behind it. -/
theorem spelled_mark' (hg : g.Holds gap) (ht : (t, []) ∈ layoutMarks) (h : rest.Spelled cs) :
    (mark g gap t rest).Spelled cs :=
  spelled_mark [] hg ht (by cases (rest.text ++ cs).head? <;> rfl) h

theorem spelled_andThen (hp : parts.Spelled (rest.text ++ cs)) (h : rest.Spelled cs) :
    (andThen f parts rest).Spelled cs := ⟨hp, h⟩

theorem spelled_of (hp : parts.Spelled cs) : (of f parts).Spelled cs := ⟨hp, trivial⟩

@[simp] theorem text_nil : nil.text = [] := rfl

@[simp] theorem text_name : (name g gap t rest).text = gap ++ (t.toList ++ rest.text) :=
  List.append_assoc _ _ _

@[simp] theorem text_word : (word g gap t rest).text = gap ++ (t.toList ++ rest.text) :=
  List.append_assoc _ _ _

@[simp] theorem text_mark : (mark g gap t rest).text = gap ++ (t.toList ++ rest.text) :=
  List.append_assoc _ _ _

@[simp] theorem text_lineEnd : (lineEnd rest).text = rest.text := rfl

@[simp] theorem text_phrase : (phrase n parts rest).text = parts.text ++ rest.text := rfl

@[simp] theorem text_andThen : (andThen f parts rest).text = parts.text ++ rest.text := rfl

@[simp] theorem text_of : (of f parts).text = parts.text := List.append_nil _

/-! ### Repetitions -/

/-- Texts one behind the other, each of them spelled. -/
def SpelledAll : List Written → List Char → Prop
  | [], _ => True
  | w :: ws, cs => w.Spelled (ws.flatMap text ++ cs) ∧ SpelledAll ws cs

theorem text_chain (n : Nat) :
    ∀ (ws : List Written) (v : Written), (chain n v ws).text = v.text ++ ws.flatMap text
  | [], v => (List.append_nil _).symm
  | w :: ws, v => by
    rw [chain, text_chain n ws, List.flatMap_cons, ← List.append_assoc]
    show v.text ++ (w.text ++ []) ++ _ = _
    rw [List.append_nil]

theorem spelled_chain (n : Nat) :
    ∀ {ws : List Written} {v : Written}, v.Spelled (ws.flatMap text ++ cs) → SpelledAll ws cs →
      (chain n v ws).Spelled cs
  | [], _, hv, _ => hv
  | w :: ws, v, hv, hws => by
    rw [List.flatMap_cons, List.append_assoc] at hv
    rw [chain]
    refine spelled_chain n ⟨?_, hws.1, trivial⟩ hws.2
    show v.Spelled (w.text ++ [] ++ (ws.flatMap text ++ cs))
    rwa [List.append_nil]

/-! ### Literals -/

theorem text_run (r : Form × List Char) : (run r).text = r.2 := List.append_nil r.2

theorem text_runs (q : Quote) : ∀ ps : List Piece,
    (runs q ps).flatMap (·.2) = ps.flatMap Piece.source
  | [] => rfl
  | .escape body :: ps => by
    rw [runs, List.flatMap_cons, text_runs q ps]
    rfl
  | .raw c :: ps => by
    have ih := text_runs q ps
    rcases runs_raw q c ps with ⟨heq, -⟩ | ⟨cs, rs, hrs, heq⟩
    · rw [heq, List.flatMap_cons, List.flatMap_cons, ih]
      rfl
    · rw [heq, List.flatMap_cons (f := Piece.source), ← ih, hrs]
      rfl

theorem text_between (q : Quote) (ps : List Piece) :
    (between q (runs q ps)).text = ps.flatMap Piece.source ++ q.text.toList := by
  have hruns := text_runs q ps
  cases heq : runs q ps with
  | nil =>
    rw [heq] at hruns
    rw [← hruns]
    exact List.append_nil _
  | cons r rs =>
    rw [heq, List.flatMap_cons] at hruns
    rw [between, text, text_chain, text_run, List.flatMap_map, funext text_run, hruns]
    exact congrArg _ (List.append_nil _)

/-- The quote of a literal is one of the two quotes. -/
theorem toList_quote {l : Literal} (hl : l.Reads) :
    (Quote.ofChar l.quote).text.toList = [l.quote] := by
  rcases hl.quoted with hq | hq <;> rw [hq] <;> rfl

theorem text_literal {l : Literal} (hl : l.Reads) (g : Gap) (gap : List Char) (rest : Written) :
    (literal g gap l rest).text = gap ++ (l.source ++ rest.text) := by
  show gap ++ (Quote.ofChar l.quote).text.toList ++
    (between (Quote.ofChar l.quote) (runs (Quote.ofChar l.quote) l.pieces)).text ++ rest.text = _
  rw [text_between, toList_quote hl, Literal.source]
  simp only [List.append_assoc, List.cons_append, List.nil_append]

/-- Every run is spelled before the closing quote: a run of raw characters ends at an escape or at
the quote. -/
theorem spelledAll_runs {q : Quote} : ∀ {ps : List Piece},
    (∀ c, .raw c ∈ ps → c ≠ q.char ∧ c ≠ '\\' ∧ c ≠ '\n' ∧ c ≠ '\r') →
    (∀ body, .escape body ∈ ps → Escape.Takes body) →
      SpelledAll ((runs q ps).map run) (q.char :: cs)
  | [], _, _ => trivial
  | .escape body :: ps, hraws, hescapes => by
    refine ⟨⟨⟨rfl, rfl, fun s i h => ?_⟩, trivial⟩,
      spelledAll_runs (fun c hc => hraws c (List.mem_cons_of_mem _ hc))
        fun b hb => hescapes b (List.mem_cons_of_mem _ hb)⟩
    rw [hescapes body List.mem_cons_self s i _ h, List.length_cons]
    congr 1
    omega
  | .raw c :: ps, hraws, hescapes => by
    have ih := spelledAll_runs (fun d hd => hraws d (List.mem_cons_of_mem _ hd))
        fun b hb => hescapes b (List.mem_cons_of_mem _ hb)
    have hform := form_of_mem_runs q ps
    have hc := hraws c List.mem_cons_self
    rcases runs_raw q c ps with ⟨heq, hhead⟩ | ⟨ds, rs, hrs, heq⟩
    · rw [heq]
      refine ⟨⟨⟨rfl, List.cons_ne_nil _ _, List.forall_mem_singleton.mpr hc, ?_⟩, trivial⟩, ih⟩
      -- behind a run of its own stands the quote, or an escape
      cases hruns : runs q ps with
      | nil => exact .inl rfl
      | cons r rs =>
        rw [hruns] at ih hform hhead
        obtain ⟨f, es⟩ := r
        obtain rfl : f = .escape := (hform _ List.mem_cons_self).resolve_left (hhead _ rfl)
        obtain ⟨⟨⟨-, hescape, -⟩, -⟩, -⟩ := ih
        obtain ⟨es, rfl⟩ := List.head?_eq_some_iff.mp hescape
        exact .inr rfl
    · rw [hrs] at ih
      obtain ⟨⟨⟨-, -, hds, hend⟩, -⟩, hall⟩ := ih
      rw [heq]
      refine ⟨⟨⟨rfl, List.cons_ne_nil _ _, ?_, hend⟩, trivial⟩, hall⟩
      exact List.forall_mem_cons.mpr ⟨hc, hds⟩

theorem mem_layoutMarks (q : Quote) : (q.text, []) ∈ layoutMarks := by
  cases q <;> decide

theorem spelled_between {q : Quote} {ps : List Piece}
    (hraws : ∀ c, .raw c ∈ ps → c ≠ q.char ∧ c ≠ '\\' ∧ c ≠ '\n' ∧ c ≠ '\r')
    (hescapes : ∀ body, .escape body ∈ ps → Escape.Takes body) :
    (between q (runs q ps)).Spelled cs := by
  have hclose : (mark .none [] q.text nil).Spelled cs :=
    spelled_mark' rfl (mem_layoutMarks q) trivial
  have hquote : (mark .none [] q.text nil).text ++ cs = q.char :: cs := by
    cases q <;> rfl
  have hruns : SpelledAll ((runs q ps).map run) (q.char :: cs) := spelledAll_runs hraws hescapes
  cases heq : runs q ps with
  | nil => exact hclose
  | cons r rs =>
    rw [heq] at hruns
    exact ⟨hquote ▸ spelled_chain _ hruns.1 hruns.2, hclose⟩

theorem spelled_literal {l : Literal} (hl : l.Reads) (hg : g.Holds gap) (h : rest.Spelled cs) :
    (literal g gap l rest).Spelled cs := by
  have hquote : (Quote.ofChar l.quote).char = l.quote := by
    rcases hl.quoted with hq | hq <;> rw [hq] <;> rfl
  exact spelled_andThen (spelled_mark' hg (mem_layoutMarks _)
    (spelled_between (hquote.symm ▸ hl.raws) hl.escapes)) h

/-! ### Expressions -/

theorem spelled_nameValue (hg : g.Holds gap) (ht : IsName t)
    (hend : goesOnName (rest.text ++ cs) = false) (h : rest.Spelled cs) :
    (nameValue g gap t rest).Spelled cs :=
  spelled_andThen (spelled_of (spelled_name hg ht hend trivial)) h

theorem spelled_pair {value : Written} (ht : IsName t) (hv : value.Spelled (rest.text ++ cs))
    (h : rest.Spelled cs) : (pair t value rest).Spelled cs :=
  spelled_andThen
    (spelled_andThen (spelled_name rfl ht rfl trivial)
      (spelled_mark' rfl (by decide) (spelled_of (spelled_of hv)))) h

theorem spelled_constantly (ht : IsName t) (hend : goesOnName cs = false) :
    (constantly t).Spelled cs :=
  spelled_of (spelled_andThen
    (spelled_of (spelled_mark' rfl (by decide) (spelled_mark' rfl (by decide) trivial)))
    (spelled_mark' rfl (by decide) (spelled_nameValue rfl ht hend trivial)))

theorem spelled_argument {a : Argument} (ha : a.Readable)
    (hend : goesOnName (rest.text ++ cs) = false) (h : rest.Spelled cs) :
    (argument a rest).Spelled cs := by
  cases a with
  | name n => exact spelled_nameValue rfl ha hend h
  | options id path parent =>
    obtain ⟨hid, hpath, hparent⟩ := ha
    have hname : ∀ n ∈ layoutNames, IsName n := fun n => isName_of_mem_layoutNames
    -- the two other entries, and the comma behind them
    have hmore : ∀ cs, (moreOptions path parent).Spelled cs := by
      intro cs
      refine spelled_chain _ (spelled_mark' rfl (by decide) (spelled_pair (hname _ (by decide))
        (spelled_literal hpath rfl trivial) trivial)) ⟨?_, ?_, trivial⟩
      · exact spelled_mark' rfl (by decide) (spelled_pair (hname _ (by decide))
          (spelled_constantly hparent rfl) trivial)
      · exact spelled_mark' rfl (by decide) trivial
    refine spelled_andThen (spelled_of (spelled_andThen (spelled_of (spelled_of
      (spelled_mark ['|'] rfl (by decide) rfl (spelled_pair (hname _ (by decide))
        (spelled_literal hid rfl trivial)
        ⟨hmore _, spelled_mark' rfl (by decide) trivial⟩)))) ?_)) h
    exact spelled_word rfl (by decide) rfl (spelled_of (spelled_of (spelled_of
      (spelled_word rfl (by decide) hend trivial))))

/-- A word begins with no point. -/
theorem head?_word {n : String} (hn : IsName n) (cs : List Char) :
    (n.toList ++ cs).head?.all (!List.contains ['.'] ·) = true := by
  obtain ⟨c, ds, hcs⟩ := List.exists_cons_of_ne_nil hn.word.nonempty
  have hc := List.all_eq_true.mp hn.word.all c (hcs ▸ List.mem_cons_self)
  have hne : c ≠ '.' := by
    rintro rfl
    exact absurd hc (by decide)
  rw [hcs, List.cons_append, List.head?_cons]
  simp [hne]

theorem spelled_call {object method : String} {a : Argument} (ho : IsName object)
    (hm : IsName method) (ha : a.Readable) : (call object method a).Spelled cs := by
  refine spelled_of (spelled_andThen (spelled_of (spelled_of (spelled_andThen
    (spelled_name rfl ho rfl trivial) ?_))) (spelled_of (spelled_mark' rfl (by decide)
      (spelled_argument ha rfl (spelled_mark' rfl (by decide) trivial)))))
  refine spelled_mark ['.'] rfl (by decide) ?_ (spelled_name rfl hm rfl trivial)
  show ((method.toList ++ []) ++ _).head?.all _ = true
  rw [List.append_nil]
  exact head?_word hm _

/-! ### Declarations -/

theorem spelled_finish {semicolon : Bool} (hend : EndsHere cs) : (finish semicolon).Spelled cs := by
  cases semicolon with
  | false => exact ⟨⟨rfl, rfl, hend⟩, trivial⟩
  | true => exact spelled_mark' rfl (by decide) trivial

theorem spelled_constant {value : Written} {semicolon : Bool} (hg : gap.all isGap = true)
    (ht : IsName t) (hv : ∀ cs, value.Spelled cs) (hblank : ∃ back, value.text = ' ' :: back)
    (hend : EndsHere cs) : (Written.constant gap t value semicolon).Spelled cs := by
  refine spelled_of (spelled_of (spelled_word hg (by decide) rfl (spelled_andThen
    (spelled_name rfl ht rfl (spelled_of (spelled_mark ['=', '>'] rfl (by decide) ?_
      (spelled_of (spelled_of (hv _)))))) (spelled_finish hend))))
  obtain ⟨back, hback⟩ := hblank
  rw [text_of, text_of, hback]
  rfl

/-- A line may end before what does not go on with the statement on it. -/
theorem endsHere_cons (gap cs : List Char) (hgap : gap.all isGap = true)
    (hopens : opensLine cs = true) : EndsHere ('\n' :: (gap ++ cs)) :=
  .inr ⟨gap, cs, rfl, hgap, hopens⟩

theorem spelled_member {m : Literal × String} (hm : m.1.Reads ∧ IsName m.2)
    (hend : goesOnName (rest.text ++ cs) = false) (h : rest.Spelled cs) :
    (member m rest).Spelled cs :=
  spelled_andThen (spelled_andThen (spelled_literal hm.1 rfl trivial)
    (spelled_of (spelled_mark' rfl (by decide) (spelled_of (spelled_of (spelled_of
      (spelled_word rfl (by decide) rfl (spelled_name rfl hm.2 hend trivial)))))))) h

theorem spelled_lineEnd (hend : EndsHere (rest.text ++ cs)) (h : rest.Spelled cs) :
    (lineEnd rest).Spelled cs := ⟨⟨rfl, rfl, hend⟩, h⟩

theorem spelled_close : (lineEnd (mark .lines ['\n'] "\x7d" nil)).Spelled cs :=
  spelled_lineEnd (endsHere_cons [] _ rfl rfl) (spelled_mark' rfl (by decide) trivial)

/-- A line may end before a member. -/
theorem endsHere_member {m : Literal × String} (hm : m.1.Reads) :
    EndsHere ((member m rest).text ++ cs) := by
  have hopens : ∀ back, opensLine (m.1.source ++ back) = true := by
    intro back
    rw [Literal.source]
    rcases hm.quoted with hq | hq <;> rw [hq] <;> rfl
  rw [member, memberParts, text_andThen, text_andThen, text_literal hm]
  simp only [List.append_assoc]
  exact endsHere_cons [' ', ' '] _ rfl (hopens _)

/-- Members of which each stands on a new line. -/
theorem spelledAll_members (hcs : goesOnName cs = false) :
    ∀ {ms : List (Literal × String)}, (∀ m ∈ ms, m.1.Reads ∧ IsName m.2) →
      SpelledAll (ms.map fun m => lineEnd (member m nil)) cs ∧
        goesOnName ((ms.map fun m => lineEnd (member m nil)).flatMap text ++ cs) = false
  | [], _ => ⟨trivial, hcs⟩
  | m :: ms, hms => by
    obtain ⟨hm, hms⟩ := List.forall_mem_cons.mp hms
    obtain ⟨hall, hend⟩ := spelledAll_members hcs hms
    exact ⟨⟨spelled_lineEnd (endsHere_member hm.1) (spelled_member hm hend trivial), hall⟩, rfl⟩

theorem spelled_members {ms : List (Literal × String)} (hms : ∀ m ∈ ms, m.1.Reads ∧ IsName m.2) :
    (members ms).Spelled cs := by
  match ms with
  | [] => exact spelled_mark' rfl (by decide) trivial
  | [m] => exact spelled_member (hms m List.mem_cons_self) rfl spelled_close
  | m :: m' :: ms =>
    obtain ⟨hm, hms⟩ := List.forall_mem_cons.mp hms
    obtain ⟨hm', hms⟩ := List.forall_mem_cons.mp hms
    obtain ⟨hall, hend⟩ := @spelledAll_members ('\n' :: '\x7d' :: cs) rfl _ hms
    refine spelled_member hm ?_ ⟨spelled_chain _ (spelled_lineEnd (endsHere_member hm'.1)
      (spelled_member hm' hend trivial)) hall, spelled_close⟩
    rw [text, text_chain, List.append_assoc, List.append_assoc]
    rfl

end Written

open Written in
/-- **The tokens of a declaration are spelled**, where a line may end behind it. -/
theorem Declaration.spelled_written {d : Declaration} {gap cs : List Char} (hd : d.Readable)
    (hg : gap.all isGap = true) (hend : EndsHere cs) : (d.written gap).Spelled cs := by
  cases d with
  | import_ imported bound source semicolon =>
    obtain ⟨hi, hb, hs⟩ := hd
    refine spelled_of (spelled_of (spelled_word hg (by decide) rfl (spelled_andThen (spelled_of
      (spelled_mark ['|'] rfl (by decide) rfl (spelled_andThen (spelled_andThen
        (spelled_name rfl hi rfl trivial) (spelled_word rfl (by decide) rfl (spelled_of
          (spelled_name rfl hb rfl trivial)))) (spelled_mark' rfl (by decide) trivial)))) ?_)))
    exact spelled_andThen (spelled_word rfl (by decide) rfl (spelled_literal hs rfl trivial))
      (spelled_finish hend)
  | constant n value semicolon =>
    exact spelled_of (spelled_constant hg hd.1 (fun cs => spelled_literal hd.2 rfl trivial)
      ⟨_, rfl⟩ hend)
  | call n object method a semicolon =>
    obtain ⟨hn, ho, hm, ha⟩ := hd
    exact spelled_of (spelled_constant hg hn (fun cs => spelled_call ho hm ha) ⟨_, rfl⟩ hend)
  | interface_ n ms =>
    refine spelled_of (spelled_of (spelled_word hg (by decide) rfl (spelled_of (spelled_of
      (spelled_word rfl (by decide) rfl (spelled_name rfl hd.1 rfl (spelled_of
        (spelled_mark ['|'] rfl (by decide) ?_ (spelled_members hd.2)))))))))
    match ms with
    | [] | [_] | _ :: _ :: _ => rfl

/-! ## Texts -/

namespace Written

variable {g : Gap} {gap : List Char} {t : String} {rest : Written}

theorem text_argument {a : Argument} (ha : a.Readable) :
    (argument a rest).text = a.text ++ rest.text := by
  cases a with
  | name n =>
    show _ = n.toList ++ rest.text
    simp [argument, nameValue]
  | options id path parent =>
    obtain ⟨hid, hpath, -⟩ := ha
    have hopen : "\x7b\n  id: ".toList = "\x7b".toList ++ (['\n', ' ', ' '] ++ ("id".toList ++
        (":".toList ++ [' ']))) := rfl
    have hsecond : ",\n  path: ".toList = ",".toList ++ (['\n', ' ', ' '] ++ ("path".toList ++
        (":".toList ++ [' ']))) := rfl
    have hthird : ",\n  getParentRoute: () => ".toList = ",".toList ++ (['\n', ' ', ' '] ++
        ("getParentRoute".toList ++ (":".toList ++ ([' '] ++ ("(".toList ++ (")".toList ++ ([' '] ++
          ("=>".toList ++ [' '])))))))) := rfl
    have hend : ",\n\x7d as any".toList = ",".toList ++ (['\n'] ++ ("\x7d".toList ++ ([' '] ++
        ("as".toList ++ ([' '] ++ "any".toList))))) := rfl
    rw [options_text_append, hopen, hsecond, hthird, hend]
    simp only [argument, options, moreOptions, pair, constantly, nameValue, text_chain,
      text_andThen, text_of, text_mark, text_word, text_name, text_phrase, text_literal hid,
      text_literal hpath, text_nil, List.append_assoc, List.append_nil, List.flatMap_cons,
      List.flatMap_nil, List.nil_append]

theorem text_call {object method : String} {a : Argument} (ha : a.Readable) :
    (call object method a).text = ' ' :: Declaration.callText object method a := by
  rw [Declaration.callText, Declaration.argumentText]
  simp only [call, text_andThen, text_of, text_mark, text_name, text_argument ha, text_nil,
    List.append_assoc, List.append_nil, List.nil_append, List.cons_append]

theorem text_finish (semicolon : Bool) : (finish semicolon).text = Declaration.stop semicolon := by
  cases semicolon <;> rfl

theorem text_constant (gap : List Char) (t : String) (value : Written) (semicolon : Bool) :
    (Written.constant gap t value semicolon).text =
      gap ++ ("const ".toList ++ (t.toList ++ (" =".toList ++
        (value.text ++ Declaration.stop semicolon)))) := by
  have hconst : "const ".toList = "const".toList ++ [' '] := rfl
  have hequals : " =".toList = [' '] ++ "=".toList := rfl
  rw [hconst, hequals]
  simp only [Written.constant, text_andThen, text_of, text_mark, text_word, text_name, text_finish,
    List.append_assoc]

/-- Parts with a separator before each of them, and one behind all. -/
theorem flatMap_cons_append {α β : Type} (c : β) (f : α → List β) (cs : List β) :
    ∀ xs : List α, (xs.flatMap fun x => c :: f x) ++ c :: cs =
      c :: ((xs.flatMap fun x => f x ++ [c]) ++ cs)
  | [] => rfl
  | x :: xs => by
    rw [List.flatMap_cons, List.flatMap_cons, List.append_assoc, flatMap_cons_append c f cs xs]
    simp only [List.cons_append, List.append_assoc, List.nil_append]

/-- A member as written, without its line end. -/
def memberLine (m : Literal × String) : List Char :=
  "  ".toList ++ (m.1.source ++ (": typeof ".toList ++ m.2.toList))

theorem memberText_eq (m : Literal × String) :
    Declaration.memberText m.1 m.2 = memberLine m ++ ['\n'] := by
  have hend : "\n".toList = ['\n'] := rfl
  simp only [Declaration.memberText, memberLine, hend, List.append_assoc]

theorem text_member {m : Literal × String} (hm : m.1.Reads) :
    (member m rest).text = '\n' :: (memberLine m ++ rest.text) := by
  have hopen : ['\n', ' ', ' '] = '\n' :: "  ".toList := rfl
  have htypeof : ": typeof ".toList = ":".toList ++ ([' '] ++ ("typeof".toList ++ [' '])) := rfl
  rw [memberLine, htypeof]
  simp only [member, memberParts, text_andThen, text_of, text_mark, text_word, text_name, text_nil,
    text_literal hm, hopen, List.append_assoc, List.append_nil, List.nil_append, List.cons_append]

theorem text_members {ms : List (Literal × String)} (hms : ∀ m ∈ ms, m.1.Reads) :
    (members ms).text =
      '\n' :: ((ms.flatMap fun m => Declaration.memberText m.1 m.2) ++ "\x7d".toList) := by
  have hmembers : (members ms).text =
      (ms.flatMap fun m => '\n' :: memberLine m) ++ '\n' :: "\x7d".toList := by
    have hlines : ∀ ns : List (Literal × String), (∀ m ∈ ns, m.1.Reads) →
        (ns.map fun m => lineEnd (member m nil)).flatMap text =
          ns.flatMap fun m => '\n' :: memberLine m := by
      intro ns hns
      rw [List.flatMap_map]
      refine congrArg List.flatten (List.map_congr_left fun m hm => ?_)
      rw [text_lineEnd, text_member (hns m hm), text_nil, List.append_nil]
    match ms with
    | [] => rfl
    | [m] =>
      rw [members, text_member (hms m List.mem_cons_self)]
      simp
    | m :: m' :: ms =>
      obtain ⟨hm, hms⟩ := List.forall_mem_cons.mp hms
      obtain ⟨hm', hms⟩ := List.forall_mem_cons.mp hms
      rw [members, text_member hm, text_phrase, text_chain, hlines ms hms, text_lineEnd,
        text_member hm']
      simp
  rw [hmembers, flatMap_cons_append]
  simp only [memberText_eq]

end Written

open Written in
/-- The text of a declaration is what its tokens are written as. -/
theorem Declaration.text_written {d : Declaration} (hd : d.Readable) (gap : List Char) :
    (d.written gap).text = gap ++ d.text := by
  rw [← d.text.append_nil]
  cases d with
  | import_ imported bound source semicolon =>
    have hopen : "import \x7b ".toList =
        "import".toList ++ ([' '] ++ ("\x7b".toList ++ [' '])) := rfl
    have has : " as ".toList = [' '] ++ ("as".toList ++ [' ']) := rfl
    have hfrom : " \x7d from ".toList =
        [' '] ++ ("\x7d".toList ++ ([' '] ++ ("from".toList ++ [' ']))) := rfl
    rw [import_text_append, hopen, has, hfrom]
    simp only [written, writtenPart, text_andThen, text_of, text_mark, text_word, text_name,
      text_nil, text_finish, text_literal hd.2.2, List.append_assoc, List.append_nil]
  | constant n value semicolon =>
    have hequals : " = ".toList = " =".toList ++ [' '] := rfl
    rw [constant_text_append, hequals]
    simp only [written, writtenPart, text_of, text_constant, text_literal hd.2, text_nil,
      List.append_assoc, List.append_nil]
  | call n object method a semicolon =>
    have hequals : " = ".toList = " =".toList ++ [' '] := rfl
    rw [call_text_append, hequals]
    simp only [written, writtenPart, text_of, text_constant, text_call hd.2.2.2, callText,
      argumentText, List.append_assoc, List.append_nil, List.cons_append, List.nil_append]
  | interface_ n ms =>
    have hopen : "export interface ".toList =
        "export".toList ++ ([' '] ++ ("interface".toList ++ [' '])) := rfl
    have hbrace : " \x7b\n".toList = [' '] ++ ("\x7b".toList ++ ['\n']) := rfl
    rw [interface_text_append, hopen, hbrace]
    simp only [written, writtenPart, text_of, text_mark, text_word, text_name,
      text_members fun m hm => (hd.2 m hm).1, List.append_assoc, List.append_nil, List.cons_append,
      List.nil_append]

/-! ## Sizes -/

namespace Written

variable {g : Gap} {gap : List Char} {rest : Written}

theorem size_runs (n : Nat) : ∀ (rs : List (Form × List Char)) (v : Written),
    (chain n v (rs.map run)).size = v.size + 3 * rs.length
  | [], _ => rfl
  | r :: rs, v => by
    rw [List.map_cons, chain, size_runs n rs, List.length_cons]
    simp only [run, size]
    omega

/-- A repetition has a bounded number of tokens and phrases for each character, if its parts have
with room for two more. -/
theorem size_chain_le {α : Type} (n k : Nat) (f : α → Written) (g : α → List Char) :
    ∀ (as : List α) (v : Written), (∀ a ∈ as, (f a).size + 2 ≤ k * (g a).length) →
      (chain n v (as.map f)).size ≤ v.size + k * (as.flatMap g).length
  | [], _, _ => Nat.le_refl _
  | a :: as, v, h => by
    obtain ⟨ha, has⟩ := List.forall_mem_cons.mp h
    have ih := size_chain_le n k f g as (phrase n v (phrase n (f a) nil)) has
    rw [List.map_cons, chain, List.flatMap_cons, List.length_append, Nat.mul_add]
    simp only [size] at ih
    omega

theorem length_runs_le (q : Quote) :
    ∀ ps : List Piece, (runs q ps).length ≤ (ps.flatMap Piece.source).length
  | [] => Nat.le_refl 0
  | .escape body :: ps => by
    have ih := length_runs_le q ps
    rw [runs, List.length_cons, List.flatMap_cons, List.length_append]
    simp only [Piece.source, List.length_cons]
    omega
  | .raw c :: ps => by
    have ih := length_runs_le q ps
    rw [List.flatMap_cons, List.length_append]
    simp only [Piece.source, List.length_singleton]
    rcases runs_raw q c ps with ⟨heq, -⟩ | ⟨cs, rs, hrs, heq⟩
    · rw [heq, List.length_cons]
      omega
    · rw [hrs, List.length_cons] at ih
      rw [heq, List.length_cons]
      omega

theorem two_le_length_source (l : Literal) : 2 ≤ l.source.length := by
  simp [Literal.source]

/-- A literal has at most three tokens and phrases for each of its characters. -/
theorem size_literal (g : Gap) (gap : List Char) (rest : Written) (l : Literal) :
    (literal g gap l rest).size ≤ 3 * l.source.length + rest.size := by
  have hlength : l.source.length = (l.pieces.flatMap Piece.source).length + 2 := by
    simp [Literal.source]
  have hruns := length_runs_le (Quote.ofChar l.quote) l.pieces
  have hbetween : (between (Quote.ofChar l.quote) (runs (Quote.ofChar l.quote) l.pieces)).size ≤
      3 * (runs (Quote.ofChar l.quote) l.pieces).length + 1 := by
    cases runs (Quote.ofChar l.quote) l.pieces with
    | nil => exact Nat.le_refl 1
    | cons r rs =>
      simp only [between, size, mark, size_runs, run, List.length_cons]
      omega
  show (between _ _).size + 1 + 1 + rest.size ≤ _
  omega

theorem size_argument (rest : Written) {a : Argument} (ha : a.Readable) :
    (argument a rest).size ≤ 60 * a.text.length + rest.size := by
  cases a with
  | name n =>
    have hne := List.length_pos_iff.mpr ha.word.nonempty
    show 0 + 1 + 1 + 0 + 1 + rest.size ≤ 60 * n.toList.length + rest.size
    omega
  | options id path parent =>
    have htext := congrArg List.length (options_text_append id path parent [])
    have hid := size_literal .blanks [' '] nil id
    have hpath := size_literal .blanks [' '] nil path
    have hpos := two_le_length_source id
    simp only [List.append_nil, List.length_append] at htext
    simp only [argument, options, moreOptions, pair, constantly, nameValue, andThen, of, mark, word,
      name, chain, size] at hid hpath ⊢
    omega

theorem size_finish (semicolon : Bool) : (finish semicolon).size = 1 := by
  cases semicolon <;> rfl

theorem size_constant (t : String) (value : Written) (semicolon : Bool) :
    (Written.constant gap t value semicolon).size = value.size + 10 := by
  simp only [Written.constant, andThen, of, mark, word, name, size, size_finish]

theorem size_member (m : Literal × String) (rest : Written) :
    (member m rest).size + 3 ≤ 60 * (Declaration.memberText m.1 m.2).length + rest.size := by
  have hkey := size_literal .lines ['\n', ' ', ' '] nil m.1
  have hpos := two_le_length_source m.1
  simp only [member, memberParts, andThen, of, mark, word, name, size, Declaration.memberText,
    List.length_append] at hkey ⊢
  omega

theorem size_members (ms : List (Literal × String)) :
    (members ms).size ≤ 60 * (ms.flatMap fun m => Declaration.memberText m.1 m.2).length + 5 := by
  match ms with
  | [] => simp [members, mark, size]
  | [m] =>
    have hm := size_member m (lineEnd (mark .lines ['\n'] "\x7d" nil))
    simp only [members, List.flatMap_cons, List.flatMap_nil, List.append_nil, lineEnd, mark,
      size] at hm ⊢
    omega
  | m :: m' :: ms =>
    have hm := size_member m (phrase (Phrase.objectType.repetition 0)
      (chain (Phrase.objectType.repetition 0) (lineEnd (member m' nil))
        (ms.map fun m => lineEnd (member m nil))) (lineEnd (mark .lines ['\n'] "\x7d" nil)))
    have hm' := size_member m' nil
    have hms := size_chain_le (Phrase.objectType.repetition 0) 60
      (fun m => lineEnd (member m nil)) (fun m => Declaration.memberText m.1 m.2) ms
      (lineEnd (member m' nil)) fun m _ => size_member m nil
    simp only [members, List.flatMap_cons, List.length_append, lineEnd, mark, size] at hm hm' hms ⊢
    omega

end Written

open Written in
/-- A declaration has no more tokens and phrases than the reader has steps for its characters. -/
theorem Declaration.size_written {d : Declaration} (hd : d.Readable) (gap : List Char) :
    (d.written gap).size + 3 ≤ 64 * d.text.length := by
  have htext := congrArg List.length d.text.append_nil
  cases d with
  | import_ imported bound source semicolon =>
    have hs := size_literal .blanks [' '] nil source
    have hpos := two_le_length_source source
    rw [import_text_append] at htext
    simp only [List.length_append, List.length_nil] at htext
    simp only [written, writtenPart, andThen, of, mark, word, name, size, size_finish] at hs ⊢
    omega
  | constant n value semicolon =>
    have hv := size_literal .blanks [' '] nil value
    have hpos := two_le_length_source value
    rw [constant_text_append] at htext
    simp only [List.length_append, List.length_nil] at htext
    simp only [written, writtenPart, andThen, of, size, size_constant] at hv ⊢
    omega
  | call n object method a semicolon =>
    have ha := size_argument (mark .none [] ")" nil) hd.2.2.2
    have hconst : "const ".toList.length = 6 := rfl
    rw [call_text_append] at htext
    simp only [List.length_append, List.length_nil] at htext
    simp only [written, writtenPart, Written.call, andThen, of, mark, name, size, size_constant]
      at ha ⊢
    omega
  | interface_ n ms =>
    have hms := size_members ms
    have hopen : "export interface ".toList.length = 17 := rfl
    rw [interface_text_append] at htext
    simp only [List.length_append, List.length_nil] at htext
    simp only [written, writtenPart, andThen, of, mark, word, name, size]
    omega

end RouteAtlas.Script
