import RouteAtlas.Proofs.Script.Grammar
import RouteAtlas.Proofs.Script.Scan

/-!
# Tokens as they are written

Which token the reader finds at a position depends on the text there, and on the tokens that can
come next. Here the two are kept apart:

- `Form`: how a token is written, and what may stand before it;
- `Ink`: a token as written; `Ink.Spelled` is what is asked of the text around it;
- `Form.fits`: what is asked of the tokens that can come next, as a test that can be run;
- `lexeme?_of_spelled`: **a token that is spelled and that fits is found**.
-/

namespace RouteAtlas.Script

/-! ## Forms -/

/-- What stands before a token. -/
inductive Gap where
  | none
  /-- Blanks. -/
  | blanks
  /-- Blanks and line ends. -/
  | lines
deriving DecidableEq

/-- The blanks are of the given sort. -/
def Gap.Holds : Gap → List Char → Prop
  | none, g => g = []
  | blanks, g => g.all (· == ' ') = true
  | lines, g => g.all isGap = true

/-- A quote around a literal. -/
inductive Quote where
  | single
  | double
deriving DecidableEq

namespace Quote

def char : Quote → Char
  | single => '\x27'
  | double => '\x22'

/-- A quote as a mark. -/
def text : Quote → String
  | single => "\x27"
  | double => "\x22"

/-- Raw text between quotes. -/
def raw : Quote → TokenClass
  | single => .singleText
  | double => .doubleText

/-- The other quote. -/
def other : Quote → Quote
  | single => double
  | double => single

end Quote

/-- How a token is written. -/
inductive Form where
  | name
  | word (text : String)
  | mark (text : String)
  /-- Raw text between quotes. -/
  | raw (quote : Quote)
  | escape
  | lineEnd
  | endOfText
deriving DecidableEq

/-- The token that is written. -/
def Form.token : Form → Rule
  | name => .token .name
  | word text | mark text => .spelled text
  | raw quote => .token quote.raw
  | escape => .token .escape
  | lineEnd => .token .lineEnd
  | endOfText => .token .endOfText

/-- How a token is written, and what stands before it. -/
structure Slot where
  gap : Gap
  form : Form
deriving DecidableEq

/-- The number of the token. -/
def Slot.code (f : Slot) : Nat := Symbol.ofRule f.form.token

/-- A token as written, with the blanks before it. -/
structure Ink where
  slot : Slot
  gap : List Char
  chars : List Char

namespace Ink

def text (x : Ink) : List Char := x.gap ++ x.chars

/-- The token at its place, where the blanks before it begin at `i`. -/
def lexeme (x : Ink) (i : Nat) : Lexeme :=
  ⟨x.slot.code, i + x.gap.length, i + x.gap.length + x.chars.length⟩

end Ink

/-! ## What is asked of the text -/

/-- The text goes on with a name. -/
def goesOnName (cs : List Char) : Bool :=
  cs.head?.any fun c => isNameChar c || c == '\\' || c == '\x7b'

/-- The characters are a word: characters of names, the first one no digit. -/
structure IsWord (n : List Char) : Prop where
  nonempty : n ≠ []
  all : n.all isNameChar = true
  first : n.head?.any isDigit = false

/-- The text of a token, and what may stand behind it. -/
def Form.Spelled : Form → (chars rest : List Char) → Prop
  | name, n, rest => IsWord n ∧ Grammar.words.lookup n = none ∧ goesOnName rest = false
  | word text, n, rest =>
    n = text.toList ∧ IsWord n ∧ (n, Symbol.ofSpelling text) ∈ Grammar.words ∧
      goesOnName rest = false
  | mark text, m, rest =>
    m = text.toList ∧ (m, Symbol.ofSpelling text) ∈ Grammar.marks ∧
      ∀ c ∈ rest.head?, c ∉ Grammar.extensions m
  | raw quote, cs, rest =>
    cs ≠ [] ∧ (∀ c ∈ cs, c ≠ quote.char ∧ c ≠ '\\' ∧ c ≠ '\n' ∧ c ≠ '\r') ∧
      (rest.head? = some quote.char ∨ rest.head? = some '\\')
  | escape, cs, rest => cs.head? = some '\\' ∧
      ∀ (s : Source) (i : Nat), s.After i (cs ++ rest) → s.escapeEnd? i = some (i + cs.length)
  | lineEnd, cs, rest => cs = [] ∧ EndsHere rest
  | endOfText, cs, rest => cs = [] ∧ rest = []

/-- The token is spelled, with the given text behind it. -/
structure Ink.Spelled (x : Ink) (rest : List Char) : Prop where
  gap : x.slot.gap.Holds x.gap
  chars : x.slot.form.Spelled x.chars rest

/-! ## What is asked of the tokens that can come next -/

/-- The tokens inside of literals. -/
def innerSet : TokenSet :=
  .ofList ([TokenClass.singleText, .doubleText, .escape, .pattern, .patternEnd, .patternFlags].map
    TokenClass.code)

namespace Slot

/-- A statement can end here. -/
def canEnd (valid : TokenSet) : Bool :=
  valid.has TokenClass.lineEnd.code || valid.has TokenClass.signatureEnd.code

/-- No token inside of a literal can come next, or only those between the given quotes. -/
def isOuter (valid : TokenSet) (f : Slot) : Bool :=
  match f.form with
  | .mark text =>
    !valid.meets innerSet ||
      f.gap = .none && !valid.has TokenClass.pattern.code &&
        [Quote.single, .double].any fun q => text = q.text && !valid.has q.other.raw.code
  | _ => !valid.meets innerSet

/-- The token is found where the given tokens can come next. -/
def fits (valid : TokenSet) (f : Slot) : Bool :=
  !valid.has TokenClass.templateText.code &&
    match f.form with
    | .lineEnd => f.gap = .none && valid.has TokenClass.lineEnd.code
    | .raw quote =>
      f.gap = .none && !canEnd valid && !valid.has TokenClass.conditionalMark.code &&
        valid.has TokenClass.escape.code && valid.has quote.raw.code &&
        !valid.has quote.other.raw.code
    | .escape =>
      f.gap = .none && !canEnd valid && !valid.has TokenClass.conditionalMark.code &&
        valid.has TokenClass.escape.code
    | .endOfText => !canEnd valid && isOuter valid f
    | .name => isOuter valid f && (f.gap ≠ .lines || !canEnd valid) && valid.has f.code
    | .word _ => isOuter valid f && (f.gap ≠ .lines || !canEnd valid) && valid.has f.code
    | .mark text =>
      let c := text.toList.headD '\x00'
      isOuter valid f && (f.gap ≠ .lines && c ≠ '\x7d' || !canEnd valid) && valid.has f.code &&
        (c ≠ '.' || !valid.has TokenClass.number.code) && !(['?', '<', '-', '/', '#'].contains c)

end Slot

/-! ## The token at a position -/

theorem TokenSet.not_has_of_not_meets {s r : TokenSet} {x : Nat} (h : s.meets r = false)
    (hx : r.has x = true) : s.has x = false := by
  rw [meets, bne_eq_false_iff_eq] at h
  have hand := congrArg (Nat.testBit · x) h
  rw [Nat.testBit_and, Nat.zero_testBit] at hand
  rw [has] at hx ⊢
  rwa [hx, Bool.and_true] at hand

/-- A token of a set meets it. -/
theorem TokenSet.meets_of_has {s r : TokenSet} {x : Nat} (hs : s.has x = true)
    (hr : r.has x = true) : s.meets r = true := by
  cases h : s.meets r with
  | true => rfl
  | false => rw [← hs, not_has_of_not_meets h hr]

variable {g : Gap} {gap : List Char}

theorem Gap.Holds.eq_nil (h : g.Holds gap) (hg : g = .none) : gap = [] := by
  rw [hg] at h
  exact h

theorem Gap.all_isGap (h : g.Holds gap) : gap.all isGap = true := by
  cases g with
  | none =>
    rw [Gap.Holds] at h
    rw [h]
    rfl
  | blanks =>
    refine List.all_eq_true.mpr fun c hc => ?_
    rw [isGap, List.all_eq_true.mp h c hc, Bool.true_or]
  | lines => exact h

theorem Gap.all_of (h : g.Holds gap) {p : Char → Bool} (hblank : p ' ' = true)
    (hline : p '\n' = true) : gap.all p = true := by
  refine List.all_eq_true.mpr fun c hc => ?_
  have hgap := List.all_eq_true.mp (all_isGap h) c hc
  rw [isGap, Bool.or_eq_true, beq_iff_eq, beq_iff_eq] at hgap
  rcases hgap with rfl | rfl
  · exact hblank
  · exact hline

namespace Source

variable {s : Source} {valid : TokenSet} {i : Nat} {g : Gap} {gap cs : List Char} {c : Char}

/-- Before a token that neither ends a statement nor looks like a comment or a question mark,
nothing else is found. -/
theorem outer?_eq_none (h : s.After i (gap ++ c :: cs)) (hg : g.Holds gap)
    (hspace : isSpace c = false) (hc : ['?', '<', '-'].contains c = false)
    (htemplate : valid.has TokenClass.templateText.code = false)
    (hends : Slot.canEnd valid = true → g ≠ .lines ∧ c ≠ '\x7d') : s.outer? valid i = none := by
  have hplain := After.isPlainSpace_eq_false hspace
  have hchar : s.charAt (i + gap.length) = c := h.skip.charAt
  have hskip : s.skipWhile isPlainSpace i = i + gap.length :=
    h.skipWhile (Gap.all_of hg (by decide) (by decide)) (by rintro _ ⟨⟩; exact hplain)
  simp only [List.contains_eq_mem, List.mem_cons, List.not_mem_nil, or_false,
    decide_eq_false_iff_not, not_or] at hc
  rw [outer?]
  simp only [htemplate, Bool.false_eq_true, if_false]
  -- where a statement can end, it would end at a line break or a brace, and neither is there;
  -- elsewhere a question mark or a page comment is looked for
  by_cases hcan : Slot.canEnd valid = true
  · obtain ⟨hlines, hbrace⟩ := hends hcan
    have hblank : gap.all (fun c => isPlainSpace c && c != '\n') = true := by
      cases g with
      | none =>
        rw [Gap.Holds] at hg
        rw [hg]
        rfl
      | blanks =>
        refine List.all_eq_true.mpr fun d hd => ?_
        rw [eq_of_beq (List.all_eq_true.mp hg d hd)]
        decide
      | lines => exact absurd rfl hlines
    have hline : s.skipWhile (fun c => isPlainSpace c && c != '\n') i = i + gap.length := by
      refine h.skipWhile hblank ?_
      rintro _ ⟨⟩
      rw [hplain, Bool.false_and]
    have hfeed : c ≠ '\n' := by
      rintro rfl
      exact absurd hspace (by decide)
    have hsize : ¬s.size ≤ i + gap.length := Nat.not_le.mpr h.skip.lt_size
    rw [Slot.canEnd] at hcan
    rw [if_pos hcan, lineEnd, hline, if_neg hsize, hchar, beq_false_of_ne hbrace]
    simp [hfeed, hchar, hc]
  · rw [Slot.canEnd] at hcan
    have hmark : s.conditionalMark? i = none := by
      rw [conditionalMark?, hskip, hchar]
      simp [hc]
    have hpage : s.pageComment? i = none := by
      have hless := h.skip.hasAt (m := ['<', '!', '-', '-']) (by decide)
      have hdash := h.skip.hasAt (m := ['-', '-', '>']) (by decide)
      rw [pageComment?, hskip, pageCommentEnd?, hless, hdash]
      simp [List.isPrefixOf, Ne.symm hc.2.1, Ne.symm hc.2.2]
    rw [if_neg hcan, hmark, hpage]
    simp

/-- Outside of literals no token inside of one is found. -/
theorem inner?_eq_none (h : valid.meets innerSet = false) (i : Nat) : s.inner? valid i = none := by
  have hnone : ∀ c ∈ [TokenClass.singleText, .doubleText, .escape, .pattern, .patternEnd,
      .patternFlags], valid.has c.code = false := by
    intro c hc
    exact TokenSet.not_has_of_not_meets h
      (TokenSet.has_ofList.mpr (List.mem_map_of_mem hc))
  simp only [List.forall_mem_cons] at hnone
  simp [inner?, hnone]

/-- At the closing quote no token inside of the literal is found. -/
theorem inner?_quote {q : Quote} (h : s.After i (q.char :: cs))
    (hpattern : valid.has TokenClass.pattern.code = false)
    (hother : valid.has q.other.raw.code = false) : s.inner? valid i = none := by
  have hchar : s.charAt i = q.char := h.charAt
  have hself : ∀ p : Char → Bool, p q.char = false → s.skipWhile p i = i := by
    intro p hp
    refine h.skipWhile_none ?_
    rintro _ ⟨⟩
    exact hp
  cases q with
  | single =>
    have hraw := hself (fun c => c != '\x27' && c != '\\' && c != '\n' && c != '\r') rfl
    have hflags := hself (fun c => 'a' ≤ c && c ≤ 'z') rfl
    have hdouble : valid.has TokenClass.doubleText.code = false := hother
    simp [inner?, hraw, hflags, hdouble, hpattern, hchar, Quote.char]
  | double =>
    have hraw := hself (fun c => c != '\x22' && c != '\\' && c != '\n' && c != '\r') rfl
    have hflags := hself (fun c => 'a' ≤ c && c ≤ 'z') rfl
    have hsingle : valid.has TokenClass.singleText.code = false := hother
    simp [inner?, hraw, hflags, hsingle, hpattern, hchar, Quote.char]

/-! ### Words and marks -/

/-- Behind a gap a mark is found, or else a word. -/
theorem plain?_eq (h : s.After i (gap ++ c :: cs)) (hg : g.Holds gap) (hspace : isSpace c = false)
    (hdigit : isDigit c = false) (hc : ['/', '#'].contains c = false)
    (hdot : c = '.' → valid.has TokenClass.number.code = false) :
    s.plain? valid i =
      match s.mark? valid (i + gap.length) with
      | some x => some x
      | none =>
        if valid.has TokenClass.name.code || valid.meets Grammar.wordSet then
          s.word? valid (i + gap.length)
        else none := by
  have hchar : s.charAt (i + gap.length) = c := h.skip.charAt
  have hskip : s.skipWhile isSpace i = i + gap.length :=
    h.skipWhile (Gap.all_of hg (by decide) (by decide)) (by rintro _ ⟨⟩; exact hspace)
  have hsize : ¬s.size ≤ i + gap.length := Nat.not_le.mpr h.skip.lt_size
  simp only [List.contains_eq_mem, List.mem_cons, List.not_mem_nil, or_false,
    decide_eq_false_iff_not, not_or] at hc
  have hcomment : s.commentEnd? (i + gap.length) = none := by
    rw [commentEnd?, hchar, bne_iff_ne.mpr hc.1, if_pos rfl]
  have hbang : s.hasAt (i + gap.length) ['#', '!'] = false := by
    rw [h.skip.hasAt (by decide)]
    simp [List.isPrefixOf, Ne.symm hc.2]
  have hnumber : (valid.has TokenClass.number.code &&
      decide (i + gap.length < s.numberEnd (i + gap.length))) = false := by
    by_cases hpoint : c = '.'
    · rw [hdot hpoint, Bool.false_and]
    · have hend : s.numberEnd (i + gap.length) = i + gap.length := by
        rw [numberEnd, hchar, beq_false_of_ne hpoint, digitsEnd?, hchar, hdigit]
        rfl
      rw [hend, decide_eq_false (Nat.lt_irrefl _), Bool.and_false]
  rw [plain?]
  simp only [hskip, if_neg hsize, hcomment, hbang, Bool.and_false, Bool.false_eq_true, if_false,
    hchar, beq_false_of_ne hc.2, Bool.false_and, hnumber]
  cases s.mark? valid (i + gap.length) with
  | none => rfl
  | some x => rfl

/-- Where a name starts there is no mark. -/
theorem mark?_word {n : List Char} (h : s.After i (n ++ cs)) (hn : IsWord n)
    (hcs : goesOnName cs = false) (valid : TokenSet) : s.mark? valid i = none := by
  rw [mark?, List.findSome?_eq_none_iff]
  rintro ⟨m, code⟩ hm
  obtain ⟨hmarks, -, -⟩ := Grammar.marks_spec
  obtain ⟨-, hnul, hfirst⟩ := hmarks _ hm
  have hat : s.hasAt i m = false := by
    rw [h.hasAt hnul, Bool.eq_false_iff]
    intro hprefix
    obtain ⟨rest, hrest⟩ := List.isPrefixOf_iff_prefix.mp hprefix
    obtain ⟨c, n, rfl⟩ := List.exists_cons_of_ne_nil hn.nonempty
    have hname := List.all_eq_true.mp hn.all
    -- the one mark that begins like a name goes on with a brace, which no name does
    rcases hfirst with hfirst | hdollar
    · cases m with
      | nil => cases hfirst
      | cons d ds =>
        have hd := (List.cons.inj hrest).1
        rw [List.head?_cons, Option.any_some, hd, hname c List.mem_cons_self] at hfirst
        cases hfirst
    · obtain rfl : m = ['$', '\x7b'] := hdollar
      have htail : '\x7b' :: rest = n ++ cs := (List.cons.inj hrest).2
      cases n with
      | nil =>
        rw [List.nil_append] at htail
        rw [← htail] at hcs
        exact absurd hcs (by simp [goesOnName])
      | cons e n =>
        obtain ⟨rfl, -⟩ := List.cons.inj htail
        exact absurd (hname '\x7b' (List.mem_cons_of_mem _ List.mem_cons_self)) (by decide)
  dsimp only
  rw [hat]
  rfl

/-- **A word** is found up to its end. -/
theorem word?_word {n : List Char} (h : s.After i (n ++ cs)) (hn : IsWord n)
    (hcs : goesOnName cs = false) (valid : TokenSet) :
    s.word? valid i =
      let code := (Grammar.words.lookup n).getD TokenClass.name.code
      some ⟨if valid.has code then code else TokenClass.name.code, i, i + n.length⟩ := by
  have hend : s.wordEnd i = i + n.length := by
    refine h.wordEnd hn.all ?_ hn.nonempty ?_
    · intro c hc
      have hfirst := hn.first
      rw [Option.mem_def.mp hc, Option.any_some] at hfirst
      exact hfirst
    · intro c hc
      rw [goesOnName, Option.mem_def.mp hc, Option.any_some, Bool.or_eq_false_iff,
        Bool.or_eq_false_iff] at hcs
      exact ⟨hcs.1.1, ne_of_beq_false hcs.1.2⟩
  have hpos : ¬i + n.length ≤ i := by
    have := List.length_pos_iff.mpr hn.nonempty
    omega
  rw [word?, hend, if_neg hpos, h.slice]

/-- **A mark** is found where no longer one stands. -/
theorem mark?_mark {m : List Char} {code : Nat} (h : s.After i (m ++ cs))
    (hm : (m, code) ∈ Grammar.marks) (hcs : ∀ c ∈ cs.head?, c ∉ Grammar.extensions m)
    (hvalid : valid.has code = true) : s.mark? valid i = some ⟨code, i, i + m.length⟩ := by
  obtain ⟨hmarks, hsorted, hcodes⟩ := Grammar.marks_spec
  obtain ⟨front, back, hsplit⟩ := List.append_of_mem hm
  have hat : s.hasAt i m = true := by
    rw [h.hasAt (hmarks _ hm).2.1, List.isPrefixOf_iff_prefix]
    exact List.prefix_append m cs
  -- a mark further to the front is longer, or is the same one
  have hfront : ∀ a ∈ front, s.hasAt i a.1 = true → a.1 = m := by
    intro a ha hat'
    have hmem : a ∈ Grammar.marks := hsplit ▸ List.mem_append_left _ ha
    have hlength : m.length ≤ a.1.length := by
      rw [hsplit, List.pairwise_append] at hsorted
      exact hsorted.2.2 a ha _ List.mem_cons_self
    rw [h.hasAt (hmarks _ hmem).2.1, List.isPrefixOf_iff_prefix] at hat'
    have hprefix : m <+: a.1 :=
      List.prefix_of_prefix_length_le (List.prefix_append m cs) hat' hlength
    obtain ⟨rest, hrest⟩ := hprefix
    cases rest with
    | nil => rw [← hrest, List.append_nil]
    | cons c rest =>
      obtain ⟨rest', hrest'⟩ := hat'
      rw [← hrest, List.append_assoc, List.append_cancel_left_eq] at hrest'
      refine absurd ?_ (hcs c (by rw [← hrest']; rfl))
      refine List.mem_filterMap.mpr ⟨a, hmem, ?_⟩
      rw [if_pos (List.isPrefixOf_iff_prefix.mpr ⟨_, hrest⟩), ← hrest]
      simp
  -- so whatever is found before the mark has its characters, and with them its number
  rw [mark?, hsplit, List.findSome?_append]
  generalize hfound : List.findSome? _ front = found
  cases found with
  | none => simp [hat, hvalid]
  | some x =>
    obtain ⟨⟨a, other⟩, ha, hx⟩ := List.exists_of_findSome?_eq_some hfound
    dsimp only at hx
    split at hx
    next hcond =>
      have hmem : (a, other) ∈ Grammar.marks := hsplit ▸ List.mem_append_left _ ha
      obtain rfl : a = m := hfront _ ha (Bool.and_eq_true_iff.mp hcond).1
      obtain rfl : other = code := hcodes _ hmem _ hm rfl
      exact hx ▸ rfl
    next => cases hx

/-! ### All tokens -/

theorem lexeme?_eq (hmark : s.charAt 0 ≠ '\uFEFF') (valid : TokenSet) (i : Nat) :
    s.lexeme? valid i = (s.outer? valid i).or ((s.inner? valid i).or (s.plain? valid i)) := by
  rw [lexeme?, beq_false_of_ne hmark, Bool.and_false]
  rfl

/-- Inside of a literal only its parts are looked for. -/
theorem outer?_inside (htemplate : valid.has TokenClass.templateText.code = false)
    (hends : Slot.canEnd valid = false)
    (hconditional : valid.has TokenClass.conditionalMark.code = false)
    (hescape : valid.has TokenClass.escape.code = true) (i : Nat) : s.outer? valid i = none := by
  rw [Slot.canEnd] at hends
  simp [outer?, htemplate, hends, hconditional, hescape]

/-- At the end of the text nothing else is found. -/
theorem outer?_end (h : s.After i gap) (hg : g.Holds gap)
    (htemplate : valid.has TokenClass.templateText.code = false)
    (hends : Slot.canEnd valid = false) : s.outer? valid i = none := by
  have hend : s.After (i + gap.length) [] :=
    After.skip (a := gap) (by rwa [List.append_nil])
  have hskip : s.skipWhile isPlainSpace i = i + gap.length :=
    After.skipWhile (a := gap) (by rwa [List.append_nil]) (Gap.all_of hg (by decide) (by decide))
      (by rintro _ ⟨⟩)
  have hmark : s.conditionalMark? i = none := by
    have hchar : s.charAt (i + gap.length) = '\x00' := hend.charAt
    rw [conditionalMark?, hskip, hchar]
    rfl
  have hpage : s.pageComment? i = none := by
    have hless := hend.hasAt (m := ['<', '!', '-', '-']) (by decide)
    have hdash := hend.hasAt (m := ['-', '-', '>']) (by decide)
    rw [pageComment?, hskip, pageCommentEnd?, hless, hdash]
    rfl
  rw [Slot.canEnd] at hends
  simp [outer?, htemplate, hends, hmark, hpage]

/-- What starts a word, starts nothing else. -/
theorem startsWord {n : List Char} (hn : IsWord n) :
    ∃ c cs, n = c :: cs ∧ isSpace c = false ∧ isDigit c = false ∧
      ∀ d ∈ ['?', '<', '-', '/', '#', '.', '\x7d'], c ≠ d := by
  obtain ⟨c, cs, rfl⟩ := List.exists_cons_of_ne_nil hn.nonempty
  have hname := List.all_eq_true.mp hn.all c List.mem_cons_self
  have hdigit : isDigit c = false := hn.first
  have hspace : isSpace c = false := by
    rw [isNameChar, hdigit, Bool.or_false, isNameStart] at hname
    simp only [isLetter, isSpace, Bool.or_eq_true, beq_iff_eq] at hname ⊢
    rcases hname with ((hletter | rfl) | rfl) | hdelete
    · split at hletter
      · simp only [Bool.or_eq_true, Bool.and_eq_true, decide_eq_true_eq] at hletter
        simp
        omega
      · rwa [Bool.not_eq_true'] at hletter
    · decide
    · decide
    · rw [hdelete]
      decide
  refine ⟨c, cs, rfl, hspace, hdigit, ?_⟩
  rintro d hd rfl
  have hnone : ['?', '<', '-', '/', '#', '.', '\x7d'].all (!isNameChar ·) = true := by decide
  have hother := List.all_eq_true.mp hnone c hd
  rw [hname] at hother
  cases hother

/-- Where a word or a mark stands, nothing but the two is looked for. -/
theorem lexeme?_plain (hmark : s.charAt 0 ≠ '\uFEFF') (h : s.After i (gap ++ c :: cs))
    (hg : g.Holds gap) (hspace : isSpace c = false) (hdigit : isDigit c = false)
    (hc : ∀ d ∈ ['?', '<', '-', '/', '#'], c ≠ d)
    (hdot : c = '.' → valid.has TokenClass.number.code = false)
    (htemplate : valid.has TokenClass.templateText.code = false)
    (hends : Slot.canEnd valid = true → g ≠ .lines ∧ c ≠ '\x7d')
    (hinner : s.inner? valid i = none) :
    s.lexeme? valid i =
      match s.mark? valid (i + gap.length) with
      | some x => some x
      | none =>
        if valid.has TokenClass.name.code || valid.meets Grammar.wordSet then
          s.word? valid (i + gap.length)
        else none := by
  rw [lexeme?_eq hmark, outer?_eq_none h hg hspace (by simp [hc]) htemplate hends, hinner,
    plain?_eq h hg hspace hdigit (by simp [hc]) hdot]
  rfl

/-- A word stands where one is asked for. -/
theorem lexeme?_word {n : List Char} (hmark : s.charAt 0 ≠ '\uFEFF')
    (h : s.After i (gap ++ (n ++ cs))) (hg : g.Holds gap) (hn : IsWord n)
    (hcs : goesOnName cs = false) (htemplate : valid.has TokenClass.templateText.code = false)
    (hends : g ≠ .lines ∨ Slot.canEnd valid = false) (hinner : valid.meets innerSet = false)
    (hvalid : valid.has ((Grammar.words.lookup n).getD TokenClass.name.code) = true) :
    s.lexeme? valid i = some ⟨(Grammar.words.lookup n).getD TokenClass.name.code, i + gap.length,
      i + gap.length + n.length⟩ := by
  obtain ⟨c, n', rfl, hspace, hdigit, hc⟩ := startsWord hn
  have hasked : (valid.has TokenClass.name.code || valid.meets Grammar.wordSet) = true := by
    cases hlookup : Grammar.words.lookup (c :: n') with
    | none =>
      rw [hlookup] at hvalid
      exact Bool.or_eq_true_iff.mpr (.inl hvalid)
    | some code =>
      rw [hlookup] at hvalid
      have hword : (c :: n', code) ∈ Grammar.words := by
        obtain ⟨front, back, hsplit, -⟩ := List.lookup_eq_some_iff.mp hlookup
        rw [hsplit]
        exact List.mem_append_right _ List.mem_cons_self
      exact Bool.or_eq_true_iff.mpr (.inr (TokenSet.meets_of_has hvalid
        (TokenSet.has_ofList.mpr (List.mem_map_of_mem hword))))
  rw [lexeme?_plain hmark h hg hspace hdigit
    (fun d hd => hc d (List.mem_append_left ['.', '\x7d'] hd))
    (fun hdot => absurd hdot (hc '.' (by decide))) htemplate ?_ (inner?_eq_none hinner i),
    mark?_word h.skip hn hcs, word?_word h.skip hn hcs]
  · simp only [hvalid, hasked, if_true]
  · intro hcan
    exact ⟨hends.resolve_right (by simp [hcan]), hc _ (by decide)⟩

/-- A mark stands where one is asked for. -/
theorem lexeme?_mark {m : List Char} {code : Nat} (hmark : s.charAt 0 ≠ '\uFEFF')
    (h : s.After i (gap ++ (m ++ cs))) (hg : g.Holds gap) (hm : (m, code) ∈ Grammar.marks)
    (hcs : ∀ c ∈ cs.head?, c ∉ Grammar.extensions m)
    (hfirst : ['?', '<', '-', '/', '#'].contains (m.headD '\x00') = false)
    (hdot : m.headD '\x00' = '.' → valid.has TokenClass.number.code = false)
    (htemplate : valid.has TokenClass.templateText.code = false)
    (hends : Slot.canEnd valid = true → g ≠ .lines ∧ m.headD '\x00' ≠ '\x7d')
    (hinner : s.inner? valid i = none) (hvalid : valid.has code = true) :
    s.lexeme? valid i = some ⟨code, i + gap.length, i + gap.length + m.length⟩ := by
  obtain ⟨hmarks, -, -⟩ := Grammar.marks_spec
  obtain ⟨hstarts, -, -⟩ := hmarks _ hm
  cases m with
  | nil => cases hstarts
  | cons c m =>
    rw [List.head?_cons, Option.any_some, Grammar.startsMark, Bool.and_eq_true, Bool.not_eq_true',
      Bool.not_eq_true'] at hstarts
    have hne : ∀ d ∈ ['?', '<', '-', '/', '#'], c ≠ d := by
      rintro d hd rfl
      rw [List.headD_cons, List.contains_iff_mem.mpr hd] at hfirst
      cases hfirst
    rw [lexeme?_plain hmark h hg hstarts.1 hstarts.2 hne hdot htemplate hends hinner,
      mark?_mark h.skip hm hcs hvalid]

/-- Raw text stands between the quotes that it is asked for. -/
theorem lexeme?_raw {q : Quote} {chars : List Char} (hmark : s.charAt 0 ≠ '\uFEFF')
    (h : s.After i (chars ++ cs)) (hne : chars ≠ [])
    (hchars : ∀ c ∈ chars, c ≠ q.char ∧ c ≠ '\\' ∧ c ≠ '\n' ∧ c ≠ '\r')
    (hcs : cs.head? = some q.char ∨ cs.head? = some '\\')
    (houter : s.outer? valid i = none) (hvalid : valid.has q.raw.code = true)
    (hother : valid.has q.other.raw.code = false) :
    s.lexeme? valid i = some ⟨q.raw.code, i, i + chars.length⟩ := by
  have hend : s.skipWhile (fun c => c != q.char && c != '\\' && c != '\n' && c != '\r') i =
      i + chars.length := by
    refine h.skipWhile (List.all_eq_true.mpr fun c hc => ?_) fun c hc => ?_
    · have hall := hchars c hc
      simp [hall]
    · rcases hcs with hcs | hcs
      · obtain rfl := Option.some.inj (hcs.symm.trans hc)
        simp
      · obtain rfl := Option.some.inj (hcs.symm.trans hc)
        simp
  have hlt : i < i + chars.length := Nat.lt_add_of_pos_right (List.length_pos_iff.mpr hne)
  rw [lexeme?_eq hmark, houter, Option.none_or]
  cases q with
  | single =>
    have hsingle : valid.has TokenClass.singleText.code = true := hvalid
    have hdouble : valid.has TokenClass.doubleText.code = false := hother
    rw [Quote.char] at hend
    simp [inner?, hsingle, hdouble, hend, hlt, Quote.raw]
  | double =>
    have hdouble : valid.has TokenClass.doubleText.code = true := hvalid
    rw [Quote.char] at hend
    simp [inner?, hdouble, hend, hlt, Quote.raw]

/-- An escape stands where one is asked for. -/
theorem lexeme?_escape {chars : List Char} (hmark : s.charAt 0 ≠ '\uFEFF')
    (h : s.After i (chars ++ cs)) (hhead : chars.head? = some '\\')
    (hend : s.escapeEnd? i = some (i + chars.length)) (houter : s.outer? valid i = none)
    (hvalid : valid.has TokenClass.escape.code = true) :
    s.lexeme? valid i = some ⟨TokenClass.escape.code, i, i + chars.length⟩ := by
  obtain ⟨chars, rfl⟩ := List.head?_eq_some_iff.mp hhead
  have hchar : s.charAt i = '\\' := h.charAt
  have hraw : ∀ q : Char, s.skipWhile (fun c => c != q && c != '\\' && c != '\n' && c != '\r') i =
      i := by
    intro q
    refine h.skipWhile_none ?_
    rintro _ ⟨⟩
    simp
  rw [lexeme?_eq hmark, houter, Option.none_or]
  simp [inner?, hraw, hvalid, hchar, hend]

/-- At the end of the text the token is its end. -/
theorem lexeme?_endOfText (hmark : s.charAt 0 ≠ '\uFEFF') (h : s.After i gap)
    (hg : g.Holds gap) (houter : s.outer? valid i = none) (hinner : valid.meets innerSet = false) :
    s.lexeme? valid i = some ⟨TokenClass.endOfText.code, i + gap.length, i + gap.length⟩ := by
  have hskip : s.skipWhile isSpace i = i + gap.length :=
    After.skipWhile (a := gap) (by rwa [List.append_nil]) (Gap.all_of hg (by decide) (by decide))
      (by rintro _ ⟨⟩)
  have hsize : s.size ≤ i + gap.length := Nat.le_of_eq h.size
  rw [lexeme?_eq hmark, houter, inner?_eq_none hinner, plain?, hskip]
  simp [hsize]

/-- Where a line end is asked for, and the text lets a statement end, there is one. -/
theorem lexeme?_lineEnd (hmark : s.charAt 0 ≠ '\uFEFF') (h : s.After i cs) (hend : EndsHere cs)
    (htemplate : valid.has TokenClass.templateText.code = false)
    (hvalid : valid.has TokenClass.lineEnd.code = true) :
    s.lexeme? valid i = some ⟨TokenClass.lineEnd.code, i, i⟩ := by
  have hends := h.lineEnd hend (valid.has (Symbol.ofSpelling "||"))
    (valid.has TokenClass.signatureEnd.code)
  rw [lexeme?_eq hmark]
  simp [outer?, htemplate, hvalid, hends]

/-- **A token that is spelled and that fits is found.** -/
theorem lexeme?_of_spelled {x : Ink} {rest : List Char} (hmark : s.charAt 0 ≠ '\uFEFF')
    (h : s.After i (x.text ++ rest)) (hx : x.Spelled rest) (hfits : x.slot.fits valid = true) :
    s.lexeme? valid i = some (x.lexeme i) := by
  obtain ⟨⟨g, form⟩, gap, chars⟩ := x
  obtain ⟨hgap, hchars⟩ := hx
  rw [Ink.text, List.append_assoc] at h
  rw [Slot.fits, Bool.and_eq_true, Bool.not_eq_true'] at hfits
  obtain ⟨htemplate, hfits⟩ := hfits
  cases form with
  | name =>
    obtain ⟨hn, hlookup, hrest⟩ := hchars
    simp only [Slot.isOuter, Bool.and_eq_true, Bool.or_eq_true, Bool.not_eq_true',
      decide_eq_true_eq] at hfits
    obtain ⟨⟨hinner, hends⟩, hvalid⟩ := hfits
    have hcode : (Grammar.words.lookup chars).getD TokenClass.name.code = TokenClass.name.code := by
      rw [hlookup]
      rfl
    rw [lexeme?_word hmark h hgap hn hrest htemplate hends hinner (hcode.symm ▸ hvalid), hcode]
    rfl
  | word text =>
    obtain ⟨rfl, hn, hword, hrest⟩ := hchars
    simp only [Slot.isOuter, Bool.and_eq_true, Bool.or_eq_true, Bool.not_eq_true',
      decide_eq_true_eq] at hfits
    obtain ⟨⟨hinner, hends⟩, hvalid⟩ := hfits
    have hcode : (Grammar.words.lookup text.toList).getD TokenClass.name.code =
        Symbol.ofSpelling text := by
      rw [(Grammar.words_spec _ hword).2.2]
      rfl
    rw [lexeme?_word hmark h hgap hn hrest htemplate hends hinner (hcode.symm ▸ hvalid), hcode]
    rfl
  | mark text =>
    obtain ⟨rfl, hm, hrest⟩ := hchars
    simp only [Bool.and_eq_true, Bool.or_eq_true, Bool.not_eq_true', decide_eq_true_eq] at hfits
    obtain ⟨⟨⟨⟨houter, hends⟩, hvalid⟩, hdot⟩, hfirst⟩ := hfits
    have hinner : s.inner? valid i = none := by
      simp only [Slot.isOuter, Bool.and_eq_true, Bool.or_eq_true, Bool.not_eq_true',
        decide_eq_true_eq, List.any_eq_true] at houter
      rcases houter with hnone | ⟨⟨hg, hpattern⟩, q, -, hq, hother⟩
      · exact inner?_eq_none hnone i
      · obtain rfl := hgap.eq_nil hg
        have hquote : text.toList = [q.char] := by
          rw [hq]
          cases q <;> rfl
        rw [hquote] at h
        exact inner?_quote h hpattern hother
    exact lexeme?_mark hmark h hgap hm hrest hfirst (fun hc => hdot.resolve_left (not_not_intro hc))
      htemplate (fun hcan => hends.resolve_right (by simp [hcan])) hinner hvalid
  | raw quote =>
    obtain ⟨hne, hchars, hrest⟩ := hchars
    simp only [Bool.and_eq_true, Bool.not_eq_true', decide_eq_true_eq] at hfits
    obtain ⟨⟨⟨⟨⟨hg, hcan⟩, hconditional⟩, hescape⟩, hvalid⟩, hother⟩ := hfits
    obtain rfl := hgap.eq_nil hg
    exact lexeme?_raw hmark h hne hchars hrest
      (outer?_inside htemplate hcan hconditional hescape i) hvalid hother
  | escape =>
    obtain ⟨hhead, hend⟩ := hchars
    simp only [Bool.and_eq_true, Bool.not_eq_true', decide_eq_true_eq] at hfits
    obtain ⟨⟨⟨hg, hcan⟩, hconditional⟩, hvalid⟩ := hfits
    obtain rfl := hgap.eq_nil hg
    exact lexeme?_escape hmark h hhead (hend s i h)
      (outer?_inside htemplate hcan hconditional hvalid i) hvalid
  | lineEnd =>
    obtain ⟨rfl, hend⟩ := hchars
    rw [Bool.and_eq_true, decide_eq_true_eq] at hfits
    obtain ⟨hg, hvalid⟩ := hfits
    obtain rfl := hgap.eq_nil hg
    exact lexeme?_lineEnd hmark h hend htemplate hvalid
  | endOfText =>
    obtain ⟨rfl, rfl⟩ := hchars
    simp only [Slot.isOuter, Bool.and_eq_true, Bool.not_eq_true'] at hfits
    rw [List.append_nil, List.append_nil] at h
    exact lexeme?_endOfText hmark h hgap (outer?_end h hgap htemplate hfits.1) hfits.2

end Source

end RouteAtlas.Script
