import RouteAtlas.Proofs.Script.Agreement

/-!
# Trees put together by hand

A phrase is built from its parts, and a token from its place in the text. What is asked of such a
tree is then a matter of rewriting, and no symbol has to be looked up by its number:

- `Reading.phraseOf`, `Reading.tokenAt`, `Reading.commentAt`: the trees;
- `isPhrase_phraseOf`, `parts_phraseOf`, `isToken_tokenAt_spelled`: what they are asked for;
- `Source.membersOf_of_name`, `Source.said?_of_parts`: what interfaces list and members say;
- `Grown.tokenAt`, `Grown.phraseOf`: when one tree is another one with extra leaves.
-/

namespace RouteAtlas.Script

namespace Reading

/-- A phrase with the given children. -/
def phraseOf (f : Phrase) (cs : List Reading) : Reading := .ofChildren (Symbol.ofPhrase f) 0 cs

/-- A token of the given sort at the given place. -/
def tokenAt (t : Rule) (start stop : Nat) (gap : Nat := 0) : Reading :=
  .leaf ⟨Symbol.ofRule t, start, stop⟩ gap false

/-- A statement that is the given declaration. -/
def statementOf (d : Reading) : Reading := phraseOf .statement [phraseOf .declaration [d]]

/-- A statement that exports the given declaration; the keyword starts at `i`. -/
def exportOf (i : Nat) (d : Reading) : Reading :=
  phraseOf .statement [phraseOf .exportStatement [tokenAt "export" i (i + 6),
    phraseOf .declaration [d]]]

/-- A comment at the given place. -/
def commentAt (start stop : Nat) : Reading :=
  .leaf ⟨TokenClass.comment.code, start, stop⟩ 0 true

variable (f g : Phrase) (cs rest : List Reading) (t : Rule) (text : String) (c d : TokenClass)
  (i j k : Nat)

/-! ## Symbols -/

theorem symbol_phraseOf : (phraseOf f cs).symbol = Symbol.ofRule (.phrase f) := by
  rw [Symbol.ofRule, phraseOf, ofChildren, symbol]

theorem symbol_tokenAt : (tokenAt t i j k).symbol = Symbol.ofRule t := by rw [tokenAt, symbol]

@[simp] theorem isAside_phraseOf : (phraseOf f cs).isAside = false := rfl

@[simp] theorem isAside_tokenAt : (tokenAt t i j k).isAside = false := rfl

@[simp] theorem isAside_commentAt : (commentAt i j).isAside = true := rfl

theorem isComment_commentAt : (commentAt i j).IsComment := ⟨rfl, .inl (beq_self_eq_true _)⟩

@[simp] theorem isPhrase_phraseOf : (phraseOf f cs).isPhrase g = decide (f = g) := by
  rw [isPhrase, symbol_phraseOf, Symbol.ofRule, Symbol.ofPhrase, Symbol.ofPhrase, Bool.eq_iff_iff,
    beq_iff_eq, decide_eq_true_iff, Nat.add_left_cancel_iff, Phrase.ctorIdx_inj]

@[simp] theorem isPhrase_tokenAt_token : (tokenAt (.token c) i j k).isPhrase g = false := by
  refine isPhrase_of_lt ?_ g
  rw [symbol_tokenAt]
  exact TokenClass.code_lt c

@[simp] theorem isPhrase_tokenAt_spelled : (tokenAt (.spelled text) i j k).isPhrase g = false := by
  refine isPhrase_of_lt ?_ g
  rw [symbol_tokenAt]
  exact Symbol.ofSpelling_lt text

@[simp] theorem isPhrase_commentAt : (commentAt i j).isPhrase g = false :=
  (isComment_commentAt i j).isPhrase_eq g

@[simp] theorem isToken_tokenAt_token : (tokenAt (.token c) i j k).isToken d = (c.code == d.code) :=
  rfl

theorem isToken_tokenAt_spelled (hc : c ≠ .endOfText) :
    (tokenAt (.spelled text) i j k).isToken c = false := by
  rw [isToken, symbol_tokenAt, Symbol.ofRule]
  exact beq_false_of_ne (Symbol.ofSpelling_ne_code text hc)

theorem isName_phraseOf : (phraseOf f cs).isName = false := by
  cases h : (phraseOf f cs).isName with
  | false => rfl
  | true =>
    have hlt := isName_lt h
    rw [symbol_phraseOf] at hlt
    exact absurd hlt (Nat.not_lt.mpr (Symbol.le_ofPhrase f))

theorem isName_tokenAt : (tokenAt (.token .name) i j k).isName = true := rfl

/-! ## Places -/

theorem start_tokenAt : (tokenAt t i j k).start = i := rfl

theorem stop_tokenAt : (tokenAt t i j k).stop = j := rfl

theorem start_phraseOf (r : Reading) : (phraseOf f (r :: cs)).start = r.start := rfl

theorem stop_phraseOf : (phraseOf f cs).stop = (cs.getLast?.map stop).getD 0 := rfl

/-! ## Parts -/

@[simp] theorem children_phraseOf : (phraseOf f cs).children = cs := rfl

@[simp] theorem spread_phraseOf : (phraseOf f cs).spread rest = phraseOf f cs :: rest := by
  have hlt : (phraseOf f cs).symbol < Grammar.tokenCount + Grammar.phraseCount := by
    rw [symbol_phraseOf]
    exact Rule.ofRule_lt rfl
  rw [spread_eq_append, spread_of_lt (.inr hlt)]
  rfl

@[simp] theorem spread_tokenAt : (tokenAt t i j k).spread rest = tokenAt t i j k :: rest := rfl

@[simp] theorem spread_commentAt : (commentAt i j).spread rest = commentAt i j :: rest := rfl

@[simp] theorem parts_phraseOf : (phraseOf f cs).parts = spreadAll cs [] := rfl

end Reading

open Reading

/-! ## Statements and members -/

theorem statements_of_topLevel {r : Reading} {ts : List Reading} (h : r.topLevel = ts)
    (hts : ts.all (!·.isAside) = true) : r.statements = ts.map unwrapped := by
  rw [statements, h, List.filter_eq_self.mpr (List.all_eq_true.mp hts)]

theorem chosen_of_isChoice {r : Reading} (h : r.isChoice = false) (depth : Nat) :
    r.chosen depth = r := by
  cases depth with
  | zero => rfl
  | succ depth =>
    rw [chosen, h]
    rfl

theorem chosen_phraseOf {f : Phrase} {c : Reading} (h : (phraseOf f [c]).isChoice = true)
    (depth : Nat) : (phraseOf f [c]).chosen (depth + 1) = c.chosen depth := by
  rw [chosen, if_pos h]
  rfl

theorem unwrapped_of_core {r d : Reading} (hcore : r.core = d)
    (hd : d.isPhrase .exportStatement = false) : r.unwrapped = d := by
  rw [unwrapped, hcore, hd]
  rfl

/-- A choice that comes to the given phrase. -/
theorem core_of_choice {f : Phrase} {d : Reading} (hf : (phraseOf f [d]).isChoice = true)
    (hd : d.isChoice = false) : (phraseOf f [d]).core = d := by
  rw [core, chosen_phraseOf hf, chosen_of_isChoice hd]

/-- A choice that comes to the given phrase through another choice. -/
theorem core_of_choices {f g : Phrase} {d : Reading}
    (hf : (phraseOf f [phraseOf g [d]]).isChoice = true) (hg : (phraseOf g [d]).isChoice = true)
    (hd : d.isChoice = false) : (phraseOf f [phraseOf g [d]]).core = d := by
  rw [core, chosen_phraseOf hf, chosen_phraseOf hg, chosen_of_isChoice hd]

theorem unwrapped_statementOf {d : Reading} (hd : d.isChoice = false)
    (he : d.isPhrase .exportStatement = false) : (statementOf d).unwrapped = d :=
  unwrapped_of_core (core_of_choices (by simp [isChoice]) (by simp [isChoice]) hd) he

/-- The declaration of an `export` is what is left. -/
theorem unwrapped_exportOf {d : Reading} (i : Nat) (hd : d.isChoice = false) :
    (exportOf i d).unwrapped = d := by
  have hcore : (exportOf i d).core = phraseOf .exportStatement [tokenAt "export" i (i + 6),
      phraseOf .declaration [d]] := core_of_choice (by simp [isChoice]) (by simp [isChoice])
  have hpart : (phraseOf .exportStatement [tokenAt "export" i (i + 6),
      phraseOf .declaration [d]]).part? .declaration = some (phraseOf .declaration [d]) := by
    simp [part?, spreadAll]
  rw [unwrapped, hcore, if_pos (by simp), hpart]
  exact core_of_choice (by simp [isChoice]) hd

namespace Source

variable {s : Source} {r : Reading}

theorem membersOf_of_name (h : r.isPhrase .interfaceDeclaration = true)
    (hname : r.interfaceName?.map s.text = some pathInterface) :
    s.membersOf r = r.properties := by
  rw [membersOf, h, hname, decide_eq_true rfl]
  rfl

theorem makesOf_of_lexical (h : r.isPhrase .lexicalDeclaration = true) (method : String) :
    s.makesOf method r = (r.phrases .variableDeclarator).flatMap (s.madeBy method) := by
  rw [makesOf, h]
  rfl

theorem methodOf?_of_parts {object property : Reading} (hr : r.isPhrase .memberExpression = true)
    (hhead : r.parts.head? = some object) (hlast : r.parts.getLast? = some property)
    (hobject : object.core.isToken .name = true) (hproperty : property.isToken .name = true) :
    s.methodOf? r = some (s.text object, s.text property) := by
  have hname : object.core.isName = true := by
    rw [isName, hobject]
    rfl
  rw [methodOf?, object?, property?, if_pos hr, if_pos hr, hhead, hlast, Option.bind_some,
    Option.bind_some, objectName?, plainName?, if_pos hname, if_pos hproperty]

theorem madeBy_of_parts {target value f : Reading} {object method : String}
    (hhead : r.parts.head? = some target) (htarget : target.isToken .name = true)
    (hvalue : r.value? = some value) (hcallee : value.callee? = some f)
    (hmethod : s.methodOf? f.core = some (object, method)) :
    s.madeBy method r = [(s.text target, object)] := by
  rw [madeBy, hhead, hvalue, Option.bind_some, Option.bind_some, plainName?, if_pos htarget,
    hcallee, Option.bind_some, hmethod]
  exact if_pos rfl

theorem queriedName?_of_core {q t : Reading} (hcore : r.core = q)
    (hq : q.isPhrase .typeQuery = true) (hlast : q.parts.getLast? = some t)
    (ht : t.isToken .name = true) : s.queriedName? r = some (s.text t) := by
  rw [queriedName?, hcore, if_pos hq, hlast, Option.bind_some, plainName?, if_pos ht]

theorem said?_of_parts {key t : Reading} {n : String} (hshown : r.hidesTypeof = false)
    (hkey : r.quotedKey? = some key) (htype : r.type? = some t) (hn : s.queriedName? t = some n) :
    s.said? r = some ((s.literal key).value, n) := by
  rw [said?, hshown, claim?, hkey, htype, Option.bind_some, hn]
  rfl

/-- A string with nothing between its quotes. -/
theorem literal_value_nil (text : String) (i j k l : Nat) :
    (s.literal (phraseOf .string
      [tokenAt (.spelled text) i j, tokenAt (.spelled text) k l])).value = [] := by
  have hpieces : ∀ i j, s.pieces (tokenAt (.spelled text) i j) = [] := by
    intro i j
    simp [pieces, isToken_tokenAt_spelled]
  rw [literal, parts_phraseOf]
  simp [spreadAll, hpieces, Literal.value]

end Source

/-! ## Extra leaves -/

variable {E : Reading → Prop} {s s' : Source}

theorem Grown.tokenAt (t : Rule) {i j i' j' : Nat} (h : s.slice i j = s'.slice i' j') :
    Grown E s s' (tokenAt t i j) (tokenAt t i' j') := .token rfl h

theorem GrownAll.cons {r r' : Reading} {rs rs' : List Reading} (h : Grown E s s' r r')
    (hs : GrownAll E s s' rs rs') : GrownAll E s s' (r :: rs) (r' :: rs') :=
  .more h (List.forall_mem_nil E) hs

/-- One extra leaf behind the first of several parts. -/
theorem GrownAll.insert {r r' c : Reading} {rs rs' : List Reading} (h : Grown E s s' r r')
    (hc : E c) (hs : GrownAll E s s' rs rs') : GrownAll E s s' (r :: rs) (r' :: c :: rs') :=
  .more h (List.forall_mem_singleton.mpr hc) hs

/-- A phrase of tokens and phrases, as one of the sentences of its rule wants them. -/
theorem Grown.phraseOf {f : Phrase} {cs cs' : List Reading} (x : List Rule)
    (hx : ∃ r ∈ Grammar.rules, r.1 = f ∧ x ∈ r.2.sentences)
    (haside : cs.all (!·.isAside) = true) (hsteps : cs.map symbol = x.map Symbol.ofRule)
    (hcs : GrownAll E s s' cs cs') : Grown E s s' (phraseOf f cs) (phraseOf f cs') := by
  have hnone : ∀ c ∈ cs, c.isAside = false := by
    intro c hc
    exact Bool.not_eq_true' _ ▸ List.all_eq_true.mp haside c hc
  refine .of_sentence hx ?_ ?_ ?_ hcs
  · rw [List.filter_eq_self.mpr (List.all_eq_true.mp haside)]
    exact hsteps
  · exact fun c hc => hnone c (List.mem_of_head? hc)
  · exact fun c hc => hnone c (List.mem_of_getLast? hc)

end RouteAtlas.Script
