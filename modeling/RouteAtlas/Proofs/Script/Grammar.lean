import RouteAtlas.Script.Outline

/-!
# What the grammar says of symbols and of names

- `Symbol.ofSpelling_cases`, `Reading.isName_lt`: keywords, marks and names are numbered below all
  phrases;
- `Grammar.words_spec`, `Grammar.marks_spec`: how keywords and marks are written;
- `Rule.sentences`: the sequences of symbols that a rule stands for, without ranks and weights;
- `Rule.map_symbol_expand`: they are the symbols of its productions, **by induction over the
  rule**;
- `Grammar.symbols_importName`, `Grammar.symbols_importSpecifier`: the name that an import binds is
  one token, and it stands last in its specifier.
-/

namespace RouteAtlas.Script

/-! ## Numbers of symbols -/

theorem Grammar.tokenCount_eq : tokenCount = TokenClass.count + spellings.length := by
  rw [tokenCount]

theorem TokenClass.code_lt (c : TokenClass) : c.code < Grammar.tokenCount := by
  have h : c.code < TokenClass.count := by cases c <;> decide
  rw [Grammar.tokenCount_eq]
  exact Nat.lt_add_right _ h

/-- A keyword or a mark has a number from `n` on, as far as there are spellings; an unknown one has
the number of the end of the text. -/
theorem Symbol.find_cases (text : String) :
    ∀ (ws : List String) (n : Nat), find text n ws = TokenClass.endOfText.code ∨
      n ≤ find text n ws ∧ find text n ws < n + ws.length
  | [], _ => .inl rfl
  | w :: ws, n => by
    rw [find, List.length_cons]
    split
    · exact .inr ⟨Nat.le_refl n, by omega⟩
    · rcases find_cases text ws (n + 1) with h | h
      · exact .inl h
      · exact .inr ⟨by omega, by omega⟩

/-- Keywords and marks are numbered behind the classes of tokens. -/
theorem Symbol.ofSpelling_cases (text : String) :
    ofSpelling text = TokenClass.endOfText.code ∨
      TokenClass.count ≤ ofSpelling text ∧ ofSpelling text < Grammar.tokenCount := by
  rw [ofSpelling, Grammar.tokenCount_eq]
  exact find_cases text Grammar.spellings TokenClass.count

theorem Symbol.ofSpelling_lt (text : String) : ofSpelling text < Grammar.tokenCount := by
  rcases ofSpelling_cases text with h | h
  · rw [h]
    exact TokenClass.code_lt .endOfText
  · exact h.2

/-- No keyword or mark is a token of another class. -/
theorem Symbol.ofSpelling_ne_code (text : String) {c : TokenClass} (hc : c ≠ .endOfText) :
    ofSpelling text ≠ c.code := by
  rcases ofSpelling_cases text with h | h
  · rw [h]
    revert hc
    cases c <;> decide
  · have hcode : c.code < TokenClass.count := by cases c <;> decide
    omega

theorem Phrase.ctorIdx_lt (p : Phrase) : p.ctorIdx < Grammar.phraseCount := by
  have hcount : 185 < Grammar.phraseCount := by decide +kernel
  refine Nat.lt_of_le_of_lt ?_ hcount
  cases p <;> exact Nat.le_of_ble_eq_true rfl

theorem Phrase.ctorIdx_inj {p q : Phrase} : p.ctorIdx = q.ctorIdx ↔ p = q := by
  constructor
  · intro h
    rw [← ofNat_ctorIdx p, h, ofNat_ctorIdx]
  · rintro rfl
    rfl

theorem Symbol.le_ofPhrase (p : Phrase) : Grammar.tokenCount ≤ ofPhrase p := Nat.le_add_right _ _

theorem Symbol.add_eq_ofPhrase {n : Nat} {p : Phrase} :
    Grammar.tokenCount + n = ofPhrase p ↔ n = p.ctorIdx := Nat.add_left_cancel_iff

/-- A set of given symbols holds no others. -/
theorem TokenSet.has_ofList {xs : List Nat} {x : Nat} : (ofList xs).has x = true ↔ x ∈ xs := by
  have hfold : ∀ (xs : List Nat) (s : TokenSet),
      TokenSet.has (xs.foldl (fun s x => s ||| single x) s) x = true ↔ s.has x = true ∨ x ∈ xs := by
    intro xs
    induction xs with
    | nil => simp
    | cons y ys ih =>
      intro s
      have hsingle : TokenSet.has (single y) x = true ↔ x = y := by
        rw [has, single, Nat.one_shiftLeft, Nat.testBit_two_pow, decide_eq_true_iff, eq_comm]
      rw [List.foldl_cons, ih, has, Nat.testBit_or, Bool.or_eq_true, ← has, ← has, hsingle,
        List.mem_cons, or_assoc]
  rw [ofList, hfold, has, Nat.zero_testBit]
  simp

/-- A plain name is a token. -/
theorem Reading.isName_lt {r : Reading} (h : r.isName = true) : r.symbol < Grammar.tokenCount := by
  rw [isName, Bool.or_eq_true] at h
  rcases h with h | h
  · rw [eq_of_beq h]
    exact TokenClass.code_lt .name
  · obtain ⟨w, -, hw⟩ := List.mem_map.mp (TokenSet.has_ofList.mp h)
    rw [← hw]
    exact Symbol.ofSpelling_lt w

/-! ## Keywords and marks -/

/-- A small letter. -/
def isSmall (c : Char) : Bool := 'a' ≤ c && c ≤ 'z'

namespace Grammar

/-- A spelling is found under its characters. -/
theorem lookup_spelling {w : String} {ws : List String} (hw : w ∈ ws) :
    (ws.map fun w => (w.toList, Symbol.ofSpelling w)).lookup w.toList =
      some (Symbol.ofSpelling w) := by
  induction ws with
  | nil => cases hw
  | cons v ws ih =>
    rw [List.map_cons, List.lookup_cons]
    by_cases hv : w.toList = v.toList
    · obtain rfl := String.toList_inj.mp hv
      rw [beq_self_eq_true]
    · rw [beq_false_of_ne hv]
      exact ih ((List.mem_cons.mp hw).resolve_left fun h => hv (congrArg String.toList h))

/-- Keywords have two or more letters, all of them small, and each is found under its number. -/
theorem words_spec :
    ∀ w ∈ words, 2 ≤ w.1.length ∧ w.1.all isSmall = true ∧ words.lookup w.1 = some w.2 := by
  have hsmall : ∀ w ∈ words, 2 ≤ w.1.length ∧ w.1.all isSmall = true := by decide +kernel
  intro w hw
  refine ⟨(hsmall w hw).1, (hsmall w hw).2, ?_⟩
  obtain ⟨t, ht, rfl⟩ := List.mem_map.mp hw
  exact lookup_spelling ht

/-- A character that may stand in front of a mark. -/
def startsMark (c : Char) : Bool := !isSpace c && !isDigit c

/-- Marks do not begin like names, but for one; they hold no NUL, stand in falling length, and are
numbered by their text. -/
theorem marks_spec :
    (∀ m ∈ marks, m.1.head?.any startsMark = true ∧ '\x00' ∉ m.1 ∧
      (m.1.head?.any (!isNameChar ·) = true ∨ m.1 = ['$', '\x7b'])) ∧
      marks.Pairwise (fun a b => b.1.length ≤ a.1.length) ∧
      ∀ a ∈ marks, ∀ b ∈ marks, a.1 = b.1 → a.2 = b.2 := by
  refine ⟨by decide +kernel, by decide +kernel, ?_⟩
  intro a ha b hb hab
  obtain ⟨m, -, hm⟩ := List.mem_flatMap.mp ha
  obtain ⟨n, -, hn⟩ := List.mem_flatMap.mp hb
  obtain ⟨t, -, rfl⟩ := List.mem_map.mp hm
  obtain ⟨u, -, rfl⟩ := List.mem_map.mp hn
  exact congrArg Symbol.ofSpelling (String.toList_inj.mp hab)

/-- The characters that make a mark a longer one. -/
def extensions (m : List Char) : List Char :=
  marks.filterMap fun a => if m.isPrefixOf a.1 then a.1[m.length]? else none

end Grammar

/-! ## Sentences of rules -/

namespace Rule

/-- The sequences of single symbols that a rule stands for. -/
def sentences : Rule → List (List Rule)
  | .empty => [[]]
  | .both a b => a.sentences.flatMap fun x => b.sentences.map (x ++ ·)
  | .either a b => a.sentences ++ b.sentences
  | .ranked _ _ r | .weighed _ r => r.sentences
  | .token t => [[.token t]]
  | .spelled text => [[.spelled text]]
  | .phrase p => [[.phrase p]]
  | .many1 r => [[.many1 r]]

/-- The rule is a token or a phrase. -/
def isSingle : Rule → Bool
  | .token _ | .spelled _ | .phrase _ => true
  | _ => false

theorem ofRule_lt {r : Rule} (h : r.isSingle = true) :
    Symbol.ofRule r < Grammar.tokenCount + Grammar.phraseCount := by
  cases r with
  | token t => exact Nat.lt_add_right _ (TokenClass.code_lt t)
  | spelled text => exact Nat.lt_add_right _ (Symbol.ofSpelling_lt text)
  | phrase p =>
    rw [Symbol.ofRule, Symbol.ofPhrase]
    exact Nat.add_lt_add_left p.ctorIdx_lt _
  | _ => cases h

end Rule

/-- Giving the last step another rank or side leaves the symbols alone. -/
theorem map_symbol_changeLast {f : Step → Step} (hf : ∀ t, (f t).symbol = t.symbol) :
    ∀ ts : List Step, (changeLast f ts).map Step.symbol = ts.map Step.symbol
  | [] => rfl
  | [t] => congrArg ([·]) (hf t)
  | t :: u :: ts => congrArg (t.symbol :: ·) (map_symbol_changeLast hf (u :: ts))

/-- Ranks, sides and weights do not matter to the symbols of the productions. -/
theorem Rule.map_symbol_expand (r : Rule) (rank : Option Rank) (side : Option Side) (last : Bool) :
    (r.expand rank side last).map (fun x => x.1.map Step.symbol) =
      r.sentences.map (·.map Symbol.ofRule) := by
  induction r generalizing rank side last with
  | empty => rfl
  | token t => simp only [expand, sentences, List.map_cons, List.map_nil, Symbol.ofRule]
  | spelled text => simp only [expand, sentences, List.map_cons, List.map_nil, Symbol.ofRule]
  | phrase p => simp only [expand, sentences, List.map_cons, List.map_nil, Symbol.ofRule]
  | many1 r => simp only [expand, sentences, List.map_cons, List.map_nil, Symbol.ofRule]
  | both a b iha ihb =>
    calc ((both a b).expand rank side last).map (fun x => x.1.map Step.symbol)
        = ((a.expand rank side false).map fun x => x.1.map Step.symbol).flatMap fun u =>
            ((b.expand rank side last).map fun y => y.1.map Step.symbol).map (u ++ ·) := by
          simp only [expand, List.map_flatMap, List.flatMap_map, List.map_map, Function.comp_def,
            List.map_append]
      _ = (a.sentences.map (·.map Symbol.ofRule)).flatMap fun u =>
            (b.sentences.map (·.map Symbol.ofRule)).map (u ++ ·) := by rw [iha, ihb]
      _ = (both a b).sentences.map (·.map Symbol.ofRule) := by
          simp only [sentences, List.map_flatMap, List.flatMap_map, List.map_map, Function.comp_def,
            List.map_append]
  | either a b iha ihb => rw [expand, sentences, List.map_append, List.map_append, iha, ihb]
  | ranked k s r ih =>
    rw [expand, List.map_map, sentences, ← ih (k.or rank) (s.or side) last]
    refine List.map_congr_left fun x _ => map_symbol_changeLast ?_ x.1
    intro t
    split <;> rfl
  | weighed w r ih =>
    rw [expand, List.map_map, sentences, ← ih rank side last]
    rfl

/-! ## Productions of phrases -/

namespace Grammar

/-- Every phrase has one rule. -/
theorem nodup_rules : (rules.map fun r => r.1.ctorIdx).Nodup := by decide +kernel

theorem ruleOf_mem {r : Phrase × Rule} (hr : r ∈ rules) : ruleOf r.1.ctorIdx = r.2 := by
  have hfind : ∀ (rs : List (Phrase × Rule)), (rs.map fun r => r.1.ctorIdx).Nodup → r ∈ rs →
      rs.find? (fun q => q.1.ctorIdx == r.1.ctorIdx) = some r := by
    intro rs hrs hmem
    induction rs with
    | nil => cases hmem
    | cons q rs ih =>
      rw [List.map_cons, List.nodup_cons] at hrs
      rcases List.mem_cons.mp hmem with rfl | hmem
      · rw [List.find?_cons, beq_self_eq_true]
      · have hne : ¬q.1.ctorIdx = r.1.ctorIdx := by
          intro he
          exact hrs.1 (he ▸ List.mem_map_of_mem hmem)
        rw [List.find?_cons, beq_false_of_ne hne, ih hrs.2 hmem]
  rw [ruleOf, hfind rules nodup_rules hr]
  rfl

/-- The rule of a phrase is among the rules. -/
theorem exists_ruleOf (f : Phrase) :
    ∃ r ∈ rules, r.1.ctorIdx = f.ctorIdx ∧ ruleOf f.ctorIdx = r.2 := by
  have hall : ∀ n < phraseCount, ∃ r ∈ rules, r.1.ctorIdx = n := by decide +kernel
  obtain ⟨r, hr, hn⟩ := hall f.ctorIdx f.ctorIdx_lt
  exact ⟨r, hr, hn, hn ▸ ruleOf_mem hr⟩

theorem getElem?_numbered {n : Nat} (hn : n < phraseCount) : numbered[n]? = some (ruleOf n) := by
  rw [numbered, List.getElem?_append_left (by simpa using hn), List.getElem?_map,
    List.getElem?_range hn]
  rfl

/-- The productions of a phrase are those of its rule. -/
theorem mem_productions_iff {p : Production} {f : Phrase} (hf : p.phrase = f.ctorIdx) :
    p ∈ productions ↔ p ∈ productionsOf f.ctorIdx (ruleOf f.ctorIdx) := by
  have hphrase : ∀ {n : Nat} {r : Rule}, p ∈ productionsOf n r → n = f.ctorIdx := by
    intro n r hp
    obtain ⟨x, -, rfl⟩ := List.mem_map.mp hp
    exact hf
  have hget := getElem?_numbered f.ctorIdx_lt
  constructor
  · intro hp
    obtain ⟨⟨r, n⟩, hmem, hp⟩ := List.mem_flatMap.mp hp
    obtain rfl := hphrase hp
    rw [List.mem_zipIdx_iff_getElem?] at hmem
    obtain rfl := Option.some.inj (hget.symm.trans hmem)
    exact hp
  · intro hp
    refine List.mem_flatMap.mpr ⟨(ruleOf f.ctorIdx, f.ctorIdx), ?_, hp⟩
    rw [List.mem_zipIdx_iff_getElem?]
    exact hget

/-- A sentence of the rule of a phrase is the symbols of one of its productions. -/
theorem exists_production {f : Phrase} {x : List Rule}
    (h : ∃ r ∈ rules, r.1 = f ∧ x ∈ r.2.sentences) :
    ∃ p ∈ productions, p.phrase = f.ctorIdx ∧ p.steps.map Step.symbol = x.map Symbol.ofRule := by
  obtain ⟨r, hr, rfl, hx⟩ := h
  have hmem : x.map Symbol.ofRule ∈ r.2.sentences.map (·.map Symbol.ofRule) :=
    List.mem_map_of_mem hx
  rw [← r.2.map_symbol_expand none none true] at hmem
  obtain ⟨y, hy, hyx⟩ := List.mem_map.mp hmem
  refine ⟨⟨r.1.ctorIdx, y.1, y.2⟩, (mem_productions_iff rfl).mpr ?_, rfl, hyx⟩
  rw [ruleOf_mem hr]
  exact List.mem_map.mpr ⟨y, hy, rfl⟩

/-- The symbols of a production of a phrase are a sentence of its rule. -/
theorem exists_sentence {p : Production} (hp : p ∈ productions) {f : Phrase}
    (hf : p.phrase = f.ctorIdx) :
    ∃ r ∈ rules, r.1.ctorIdx = f.ctorIdx ∧
      ∃ x ∈ r.2.sentences, p.steps.map Step.symbol = x.map Symbol.ofRule := by
  obtain ⟨r, hr, hrf, hrule⟩ := exists_ruleOf f
  rw [mem_productions_iff hf, hrule] at hp
  obtain ⟨x, hx, rfl⟩ := List.mem_map.mp hp
  have hmem : x.1.map Step.symbol ∈ r.2.sentences.map (·.map Symbol.ofRule) := by
    rw [← r.2.map_symbol_expand none none true]
    exact List.mem_map.mpr ⟨x, hx, rfl⟩
  obtain ⟨y, hy, hyx⟩ := List.mem_map.mp hmem
  exact ⟨r, hr, hrf, y, hy, hyx.symm⟩

/-- The name that an import binds is one token. -/
theorem symbols_importName {p : Production} (hp : p ∈ productions)
    (hf : p.phrase = Phrase.importName.ctorIdx) :
    ∃ t < tokenCount, p.steps.map Step.symbol = [t] := by
  obtain ⟨r, hr, hrf, x, hx, hsteps⟩ := exists_sentence hp hf
  have hrule : ∀ r ∈ rules, r.1.ctorIdx = Phrase.importName.ctorIdx →
      ∀ x ∈ r.2.sentences, x = [.token .name] ∨ x = [.spelled "type"] := by decide +kernel
  rw [hsteps]
  rcases hrule r hr hrf x hx with rfl | rfl
  · exact ⟨Symbol.ofRule (.token .name), TokenClass.code_lt .name, List.map_singleton⟩
  · exact ⟨Symbol.ofRule (.spelled "type"), Symbol.ofSpelling_lt "type", List.map_singleton⟩

/-- A specifier of an import ends with the name that it binds, and has no repetition in it. -/
theorem symbols_importSpecifier {p : Production} (hp : p ∈ productions)
    (hf : p.phrase = Phrase.importSpecifier.ctorIdx) :
    (∀ t ∈ p.steps.map Step.symbol, t < tokenCount + phraseCount) ∧
      (p.steps.map Step.symbol).getLast? = some (Symbol.ofPhrase .importName) := by
  obtain ⟨r, hr, hrf, x, hx, hsteps⟩ := exists_sentence hp hf
  have hrule : ∀ r ∈ rules, r.1.ctorIdx = Phrase.importSpecifier.ctorIdx →
      ∀ x ∈ r.2.sentences, x.all Rule.isSingle = true ∧
        x.getLast? = some (.phrase .importName) := by decide +kernel
  obtain ⟨hsingle, hlast⟩ := hrule r hr hrf x hx
  rw [hsteps]
  constructor
  · intro t ht
    obtain ⟨a, ha, rfl⟩ := List.mem_map.mp ht
    exact Rule.ofRule_lt (List.all_eq_true.mp hsingle a ha)
  · rw [List.getLast?_map, hlast, Option.map_some, Symbol.ofRule]

end Grammar

end RouteAtlas.Script
