import Mathlib.Data.List.Forall2
import RouteAtlas.Proofs.Script.Grammar

/-!
# Readings with insertions

A comment may stand between any two parts of a phrase. What is read off a tree has to be the same
with and without it, though positions shift and lists of parts grow:

- `Sprinkled`, `Between`: a list with extra elements anywhere, or only between its elements;
- `Production.Fits`: parts of a phrase, comments among them, as a production of the grammar wants
  them;
- `Grown`: a tree of the grammar, and the same tree with extra leaves between the parts of its
  phrases;
- `Grown.symm`: the same tree at another place, which is a matter of both sides;
- `Grown.parts`, `Grown.core`: the views of a phrase that are read are related like the phrase
  (**by induction over the trees**);
- `Grown.chars_of_chosen_lt`: a phrase that comes to one token has the same characters in both trees.
-/

namespace RouteAtlas.Script

/-! ## Lists with extra elements -/

section Lists

variable {α : Type}

/-- The second list holds what the elements of the first have become, in order, and extra
elements. -/
inductive Sprinkled (R : α → α → Prop) (E : α → Prop) : List α → List α → Prop where
  | nil : Sprinkled R E [] []
  | keep {a b : α} {as bs : List α} (h : R a b) (hs : Sprinkled R E as bs) :
      Sprinkled R E (a :: as) (b :: bs)
  | insert {c : α} {as bs : List α} (hc : E c) (hs : Sprinkled R E as bs) :
      Sprinkled R E as (c :: bs)

/-- The same with at least one element, and with extra elements only between two others. -/
inductive Between (R : α → α → Prop) (E : α → Prop) : List α → List α → Prop where
  | one {a b : α} (h : R a b) : Between R E [a] [b]
  | more {a b : α} {as bs cs : List α} (h : R a b) (hcs : ∀ c ∈ cs, E c)
      (hs : Between R E as bs) : Between R E (a :: as) (b :: (cs ++ bs))

variable {R : α → α → Prop} {E : α → Prop} {as bs cs : List α}

namespace Sprinkled

theorem insertAll (hcs : ∀ c ∈ cs, E c) (h : Sprinkled R E as bs) :
    Sprinkled R E as (cs ++ bs) := by
  induction cs with
  | nil => exact h
  | cons c cs ih => exact .insert (hcs c (.head _)) (ih fun c hc => hcs c (.tail _ hc))

/-- The elements that pass a test, which no extra one does. -/
theorem filter {p : α → Bool} (hR : ∀ a b, R a b → p a = p b) (hE : ∀ c, E c → p c = false)
    (h : Sprinkled R E as bs) : List.Forall₂ R (as.filter p) (bs.filter p) := by
  induction h with
  | nil => exact .nil
  | @keep a b as bs hab _ ih =>
    rw [List.filter_cons, List.filter_cons, ← hR a b hab]
    split
    · exact .cons hab ih
    · exact ih
  | insert hc _ ih =>
    rw [List.filter_cons_of_neg (by simp [hE _ hc])]
    exact ih

/-- The first element that passes a test, which no extra one does. -/
theorem find? {p : α → Bool} (hR : ∀ a b, R a b → p a = p b) (hE : ∀ c, E c → p c = false)
    (h : Sprinkled R E as bs) : Option.Rel R (as.find? p) (bs.find? p) := by
  rw [← List.head?_filter, ← List.head?_filter]
  have hfilter := h.filter hR hE
  generalize as.filter p = as', bs.filter p = bs' at hfilter
  cases hfilter with
  | nil => exact .none
  | cons hab _ => exact .some hab

theorem flatMap_eq {β : Type} {f g : α → List β} (hR : ∀ a b, R a b → f a = g b)
    (hE : ∀ c, E c → g c = []) (h : Sprinkled R E as bs) : as.flatMap f = bs.flatMap g := by
  induction h with
  | nil => rfl
  | keep hab _ ih => rw [List.flatMap_cons, List.flatMap_cons, hR _ _ hab, ih]
  | insert hc _ ih => rw [List.flatMap_cons, hE _ hc, ih, List.nil_append]

/-- A test that some element passes is passed by what it has become. -/
theorem any {p : α → Bool} (hR : ∀ a b, R a b → p a = true → p b = true)
    (h : Sprinkled R E as bs) (ha : as.any p = true) : bs.any p = true := by
  induction h with
  | nil => exact ha
  | keep hab _ ih =>
    rw [List.any_cons, Bool.or_eq_true] at ha ⊢
    exact ha.imp (hR _ _ hab) ih
  | insert _ _ ih =>
    rw [List.any_cons, Bool.or_eq_true]
    exact .inr (ih ha)

end Sprinkled

namespace Between

theorem sprinkled (h : Between R E as bs) : Sprinkled R E as bs := by
  induction h with
  | one h => exact .keep h .nil
  | more h hcs _ ih => exact .keep h (ih.insertAll hcs)

theorem append {as' bs' : List α} (h : Between R E as bs) (hcs : ∀ c ∈ cs, E c)
    (h' : Between R E as' bs') : Between R E (as ++ as') (bs ++ (cs ++ bs')) := by
  induction h with
  | @one a b hab =>
    show Between R E (a :: as') (b :: (cs ++ bs'))
    exact .more hab hcs h'
  | more hab hds _ ih =>
    rw [List.cons_append, List.cons_append, List.append_assoc]
    exact .more hab hds ih

/-- The first elements are related. -/
theorem head (h : Between R E as bs) : ∃ a b as' bs', as = a :: as' ∧ bs = b :: bs' ∧ R a b := by
  cases h with
  | one hab => exact ⟨_, _, _, _, rfl, rfl, hab⟩
  | more hab _ _ => exact ⟨_, _, _, _, rfl, rfl, hab⟩

/-- The last elements are related. -/
theorem getLast? (h : Between R E as bs) :
    ∃ a b, as.getLast? = some a ∧ bs.getLast? = some b ∧ R a b := by
  induction h with
  | one hab => exact ⟨_, _, rfl, rfl, hab⟩
  | more _ _ _ ih =>
    obtain ⟨a, b, ha, hb, hab⟩ := ih
    refine ⟨a, b, ?_, ?_, hab⟩
    · simp [List.getLast?_cons, ha]
    · simp [List.getLast?_cons, List.getLast?_append, hb]

end Between

end Lists

/-! ## Trees with extra leaves -/

/-- The parts of a phrase are those that the production wants. Comments stand only between them. -/
structure Production.Fits (p : Production) (cs : List Reading) : Prop where
  steps : (cs.filter fun c => !c.isAside).map Reading.symbol = p.steps.map Step.symbol
  head : ∀ c ∈ cs.head?, c.isAside = false
  last : ∀ c ∈ cs.getLast?, c.isAside = false

/-- Where a production wants one symbol, there is one part, and no comment with it. -/
theorem Production.Fits.eq_singleton {p : Production} {cs : List Reading} (h : p.Fits cs) {t : Nat}
    (ht : p.steps.map Step.symbol = [t]) : ∃ c, cs = [c] ∧ c.symbol = t := by
  have hsteps := h.steps
  cases cs with
  | nil =>
    rw [ht] at hsteps
    cases hsteps
  | cons c cs =>
    rw [List.filter_cons_of_pos (by simp [h.head c rfl]), ht, List.map_cons, List.cons.injEq,
      List.map_eq_nil_iff, List.filter_eq_nil_iff] at hsteps
    refine ⟨c, ?_, hsteps.1⟩
    cases hlast : cs.getLast? with
    | none => rw [List.getLast?_eq_none_iff.mp hlast]
    | some d =>
      -- the last part would be one more that is no comment
      have haside : d.isAside = false := h.last d (by simp [List.getLast?_cons, hlast])
      exact absurd (by simp [haside]) (hsteps.2 d (List.mem_of_getLast? hlast))

mutual

/-- A tree of the grammar over the text `s`, and the same tree over the text `s'` with extra leaves
between the parts of its phrases. Tokens keep their characters, and everything may have moved. -/
inductive Grown (E : Reading → Prop) (s s' : Source) : Reading → Reading → Prop where
  | token {x y : Lexeme} {gap gap' : Nat} {aside : Bool} (htoken : x.token = y.token)
      (hchars : s.slice x.start x.stop = s'.slice y.start y.stop) :
      Grown E s s' (.leaf x gap aside) (.leaf y gap' aside)
  | phrase {p : Production} {weight weight' : Int} {cs cs' : List Reading}
      (hp : p ∈ Grammar.productions) (hfits : p.Fits cs) (hcs : GrownAll E s s' cs cs') :
      Grown E s s' (.ofChildren (Grammar.tokenCount + p.phrase) weight cs)
        (.ofChildren (Grammar.tokenCount + p.phrase) weight' cs')

/-- The parts of a phrase, with extra leaves between two of them. -/
inductive GrownAll (E : Reading → Prop) (s s' : Source) : List Reading → List Reading → Prop where
  | one {r r' : Reading} (h : Grown E s s' r r') : GrownAll E s s' [r] [r']
  | more {r r' : Reading} {rs rs' cs : List Reading} (h : Grown E s s' r r')
      (hcs : ∀ c ∈ cs, E c) (hs : GrownAll E s s' rs rs') :
      GrownAll E s s' (r :: rs) (r' :: (cs ++ rs'))

end

variable {E : Reading → Prop} {s s' : Source}

theorem GrownAll.between {rs rs' : List Reading} :
    GrownAll E s s' rs rs' → Between (Grown E s s') E rs rs'
  | .one h => .one h
  | .more h hcs hs => .more h hcs hs.between

mutual

theorem Grown.mono {E' : Reading → Prop} (hE : ∀ c, E c → E' c) {r r' : Reading} :
    Grown E s s' r r' → Grown E' s s' r r'
  | .token htoken hchars => .token htoken hchars
  | .phrase hp hfits hcs => .phrase hp hfits (hcs.mono hE)

theorem GrownAll.mono {E' : Reading → Prop} (hE : ∀ c, E c → E' c) {rs rs' : List Reading} :
    GrownAll E s s' rs rs' → GrownAll E' s s' rs rs'
  | .one h => .one (h.mono hE)
  | .more h hcs hs => .more (h.mono hE) (fun c hc => hE c (hcs c hc)) (hs.mono hE)

end

/-- A phrase by a sentence of its rule. -/
theorem Grown.of_sentence {f : Phrase} {x : List Rule} {weight weight' : Int}
    {cs cs' : List Reading} (hx : ∃ r ∈ Grammar.rules, r.1 = f ∧ x ∈ r.2.sentences)
    (hsteps : (cs.filter fun c => !c.isAside).map Reading.symbol = x.map Symbol.ofRule)
    (hhead : ∀ c ∈ cs.head?, c.isAside = false) (hlast : ∀ c ∈ cs.getLast?, c.isAside = false)
    (hcs : GrownAll E s s' cs cs') :
    Grown E s s' (.ofChildren (Symbol.ofPhrase f) weight cs)
      (.ofChildren (Symbol.ofPhrase f) weight' cs') := by
  obtain ⟨p, hp, hphrase, hsymbols⟩ := Grammar.exists_production hx
  rw [Symbol.ofPhrase, ← hphrase]
  exact .phrase hp ⟨hsteps.trans hsymbols.symm, hhead, hlast⟩ hcs

/-! ## What is seen of a reading from outside -/

namespace Grown

variable {r r' : Reading}

theorem symbol_eq (h : Grown E s s' r r') : r.symbol = r'.symbol := by
  cases h with
  | token htoken _ => exact htoken
  | phrase => rfl

theorem isAside_eq (h : Grown E s s' r r') : r.isAside = r'.isAside := by
  cases h with
  | token => rfl
  | phrase => rfl

theorem isPhrase_eq (h : Grown E s s' r r') (p : Phrase) : r.isPhrase p = r'.isPhrase p := by
  rw [Reading.isPhrase, Reading.isPhrase, h.symbol_eq]

theorem isToken_eq (h : Grown E s s' r r') (c : TokenClass) : r.isToken c = r'.isToken c := by
  rw [Reading.isToken, Reading.isToken, h.symbol_eq]

theorem isName_eq (h : Grown E s s' r r') : r.isName = r'.isName := by
  rw [Reading.isName, Reading.isName, h.isToken_eq, h.symbol_eq]

theorem isChoice_eq (h : Grown E s s' r r') : r.isChoice = r'.isChoice := by
  have hphrase : r.isPhrase = r'.isPhrase := funext h.isPhrase_eq
  rw [Reading.isChoice, Reading.isChoice, hphrase]

/-- A reading with the number of a token is a token, and has the same characters. -/
theorem chars_of_lt (h : Grown E s s' r r') (hlt : r.symbol < Grammar.tokenCount) :
    s.chars r = s'.chars r' := by
  cases h with
  | token _ hchars => exact hchars
  | @phrase p =>
    have hle : ¬ Grammar.tokenCount + p.phrase < Grammar.tokenCount := by omega
    exact absurd hlt hle

end Grown

/-! ## Comments -/

/-- A comment as a leaf of a tree. -/
def Reading.IsComment (c : Reading) : Prop :=
  c.isAside = true ∧ (c.isToken .comment = true ∨ c.isToken .pageComment = true)

/-- A tree of the grammar, and the same tree with comments inserted. -/
abbrev Commented (s s' : Source) : Reading → Reading → Prop := Grown Reading.IsComment s s'

/-- A tree of the grammar, and the same tree at another place. -/
abbrev Same (s s' : Source) : Reading → Reading → Prop := Grown (fun _ => False) s s'

/-! ## The same tree at another place -/

/-- Without extra leaves, the parts correspond one to one. -/
theorem GrownAll.forall₂ {rs rs' : List Reading} :
    GrownAll (fun _ => False) s s' rs rs' → List.Forall₂ (Same s s') rs rs'
  | .one h => .cons h .nil
  | .more h hcs hs => by
    obtain rfl := List.eq_nil_iff_forall_not_mem.mpr hcs
    exact .cons h hs.forall₂

/-- What fits a production in one tree fits it in the other. -/
theorem Production.Fits.same {p : Production} {cs cs' : List Reading} (h : p.Fits cs)
    (hcs : GrownAll (fun _ => False) s s' cs cs') : p.Fits cs' := by
  have hfilter : List.Forall₂ (Same s s') (cs.filter fun c => !c.isAside)
      (cs'.filter fun c => !c.isAside) := by
    refine hcs.between.sprinkled.filter ?_ (fun _ hc => hc.elim)
    intro a b hab
    rw [hab.isAside_eq]
  constructor
  · have hmap : List.Forall₂ Eq ((cs.filter fun c => !c.isAside).map Reading.symbol)
        ((cs'.filter fun c => !c.isAside).map Reading.symbol) :=
      List.rel_map (fun _ _ hab => hab.symbol_eq) hfilter
    rw [List.forall₂_eq_eq_eq] at hmap
    rw [← hmap, h.steps]
  · intro c hc
    obtain ⟨a, b, as, bs, rfl, rfl, hab⟩ := hcs.between.head
    obtain rfl := Option.some.inj hc
    rw [← hab.isAside_eq]
    exact h.head a rfl
  · intro c hc
    obtain ⟨a, b, ha, hb, hab⟩ := hcs.between.getLast?
    obtain rfl := Option.some.inj (hb.symm.trans hc)
    rw [← hab.isAside_eq]
    exact h.last a ha

mutual

theorem Grown.symm {r r' : Reading} : Same s s' r r' → Same s' s r' r
  | .token htoken hchars => .token htoken.symm hchars.symm
  | .phrase hp hfits hcs => .phrase hp (hfits.same hcs) hcs.symm

theorem GrownAll.symm {rs rs' : List Reading} :
    GrownAll (fun _ => False) s s' rs rs' → GrownAll (fun _ => False) s' s rs' rs
  | .one h => .one h.symm
  | .more h hcs hs => by
    obtain rfl := List.eq_nil_iff_forall_not_mem.mpr hcs
    exact .more h.symm hcs hs.symm

end

theorem Grown.commented {r r' : Reading} (h : Same s s' r r') : Commented s s' r r' :=
  h.mono fun _ hc => hc.elim

/-! ## What a comment is not -/

namespace Reading.IsComment

variable {c : Reading}

theorem isToken_eq (h : c.IsComment) {t : TokenClass} (ht : t ≠ .comment)
    (ht' : t ≠ .pageComment) : c.isToken t = false := by
  have hcode : ∀ u : TokenClass, c.isToken u = true → u ≠ t → c.isToken t = false := by
    intro u hu hne
    rw [isToken, eq_of_beq hu]
    cases u <;> cases t <;> first | rfl | exact absurd rfl hne
  exact h.2.elim (fun hu => hcode _ hu ht.symm) fun hu => hcode _ hu ht'.symm

theorem symbol_lt (h : c.IsComment) : c.symbol < Grammar.tokenCount := by
  rcases h.2 with hc | hc
  · rw [eq_of_beq hc]
    exact TokenClass.code_lt .comment
  · rw [eq_of_beq hc]
    exact TokenClass.code_lt .pageComment

theorem isPhrase_eq (h : c.IsComment) (p : Phrase) : c.isPhrase p = false := by
  have hlt := h.symbol_lt
  have hle := Symbol.le_ofPhrase p
  rw [isPhrase, beq_eq_false_iff_ne]
  omega

end Reading.IsComment

/-! ## Parts -/

namespace Reading

mutual

theorem spread_eq_append : ∀ (r : Reading) (rest : List Reading), r.spread rest = r.spread [] ++ rest
  | leaf .., _ => rfl
  | node _ _ _ _ _ cs, rest => by
    rw [spread, spread]
    split
    · exact spreadAll_eq_append cs rest
    · rfl

theorem spreadAll_eq_append :
    ∀ rs rest : List Reading, spreadAll rs rest = spreadAll rs [] ++ rest
  | [], _ => rfl
  | r :: rs, rest => by
    rw [spreadAll, spread_eq_append, spreadAll_eq_append rs, spreadAll, spread_eq_append r (spreadAll rs []),
      List.append_assoc]

end

theorem spreadAll_cons (r : Reading) (rs : List Reading) :
    spreadAll (r :: rs) [] = r.spread [] ++ spreadAll rs [] :=
  spread_eq_append r _

theorem spread_of_lt {r : Reading}
    (h : r.isAside = true ∨ r.symbol < Grammar.tokenCount + Grammar.phraseCount) :
    r.spread [] = [r] := by
  cases r with
  | leaf => rfl
  | node symbol =>
    rcases h with h | h
    · cases h
    · have hle : ¬ Grammar.tokenCount + Grammar.phraseCount ≤ symbol := Nat.not_le.mpr h
      rw [spread, if_neg hle]

/-- Where no part is a repetition, the parts are the children. -/
theorem spreadAll_of_lt {rs : List Reading}
    (h : ∀ r ∈ rs, r.isAside = true ∨ r.symbol < Grammar.tokenCount + Grammar.phraseCount) :
    spreadAll rs [] = rs := by
  induction rs with
  | nil => rfl
  | cons r rs ih =>
    rw [spreadAll_cons, spread_of_lt (h r (.head _)), ih fun r hr => h r (.tail _ hr)]
    rfl

/-- Comments are no repetitions. -/
theorem spreadAll_comments {cs : List Reading} (hcs : ∀ c ∈ cs, c.IsComment) (rs : List Reading) :
    spreadAll (cs ++ rs) [] = cs ++ spreadAll rs [] := by
  induction cs with
  | nil => rfl
  | cons c cs ih =>
    rw [List.cons_append, spreadAll_cons, ih fun c hc => hcs c (.tail _ hc),
      spread_of_lt (.inl (hcs c (.head _)).1)]
    rfl

end Reading

open Reading

mutual

/-- **Step**: a part that is no repetition stays, a repetition gives way to its parts. -/
theorem Grown.spread {r r' : Reading} : Commented s s' r r' →
    Between (Commented s s') IsComment (r.spread []) (r'.spread [])
  | .token htoken hchars => .one (.token htoken hchars)
  | .phrase hp hfits hcs => by
    rw [ofChildren, ofChildren, Reading.spread, Reading.spread]
    split
    · exact hcs.spreadAll
    · exact .one (.phrase hp hfits hcs)

theorem GrownAll.spreadAll {rs rs' : List Reading} : GrownAll IsComment s s' rs rs' →
    Between (Commented s s') IsComment (spreadAll rs []) (spreadAll rs' [])
  | .one h => h.spread
  | .more h hcs hs => by
    rw [spreadAll_cons, spreadAll_cons, spreadAll_comments hcs]
    exact h.spread.append hcs hs.spreadAll

end

namespace Grown

variable {r r' : Reading}

/-- **The parts of a phrase** are those of the other one, with comments between two of them. -/
theorem parts (h : Commented s s' r r') :
    r.parts = [] ∧ r'.parts = [] ∨ Between (Commented s s') IsComment r.parts r'.parts := by
  cases h with
  | token => exact .inl ⟨rfl, rfl⟩
  | phrase _ _ hcs => exact .inr hcs.spreadAll

theorem sprinkled_parts (h : Commented s s' r r') :
    Sprinkled (Commented s s') IsComment r.parts r'.parts := by
  rcases h.parts with ⟨hr, hr'⟩ | h
  · rw [hr, hr']
    exact .nil
  · exact h.sprinkled

theorem part? (h : Commented s s' r r') (p : Phrase) :
    Option.Rel (Commented s s') (r.part? p) (r'.part? p) :=
  h.sprinkled_parts.find? (fun _ _ h => h.isPhrase_eq p) fun _ hc => hc.isPhrase_eq p

theorem head?_parts (h : Commented s s' r r') :
    Option.Rel (Commented s s') r.parts.head? r'.parts.head? := by
  rcases h.parts with ⟨hr, hr'⟩ | h
  · rw [hr, hr']
    exact .none
  · obtain ⟨a, b, as, bs, ha, hb, hab⟩ := h.head
    rw [ha, hb]
    exact .some hab

theorem getLast?_parts (h : Commented s s' r r') :
    Option.Rel (Commented s s') r.parts.getLast? r'.parts.getLast? := by
  rcases h.parts with ⟨hr, hr'⟩ | h
  · rw [hr, hr']
    exact .none
  · obtain ⟨a, b, ha, hb, hab⟩ := h.getLast?
    rw [ha, hb]
    exact .some hab

/-! ## Choices -/

/-- One step from a choice to what it comes to: both trees stay, since this is no choice or one with
several parts, or both go on with their only part, which has the same characters. -/
theorem chosen_cases (h : Commented s s' r r') (depth : Nat) :
    r.chosen (depth + 1) = r ∧ r'.chosen (depth + 1) = r' ∨
      ∃ c c', Commented s s' c c' ∧
        r.chosen (depth + 1) = c.chosen depth ∧ r'.chosen (depth + 1) = c'.chosen depth ∧
        s.chars r = s.chars c ∧ s'.chars r' = s'.chars c' := by
  have hchoice := h.isChoice_eq
  cases hr : r.isChoice with
  | false =>
    rw [hr] at hchoice
    left
    rw [Reading.chosen, Reading.chosen, hr, ← hchoice]
    exact ⟨rfl, rfl⟩
  | true =>
    rw [hr] at hchoice
    rw [Reading.chosen, Reading.chosen, hr, ← hchoice]
    cases h with
    | token => exact .inl ⟨rfl, rfl⟩
    | phrase _ _ hcs =>
      cases hcs with
      | one h => exact .inr ⟨_, _, h, rfl, rfl, rfl, rfl⟩
      | @more _ _ _ _ ds _ _ hs =>
        left
        obtain ⟨a, b, as, bs, rfl, rfl, -⟩ := hs.between.head
        cases ds with
        | nil => exact ⟨rfl, rfl⟩
        | cons => exact ⟨rfl, rfl⟩

theorem chosen (h : Commented s s' r r') (depth : Nat) :
    Commented s s' (r.chosen depth) (r'.chosen depth) := by
  induction depth generalizing r r' with
  | zero => exact h
  | succ depth ih =>
    rcases h.chosen_cases depth with ⟨hr, hr'⟩ | ⟨c, c', hc, hr, hr', -, -⟩
    · rw [hr, hr']
      exact h
    · rw [hr, hr']
      exact ih hc

theorem core (h : Commented s s' r r') : Commented s s' r.core r'.core := h.chosen 4

theorem chars_of_chosen_lt (h : Commented s s' r r') (depth : Nat)
    (hlt : (r.chosen depth).symbol < Grammar.tokenCount) : s.chars r = s'.chars r' := by
  induction depth generalizing r r' with
  | zero => exact h.chars_of_lt hlt
  | succ depth ih =>
    rcases h.chosen_cases depth with ⟨hr, -⟩ | ⟨c, c', hc, hr, -, hchars, hchars'⟩
    · rw [hr] at hlt
      exact h.chars_of_lt hlt
    · rw [hr] at hlt
      rw [hchars, hchars', ih hc hlt]

/-- **A choice that comes to a name** is written in the same characters. -/
theorem text_of_isName (h : Commented s s' r r') (hname : r.core.isName = true) :
    s.text r = s'.text r' :=
  congrArg String.ofList (h.chars_of_chosen_lt 4 (isName_lt hname))

/-- A token is written in the same characters. -/
theorem text_of_isToken (h : Commented s s' r r') {c : TokenClass} (hc : r.isToken c = true) :
    s.text r = s'.text r' := by
  refine congrArg String.ofList (h.chars_of_lt ?_)
  rw [eq_of_beq hc]
  exact TokenClass.code_lt c

/-- **The name that an import binds** is one token, so it is written in the same characters. -/
theorem text_of_importName (h : Commented s s' r r') (hname : r.isPhrase .importName = true) :
    s.text r = s'.text r' := by
  cases h with
  | token _ hchars => exact congrArg String.ofList hchars
  | phrase hp hfits hcs =>
    have hphrase := Symbol.add_eq_ofPhrase.mp (eq_of_beq hname)
    obtain ⟨t, ht, hsteps⟩ := Grammar.symbols_importName hp hphrase
    obtain ⟨c, rfl, hc⟩ := hfits.eq_singleton hsteps
    cases hcs with
    | one h => exact congrArg String.ofList (h.chars_of_lt (hc ▸ ht))
    | more _ _ hs => cases hs

end Grown

end RouteAtlas.Script
