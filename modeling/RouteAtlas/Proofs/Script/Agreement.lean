import RouteAtlas.Proofs.Script.Outline

/-!
# Comments do not change what is read off a tree

Each position that is looked at is found by the kind of a phrase, or as the first or the last part
of one, or among the parts that are no comments. So a tree with comments inserted gives the same
answers at every one of them:

- `Grown.importedNames_eq`, `Grown.madeBy_eq`, `Grown.claim?_eq`: what is written at the positions
  of an import, a declarator, a property;
- `Grown.hidesTypeof`: a comment that hides the type of a property stays;
- `Grown.importsOf_eq`, `Grown.makesOf_eq`, `Grown.membersOf`: what a statement declares.
-/

namespace RouteAtlas.Script

/-! ## Related options and lists -/

section Related

variable {α β : Type} {R : α → α → Prop} {x y : Option α}

theorem rel_mono {P : α → α → Prop} (hRP : ∀ a b, R a b → P a b) (h : Option.Rel R x y) :
    Option.Rel P x y := by
  cases h with
  | none => exact .none
  | some hab => exact .some (hRP _ _ hab)

theorem rel_bind {P : β → β → Prop} {f g : α → Option β}
    (hfg : ∀ a b, R a b → Option.Rel P (f a) (g b)) (h : Option.Rel R x y) :
    Option.Rel P (x.bind f) (y.bind g) := by
  cases h with
  | none => exact .none
  | some hab => exact hfg _ _ hab

theorem bind_eq_of_rel {f g : α → Option β} (hfg : ∀ a b, R a b → f a = g b)
    (h : Option.Rel R x y) : x.bind f = y.bind g := by
  cases h with
  | none => rfl
  | some hab => exact hfg _ _ hab

theorem map_eq_of_rel {f g : α → β} (hfg : ∀ a b, x = some a → R a b → f a = g b)
    (h : Option.Rel R x y) : x.map f = y.map g := by
  cases h with
  | none => rfl
  | some hab => exact congrArg some (hfg _ _ rfl hab)

/-- Lists whose elements are related one by one, and what is made of each. -/
theorem filterMap_eq_of_forall₂ {f g : α → Option β} {as bs : List α}
    (hfg : ∀ a b, a ∈ as → R a b → f a = g b) (h : List.Forall₂ R as bs) :
    as.filterMap f = bs.filterMap g := by
  induction h with
  | nil => rfl
  | @cons a b as bs hab _ ih =>
    rw [List.filterMap_cons, List.filterMap_cons, hfg a b (.head _) hab,
      ih fun a b ha => hfg a b (.tail _ ha)]

theorem flatMap_eq_of_forall₂ {f g : α → List β} {as bs : List α}
    (hfg : ∀ a b, R a b → f a = g b) (h : List.Forall₂ R as bs) :
    as.flatMap f = bs.flatMap g := by
  induction h with
  | nil => rfl
  | cons hab _ ih => rw [List.flatMap_cons, List.flatMap_cons, hfg _ _ hab, ih]

end Related

namespace Grown

variable {s s' : Source} {r r' : Reading}

/-! ## Names and literals -/

theorem phrases (h : Commented s s' r r') (p : Phrase) :
    List.Forall₂ (Commented s s') (r.phrases p) (r'.phrases p) := by
  refine h.sprinkled_parts.filter ?_ ?_
  · intro a b hab
    rw [hab.isAside_eq, hab.isPhrase_eq]
  · intro c hc
    rw [hc.1]
    rfl

/-- The pieces of a part of a literal are characters of a token. -/
theorem pieces_eq (h : Commented s s' r r') : s.pieces r = s'.pieces r' := by
  have hchars : ∀ c, r.isToken c = true → s.chars r = s'.chars r' := by
    intro c hc
    refine h.chars_of_lt ?_
    rw [eq_of_beq hc]
    exact TokenClass.code_lt c
  rw [Source.pieces, Source.pieces, ← h.isToken_eq, ← h.isToken_eq, ← h.isToken_eq]
  by_cases hescape : r.isToken .escape = true
  · rw [if_pos hescape, if_pos hescape, hchars _ hescape]
  · rw [if_neg hescape, if_neg hescape]
    by_cases htext : (r.isToken .singleText || r.isToken .doubleText) = true
    · rw [if_pos htext, if_pos htext]
      rcases Bool.or_eq_true_iff.mp htext with htext | htext
      · rw [hchars _ htext]
      · rw [hchars _ htext]
    · rw [if_neg htext, if_neg htext]

/-- **The text of a literal** has no comments in it. -/
theorem literal_value_eq (h : Commented s s' r r') : (s.literal r).value = (s'.literal r').value := by
  have hpieces : r.parts.flatMap s.pieces = r'.parts.flatMap s'.pieces := by
    refine h.sprinkled_parts.flatMap_eq (fun _ _ hab => hab.pieces_eq) ?_
    intro c hc
    have hescape : c.isToken .escape = false := hc.isToken_eq (by decide) (by decide)
    have hsingle : c.isToken .singleText = false := hc.isToken_eq (by decide) (by decide)
    have hdouble : c.isToken .doubleText = false := hc.isToken_eq (by decide) (by decide)
    rw [Source.pieces, hescape, hsingle, hdouble]
    rfl
  exact congrArg (List.flatMap Piece.value) hpieces

theorem plainName?_eq (h : Commented s s' r r') : s.plainName? r = s'.plainName? r' := by
  rw [Source.plainName?, Source.plainName?, ← h.isToken_eq]
  by_cases hname : r.isToken .name = true
  · rw [if_pos hname, if_pos hname, h.text_of_isToken hname]
  · rw [if_neg hname, if_neg hname]

/-! ## Imports -/

theorem namedImports? (h : Commented s s' r r') :
    Option.Rel (Commented s s') r.namedImports? r'.namedImports? :=
  rel_bind (fun _ _ hab => hab.part? .namedImports) (h.part? .importClause)

theorem moduleText? (h : Commented s s' r r') :
    Option.Rel (Commented s s') r.moduleText? r'.moduleText? := by
  rw [Reading.moduleText?, Reading.moduleText?]
  have hclause := h.part? .fromClause
  generalize r.part? .fromClause = clause, r'.part? .fromClause = clause' at hclause
  cases hclause with
  | none => exact h.part? .string
  | some hc => exact hc.part? .string

/-- The last part of a specifier that is no comment is the name that it binds. -/
theorem isPhrase_boundName? (h : Commented s s' r r') (hr : r.isPhrase .importSpecifier = true)
    {b : Reading} (hb : r.boundName? = some b) : b.isPhrase .importName = true := by
  cases h with
  | token => cases hb
  | @phrase p w w' cs cs' hp hfits hcs =>
    have hphrase := Symbol.add_eq_ofPhrase.mp (eq_of_beq hr)
    obtain ⟨hlt, hlast⟩ := Grammar.symbols_importSpecifier hp hphrase
    rw [← hfits.steps] at hlt hlast
    have hparts : (Reading.ofChildren (Grammar.tokenCount + p.phrase) w cs).parts = cs := by
      refine Reading.spreadAll_of_lt ?_
      intro c hc
      cases haside : c.isAside with
      | true => exact .inl rfl
      | false =>
        refine .inr (hlt _ (List.mem_map_of_mem (List.mem_filter.mpr ⟨hc, ?_⟩)))
        rw [haside]
        rfl
    rw [Reading.boundName?, hparts] at hb
    rw [List.getLast?_map, hb, Option.map_some, Option.some.injEq] at hlast
    exact beq_iff_eq.mpr hlast

/-- **The name that a specifier binds.** -/
theorem text_boundName?_eq (h : Commented s s' r r') (hr : r.isPhrase .importSpecifier = true) :
    r.boundName?.map s.text = r'.boundName?.map s'.text := by
  have hfilter : List.Forall₂ (Commented s s') (r.parts.filter fun p => !p.isAside)
      (r'.parts.filter fun p => !p.isAside) := by
    refine h.sprinkled_parts.filter ?_ ?_
    · intro a b hab
      rw [hab.isAside_eq]
    · intro c hc
      rw [hc.1]
      rfl
  have hlast : Option.Rel (Commented s s') r.boundName? r'.boundName? := by
    rw [Reading.boundName?, Reading.boundName?, ← List.head?_reverse, ← List.head?_reverse]
    have hreverse := List.rel_reverse hfilter
    generalize (r.parts.filter fun p => !p.isAside).reverse = ps,
      (r'.parts.filter fun p => !p.isAside).reverse = ps' at hreverse
    cases hreverse with
    | nil => exact .none
    | cons hab _ => exact .some hab
  exact map_eq_of_rel (fun _ _ hb hbb' => hbb'.text_of_importName (h.isPhrase_boundName? hr hb)) hlast

/-- **What an import binds**, by its braces and its module text. -/
theorem importedNames_eq {named named' module module' : Option Reading}
    (hnamed : Option.Rel (Commented s s') named named')
    (hmodule : Option.Rel (Commented s s') module module') :
    s.importedNames named module = s'.importedNames named' module' := by
  cases hmodule with
  | none => rfl
  | @some m m' hm =>
    cases hnamed with
    | none => rfl
    | some hn =>
      refine filterMap_eq_of_forall₂ ?_ (hn.phrases .importSpecifier)
      intro q q' hq hqq'
      have hspecifier := (Bool.and_eq_true_iff.mp (List.mem_filter.mp hq).2).2
      have htext := congrArg (Option.map fun n => (n, (s.literal m).value))
        (hqq'.text_boundName?_eq hspecifier)
      rw [Option.map_map, Option.map_map] at htext
      rw [← hm.literal_value_eq]
      exact htext

/-! ## Variables -/

theorem objectName?_eq (h : Commented s s' r r') : s.objectName? r = s'.objectName? r' := by
  rw [Source.objectName?, Source.objectName?, ← h.core.isName_eq]
  split
  · rename_i hname
    exact congrArg some (h.text_of_isName hname)
  · rfl

/-- A method of a plain name. -/
theorem methodOf?_eq (h : Commented s s' r r') : s.methodOf? r = s'.methodOf? r' := by
  have hobject : r.object?.bind s.objectName? = r'.object?.bind s'.objectName? := by
    rw [Reading.object?, Reading.object?, ← h.isPhrase_eq]
    split
    · exact bind_eq_of_rel (fun _ _ hab => hab.objectName?_eq) h.head?_parts
    · rfl
  have hproperty : r.property?.bind s.plainName? = r'.property?.bind s'.plainName? := by
    rw [Reading.property?, Reading.property?, ← h.isPhrase_eq]
    split
    · exact bind_eq_of_rel (fun _ _ hab => hab.plainName?_eq) h.getLast?_parts
    · rfl
  rw [Source.methodOf?.eq_def, Source.methodOf?.eq_def, hobject, hproperty]

theorem callee? (h : Commented s s' r r') :
    Option.Rel (Commented s s') r.callee? r'.callee? := by
  rw [Reading.callee?, Reading.callee?, ← h.core.isPhrase_eq]
  split
  · exact h.core.head?_parts
  · exact .none

theorem value? (h : Commented s s' r r') :
    Option.Rel (Commented s s') r.value? r'.value? :=
  rel_bind (fun _ _ hab => hab.getLast?_parts) (h.part? .initializer)

/-- **What a declarator makes**, by its target and the callee in its value. -/
theorem madeBy_eq {d d' : Reading}
    (htarget : Option.Rel (Commented s s') d.parts.head? d'.parts.head?)
    (hvalue : Option.Rel (fun e e' => Option.Rel (Commented s s') e.callee? e'.callee?)
      d.value? d'.value?) (method : String) :
    s.madeBy method d = s'.madeBy method d' := by
  have hname : d.parts.head?.bind s.plainName? = d'.parts.head?.bind s'.plainName? :=
    bind_eq_of_rel (fun _ _ hab => hab.plainName?_eq) htarget
  have hcallee : Option.Rel (Commented s s') (d.value?.bind (·.callee?))
      (d'.value?.bind (·.callee?)) := rel_bind (fun _ _ hab => hab) hvalue
  have hcall : ((d.value?.bind (·.callee?)).bind fun f => s.methodOf? f.core) =
      (d'.value?.bind (·.callee?)).bind fun f => s'.methodOf? f.core :=
    bind_eq_of_rel (fun _ _ hab => hab.core.methodOf?_eq) hcallee
  rw [Source.madeBy.eq_def, Source.madeBy.eq_def, hname, hcall]

/-! ## Properties -/

theorem type? (h : Commented s s' r r') : Option.Rel (Commented s s') r.type? r'.type? :=
  rel_bind (fun _ _ hab => hab.getLast?_parts) (h.part? .typeAscription)

theorem queriedName?_eq (h : Commented s s' r r') : s.queriedName? r = s'.queriedName? r' := by
  rw [Source.queriedName?, Source.queriedName?, ← h.core.isPhrase_eq]
  split
  · exact bind_eq_of_rel (fun _ _ hab => hab.plainName?_eq) h.core.getLast?_parts
  · rfl

/-- **What a property says** of its route, where no comment hides it. -/
theorem claim?_eq (h : Commented s s' r r') : s.claim? r = s'.claim? r' := by
  have hname : r.type?.bind s.queriedName? = r'.type?.bind s'.queriedName? :=
    bind_eq_of_rel (fun _ _ hab => hab.queriedName?_eq) h.type?
  have hkey : Option.Rel (Commented s s') r.quotedKey? r'.quotedKey? :=
    rel_bind (fun _ _ hab => hab.part? .string) (h.part? .propertyName)
  rw [Source.claim?.eq_def, Source.claim?.eq_def, hname]
  generalize r.quotedKey? = key, r'.quotedKey? = key' at hkey
  cases hkey with
  | none => rfl
  | some hkk' =>
    cases r'.type?.bind s'.queriedName? with
    | none => rfl
    | some n => exact congrArg (fun text => some (text, n)) hkk'.literal_value_eq

theorem any_isAside (h : Commented s s' r r') (ha : r.parts.any Reading.isAside = true) :
    r'.parts.any Reading.isAside = true := by
  refine h.sprinkled_parts.any ?_ ha
  intro a b hab haside
  rw [← hab.isAside_eq]
  exact haside

/-- A comment that hides the type of a property goes on hiding it. -/
theorem hidesTypeof (h : Commented s s' r r') (hr : r.hidesTypeof = true) :
    r'.hidesTypeof = true := by
  rw [Reading.hidesTypeof, Bool.or_eq_true] at hr ⊢
  have hascription := h.part? .typeAscription
  have htype := h.type?
  generalize r.part? .typeAscription = a, r'.part? .typeAscription = a' at hr hascription ⊢
  generalize r.type? = t, r'.type? = t' at hr htype ⊢
  rcases hr with hr | hr
  · left
    cases hascription with
    | none => exact hr
    | some ha => exact ha.any_isAside hr
  · right
    cases htype with
    | none => exact hr
    | some ht =>
      rw [Option.any_some, Bool.and_eq_true] at hr ⊢
      rw [← ht.core.isPhrase_eq]
      exact hr.imp_right ht.core.any_isAside

/-! ## Statements -/

theorem unwrapped (h : Commented s s' r r') : Commented s s' r.unwrapped r'.unwrapped := by
  rw [Reading.unwrapped.eq_def, Reading.unwrapped.eq_def, ← h.core.isPhrase_eq]
  cases r.core.isPhrase .exportStatement with
  | false => exact h.core
  | true =>
    have hpart := h.core.part? .declaration
    rw [if_pos rfl, if_pos rfl]
    generalize r.core.part? .declaration = d, r'.core.part? .declaration = d' at hpart
    cases hpart with
    | none => exact h.core
    | some hd => exact hd.core

theorem importsOf_eq (h : Commented s s' r r') : s.importsOf r = s'.importsOf r' := by
  rw [Source.importsOf, Source.importsOf, ← h.isPhrase_eq]
  split
  · exact importedNames_eq h.namedImports? h.moduleText?
  · rfl

theorem makesOf_eq (h : Commented s s' r r') (method : String) :
    s.makesOf method r = s'.makesOf method r' := by
  rw [Source.makesOf, Source.makesOf, ← h.isPhrase_eq, ← h.isPhrase_eq]
  split
  · refine flatMap_eq_of_forall₂ ?_ (h.phrases .variableDeclarator)
    intro d d' hd
    refine madeBy_eq hd.head?_parts ?_ method
    have hvalue := hd.value?
    generalize d.value? = v, d'.value? = v' at hvalue ⊢
    cases hvalue with
    | none => exact .none
    | some hv => exact .some hv.callee?
  · rfl

theorem text_interfaceName?_eq (h : Commented s s' r r') :
    r.interfaceName?.map s.text = r'.interfaceName?.map s'.text := by
  have hname : Option.Rel (Commented s s') r.interfaceName? r'.interfaceName? := by
    refine h.sprinkled_parts.find? (fun _ _ hab => hab.isToken_eq .name) ?_
    exact fun _ hc => hc.isToken_eq (by decide) (by decide)
  refine map_eq_of_rel ?_ hname
  intro a b ha hab
  have htoken := List.find?_some ha
  exact hab.text_of_isToken htoken

/-- The members of the path interface correspond. -/
theorem membersOf (h : Commented s s' r r') :
    List.Forall₂ (Commented s s') (s.membersOf r) (s'.membersOf r') := by
  rw [Source.membersOf, Source.membersOf, ← h.isPhrase_eq, ← h.text_interfaceName?_eq]
  split
  · have hbody := h.part? .objectType
    rw [Reading.properties, Reading.properties]
    generalize r.part? .objectType = b, r'.part? .objectType = b' at hbody
    cases hbody with
    | none => exact .nil
    | some hb => exact hb.phrases .propertySignature
  · exact .nil

end Grown

end RouteAtlas.Script
