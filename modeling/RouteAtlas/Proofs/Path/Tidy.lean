import RouteAtlas.Path.Display
import RouteAtlas.Proofs.Text.Blank
import RouteAtlas.Proofs.Text.Scalar

/-!
# What tidying leaves of a path text

A path text is tidied for display by five steps, each made once: blanks, backslashes, `./` in front,
slashes in front, doubled slashes. A later step may bring out again what an earlier one has taken
off:

- `Text.squeeze`: the two steps that make one slash of a run, and what they keep and lose, by
  induction over the text;
- `Text.lead`, `Text.unled`: what the steps at the front take off and what they leave, and
  `exists_eq_unled`, `unled_lead_append`: the one determines the other;
- `Text.IsTidy`: the form that the steps are there for, and `tidyPath_eq_self_iff`: **the texts
  that are left as they are** are the tidy ones without blanks around them;
- `Text.HidesHere`, `Text.HidesBlank`: the texts in which something is brought out, and
  `tidyPath_outcome`: **these are the only ones** that do not become tidy, or that change again.

One slash before `./` is enough to keep a text from becoming tidy: `tidyPath_hiddenHere`.
-/

namespace RouteAtlas

namespace Text

variable {c : Char} {after : Bool} {t : Text} {p : CodePoint}

/-! ## Runs of one character -/

/-- Every run of the character `c` becomes one slash; `after` says that the last character was one.
-/
def squeeze (c : Char) : (after : Bool) → Text → Text
  | _, [] => []
  | after, p :: t =>
    if p.is c then (if after then squeeze c true t else .ofChar '/' :: squeeze c true t)
    else p :: squeeze c false t

theorem squeeze_cons (c : Char) (after : Bool) (p : CodePoint) (t : Text) :
    squeeze c after (p :: t) =
      if p.is c then (if after then squeeze c true t else .ofChar '/' :: squeeze c true t)
      else p :: squeeze c false t := rfl

theorem slashRuns_eq_squeeze (after : Bool) (t : Text) :
    slashRuns after t = squeeze '\\' after t := by
  induction t generalizing after with
  | nil => rfl
  | cons p t ih => rw [slashRuns, squeeze_cons, ih, ih]

theorem collapseSlashes_eq_squeeze (after : Bool) (t : Text) :
    collapseSlashes after t = squeeze '/' after t := by
  induction t generalizing after with
  | nil => rfl
  | cons p t ih =>
    rw [collapseSlashes, squeeze_cons, ih, ih]
    split
    next hp => rw [CodePoint.eq_ofChar hp]
    next => rfl

theorem length_squeeze_le (after : Bool) (t : Text) : (squeeze c after t).length ≤ t.length := by
  induction t generalizing after with
  | nil => exact Nat.le_refl 0
  | cons p t ih =>
    have htrue := ih true
    have hfalse := ih false
    rw [squeeze_cons]
    split
    · split
      · exact Nat.le_succ_of_le htrue
      · exact Nat.succ_le_succ htrue
    · exact Nat.succ_le_succ hfalse

/-- What is left is a slash, or it stood there and is no `c`. -/
theorem mem_squeeze (h : p ∈ squeeze c after t) : p = .ofChar '/' ∨ p ∈ t ∧ p.is c = false := by
  induction t generalizing after with
  | nil => cases h
  | cons q t ih =>
    have hrest : ∀ {after}, p ∈ squeeze c after t → p = .ofChar '/' ∨ p ∈ q :: t ∧ p.is c = false :=
      fun h => (ih h).imp_right fun ⟨hmem, hp⟩ => ⟨List.mem_cons_of_mem q hmem, hp⟩
    rw [squeeze_cons] at h
    split at h
    next =>
      split at h
      · exact hrest h
      · rcases List.mem_cons.mp h with rfl | h
        · exact .inl rfl
        · exact hrest h
    next hq =>
      rcases List.mem_cons.mp h with rfl | h
      · exact .inr ⟨List.mem_cons_self, Bool.eq_false_iff.mpr hq⟩
      · exact hrest h

theorem squeeze_of_forall (h : ∀ p ∈ t, p.is c = false) : squeeze c after t = t := by
  induction t generalizing after with
  | nil => rfl
  | cons p t ih =>
    obtain ⟨hp, ht⟩ := List.forall_mem_cons.mp h
    rw [squeeze, hp, if_neg Bool.false_ne_true, ih ht]

theorem head?_squeeze (t : Text) :
    (squeeze c false t).head? = t.head?.map fun p => if p.is c then .ofChar '/' else p := by
  cases t with
  | nil => rfl
  | cons p t =>
    rw [squeeze_cons]
    split
    next hp => simp [hp]
    next hp => simp [hp]

/-- Behind a run stands something else. -/
theorem head?_squeeze_true (h : p ∈ (squeeze c true t).head?) : p.is c = false := by
  induction t with
  | nil => cases h
  | cons q t ih =>
    rw [squeeze_cons] at h
    split at h
    next => exact ih h
    next hq =>
      cases h
      exact Bool.eq_false_iff.mpr hq

/-- No blank comes to the end of a text. -/
theorem getLast?_squeeze (h : ∀ p ∈ t.getLast?, p.isBlank = false) :
    ∀ p ∈ (squeeze c after t).getLast?, p.isBlank = false := by
  have hslash : (CodePoint.ofChar '/').isBlank = false := by decide
  have hcons : ∀ {q l}, q.isBlank = false → (∀ p ∈ l.getLast?, p.isBlank = false) →
      ∀ p ∈ (q :: l : Text).getLast?, p.isBlank = false := by
    intro q l hq hl p hp
    cases l with
    | nil =>
      cases hp
      exact hq
    | cons r l => exact hl p hp
  induction t generalizing after with
  | nil => exact h
  | cons p t ih =>
    cases t with
    | nil =>
      rw [squeeze_cons]
      split
      · split
        · exact fun _ hp => nomatch hp
        · exact hcons hslash fun _ hp => nomatch hp
      · exact h
    | cons q t =>
      have hrest : ∀ p ∈ (q :: t).getLast?, p.isBlank = false := h
      rw [squeeze_cons]
      split
      · split
        · exact ih hrest
        · exact hcons hslash (ih hrest)
      · -- the first character may be a blank, but it is not the last
        have hhead := head?_squeeze (c := c) (q :: t)
        have hlast : ∀ r ∈ (squeeze c false (q :: t)).getLast?, r.isBlank = false := ih hrest
        cases hl : squeeze c false (q :: t) with
        | nil =>
          rw [hl] at hhead
          cases hhead
        | cons r l =>
          rw [hl] at hlast
          exact hlast

/-- Slashes that are squeezed do not stand side by side. -/
theorem not_doubleSlash_squeeze (after : Bool) (t : Text) :
    ¬ofString "//" <:+: squeeze '/' after t := by
  induction t generalizing after with
  | nil =>
    show ¬ofString "//" <:+: []
    decide
  | cons p t ih =>
    rw [squeeze_cons]
    split
    next =>
      split
      · exact ih true
      · rw [List.infix_cons_iff, not_or]
        refine ⟨?_, ih true⟩
        rintro ⟨rest, hrest⟩
        have hnext : CodePoint.ofChar '/' ∈ (squeeze '/' true t).head? :=
          (congrArg List.head? (List.cons.inj hrest).2).symm
        exact absurd (head?_squeeze_true hnext) (by decide)
    next hp =>
      rw [List.infix_cons_iff, not_or]
      refine ⟨?_, ih false⟩
      rintro ⟨rest, hrest⟩
      exact hp (congrArg (CodePoint.is · '/') (List.cons.inj hrest).1.symm)

theorem squeeze_of_not_doubleSlash (after : Bool) (h : ¬ofString "//" <:+: t)
    (hafter : after = true → ¬ofString "/" <+: t) : squeeze '/' after t = t := by
  induction t generalizing after with
  | nil => rfl
  | cons p t ih =>
    rw [List.infix_cons_iff, not_or] at h
    rw [squeeze_cons]
    split
    next hp =>
      rw [CodePoint.eq_ofChar hp] at h hafter ⊢
      cases after with
      | true => exact absurd ⟨t, rfl⟩ (hafter rfl)
      | false =>
        rw [if_neg Bool.false_ne_true, ih true h.2]
        rintro - ⟨rest, hrest⟩
        exact h.1 ⟨rest, congrArg (CodePoint.ofChar '/' :: ·) hrest⟩
    next => rw [ih false h.2 fun hfalse => nomatch hfalse]

/-! ## What is taken off the front -/

theorem slash_isPrefix_iff : ofString "/" <+: t ↔ t.head? = some (.ofChar '/') := by
  rw [List.head?_eq_some_iff]
  constructor
  · rintro ⟨rest, rfl⟩
    exact ⟨rest, rfl⟩
  · rintro ⟨rest, rfl⟩
    exact ⟨rest, rfl⟩

theorem dropHere_of_not (h : ¬ofString "./" <+: t) : dropHere t = t := by
  fun_cases dropHere t with
  | case1 p q t hpq =>
    rw [Bool.and_eq_true] at hpq
    rw [CodePoint.eq_ofChar hpq.1, CodePoint.eq_ofChar hpq.2] at h
    exact absurd ⟨t, rfl⟩ h
  | case2 => rfl
  | case3 => rfl

/-- A text is some `./` and what is left, which has none in front. -/
theorem exists_eq_dropHere (t : Text) :
    ∃ k, t = (List.replicate k (ofString "./")).flatten ++ dropHere t ∧
      ¬ofString "./" <+: dropHere t := by
  induction hn : t.length using Nat.strong_induction_on generalizing t with
  | _ n ih =>
    by_cases hhere : ofString "./" <+: t
    · -- `dropHere` goes on with the rest, which is shorter by two characters
      obtain ⟨rest, rfl⟩ := hhere
      have hshorter : rest.length < n := by
        rw [← hn]
        exact Nat.lt_add_of_pos_right (Nat.succ_pos 1)
      obtain ⟨k, hk, hstop⟩ := ih rest.length hshorter rest rfl
      exact ⟨k + 1, congrArg (ofString "./" ++ ·) hk, hstop⟩
    · rw [dropHere_of_not hhere]
      exact ⟨0, rfl, hhere⟩

/-- What is taken off the front of a text: first `./`, any number of times, and then slashes. -/
def lead (k m : Nat) : Text :=
  (List.replicate k (ofString "./")).flatten ++ List.replicate m (.ofChar '/')

/-- What is left of a text without `./` and slashes in front. -/
def unled (t : Text) : Text := (dropHere t).dropWhile (·.is '/')

theorem dropHere_replicate_append (k : Nat) (rest : Text) :
    dropHere ((List.replicate k (ofString "./")).flatten ++ rest) = dropHere rest := by
  induction k with
  | zero => rfl
  | succ k ih => exact ih

theorem not_slash_unled (t : Text) : ¬ofString "/" <+: t.unled := by
  intro h
  have hhead := List.head?_dropWhile_not (·.is '/') (dropHere t)
  rw [unled, slash_isPrefix_iff] at h
  rw [h] at hhead
  exact absurd hhead (by decide)

/-- A text is what is taken off its front and what is left. -/
theorem exists_eq_unled (t : Text) :
    ∃ k m, t = lead k m ++ t.unled ∧ (m = 0 → ¬ofString "./" <+: t.unled) := by
  obtain ⟨k, hk, hstop⟩ := exists_eq_dropHere t
  have hslashes : (dropHere t).takeWhile (·.is '/') =
      List.replicate ((dropHere t).takeWhile (·.is '/')).length (.ofChar '/') :=
    List.eq_replicate_of_mem fun p hp =>
      CodePoint.eq_ofChar (List.mem_takeWhile_imp (p := fun q : CodePoint => q.is '/') hp)
  have hsplit := List.takeWhile_append_dropWhile (p := (·.is '/')) (l := dropHere t)
  refine ⟨k, ((dropHere t).takeWhile (·.is '/')).length, ?_, fun hzero => ?_⟩
  · rw [lead, ← hslashes, List.append_assoc, unled, hsplit, ← hk]
  · -- no slash was taken off, and `dropHere` leaves no further `./`
    rw [List.length_eq_zero_iff.mp hzero, List.nil_append] at hsplit
    rw [unled, hsplit]
    exact hstop

/-- Where nothing more could be taken off, a text is what is left behind any front. -/
theorem unled_lead_append {k m : Nat} (hslash : ¬ofString "/" <+: t)
    (hhere : 0 < m ∨ ¬ofString "./" <+: t) : unled (lead k m ++ t) = t := by
  have hstop : ¬ofString "./" <+: List.replicate m (.ofChar '/') ++ t := by
    cases m with
    | zero => exact hhere.resolve_left (Nat.lt_irrefl 0)
    | succ m =>
      rintro ⟨rest, hrest⟩
      exact absurd (List.cons.inj hrest).1 (by decide)
  have hrest : t.dropWhile (·.is '/') = t := by
    cases t with
    | nil => rfl
    | cons p t =>
      rw [List.dropWhile_cons, if_neg]
      intro hp
      exact hslash ⟨t, by rw [CodePoint.eq_ofChar hp]; rfl⟩
  rw [unled, lead, List.append_assoc, dropHere_replicate_append, dropHere_of_not hstop,
    List.dropWhile_append_of_pos, hrest]
  intro p hp
  rw [List.eq_of_mem_replicate hp]
  rfl

/-! ## Tidy texts -/

/-- The text has slashes only, none of them doubled, and neither a slash nor `./` in front. -/
structure IsTidy (t : Text) : Prop where
  noBackslash : ∀ p ∈ t, p.is '\\' = false
  noDoubleSlash : ¬ofString "//" <:+: t
  noSlashFirst : ¬ofString "/" <+: t
  noHereFirst : ¬ofString "./" <+: t

theorem tidyPath_eq (t : Text) :
    t.tidyPath = squeeze '/' false (squeeze '\\' false t.strip).unled := by
  rw [tidyPath, collapseSlashes_eq_squeeze, slashRuns_eq_squeeze]
  rfl

/-- Squeezing slashes leaves the first character. -/
theorem head?_squeeze_slash (t : Text) : (squeeze '/' false t).head? = t.head? := by
  rw [head?_squeeze]
  cases t with
  | nil => rfl
  | cons p t =>
    show some (if p.is '/' then .ofChar '/' else p) = some p
    split
    next hp => rw [CodePoint.eq_ofChar hp]
    next => rfl

theorem slash_isPrefix_squeeze : ofString "/" <+: squeeze '/' false t ↔ ofString "/" <+: t := by
  rw [slash_isPrefix_iff, slash_isPrefix_iff, head?_squeeze_slash]

theorem here_isPrefix_squeeze : ofString "./" <+: squeeze '/' false t ↔ ofString "./" <+: t := by
  constructor
  · rintro ⟨rest, hrest⟩
    cases t with
    | nil => cases hrest
    | cons p t =>
      rw [squeeze_cons] at hrest
      split at hrest
      next => exact absurd (List.cons.inj hrest).1 (by decide)
      next =>
        obtain ⟨hp, hnext⟩ := List.cons.inj hrest
        obtain ⟨rest', rfl⟩ := slash_isPrefix_squeeze.mp ⟨rest, hnext⟩
        exact ⟨rest', by rw [← hp]; rfl⟩
  · rintro ⟨rest, rfl⟩
    exact ⟨_, rfl⟩

theorem unled_suffix (t : Text) : t.unled <:+ t := by
  obtain ⟨k, m, hlead, -⟩ := exists_eq_unled t
  exact ⟨_, hlead.symm⟩

theorem noBackslash_tidyPath (t : Text) : ∀ p ∈ t.tidyPath, p.is '\\' = false := by
  intro p hp
  rw [tidyPath_eq] at hp
  rcases mem_squeeze hp with rfl | ⟨hmem, -⟩
  · decide
  · rcases mem_squeeze ((unled_suffix _).subset hmem) with rfl | ⟨-, hp⟩
    · decide
    · exact hp

theorem noDoubleSlash_tidyPath (t : Text) : ¬ofString "//" <:+: t.tidyPath := by
  rw [tidyPath_eq]
  exact not_doubleSlash_squeeze _ _

theorem noSlashFirst_tidyPath (t : Text) : ¬ofString "/" <+: t.tidyPath := by
  rw [tidyPath_eq, slash_isPrefix_squeeze]
  exact not_slash_unled _

/-- No step makes a text longer. -/
theorem length_tidyPath_le (t : Text) :
    t.tidyPath.length ≤ (squeeze '\\' false t.strip).unled.length ∧
      (squeeze '\\' false t.strip).unled.length ≤ t.strip.length := by
  rw [tidyPath_eq]
  exact ⟨length_squeeze_le _ _,
    (unled_suffix _).length_le.trans (length_squeeze_le _ _)⟩

/-- **The texts that are left as they are** are the tidy ones without blanks around them. -/
theorem tidyPath_eq_self_iff : t.tidyPath = t ↔ t.IsTidy ∧ t.Trimmed := by
  constructor
  · intro h
    -- no step can make the text shorter, and so none does anything
    obtain ⟨hunled, hstrip⟩ := length_tidyPath_le t
    rw [h] at hunled
    have hstrip : t.strip = t :=
      (strip_sublist t).eq_of_length_le (hunled.trans hstrip)
    have hback := noBackslash_tidyPath t
    rw [h] at hback
    rw [hstrip, squeeze_of_forall hback] at hunled
    have hunled : t.unled = t := (unled_suffix t).eq_of_length_le hunled
    obtain ⟨k, m, hlead, hhere⟩ := exists_eq_unled t
    rw [hunled] at hlead hhere
    have hnone : m = 0 := by
      have hlength := congrArg List.length hlead
      rw [List.length_append, lead, List.length_append, List.length_replicate] at hlength
      omega
    refine ⟨⟨hback, ?_, ?_, hhere hnone⟩, hstrip ▸ trimmed_strip t⟩
    · rw [← h]
      exact noDoubleSlash_tidyPath t
    · rw [← h]
      exact noSlashFirst_tidyPath t
  · rintro ⟨htidy, htrimmed⟩
    have hunled : t.unled = t :=
      unled_lead_append (k := 0) (m := 0) htidy.noSlashFirst (.inr htidy.noHereFirst)
    rw [tidyPath_eq, htrimmed.strip_eq, squeeze_of_forall htidy.noBackslash, hunled,
      squeeze_of_not_doubleSlash false htidy.noDoubleSlash fun hfalse => nomatch hfalse]

/-! ## What one pass leaves -/

/-- Behind `./`, any number of times, and at least one slash, another `./` is hidden. -/
def HidesHere (t : Text) : Prop :=
  ∃ k m rest, 0 < m ∧ slashRuns false t.strip = lead k m ++ (ofString "./" ++ rest)

/-- Behind `./` and slashes a blank is hidden. -/
def HidesBlank (t : Text) : Prop :=
  ∃ k m p rest, p.isBlank = true ∧ slashRuns false t.strip = lead k m ++ p :: rest

theorem hidesHere_iff : t.HidesHere ↔ ofString "./" <+: t.tidyPath := by
  rw [tidyPath_eq, here_isPrefix_squeeze, HidesHere, slashRuns_eq_squeeze]
  constructor
  · rintro ⟨k, m, rest, hm, hlead⟩
    have hslash : ¬ofString "/" <+: ofString "./" ++ rest :=
      fun ⟨rest', h⟩ => absurd (List.cons.inj h).1 (by decide)
    rw [hlead, unled_lead_append hslash (.inl hm)]
    exact List.prefix_append _ rest
  · rintro ⟨rest, hrest⟩
    obtain ⟨k, m, hlead, hnone⟩ := exists_eq_unled (squeeze '\\' false t.strip)
    refine ⟨k, m, rest, Nat.pos_of_ne_zero fun hm => hnone hm ⟨rest, hrest⟩, ?_⟩
    rw [hrest]
    exact hlead

theorem hidesBlank_iff : t.HidesBlank ↔ ∃ p ∈ t.tidyPath.head?, p.isBlank = true := by
  rw [tidyPath_eq, head?_squeeze_slash, HidesBlank, slashRuns_eq_squeeze]
  constructor
  · rintro ⟨k, m, p, rest, hp, hlead⟩
    -- a blank is neither a slash nor a point, so nothing is taken off in front of it
    have hfirst : ∀ c : Char, (CodePoint.ofChar c).isBlank = false → .ofChar c ≠ p := by
      rintro c hc rfl
      exact Bool.false_ne_true (hc.symm.trans hp)
    have hslash : ¬ofString "/" <+: p :: rest :=
      fun ⟨rest', h⟩ => hfirst '/' (by decide) (List.cons.inj h).1
    have hhere : ¬ofString "./" <+: p :: rest :=
      fun ⟨rest', h⟩ => hfirst '.' (by decide) (List.cons.inj h).1
    rw [hlead, unled_lead_append hslash (.inr hhere)]
    exact ⟨p, rfl, hp⟩
  · rintro ⟨p, hhead, hp⟩
    obtain ⟨k, m, hlead, -⟩ := exists_eq_unled (squeeze '\\' false t.strip)
    obtain ⟨rest, hrest⟩ := List.head?_eq_some_iff.mp hhead
    rw [hrest] at hlead
    exact ⟨k, m, p, rest, hp, hlead⟩

/-- No blank comes to the end when a text is tidied. -/
theorem getLast?_tidyPath (t : Text) : ∀ p ∈ t.tidyPath.getLast?, p.isBlank = false := by
  rw [tidyPath_eq]
  refine getLast?_squeeze fun p hp => ?_
  obtain ⟨k, m, hlead, -⟩ := exists_eq_unled (squeeze '\\' false t.strip)
  have hlast : (squeeze '\\' false t.strip).getLast? = some p := by
    rw [hlead, List.getLast?_append, hp]
    rfl
  exact getLast?_squeeze (trimmed_strip t).last p hlast

/-- **What one pass leaves**: slashes only, none of them doubled, and none in front. The text is
tidy unless the pass uncovers a `./`, and it is left as it is by another pass unless the pass
uncovers a `./` or a blank. -/
theorem tidyPath_outcome (t : Text) :
    (∀ p ∈ t.tidyPath, p.is '\\' = false) ∧ ¬ofString "//" <:+: t.tidyPath ∧
      ¬ofString "/" <+: t.tidyPath ∧ (ofString "./" <+: t.tidyPath ↔ t.HidesHere) ∧
      (t.tidyPath.tidyPath = t.tidyPath ↔ ¬t.HidesHere ∧ ¬t.HidesBlank) := by
  refine ⟨noBackslash_tidyPath t, noDoubleSlash_tidyPath t, noSlashFirst_tidyPath t,
    hidesHere_iff.symm, ?_⟩
  rw [tidyPath_eq_self_iff, hidesHere_iff, hidesBlank_iff]
  constructor
  · rintro ⟨htidy, htrimmed⟩
    refine ⟨htidy.noHereFirst, ?_⟩
    rintro ⟨p, hhead, hp⟩
    exact Bool.false_ne_true ((htrimmed.head p hhead).symm.trans hp)
  · rintro ⟨hhere, hblank⟩
    refine ⟨⟨noBackslash_tidyPath t, noDoubleSlash_tidyPath t, noSlashFirst_tidyPath t, hhere⟩,
      fun p hp => ?_, getLast?_tidyPath t⟩
    exact Bool.eq_false_iff.mpr fun hblank' => hblank ⟨p, hp, hblank'⟩

/-- A slash hides `./` from the pass that should take both off. -/
theorem tidyPath_hiddenHere :
    ofString "./" <+: (ofString "/./x").tidyPath ∧
      (ofString "/./x").tidyPath.tidyPath ≠ (ofString "/./x").tidyPath := by
  decide

end Text

end RouteAtlas
