import RouteAtlas.Proofs.Files.Lawful
import RouteAtlas.Proofs.Path.Tidy

/-!
# A path that is shown can be found again

A path below a base is shown by the parts that it has in addition, and tidying these for display
may change what they say. It does not where they hold no backslash and no blank around them:

- `Path.display_below`, `Path.display_elsewhere`: what is shown of a path below a base, and of any
  other, with the two told apart by their parts and not by their texts;
- `Text.doubleSlash_splitOn`: in the pieces of a text one sees where slashes stand side by side, by
  induction over what stands before them;
- `Text.tidyPath_join_iff`: parts that are joined are left as they are by tidying **exactly** if
  they hold no backslash and no blanks around them;
- `Path.display_faithful`: such a path is found again below the base, and no other is shown alike.
-/

namespace RouteAtlas

namespace Text

variable {t : Text} {ts : List Text}

/-! ## Parts that are joined -/

/-- The first piece of a text that starts with a slash is empty. -/
theorem slash_splitOn (h : ofString "/" <+: t) : [] ∈ splitOn '/' t := by
  obtain ⟨rest, rfl⟩ := h
  exact List.mem_cons_self

/-- The first piece of a text that starts with `./` is a point. -/
theorem here_splitOn (h : ofString "./" <+: t) : ofString "." ∈ splitOn '/' t := by
  obtain ⟨rest, rfl⟩ := h
  have hpieces : splitOn '/' (ofString "./" ++ rest) = ofString "." :: splitOn '/' rest :=
    splitOn_append_sep (t := ofString ".") (by decide) rest
  rw [hpieces]
  exact List.mem_cons_self

/-- Between slashes that stand side by side lies an empty piece, and it is not the first. -/
theorem doubleSlash_splitOn (h : ofString "//" <:+: t) : [] ∈ (splitOn '/' t).tail := by
  obtain ⟨before, rest, rfl⟩ := h
  induction before with
  | nil => exact List.mem_cons_self
  | cons p before ih =>
    show [] ∈ (splitOn '/' (p :: (before ++ ofString "//" ++ rest))).tail
    rw [splitOn]
    split
    · exact List.mem_of_mem_tail ih
    · -- the first piece becomes longer, the others stay
      cases hpieces : splitOn '/' (before ++ ofString "//" ++ rest) with
      | nil =>
        rw [hpieces] at ih
        cases ih
      | cons s ss =>
        rw [hpieces] at ih
        exact ih

/-- **Parts that are joined** are left as they are by tidying exactly if they hold no backslash and
no blanks around them. -/
theorem tidyPath_join_iff (hne : ts ≠ []) (h : ∀ t ∈ ts, t.IsPart) :
    (join (ofString "/") ts).tidyPath = join (ofString "/") ts ↔
      (∀ p ∈ join (ofString "/") ts, p.is '\\' = false) ∧ (join (ofString "/") ts).Trimmed := by
  -- what tidying looks for besides would show in the pieces of the text, and these are the parts
  have hpieces : splitOn '/' (join (ofString "/") ts) = ts :=
    splitOn_join hne fun t ht => (h t ht).slashless
  have hdouble : ¬ofString "//" <:+: join (ofString "/") ts := by
    intro hdouble
    have hmem := List.mem_of_mem_tail (doubleSlash_splitOn hdouble)
    rw [hpieces] at hmem
    exact (h [] hmem).nonempty rfl
  have hslash : ¬ofString "/" <+: join (ofString "/") ts := by
    intro hslash
    have hmem := slash_splitOn hslash
    rw [hpieces] at hmem
    exact (h [] hmem).nonempty rfl
  have hhere : ¬ofString "./" <+: join (ofString "/") ts := by
    intro hhere
    have hmem := here_splitOn hhere
    rw [hpieces] at hmem
    exact (h _ hmem).notHere rfl
  rw [tidyPath_eq_self_iff]
  refine and_congr_left fun _ => ⟨fun htidy => htidy.noBackslash, fun hback => ?_⟩
  exact ⟨hback, hdouble, hslash, hhere⟩

/-- The text says of a path what there is to say: no backslash and no blank around it is lost. -/
def ShownAsIs (t : Text) : Prop := (∀ p ∈ t, p.is '\\' = false) ∧ t.Trimmed

instance (t : Text) : Decidable t.ShownAsIs :=
  decidable_of_iff ((∀ p ∈ t, p.is '\\' = false) ∧ (∀ p ∈ t.head?, p.isBlank = false) ∧
      ∀ p ∈ t.getLast?, p.isBlank = false)
    ⟨fun ⟨h₁, h₂, h₃⟩ => ⟨h₁, h₂, h₃⟩, fun ⟨h₁, h₂⟩ => ⟨h₁, h₂.head, h₂.last⟩⟩

end Text

namespace Path

variable {cwd bs ps rest : List Text}

/-- The parts mean entries and can be given to a file system: none is empty, a point or a double
point, and none holds a NUL or a surrogate that no file name can hold. -/
def Clean (ns : List Text) : Prop := ∀ n ∈ ns, n.IsPart ∧ n.Nameable

instance (ns : List Text) : Decidable (Clean ns) :=
  inferInstanceAs (Decidable (∀ n ∈ ns, n.IsPart ∧ n.Nameable))

theorem Clean.append (hbs : Clean bs) (hrest : Clean rest) : Clean (bs ++ rest) :=
  List.forall_mem_append.mpr ⟨hbs, hrest⟩

theorem Clean.resolve (h : Clean ps) (cwd : List Text) :
    (absolute ps).resolve cwd = .ok (absolute ps) :=
  resolve_absolute (upward_notMem_of_isPart fun n hn => (h n hn).1) (fun n hn => (h n hn).2) cwd

/-- The text of parts that are joined is read as a path of these parts without a root. -/
theorem ofText_join (h : ∀ n ∈ rest, n.IsPart) :
    ofText (Text.join (Text.ofString "/") rest) = ⟨.relative, rest⟩ := by
  have hroot : Root.ofText (Text.join (Text.ofString "/") rest) = .relative := by
    have hslashes : (Text.join (Text.ofString "/") rest).takeWhile (·.is '/') = [] :=
      takeWhile_slash_join h
    rw [Root.ofText, hslashes]
    rfl
  rw [ofText, hroot]
  exact congrArg (Path.mk .relative) (filter_splitOn_join h)

/-- Parts that are there have a text. -/
theorem toText_relative (hne : rest ≠ []) (h : ∀ n ∈ rest, n.IsPart) :
    toText ⟨.relative, rest⟩ = Text.join (Text.ofString "/") rest := by
  have hpieces : Text.splitOn '/' (Text.join (Text.ofString "/") rest) = rest :=
    Text.splitOn_join hne fun n hn => (h n hn).slashless
  have htext : ¬Text.join (Text.ofString "/") rest = [] := by
    intro hnil
    rw [hnil] at hpieces
    exact (h [] (hpieces ▸ List.mem_cons_self)).nonempty rfl
  rw [← List.isEmpty_iff] at htext
  exact if_neg htext

/-! ## What is shown -/

/-- A path below a base is shown by the parts that it has in addition, tidied. -/
theorem display_below (hbs : Clean bs) (hrest : Clean rest) (hne : rest ≠ []) :
    (absolute (bs ++ rest)).display cwd (absolute bs) =
      .ok (Text.join (Text.ofString "/") rest).tidyPath := by
  have hbelow : relativeTo? (absolute bs) (absolute (bs ++ rest)) = some rest := by
    have hprefix : (absolute (bs ++ rest)).root = (absolute bs).root ∧
        (absolute bs).parts <+: (absolute (bs ++ rest)).parts := ⟨rfl, List.prefix_append bs rest⟩
    rw [relativeTo?, if_pos hprefix]
    exact congrArg some List.drop_left
  simp only [display, (hbs.append hrest).resolve, hbs.resolve, hbelow,
    toText_relative hne fun n hn => (hrest n hn).1]

/-- Any other path is shown whole. -/
theorem display_elsewhere (hbs : Clean bs) (hps : Clean ps) (h : ¬bs <+: ps) :
    (absolute ps).display cwd (absolute bs) = .ok (absolute ps).toText := by
  have hbelow : relativeTo? (absolute bs) (absolute ps) = none := if_neg fun hprefix => h hprefix.2
  simp only [display, hps.resolve, hbs.resolve, hbelow]

/-- **A path that is shown can be found again.** Of a path below a base, the parts that it has in
addition are shown as they are exactly if they hold no backslash and no blanks around them. Such a
path is what its text stands for below the base, and no other such path is shown by that text. A
path that does not lie below the base is shown whole, also where the texts begin alike. -/
theorem display_faithful (hbs : Clean bs) (cwd : List Text) :
    (∀ rest, rest ≠ [] → Clean rest →
      ∃ shown, (absolute (bs ++ rest)).display cwd (absolute bs) = .ok shown ∧
        (shown = Text.join (Text.ofString "/") rest ↔
          (Text.join (Text.ofString "/") rest).ShownAsIs) ∧
        ((Text.join (Text.ofString "/") rest).ShownAsIs →
          (absolute bs).join (ofText shown) = absolute (bs ++ rest) ∧
          ∀ other, other ≠ [] → Clean other → (Text.join (Text.ofString "/") other).ShownAsIs →
            (absolute (bs ++ other)).display cwd (absolute bs) = .ok shown → other = rest)) ∧
    ∀ ps, Clean ps → ¬bs <+: ps →
      (absolute ps).display cwd (absolute bs) = .ok (absolute ps).toText := by
  refine ⟨fun rest hne hrest => ?_, fun ps hps => display_elsewhere hbs hps⟩
  have hread : ∀ {ns}, Clean ns → ofText (Text.join (Text.ofString "/") ns) = ⟨.relative, ns⟩ :=
    fun hns => ofText_join fun n hn => (hns n hn).1
  have htidy : ∀ {ns}, ns ≠ [] → Clean ns →
      ((Text.join (Text.ofString "/") ns).tidyPath = Text.join (Text.ofString "/") ns ↔
        (Text.join (Text.ofString "/") ns).ShownAsIs) :=
    fun hne hns => Text.tidyPath_join_iff hne fun n hn => (hns n hn).1
  refine ⟨_, display_below hbs hrest hne, htidy hne hrest, fun hshown => ?_⟩
  rw [(htidy hne hrest).mpr hshown, hread hrest]
  refine ⟨if_neg Bool.false_ne_true, fun other hne' hother hshown' halike => ?_⟩
  -- both texts are shown as they are, so the same text is read as the parts of either path
  rw [display_below hbs hother hne', (htidy hne' hother).mpr hshown', Except.ok.injEq] at halike
  have hpaths := hread hother
  rw [halike, hread hrest] at hpaths
  exact (congrArg Path.parts hpaths).symm

/-- A base whose text other paths begin with, though they do not lie below it. -/
def nearbyBase : List Text := [Text.ofString "ws"]

/-- A path below it with a blank in it, and one beside it. -/
theorem display_faithful_nearby :
    (absolute [Text.ofString "ws", Text.ofString "a b", Text.ofString ".c"]).display []
        (absolute nearbyBase) = .ok (Text.ofString "a b/.c") ∧
      (absolute [Text.ofString "ws2", Text.ofString "x"]).display [] (absolute nearbyBase) =
        .ok (Text.ofString "/ws2/x") ∧
      (absolute [Text.ofString "ws", Text.ofString " a\\b"]).display [] (absolute nearbyBase) ≠
        .ok (Text.ofString " a\\b") := by
  have hbase : Clean nearbyBase := by decide
  obtain ⟨hbelow, helsewhere⟩ := display_faithful hbase []
  refine ⟨?_, helsewhere [Text.ofString "ws2", Text.ofString "x"] (by decide) (by decide), ?_⟩
  · obtain ⟨shown, hdisplay, hshown, -⟩ :=
      hbelow [Text.ofString "a b", Text.ofString ".c"] (by decide) (by decide)
    rw [hshown.mpr (by decide)] at hdisplay
    exact hdisplay
  · obtain ⟨shown, hdisplay, hshown, -⟩ := hbelow [Text.ofString " a\\b"] (by decide) (by decide)
    intro halike
    have halike : shown = Text.ofString " a\\b" := Except.ok.inj (hdisplay.symm.trans halike)
    exact absurd (hshown.mp halike) (by decide)

end Path

end RouteAtlas
