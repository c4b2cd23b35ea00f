import RouteAtlas.Command.Dotenv
import RouteAtlas.Proofs.Text.Blank

/-!
# Assignments are read back from their lines

An assignment can be laid out on a line in many ways: with blanks around its parts, behind the word
`export`, with the value between quotes of either kind or without, and with text behind it.

- `Dotenv.Key`: the names that a line can assign;
- `Dotenv.Layout`: how a line is laid out up to the value, and `parseLine_line`: **whatever the
  layout**, the line assigns to the name what is made of the text behind the equals sign;
- `Dotenv.Escapes`: a text with backslashes in front of some of its characters, and
  `unquote_of_escapes`, `unquote_of_quoteless`: the quotes close where they were written, by
  induction over what stands between them;
- `parseLine_assignment`: **every way to write an assignment is read as that assignment**.
-/

namespace RouteAtlas.Dotenv

/-! ## Lines up to the value -/

/-- A name that a line can assign. -/
structure Key where
  text : Text
  nonempty : text ≠ []
  equalsless : ∀ p ∈ text, p.is '=' = false
  trimmed : text.Trimmed
  notExport : text ≠ Text.ofString "export"
  notComment : text.startsWith "#" = false
  notExported : text.startsWith "export " = false

/-- What stands around the name on a line, up to the value. -/
structure Layout where
  before : Blanks
  /-- The word `export` stands in front of the name, with more blanks behind it. -/
  exported : Option Blanks
  beforeEquals : Blanks
  afterEquals : Blanks

namespace Layout

/-- What stands before the name, without the blanks at the start of the line. -/
def lead (l : Layout) : Text :=
  match l.exported with
  | none => []
  | some bs => Text.ofString "export " ++ bs.text

/-- A line that assigns to the name what is written. -/
def line (l : Layout) (k : Key) (written : Text) : Text :=
  l.before.text ++ (l.lead ++ (k.text ++ (l.beforeEquals.text ++
    .ofChar '=' :: (l.afterEquals.text ++ written))))

end Layout

namespace Key

variable (k : Key)

/-- A name starts with a character that is neither a blank nor a number sign. -/
theorem exists_cons : ∃ p t, k.text = p :: t ∧ p.isBlank = false ∧ p ≠ .ofChar '#' := by
  obtain ⟨p, t, ht⟩ := List.exists_cons_of_ne_nil k.nonempty
  refine ⟨p, t, ht, k.trimmed.head p (by rw [ht]; rfl), ?_⟩
  rintro rfl
  have hcomment : k.text.startsWith "#" = true := Text.startsWith_iff.mpr ⟨t, ht.symm⟩
  exact Bool.false_ne_true (k.notComment.symm.trans hcomment)

/-- A name is not taken for the word `export` where a blank or the equals sign follows it. -/
theorem startsWith_export_eq_false {r : Text}
    (hr : ∀ p ∈ r.head?, p.isBlank = true ∨ p.is '=' = true) :
    Text.startsWith (k.text ++ r) "export " = false := by
  have hword : Text.ofString "export " = Text.ofString "export" ++ [.ofChar ' '] := rfl
  have hletters : ∀ p ∈ Text.ofString "export", p.isBlank = false ∧ p.is '=' = false := by decide
  rw [← Bool.not_eq_true, Text.startsWith_iff, hword]
  intro hstarts
  have hexport : Text.ofString "export" <+: k.text ++ r :=
    (List.prefix_append _ _).trans hstarts
  rcases List.prefix_or_prefix_of_prefix hexport (List.prefix_append _ _) with ⟨s, hs⟩ | ⟨s, hs⟩
  · -- the name is longer than the word, so that a blank stands in it
    rw [← hs, List.append_assoc, List.prefix_append_right_inj] at hstarts
    cases s with
    | nil => exact k.notExport (hs ▸ List.append_nil _)
    | cons p s =>
      obtain ⟨rfl, -⟩ := List.cons_prefix_cons.mp hstarts
      have hexported : k.text.startsWith "export " = true :=
        Text.startsWith_iff.mpr ⟨s, by rw [hword, ← hs, List.append_assoc]; rfl⟩
      exact Bool.false_ne_true (k.notExported.symm.trans hexported)
  · -- the name ends within the word, and is followed by a letter
    rw [← hs, List.prefix_append_right_inj] at hexport
    cases s with
    | nil => exact k.notExport (hs ▸ (List.append_nil _).symm)
    | cons p s =>
      obtain ⟨r', rfl⟩ := hexport
      obtain ⟨hblank, hequals⟩ := hletters p (hs ▸ List.mem_append_right _ List.mem_cons_self)
      rcases hr p rfl with h | h
      · exact Bool.false_ne_true (hblank.symm.trans h)
      · exact Bool.false_ne_true (hequals.symm.trans h)

end Key

/-- What stands behind a name on a line starts with a blank or with the equals sign. -/
theorem Layout.head_beforeEquals (l : Layout) (t : Text) :
    ∀ p ∈ (l.beforeEquals.text ++ .ofChar '=' :: t).head?, p.isBlank = true ∨ p.is '=' = true := by
  intro p hp
  cases hbs : l.beforeEquals.text with
  | nil =>
    rw [hbs] at hp
    cases hp
    exact .inr rfl
  | cons q s =>
    rw [hbs] at hp
    cases hp
    exact .inl (l.beforeEquals.isBlank_of_mem (hbs ▸ List.mem_cons_self))

/-- The first character of a line that is no blank belongs to the name or to the word in front. -/
theorem Layout.exists_cons (l : Layout) (k : Key) (r : Text) :
    ∃ p t, l.lead ++ (k.text ++ r) = p :: t ∧ p.isBlank = false ∧ p ≠ .ofChar '#' := by
  rw [lead]
  cases l.exported with
  | none =>
    obtain ⟨p, t, ht, hblank, hsign⟩ := k.exists_cons
    exact ⟨p, t ++ r, by rw [ht]; rfl, hblank, hsign⟩
  | some bs => exact ⟨.ofChar 'e', _, rfl, by decide, by decide⟩

/-- Only the blanks at both ends are taken off a line. -/
theorem Layout.strip_line (l : Layout) (k : Key) (written : Text) :
    (l.line k written).strip = l.lead ++ (k.text ++ (l.beforeEquals.text ++
      .ofChar '=' :: Text.stripRight (l.afterEquals.text ++ written))) := by
  have hhead : ∀ p ∈ (l.lead ++ (k.text ++ l.beforeEquals.text)).head?, p.isBlank = false := by
    obtain ⟨p, t, ht, hblank, -⟩ := l.exists_cons k l.beforeEquals.text
    rw [ht]
    rintro _ ⟨⟩
    exact hblank
  have hstrip := Text.strip_append_cons hhead (p := .ofChar '=') (by decide)
    (l.afterEquals.text ++ written)
  rw [List.append_assoc, List.append_assoc, List.append_assoc, List.append_assoc] at hstrip
  rw [line, Text.strip_blanks_append, hstrip]

/-- The word `export` is taken off a line, and nothing else. -/
theorem dropExport_lead (l : Layout) (k : Key) {r : Text}
    (hr : ∀ p ∈ r.head?, p.isBlank = true ∨ p.is '=' = true) :
    dropExport (l.lead ++ (k.text ++ r)) = k.text ++ r := by
  rw [dropExport, Layout.lead]
  cases l.exported with
  | none =>
    rw [List.nil_append, exportWord, k.startsWith_export_eq_false hr, if_neg Bool.false_ne_true]
  | some bs =>
    have hlength : exportWord.length = (Text.ofString exportWord).length := by decide
    have hhead : ∀ p ∈ (k.text ++ r).head?, p.isBlank = false := by
      obtain ⟨p, t, ht, hblank, -⟩ := k.exists_cons
      rw [ht]
      rintro _ ⟨⟩
      exact hblank
    show (if Text.startsWith (Text.ofString exportWord ++ bs.text ++ (k.text ++ r)) exportWord
      then _ else _) = _
    rw [List.append_assoc, if_pos (Text.startsWith_iff.mpr (List.prefix_append _ _)), hlength,
      List.append_assoc, exportWord, List.drop_left, Text.stripLeft_blanks_append,
      Text.stripLeft_of_head hhead]

/-- **A line assigns to its name what stands behind the equals sign**, whatever its layout. -/
theorem parseLine_line (l : Layout) (k : Key) (written : Text) :
    parseLine (l.line k written) = some (k.text, value written.strip) := by
  let rest := Text.stripRight (l.afterEquals.text ++ written)
  have hstart : ((l.line k written).strip.isEmpty || (l.line k written).strip.startsWith "#") =
      false := by
    obtain ⟨p, t, ht, -, hsign⟩ := l.exists_cons k (l.beforeEquals.text ++ .ofChar '=' :: rest)
    rw [l.strip_line, ht, List.isEmpty_cons, Bool.false_or, ← Bool.not_eq_true, Text.startsWith_iff]
    rintro ⟨s, hs⟩
    exact hsign (List.cons.inj hs).1.symm
  have hcut : Text.cut? '=' (k.text ++ (l.beforeEquals.text ++ .ofChar '=' :: rest)) =
      some (k.text ++ l.beforeEquals.text, rest) := by
    have hname : ∀ p ∈ k.text ++ l.beforeEquals.text, p.is '=' = false :=
      List.forall_mem_append.mpr ⟨k.equalsless, l.beforeEquals.is_eq_false (by decide)⟩
    rw [← List.append_assoc, Text.cut?_append hname (by decide)]
  have hname : Text.strip (k.text ++ l.beforeEquals.text) = k.text := by
    rw [Text.strip_append_blanks, k.trimmed.strip_eq]
  have hrest : rest.strip = written.strip := by
    rw [Text.strip_stripRight, Text.strip_blanks_append]
  have hnonempty : k.text.isEmpty = false := by
    rw [List.isEmpty_eq_false_iff]
    exact k.nonempty
  rw [parseLine]
  simp only [hstart, Bool.false_eq_true, if_false]
  rw [l.strip_line, dropExport_lead l k (l.head_beforeEquals _), hcut]
  simp only [hname, hnonempty, hrest, Bool.false_eq_true, if_false]

/-! ## Values -/

/-- A text with backslashes in front of some of its characters, and in front of every double quote
and every backslash. -/
inductive Escapes : (text escaped : Text) → Prop where
  | nil : Escapes [] []
  | plain {p : CodePoint} {t e : Text} (hquote : p.is '\x22' = false) (hslash : p.is '\\' = false)
    (h : Escapes t e) : Escapes (p :: t) (p :: e)
  | slash (p : CodePoint) {t e : Text} (h : Escapes t e) : Escapes (p :: t) (.ofChar '\\' :: p :: e)

/-- What is escaped between double quotes is read back, whatever stands behind the quote. -/
theorem unquote_of_escapes {t e : Text} (h : Escapes t e) (z : Text) :
    unquote '\x22' false (e ++ .ofChar '\x22' :: z) = t := by
  induction h with
  | nil => rfl
  | plain hquote hslash _ ih =>
    rw [List.cons_append, unquote, hslash, Bool.and_false, if_neg Bool.false_ne_true, hquote,
      if_neg Bool.false_ne_true, ih]
  | slash p _ ih =>
    rw [List.cons_append, List.cons_append, unquote, if_pos (by decide), unquote, ih]

/-- What stands between single quotes is read as it is. -/
theorem unquote_of_quoteless {t : Text} (h : ∀ p ∈ t, p.is '\x27' = false) (z : Text) :
    unquote '\x27' false (t ++ .ofChar '\x27' :: z) = t := by
  induction t with
  | nil => rfl
  | cons p t ih =>
    obtain ⟨hp, ht⟩ := List.forall_mem_cons.mp h
    rw [List.cons_append, unquote, if_neg nofun, hp, if_neg Bool.false_ne_true, ih ht]

/-- Blanks behind a quoted value are the only ones that stripping takes off. -/
theorem value_strip_quoted {q : CodePoint} (hq : q.isBlank = false) (t z : Text) :
    value (Text.strip (q :: (t ++ q :: z))) = value (q :: (t ++ q :: z.stripRight)) := by
  have hhead : ∀ p ∈ (q :: t).head?, p.isBlank = false := by
    rintro _ ⟨⟩
    exact hq
  exact congrArg value (Text.strip_append_cons hhead hq z)

theorem value_strip_of_escapes {v e : Text} (h : Escapes v e) (z : Text) :
    value (Text.strip (.ofChar '\x22' :: (e ++ .ofChar '\x22' :: z))) = v := by
  rw [value_strip_quoted (by decide), value, if_neg (by decide), if_pos (by decide)]
  exact unquote_of_escapes h z.stripRight

theorem value_strip_of_quoteless {v : Text} (h : ∀ p ∈ v, p.is '\x27' = false) (z : Text) :
    value (Text.strip (.ofChar '\x27' :: (v ++ .ofChar '\x27' :: z))) = v := by
  rw [value_strip_quoted (by decide), value, if_pos (by decide)]
  exact unquote_of_quoteless h z.stripRight

/-- The text does not start with a quote. -/
def Unquoted (t : Text) : Prop := ∀ p ∈ t.head?, p.is '\x27' = false ∧ p.is '\x22' = false

/-- A text that can stand as a value without quotes. -/
structure Bare (t : Text) : Prop where
  signless : ∀ p ∈ t, p.is '#' = false
  trimmed : t.Trimmed
  unquoted : Unquoted t

/-- A value without quotes ends before a number sign. -/
theorem value_of_unquoted {t : Text} (h : Unquoted t) : value t = (dropComment t).strip := by
  cases t with
  | nil => rfl
  | cons p t =>
    obtain ⟨hsingle, hdouble⟩ := h p rfl
    rw [value, hsingle, if_neg Bool.false_ne_true, hdouble, if_neg Bool.false_ne_true]

theorem dropComment_append_cons {s : Text} (h : ∀ p ∈ s, p.is '#' = false) (t : Text) :
    dropComment (s ++ .ofChar '#' :: t) = s := by
  rw [dropComment, List.takeWhile_append_of_pos fun p hp => by rw [h p hp]; rfl,
    List.takeWhile_cons_of_neg (by decide), List.append_nil]

namespace Bare

variable {v : Text}

/-- Blanks behind a bare value do not matter. -/
theorem value_strip (h : Bare v) (bs : Blanks) : value (Text.strip (v ++ bs.text)) = v := by
  have hall : dropComment v = v :=
    List.takeWhile_eq_self_iff.mpr fun p hp => by rw [h.signless p hp]; rfl
  rw [Text.strip_append_blanks, h.trimmed.strip_eq, value_of_unquoted h.unquoted, hall,
    h.trimmed.strip_eq]

/-- A comment behind a bare value does not matter. -/
theorem value_strip_comment (h : Bare v) (bs : Blanks) (z : Text) :
    value (Text.strip (v ++ (bs.text ++ .ofChar '#' :: z))) = v := by
  cases v with
  | nil =>
    have hsign : Unquoted (.ofChar '#' :: z.stripRight) := by
      rintro _ ⟨⟩
      decide
    have hall : dropComment (.ofChar '#' :: z.stripRight) = [] :=
      dropComment_append_cons (List.forall_mem_nil _) _
    rw [List.nil_append, Text.strip_blanks_append, Text.strip_cons (by decide),
      value_of_unquoted hsign, hall]
    rfl
  | cons p v =>
    have hsignless : ∀ q ∈ p :: v ++ bs.text, q.is '#' = false :=
      List.forall_mem_append.mpr ⟨h.signless, bs.is_eq_false (by decide)⟩
    have hstrip : Text.strip ((p :: v ++ bs.text) ++ .ofChar '#' :: z) =
        (p :: v ++ bs.text) ++ .ofChar '#' :: z.stripRight :=
      Text.strip_append_cons (s := p :: v ++ bs.text) h.trimmed.head (by decide) z
    have hunquoted : Unquoted ((p :: v ++ bs.text) ++ .ofChar '#' :: z.stripRight) := h.unquoted
    rw [← List.append_assoc, hstrip, value_of_unquoted hunquoted, dropComment_append_cons hsignless,
      Text.strip_append_blanks, h.trimmed.strip_eq]

end Bare

/-! ## Assignments -/

/-- **An assignment is read back from its line**, whatever the layout of the line and whatever
stands behind the value: a value that is escaped between double quotes, one without single quotes
between these, and a bare one with or without a comment behind it. -/
theorem parseLine_assignment (l : Layout) (k : Key) (v z : Text) :
    (∀ e, Escapes v e →
      parseLine (l.line k (.ofChar '\x22' :: (e ++ .ofChar '\x22' :: z))) = some (k.text, v)) ∧
    ((∀ p ∈ v, p.is '\x27' = false) →
      parseLine (l.line k (.ofChar '\x27' :: (v ++ .ofChar '\x27' :: z))) = some (k.text, v)) ∧
    (Bare v → ∀ bs : Blanks,
      parseLine (l.line k (v ++ bs.text)) = some (k.text, v) ∧
      parseLine (l.line k (v ++ (bs.text ++ .ofChar '#' :: z))) = some (k.text, v)) := by
  refine ⟨fun e he => ?_, fun hv => ?_, fun hv bs => ⟨?_, ?_⟩⟩
  · rw [parseLine_line, value_strip_of_escapes he]
  · rw [parseLine_line, value_strip_of_quoteless hv]
  · rw [parseLine_line, hv.value_strip]
  · rw [parseLine_line, hv.value_strip_comment]

/-- A name with a blank in it. -/
def spacedKey : Key where
  text := Text.ofString "A B"
  nonempty := by decide
  equalsless := by decide
  trimmed := ⟨by decide, by decide⟩
  notExport := by decide
  notComment := by decide
  notExported := by decide

/-- An exported name, with blanks of different kinds around it. -/
def wideLayout : Layout where
  before := ⟨Text.ofString "  ", by decide⟩
  exported := some ⟨Text.ofString "\t", by decide⟩
  beforeEquals := ⟨Text.ofString " ", by decide⟩
  afterEquals := ⟨[], by decide⟩

/-- Values that hold quotes, backslashes, equals signs and number signs. -/
theorem parseLine_assignment_wide :
    parseLine (Text.ofString "  export \tA B =\x22\\a\\\x22\\\\\x22z") =
        some (Text.ofString "A B", Text.ofString "a\x22\\") ∧
      parseLine (Text.ofString "  export \tA B ='\\\x22#= 'z") =
        some (Text.ofString "A B", Text.ofString "\\\x22#= ") ∧
      parseLine (Text.ofString "  export \tA B =a = 'b' ") =
        some (Text.ofString "A B", Text.ofString "a = 'b'") ∧
      parseLine (Text.ofString "  export \tA B =a = 'b' #z") =
        some (Text.ofString "A B", Text.ofString "a = 'b'") := by
  have hescapes : Escapes (Text.ofString "a\x22\\") (Text.ofString "\\a\\\x22\\\\") :=
    .slash _ (.slash _ (.slash _ .nil))
  have hbare : Bare (Text.ofString "a = 'b'") := 
    ⟨by decide, ⟨by decide, by decide⟩, by rintro _ ⟨⟩; decide⟩
  let blank : Blanks := ⟨Text.ofString " ", by decide⟩
  let z := Text.ofString "z"
  obtain ⟨hblank, hcomment⟩ := (parseLine_assignment wideLayout spacedKey _ z).2.2 hbare blank
  exact ⟨(parseLine_assignment wideLayout spacedKey _ z).1 _ hescapes,
    (parseLine_assignment wideLayout spacedKey (Text.ofString "\\\x22#= ") z).2.1 (by decide),
    hblank, hcomment⟩

end RouteAtlas.Dotenv
