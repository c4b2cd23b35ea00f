import RouteAtlas.Proofs.Command.Assignment
import RouteAtlas.Proofs.Command.Dotenv
import RouteAtlas.Proofs.Text.LineEnds

/-!
# What a dotenv file of written pairs leaves behind

A file holds one line for each pair of a name and a value, blank lines and comments between them,
and line ends of either kind.

- `Dotenv.Part`: a part of such a file, up to its line end, and `contents`, `pairs`: the text of a
  file and the pairs written in it;
- `Part.filterMap_lines`, `filterMap_lines_contents`: the lines of a file assign its pairs in their
  order (**step and run lemma**);
- `get?_bindAll_assignments_of_set`, `get?_bindAll_assignments_of_first`: without `override` a name
  that is set is kept, and any other is set by its first pair, by induction over the lines, each of
  which is read in the environment that those before it left;
- `load_contents`: **what is left of a file after loading it**.
-/

namespace RouteAtlas.Dotenv

/-! ## Files of pairs -/

/-- A name and a value that can be assigned, and that can stand on one line. -/
structure Pair where
  key : Key
  value : Text
  clean : ∀ p ∈ key.text ++ value, p.is '\x00' = false ∧ p.isLineEnd = false

/-- The pair as a name and a text. -/
def Pair.toProd (a : Pair) : Text × Text := (a.key.text, a.value)

/-- All blanks of a layout. -/
def Layout.blanks (l : Layout) : Text :=
  l.before.text ++ ((l.exported.map Blanks.text).getD [] ++
    (l.beforeEquals.text ++ l.afterEquals.text))

/-- How a pair is written on a line: its value stands escaped between double quotes. -/
structure Pair.Written (a : Pair) where
  layout : Layout
  escaped : Text
  escapes : Escapes a.value escaped
  /-- What stands behind the closing quote. -/
  behind : Text
  oneLine : (layout.blanks ++ behind).OneLine

/-- The line of a pair. -/
def Pair.Written.line {a : Pair} (x : a.Written) : Text :=
  x.layout.line a.key (.ofChar '\x22' :: (x.escaped ++ .ofChar '\x22' :: x.behind))

/-- The line assigns nothing: it is blank or a comment. -/
def Idle (line : Text) : Prop :=
  line.isBlank = true ∨ ∃ (bs : Blanks) (t : Text), line = bs.text ++ .ofChar '#' :: t

/-- A line end of a file. -/
inductive LineEnd where
  | lineFeed
  | carriageReturnLineFeed

def LineEnd.text : LineEnd → Text
  | lineFeed => [.ofChar '\n']
  | carriageReturnLineFeed => [.ofChar '\r', .ofChar '\n']

/-- A part of a file, up to a line end. -/
inductive Part where
  | pair (a : Pair) (written : a.Written) (ending : LineEnd)
  /-- Blank lines and comments. -/
  | idle (t : Text) (ending : LineEnd) (idle : ∀ line ∈ Text.lines (t ++ ending.text), Idle line)

namespace Part

/-- The part as written. -/
def text : Part → Text
  | pair _ written ending => written.line ++ ending.text
  | idle t ending _ => t ++ ending.text

/-- The pair that is written. -/
def pair? : Part → Option Pair
  | pair a _ _ => some a
  | idle _ _ _ => none

end Part

/-- The text of a file. -/
def contents (parts : List Part) : Text := parts.flatMap Part.text

/-- The pairs that are written in a file, in their order. -/
def pairs (parts : List Part) : List (Text × Text) := (parts.filterMap Part.pair?).map Pair.toProd

/-! ## Lines of a file -/

/-- Escaping adds nothing but backslashes. -/
theorem Escapes.oneLine {t e : Text} (h : Escapes t e) (ht : t.OneLine) : e.OneLine := by
  induction h with
  | nil => exact ht
  | plain _ _ _ ih =>
    obtain ⟨hp, ht⟩ := Text.oneLine_cons.mp ht
    exact Text.oneLine_cons.mpr ⟨hp, ih ht⟩
  | slash p _ ih =>
    obtain ⟨hp, ht⟩ := Text.oneLine_cons.mp ht
    exact Text.oneLine_cons.mpr ⟨by decide, Text.oneLine_cons.mpr ⟨hp, ih ht⟩⟩

theorem Layout.oneLine_line {l : Layout} {k : Key} {written : Text} (hl : l.blanks.OneLine)
    (hk : k.text.OneLine) (hwritten : written.OneLine) : (l.line k written).OneLine := by
  rw [blanks] at hl
  simp only [Text.oneLine_append] at hl
  obtain ⟨hbefore, hexported, hbeforeEquals, hafterEquals⟩ := hl
  have hlead : l.lead.OneLine := by
    rw [lead]
    cases hl : l.exported with
    | none => exact List.forall_mem_nil _
    | some bs =>
      rw [hl] at hexported
      exact Text.oneLine_append.mpr ⟨by decide, hexported⟩
  simp only [line, Text.oneLine_append, Text.oneLine_cons]
  exact ⟨hbefore, hlead, hk, hbeforeEquals, by decide, hafterEquals, hwritten⟩

/-- A pair is written on one line. -/
theorem Pair.Written.oneLine_line {a : Pair} (x : a.Written) : x.line.OneLine := by
  obtain ⟨hblanks, hbehind⟩ := Text.oneLine_append.mp x.oneLine
  obtain ⟨hkey, hvalue⟩ := Text.oneLine_append.mp fun p hp => (a.clean p hp).2
  refine Layout.oneLine_line hblanks hkey ?_
  simp only [Text.oneLine_append, Text.oneLine_cons]
  exact ⟨by decide, x.escapes.oneLine hvalue, by decide, hbehind⟩

/-- The line of a pair assigns the value to the name. -/
theorem Pair.Written.parseLine_line {a : Pair} (x : a.Written) :
    parseLine x.line = some a.toProd := by
  rw [line, Dotenv.parseLine_line, value_strip_of_escapes x.escapes]
  rfl

theorem parseLine_of_idle {line : Text} (h : Idle line) : parseLine line = none := by
  rcases h with hblank | ⟨bs, t, rfl⟩
  · have hstrip : line.strip = [] := by
      have hstrip := Text.strip_blanks_append ⟨line, hblank⟩ []
      rwa [List.append_nil] at hstrip
    rw [parseLine, hstrip]
    rfl
  · have hstrip : Text.strip (bs.text ++ .ofChar '#' :: t) = .ofChar '#' :: t.stripRight := by
      rw [Text.strip_blanks_append, Text.strip_cons (by decide)]
    have hsign : Text.startsWith (.ofChar '#' :: t.stripRight) "#" = true :=
      Text.startsWith_iff.mpr ⟨t.stripRight, rfl⟩
    simp only [parseLine, hstrip, hsign, Bool.or_true, if_true]

/-- Every part of a file ends with a line feed. -/
theorem Part.exists_text_eq (x : Part) : ∃ t, x.text = t ++ [.ofChar '\n'] := by
  have hending (t : Text) (ending : LineEnd) : ∃ t', t ++ ending.text = t' ++ [.ofChar '\n'] := by
    cases ending with
    | lineFeed => exact ⟨t, rfl⟩
    | carriageReturnLineFeed =>
      exact ⟨t ++ [.ofChar '\r'], by rw [List.append_assoc]; rfl⟩
  cases x with
  | pair a written ending => exact hending written.line ending
  | idle t ending _ => exact hending t ending

/-- **Step lemma**: the lines of a part assign the pair that is written there. -/
theorem Part.filterMap_lines (x : Part) :
    x.text.lines.filterMap parseLine = (x.pair?.map Pair.toProd).toList := by
  cases x with
  | pair a written ending =>
    have hending : ending.text.lines = [[]] := by cases ending <;> rfl
    rw [text, written.oneLine_line.lines_append hending, List.filterMap_cons,
      written.parseLine_line]
    rfl
  | idle t ending idle =>
    exact List.filterMap_eq_nil_iff.mpr fun line hline => parseLine_of_idle (idle line hline)

/-- **Run lemma**: the lines of a file assign its pairs, in their order. -/
theorem filterMap_lines_contents (parts : List Part) :
    (contents parts).lines.filterMap parseLine = pairs parts := by
  induction parts with
  | nil => rfl
  | cons x parts ih =>
    obtain ⟨t, ht⟩ := x.exists_text_eq
    have hlines : (contents (x :: parts)).lines = x.text.lines ++ (contents parts).lines := by
      show Text.lines (x.text ++ contents parts) = _
      rw [ht, List.append_assoc]
      exact Text.lines_append_lineFeed t (contents parts)
    rw [hlines, List.filterMap_append, x.filterMap_lines, ih, pairs, pairs, List.filterMap_cons]
    cases x.pair? <;> rfl

/-! ## Environments -/

/-- With `override` all pairs of the lines are assigned. -/
theorem assignments_true (env : Table Text Text) (lines : List Text) :
    assignments true env lines = lines.filterMap parseLine := by
  induction lines generalizing env with
  | nil => rfl
  | cons line lines ih =>
    rw [assignments, List.filterMap_cons]
    cases parseLine line with
    | none => exact ih env
    | some a => exact congrArg (a :: ·) (ih _)

/-- Nothing else is assigned. -/
theorem assignments_subset (override : Bool) (env : Table Text Text) (lines : List Text) :
    assignments override env lines ⊆ lines.filterMap parseLine := by
  induction lines generalizing env with
  | nil => exact List.Subset.refl _
  | cons line lines ih =>
    rw [assignments, List.filterMap_cons]
    cases parseLine line with
    | none => exact ih env
    | some a =>
      dsimp only
      split
      · exact List.subset_cons_of_subset a (ih env)
      · exact List.cons_subset_cons a (ih _)

/-- Without `override` a name that is set keeps its value. -/
theorem get?_bindAll_assignments_of_set {name value : Text} {env : Table Text Text}
    (h : env.get? name = some value) (lines : List Text) :
    (env.bindAll (assignments false env lines)).get? name = some value := by
  have hname : name ∉ (assignments false env lines).map Prod.fst := by
    intro hmem
    obtain ⟨⟨_, v⟩, ha, rfl⟩ := List.mem_map.mp hmem
    rw [get?_eq_none_of_mem ha] at h
    cases h
  rw [Table.get?_bindAll_of_notMem hname, h]

/-- Without `override` a name that is not set has the value of its first pair: when the lines come
to this pair, no line before has set the name. -/
theorem get?_bindAll_assignments_of_first {name value : Text} {lines : List Text}
    {before after : List (Text × Text)} {env : Table Text Text}
    (hpairs : lines.filterMap parseLine = before ++ (name, value) :: after)
    (hfirst : name ∉ before.map Prod.fst) (hnew : env.get? name = none) :
    (env.bindAll (assignments false env lines)).get? name = some value := by
  induction lines generalizing before env with
  | nil => exact absurd hpairs.symm (List.append_ne_nil_of_right_ne_nil _ (List.cons_ne_nil _ _))
  | cons line lines ih =>
    rw [List.filterMap_cons] at hpairs
    rw [assignments]
    cases hline : parseLine line with
    | none =>
      rw [hline] at hpairs
      exact ih hpairs hfirst hnew
    | some a =>
      obtain ⟨key, v⟩ := a
      rw [hline] at hpairs
      dsimp only at hpairs ⊢
      rw [Bool.not_false, Bool.true_and]
      cases before with
      | nil =>
        obtain ⟨hpair, -⟩ := List.cons.inj hpairs
        cases hpair
        have hcontains : ¬env.contains name = true := by
          rw [Table.contains, hnew]
          exact Bool.false_ne_true
        rw [if_neg hcontains]
        refine get?_bindAll_assignments_of_set ?_ lines
        rw [Table.get?_insert, if_pos rfl]
      | cons b before =>
        obtain ⟨rfl, hrest⟩ := List.cons.inj hpairs
        rw [List.map_cons, List.mem_cons, not_or] at hfirst
        obtain ⟨hkey, hfirst⟩ := hfirst
        split
        · exact ih hrest hfirst hnew
        · refine ih hrest hfirst ?_
          rw [Table.get?_insert, if_neg (Ne.symm hkey), hnew]

/-! ## Loading -/

/-- No pair of a file holds a NUL. -/
theorem holdsNul_of_mem_pairs {parts : List Part} {a : Text × Text} (h : a ∈ pairs parts) :
    holdsNul a = false := by
  obtain ⟨b, -, rfl⟩ := List.mem_map.mp h
  exact List.any_eq_false.mpr fun p hp => by
    rw [(b.clean p hp).1]
    exact Bool.false_ne_true

/-- Loading a file makes all assignments of its lines. -/
theorem load_eq_bindAll {w : World} {path : Text} {parts : List Part} {cs : List Char}
    (hfile : w.find? (.ofText path) = .ok (some (.file (Utf8.encode cs))))
    (hcs : Text.ofChars cs = contents parts) (override : Bool) :
    load w path override =
      (w.env.bindAll (assignments override w.env (contents parts).lines), .ok true) := by
  have hread : readText w (.ofText path) = .ok (Text.unifyNewlines cs) := by
    rw [readText_of_find? hfile rfl, Utf8.decode_encode]
  have hnul : ∀ a ∈ assignments override w.env (contents parts).lines, holdsNul a = false := by
    intro a ha
    have hpair := assignments_subset override w.env _ ha
    rw [filterMap_lines_contents] at hpair
    exact holdsNul_of_mem_pairs hpair
  have hall : (assignments override w.env (contents parts).lines).takeWhile
      (fun a => !holdsNul a) = assignments override w.env (contents parts).lines :=
    List.takeWhile_eq_self_iff.mpr fun a ha => by rw [hnul a ha]; rfl
  have hnone : ¬(assignments override w.env (contents parts).lines).any holdsNul = true := by
    rw [Bool.not_eq_true, List.any_eq_false]
    exact fun a ha => (Bool.not_eq_true _).mpr (hnul a ha)
  rw [load_of_readText hfile hread, Text.lines_unifyNewlines, hcs, hall, if_neg hnone]

/-- **A file of pairs is loaded**, whatever blank lines and comments stand between them and whatever
its line ends are. Names that are not in the file are as before. Without `override` a name that is
set keeps its value, and any other has the value of its first pair; with `override` every name has
the value of its last pair. -/
theorem load_contents {w : World} {path : Text} {parts : List Part} {cs : List Char}
    (hfile : w.find? (.ofText path) = .ok (some (.file (Utf8.encode cs))))
    (hcs : Text.ofChars cs = contents parts) (override : Bool) :
    ∃ env, load w path override = (env, .ok true) ∧
      (∀ name, name ∉ (pairs parts).map Prod.fst → env.get? name = w.env.get? name) ∧
      (override = false →
        (∀ name value, w.env.get? name = some value → env.get? name = some value) ∧
        ∀ before name value after, pairs parts = before ++ (name, value) :: after →
          name ∉ before.map Prod.fst → w.env.get? name = none → env.get? name = some value) ∧
      (override = true →
        ∀ before name value after, pairs parts = before ++ (name, value) :: after →
          name ∉ after.map Prod.fst → env.get? name = some value) := by
  have hpairs := filterMap_lines_contents parts
  refine ⟨_, load_eq_bindAll hfile hcs override, ?_, ?_, ?_⟩
  · intro name hname
    refine Table.get?_bindAll_of_notMem (fun hmem => hname ?_) w.env
    rw [← hpairs]
    exact List.map_subset Prod.fst (assignments_subset override w.env _) hmem
  · rintro rfl
    refine ⟨fun name value hset => get?_bindAll_assignments_of_set hset _, ?_⟩
    intro before name value after hsplit hfirst hnew
    exact get?_bindAll_assignments_of_first (hpairs.trans hsplit) hfirst hnew
  · rintro rfl before name value after hsplit hlast
    rw [assignments_true, hpairs, hsplit]
    exact Table.get?_bindAll_append_cons hlast w.env before value

/-! ## A file with a name that is assigned twice -/

/-- A name of one letter. -/
def keyA : Key :=
  ⟨Text.ofString "A", by decide, by decide, ⟨by decide, by decide⟩, by decide, by decide, by decide⟩

@[inherit_doc keyA]
def keyB : Key :=
  ⟨Text.ofString "B", by decide, by decide, ⟨by decide, by decide⟩, by decide, by decide, by decide⟩

/-- Nothing stands around a name. -/
def plainLayout : Layout := ⟨⟨[], rfl⟩, none, ⟨[], rfl⟩, ⟨[], rfl⟩⟩

/-- A comment, between assignments to two names. -/
def twiceParts : List Part :=
  [.pair ⟨keyA, Text.ofString "1", by decide⟩
      ⟨plainLayout, Text.ofString "1", .plain rfl rfl .nil, [], by decide⟩ .lineFeed,
    .idle (Text.ofString "# c") .carriageReturnLineFeed (by
      intro line hline
      rw [List.mem_singleton.mp hline]
      exact .inr ⟨⟨[], rfl⟩, Text.ofString " c", rfl⟩),
    .pair ⟨keyB, Text.ofString "x", by decide⟩
      ⟨plainLayout, Text.ofString "\\x", .slash _ .nil, [], by decide⟩ .lineFeed,
    .pair ⟨keyA, Text.ofString "2", by decide⟩
      ⟨plainLayout, Text.ofString "2", .plain rfl rfl .nil, [], by decide⟩ .carriageReturnLineFeed]

/-- The same as characters. -/
def twiceChars : List Char :=
  "A=\x221\x22\n# c\r\nB=\x22\\x\x22\nA=\x222\x22\r\n".toList

/-- A world with this file, in which the second name is set to nothing. -/
def twiceWorld : World where
  files := .folder [(Text.ofString ".env", .file (Utf8.encode twiceChars))]
  cwd := []
  env := [(Text.ofString "B", [])]

theorem load_contents_twice :
    (∃ env, load twiceWorld (Text.ofString ".env") false = (env, .ok true) ∧
      env.get? (Text.ofString "A") = some (Text.ofString "1") ∧
      env.get? (Text.ofString "B") = some [] ∧ env.get? (Text.ofString "C") = none) ∧
    ∃ env, load twiceWorld (Text.ofString ".env") true = (env, .ok true) ∧
      env.get? (Text.ofString "A") = some (Text.ofString "2") ∧
      env.get? (Text.ofString "B") = some (Text.ofString "x") ∧
      env.get? (Text.ofString "C") = none := by
  have hfile : twiceWorld.find? (.ofText (Text.ofString ".env")) =
      .ok (some (.file (Utf8.encode twiceChars))) := rfl
  have hchars : Text.ofChars twiceChars = contents twiceParts := by decide
  obtain ⟨env, hload, hothers, hkept, -⟩ := load_contents hfile hchars false
  obtain ⟨hset, hfirst⟩ := hkept rfl
  obtain ⟨env', hload', hothers', -, hreplaced⟩ := load_contents hfile hchars true
  have hlast := hreplaced rfl
  have hpairs : pairs twiceParts = [(Text.ofString "A", Text.ofString "1"),
    (Text.ofString "B", Text.ofString "x"), (Text.ofString "A", Text.ofString "2")] := rfl
  exact ⟨⟨env, hload, hfirst [] _ _ _ hpairs (by decide) rfl, hset _ _ rfl,
      hothers _ (by decide)⟩,
    env', hload', hlast [_, _] _ _ [] hpairs (by decide), hlast [_] _ _ [_] hpairs (by decide),
    hothers' _ (by decide)⟩

end RouteAtlas.Dotenv
