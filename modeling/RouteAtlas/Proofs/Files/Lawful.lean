import RouteAtlas.Files.Discover
import RouteAtlas.Proofs.Files.Probe
import RouteAtlas.Proofs.Table

/-!
# File systems

In a file system every entry has a name that can stand in a path, and no folder has two entries of
one name. There a path and its text are the same:

- `Text.IsPart`, `Text.IsName`, `FileTree.Lawful`: the laws;
- `Path.ofText_toText`: the text of a path is read as that path, and `Path.resolve_absolute`: an
  absolute path without double points stands for itself;
- `Path.upward_notMem_normalParts`: what is left of a path with a root has no double point in it;
- `World.find?_absolute`, `World.at?_of_find?`: looking up an absolute path is following its names
  down the tree, by induction over them (`walk_of_at?`, `at?_of_walk`);
- `FileTree.mem_discoverBelow_iff`, `FileTree.Lawful.at?_of_discover`: **what is discovered is
  there**, by induction over the tree.
-/

namespace RouteAtlas

/-! ## Names -/

/-- The text can stand between the slashes of a path and means an entry there: it is not empty, no
slash stands in it, and it is neither of the two names that every folder has. -/
structure Text.IsPart (t : Text) : Prop where
  nonempty : t ≠ []
  slashless : ∀ p ∈ t, p.is '/' = false
  notHere : t ≠ Text.ofString "."
  notUpward : t ≠ upward

/-- The text can name an entry of a folder: it is not empty, no slash stands in it, it is neither of
the two names that every folder has, and a file system accepts it. -/
structure Text.IsName (t : Text) : Prop where
  nonempty : t ≠ []
  slashless : ∀ p ∈ t, p.is '/' = false
  notHere : t ≠ Text.ofString "."
  notUpward : t ≠ upward
  nameable : t.Nameable
  short : t.byteCount ≤ World.maxName

theorem Text.IsName.isPart {t : Text} (h : t.IsName) : t.IsPart :=
  ⟨h.nonempty, h.slashless, h.notHere, h.notUpward⟩

namespace Text

instance (t : Text) : Decidable t.IsPart :=
  decidable_of_iff (t ≠ [] ∧ (∀ p ∈ t, p.is '/' = false) ∧ t ≠ ofString "." ∧ t ≠ upward)
    ⟨fun ⟨h₁, h₂, h₃, h₄⟩ => ⟨h₁, h₂, h₃, h₄⟩,
      fun h => ⟨h.nonempty, h.slashless, h.notHere, h.notUpward⟩⟩

instance (t : Text) : Decidable t.Nameable :=
  inferInstanceAs (Decidable (∀ p ∈ t, p.isUnnameable = false ∧ p.is '\x00' = false))

instance (t : Text) : Decidable t.IsName :=
  decidable_of_iff (t ≠ [] ∧ (∀ p ∈ t, p.is '/' = false) ∧ t ≠ ofString "." ∧ t ≠ upward ∧
      t.Nameable ∧ t.byteCount ≤ World.maxName)
    ⟨fun ⟨h₁, h₂, h₃, h₄, h₅, h₆⟩ => ⟨h₁, h₂, h₃, h₄, h₅, h₆⟩,
      fun h => ⟨h.nonempty, h.slashless, h.notHere, h.notUpward, h.nameable, h.short⟩⟩

variable {sep : Char}

/-- The piece before the first separator. -/
theorem splitOn_append_sep {t : Text} (h : ∀ p ∈ t, p.is sep = false) (rest : Text) :
    splitOn sep (t ++ .ofChar sep :: rest) = t :: splitOn sep rest := by
  induction t with
  | nil =>
    have hsep : (CodePoint.ofChar sep).is sep = true := beq_self_eq_true _
    show splitOn sep (.ofChar sep :: rest) = _
    rw [splitOn, if_pos hsep]
  | cons p t ih =>
    obtain ⟨hp, ht⟩ := List.forall_mem_cons.mp h
    rw [List.cons_append, splitOn, if_neg (Bool.eq_false_iff.mp hp), ih ht]

/-- A text without the separator is one piece. -/
theorem splitOn_of_forall {t : Text} (h : ∀ p ∈ t, p.is sep = false) : splitOn sep t = [t] := by
  induction t with
  | nil => rfl
  | cons p t ih =>
    obtain ⟨hp, ht⟩ := List.forall_mem_cons.mp h
    rw [splitOn, if_neg (Bool.eq_false_iff.mp hp), ih ht]

/-- Splitting undoes joining. -/
theorem splitOn_join :
    ∀ {ts : List Text}, ts ≠ [] → (∀ t ∈ ts, ∀ p ∈ t, p.is sep = false) →
      splitOn sep (join [.ofChar sep] ts) = ts
  | [], hne, _ => absurd rfl hne
  | [t], _, h => splitOn_of_forall (h t List.mem_cons_self)
  | t :: u :: ts, _, h => by
    obtain ⟨ht, hrest⟩ := List.forall_mem_cons.mp h
    have hjoin : join [.ofChar sep] (t :: u :: ts) =
        t ++ .ofChar sep :: join [.ofChar sep] (u :: ts) := List.append_assoc _ _ _
    rw [hjoin, splitOn_append_sep ht, splitOn_join (List.cons_ne_nil u ts) hrest]

end Text

/-! ## Paths of names -/

namespace Path

variable {ns : List Text}

theorem toText_absolute (ns : List Text) :
    (absolute ns).toText = .ofChar '/' :: Text.join [.ofChar '/'] ns := rfl

/-- Parts that are joined start with no slash. -/
theorem takeWhile_slash_join (h : ∀ n ∈ ns, n.IsPart) :
    (Text.join [.ofChar '/'] ns).takeWhile (·.is '/') = [] := by
  match ns, h with
  | [], _ => rfl
  | n :: ns, h =>
    obtain ⟨hn, -⟩ := List.forall_mem_cons.mp h
    obtain ⟨c, n', rfl⟩ := List.exists_cons_of_ne_nil hn.nonempty
    have hc : c.is '/' = false := hn.slashless c List.mem_cons_self
    have hjoin : ∃ rest, Text.join [.ofChar '/'] ((c :: n') :: ns) = c :: rest := by
      cases ns with
      | nil => exact ⟨n', rfl⟩
      | cons m ns => exact ⟨_, rfl⟩
    obtain ⟨rest, hjoin⟩ := hjoin
    rw [hjoin, List.takeWhile_cons, if_neg (Bool.eq_false_iff.mp hc)]

/-- The one slash in front of the first part is the root. -/
theorem root_ofText_absolute (h : ∀ n ∈ ns, n.IsPart) :
    Root.ofText (.ofChar '/' :: Text.join [.ofChar '/'] ns) = .single := by
  have hslash : (CodePoint.ofChar '/').is '/' = true := rfl
  rw [Root.ofText, List.takeWhile_cons, if_pos hslash, takeWhile_slash_join h]
  rfl

/-- A part that means an entry says something. -/
theorem isIdle_of_isPart {n : Text} (h : n.IsPart) : isIdle n = false := by
  rw [isIdle, Bool.or_eq_false_iff]
  constructor
  · rw [List.isEmpty_eq_false_iff]
    exact h.nonempty
  · rw [beq_eq_false_iff_ne]
    exact h.notHere

/-- Parts that are joined are read as they were. -/
theorem filter_splitOn_join (h : ∀ n ∈ ns, n.IsPart) :
    (Text.splitOn '/' (Text.join [.ofChar '/'] ns)).filter (fun n => !isIdle n) = ns := by
  by_cases hns : ns = []
  · subst hns
    rfl
  · rw [Text.splitOn_join hns fun n hn => (h n hn).slashless, List.filter_eq_self]
    intro n hn
    rw [isIdle_of_isPart (h n hn)]
    rfl

/-- **The text of a path of parts** is read as that path. -/
theorem ofText_toText (h : ∀ n ∈ ns, n.IsPart) : ofText (absolute ns).toText = absolute ns := by
  -- before the first slash stands nothing, which is dropped; behind it stand the parts
  have hsplit : Text.splitOn '/' (.ofChar '/' :: Text.join [.ofChar '/'] ns) =
      [] :: Text.splitOn '/' (Text.join [.ofChar '/'] ns) := rfl
  rw [toText_absolute, ofText, root_ofText_absolute h, hsplit,
    List.filter_cons_of_neg (by decide), filter_splitOn_join h]
  rfl

/-! ## Double points -/

theorem upward_notMem_of_isPart (h : ∀ n ∈ ns, n.IsPart) : upward ∉ ns :=
  fun hmem => (h upward hmem).notUpward rfl

/-- Where no double point is met, every part is kept. -/
theorem foldl_climb (rooted : Bool) {parts : List Text} (h : upward ∉ parts) (stack : List Text) :
    parts.foldl (climb rooted) stack = parts.reverse ++ stack := by
  induction parts generalizing stack with
  | nil => rfl
  | cons part parts ih =>
    rw [List.mem_cons, not_or] at h
    have hclimb : climb rooted stack part = part :: stack := if_neg (Ne.symm h.1)
    rw [List.foldl_cons, hclimb, ih h.2, List.reverse_cons, List.append_assoc]
    rfl

theorem normalParts_of_notMem (rooted : Bool) {parts : List Text} (h : upward ∉ parts) :
    normalParts rooted parts = parts := by
  rw [normalParts, foldl_climb rooted h, List.append_nil, List.reverse_reverse]

/-- From a root no double point is left. -/
theorem upward_notMem_climb {stack : List Text} (h : upward ∉ stack) (part : Text) :
    upward ∉ climb true stack part := by
  unfold climb
  split
  next =>
    cases stack with
    | nil => exact List.not_mem_nil
    | cons last rest =>
      rw [List.mem_cons, not_or] at h
      show upward ∉ if last = upward then upward :: last :: rest else rest
      rw [if_neg (Ne.symm h.1)]
      exact h.2
  next hpart =>
    rw [List.mem_cons, not_or]
    exact ⟨Ne.symm hpart, h⟩

theorem upward_notMem_normalParts (parts : List Text) : upward ∉ normalParts true parts := by
  have hfold : ∀ (parts stack : List Text), upward ∉ stack →
      upward ∉ parts.foldl (climb true) stack := by
    intro parts
    induction parts with
    | nil => exact fun _ h => h
    | cons part parts ih => exact fun stack h => ih _ (upward_notMem_climb h part)
  rw [normalParts, List.mem_reverse]
  exact hfold parts [] List.not_mem_nil

/-- What a path is resolved to has no double point in it. -/
theorem exists_absolute_of_resolve {p q : Path} {cwd : List Text} (h : p.resolve cwd = .ok q) :
    ∃ ns, q = absolute ns ∧ upward ∉ ns := by
  rw [resolve] at h
  split at h
  next => cases h
  next =>
    cases h
    exact ⟨_, rfl, upward_notMem_normalParts _⟩

/-- An absolute path without double points is resolved to itself, if it is resolved at all. -/
theorem eq_of_resolve_absolute {q : Path} {cwd : List Text} (hup : upward ∉ ns)
    (h : (absolute ns).resolve cwd = .ok q) : q = absolute ns := by
  rw [resolve] at h
  split at h
  next => cases h
  next =>
    cases h
    exact congrArg absolute (normalParts_of_notMem true hup)

/-- **An absolute path without double points** stands for itself, in any working directory. -/
theorem resolve_absolute (hup : upward ∉ ns) (hnameable : ∀ n ∈ ns, n.Nameable)
    (cwd : List Text) : (absolute ns).resolve cwd = .ok (absolute ns) := by
  obtain ⟨q, hq⟩ := resolve_of_nameable (p := absolute ns) hnameable cwd
  rw [hq, eq_of_resolve_absolute hup hq]

end Path

/-! ## Trees -/

namespace FileTree

/-- Every entry has a name, and no two entries of a folder have the same one. -/
inductive Lawful : FileTree → Prop where
  | file (bytes : List Nat) : Lawful (.file bytes)
  | device (bytes : List Nat) : Lawful (.device bytes)
  | folder {es : List (Text × FileTree)} (distinct : (es.map Prod.fst).Nodup)
    (names : ∀ e ∈ es, e.1.IsName) (below : ∀ e ∈ es, Lawful e.2) : Lawful (.folder es)

variable {t u : FileTree} {ns : List Text}

theorem at?_cons_eq_some {n : Text} :
    t.at? (n :: ns) = some u ↔ ∃ v, Table.get? t.entries n = some v ∧ v.at? ns = some u := by
  rw [at?]
  cases Table.get? t.entries n with
  | none => simp
  | some v => simp

/-- A chain of names is followed in two parts. -/
theorem at?_append (t : FileTree) (ns ms : List Text) :
    t.at? (ns ++ ms) = (t.at? ns).bind fun u => u.at? ms := by
  induction ns generalizing t with
  | nil => rfl
  | cons n ns ih =>
    rw [List.cons_append, at?, at?]
    cases Table.get? t.entries n with
    | none => rfl
    | some v => exact ih v

/-- The entries of a lawful tree. -/
theorem Lawful.entry (h : t.Lawful) {n : Text} (hn : Table.get? t.entries n = some u) :
    n.IsName ∧ u.Lawful := by
  cases h with
  | file bytes | device bytes => cases hn
  | folder _ names below =>
    have hmem := Table.mem_of_get? hn
    exact ⟨names _ hmem, below _ hmem⟩

/-- What lies in a lawful tree is lawful, and it lies behind names. -/
theorem Lawful.at? (h : t.Lawful) (hat : t.at? ns = some u) :
    u.Lawful ∧ ∀ n ∈ ns, n.IsName := by
  induction ns generalizing t with
  | nil =>
    cases hat
    exact ⟨h, List.forall_mem_nil _⟩
  | cons n ns ih =>
    obtain ⟨v, hv, hat⟩ := at?_cons_eq_some.mp hat
    obtain ⟨hn, hlawful⟩ := h.entry hv
    obtain ⟨hu, hns⟩ := ih hlawful hat
    exact ⟨hu, List.forall_mem_cons.mpr ⟨hn, hns⟩⟩

/-! ## Discovering -/

section Discover

variable {filename here : Text} {denied : List Text}

/-- The least chain is one of the chains. -/
theorem mem_of_leastChain {cs : List (Text × List Text)} {ns : List Text}
    (h : leastChain cs = some ns) : ∃ c ∈ cs, ns = c.1 :: c.2 := by
  induction cs generalizing ns with
  | nil => cases h
  | cons c cs ih =>
    obtain ⟨n, ms⟩ := c
    have hfirst : ∃ c ∈ (n, ms) :: cs, n :: ms = c.1 :: c.2 :=
      ⟨(n, ms), List.mem_cons_self, rfl⟩
    rw [leastChain] at h
    split at h
    next =>
      cases h
      exact hfirst
    next =>
      cases h
      exact hfirst
    next hleast =>
      split at h
      next =>
        cases h
        exact hfirst
      next =>
        cases h
        obtain ⟨c, hc, heq⟩ := ih hleast
        exact ⟨c, List.mem_cons_of_mem _ hc, heq⟩

/-- The chains below a folder are those of its entries that are visited. -/
theorem mem_discoverBelow_iff {es : List (Text × FileTree)} {n : Text} {ns : List Text} :
    (n, ns) ∈ discoverBelow filename denied here es ↔
      visits denied here n = true ∧
        ∃ t, (n, t) ∈ es ∧ t.discover filename denied (here.below n) = some ns := by
  induction es with
  | nil => simp [discoverBelow]
  | cons e es ih =>
    obtain ⟨m, t⟩ := e
    rw [discoverBelow]
    cases hfound : t.discover filename denied (here.below m) with
    | none =>
      simp only [ih, List.mem_cons, Prod.mk.injEq]
      refine and_congr_right fun _ => exists_congr fun u => and_congr_left fun hu => ?_
      -- the first entry leads nowhere, so it is not the one
      have hne : ¬(n = m ∧ u = t) := by
        rintro ⟨rfl, rfl⟩
        rw [hfound] at hu
        cases hu
      rw [or_iff_right hne]
    | some ms =>
      by_cases hvisits : visits denied here m = true
      · simp only [if_pos hvisits, List.mem_cons, ih, Prod.mk.injEq]
        constructor
        · rintro (⟨rfl, rfl⟩ | ⟨hn, u, hu, hdiscover⟩)
          · exact ⟨hvisits, t, .inl ⟨rfl, rfl⟩, hfound⟩
          · exact ⟨hn, u, .inr hu, hdiscover⟩
        · rintro ⟨hn, u, ⟨rfl, rfl⟩ | hu, hdiscover⟩
          · rw [hfound] at hdiscover
            cases hdiscover
            exact .inl ⟨rfl, rfl⟩
          · exact .inr ⟨hn, u, hu, hdiscover⟩
      · simp only [if_neg hvisits, ih, List.mem_cons, Prod.mk.injEq]
        refine and_congr_right fun hn => exists_congr fun u => and_congr_left fun _ => ?_
        have hne : ¬(n = m ∧ u = t) := by
          rintro ⟨rfl, -⟩
          exact hvisits hn
        rw [or_iff_right hne]

/-- A folder that holds a file of a name has an entry of that name which is no folder. -/
theorem holdsFile_iff {es : List (Text × FileTree)} :
    holdsFile filename es = true ↔ ∃ u, Table.get? es filename = some u ∧ u.isFolder = false := by
  rw [holdsFile, Option.any_eq_true]
  simp only [Bool.not_eq_true']

/-- **What is discovered is there**: the chain leads to something of the name that is no folder. -/
theorem Lawful.at?_of_discover {chain : List Text} (h : t.Lawful)
    (hfound : t.discover filename denied here = some chain) :
    ∃ u, t.at? (chain ++ [filename]) = some u ∧ u.isFolder = false := by
  induction h generalizing chain here with
  | file bytes | device bytes =>
    rw [discover] at hfound
    cases hfound
  | @folder es distinct _ _ ih =>
    rw [discover] at hfound
    split at hfound
    next hholds =>
      cases hfound
      obtain ⟨u, hu, hfile⟩ := holdsFile_iff.mp hholds
      exact ⟨u, at?_cons_eq_some.mpr ⟨u, hu, rfl⟩, hfile⟩
    next =>
      -- the chain goes on below one of the entries, which is the one of its name
      obtain ⟨⟨n, ns⟩, hmem, rfl⟩ := mem_of_leastChain hfound
      obtain ⟨-, t, ht, hbelow⟩ := mem_discoverBelow_iff.mp hmem
      obtain ⟨u, hu, hfile⟩ := ih (n, t) ht hbelow
      exact ⟨u, at?_cons_eq_some.mpr ⟨t, Table.get?_of_mem distinct ht, hu⟩, hfile⟩

end Discover

end FileTree

/-! ## Looking up -/

namespace World

section Walk

variable {files t : FileTree} {here parts : List Text}

/-- A walk without double points ends where the names lead. -/
theorem at?_of_walk (hup : upward ∉ parts) (h : walk files here parts = .found t) :
    files.at? (here ++ parts) = some t := by
  induction parts generalizing here with
  | nil =>
    rw [List.append_nil]
    exact walk_nil_eq_found.mp h
  | cons part parts ih =>
    rw [List.mem_cons, not_or] at hup
    by_cases hfolder : ∃ es, files.at? here = some (.folder es)
    · obtain ⟨es, hes⟩ := hfolder
      rw [walk_of_folder hes, if_neg (Ne.symm hup.1)] at h
      split at h
      next => cases h
      next =>
        split at h
        next =>
          have hat := ih hup.2 h
          rwa [List.append_assoc, List.singleton_append] at hat
        next => cases h
    · rw [walk_of_not_folder hfolder] at h
      cases h

/-- Names that lead somewhere can be walked. -/
theorem walk_of_at? (hnames : ∀ part ∈ parts, part.IsName)
    (h : files.at? (here ++ parts) = some t) : walk files here parts = .found t := by
  induction parts generalizing here with
  | nil =>
    rw [List.append_nil] at h
    exact walk_nil_eq_found.mpr h
  | cons part parts ih =>
    obtain ⟨hpart, hparts⟩ := List.forall_mem_cons.mp hnames
    have hstep : files.at? ((here ++ [part]) ++ parts) = some t := by
      rw [List.append_assoc, List.singleton_append]
      exact h
    rw [FileTree.at?_append] at h
    obtain ⟨u, hu, hbelow⟩ := Option.bind_eq_some_iff.mp h
    obtain ⟨v, hv, -⟩ := FileTree.at?_cons_eq_some.mp hbelow
    cases u with
    | file bytes | device bytes => cases hv
    | folder es =>
      have hin : Table.contains es part = true := by
        rw [Table.contains]
        exact Option.isSome_of_eq_some hv
      rw [walk_of_folder hu, if_neg hpart.notUpward, if_neg (Nat.not_lt.mpr hpart.short),
        if_pos hin, ih hparts hstep]

end Walk

variable {w : World} {ns : List Text} {t : FileTree}

/-- **Looking up a path of names** is following them down the tree. -/
theorem find?_absolute (hnames : ∀ n ∈ ns, n.IsName)
    (hfits : (Path.absolute ns).toText.byteCount < pathLimit) (h : w.files.at? ns = some t) :
    w.find? (.absolute ns) = .ok (some t) := by
  have hname : (Path.absolute ns).toText.checkName = .ok () :=
    Text.checkName_eq_ok.mpr (Path.nameable_toText.mpr fun n hn => (hnames n hn).nameable)
  have hwalk : walk w.files (if (Path.absolute ns).isAbsolute then [] else w.cwd)
      (Path.absolute ns).parts = .found t := walk_of_at? hnames h
  rw [find?]
  simp only [hname, if_neg (Nat.not_le.mpr hfits), hwalk]

/-- What an absolute path without double points leads to lies there. -/
theorem at?_of_find? (hup : upward ∉ ns) (h : w.find? (.absolute ns) = .ok (some t)) :
    w.files.at? ns = some t := by
  rw [find?] at h
  split at h
  next => cases h
  next =>
    split at h
    next => cases h
    next =>
      split at h
      next hwalk =>
        cases h
        have hat : w.files.at? ([] ++ ns) = some t := at?_of_walk hup hwalk
        exact hat
      next => cases h
      next => cases h

/-- **What is discovered below a folder** is no folder, and the path is that of its names. -/
theorem at?_of_discover {filename : Text} {denied : List Text} {found : Path}
    (hlawful : w.files.Lawful) (hup : upward ∉ ns)
    (h : w.discover (.absolute ns) filename denied = .ok (some (some found))) :
    ∃ ms t, found = .absolute ms ∧ w.files.at? ms = some t ∧ t.isFolder = false := by
  obtain ⟨es, chain, hfolder, hchain, hresolve⟩ := exists_chain_of_discover h
  have hat := at?_of_find? hup hfolder
  obtain ⟨t, ht, hfile⟩ := (hlawful.at? hat).1.at?_of_discover hchain
  have hthere : w.files.at? (ns ++ (chain ++ [filename])) = some t := by
    rw [FileTree.at?_append, hat]
    exact ht
  -- every part is a name, so the path is resolved to itself
  have hnames := (hlawful.at? hthere).2
  have hup' : upward ∉ ns ++ (chain ++ [filename]) := fun hmem =>
    (hnames upward hmem).notUpward rfl
  exact ⟨_, t, Path.eq_of_resolve_absolute hup' hresolve, hthere, hfile⟩

end World

end RouteAtlas
