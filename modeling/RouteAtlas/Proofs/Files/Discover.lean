import RouteAtlas.Proofs.Files.Lawful
import RouteAtlas.Proofs.Text.Order

/-!
# A walk finds the first file of a tree

A walk visits folders in the order of their names, each before what is below it. What it finds can
be told without the walk: of all chains of folders that lead to a file of the name, it is the first
one in the lexicographic order of chains, where folders that are denied, or whose paths are too long
to be listed, do not count.

- `FileTree.LeadsTo`, `FileTree.LeastChain`: the chains that lead to a file of a name, and the first
  of them; names are compared by code point, and chains name by name;
- `leastChain_le`: what is chosen among the entries of one folder (**step lemma**);
- `Lawful.discover_cases`: a walk ends at the least chain, or there is none, by induction over the
  tree (**run lemma**);
- `FileTree.Relisted`: the same tree with its entries listed in another order, and
  `Relisted.discover_eq`: a walk comes to the same there.
-/

namespace RouteAtlas

/-! ## Paths of folders -/

namespace Text

theorem byteCount_append (s t : Text) : (s ++ t).byteCount = s.byteCount + t.byteCount := by
  have hstart : ∀ (t : Text) (n : Nat),
      t.foldl (fun n p => n + p.nameBytes) n = n + t.byteCount := by
    intro t
    induction t with
    | nil => exact fun n => rfl
    | cons p t ih =>
      intro n
      rw [byteCount, List.foldl_cons, List.foldl_cons, ih, ih (0 + p.nameBytes)]
      omega
  rw [byteCount, List.foldl_append, hstart]
  rfl

/-- The path of an entry is no shorter than that of its folder. -/
theorem byteCount_le_below (here n : Text) : here.byteCount ≤ (here.below n).byteCount := by
  unfold below
  split
  · rw [byteCount_append]
    omega
  · rw [byteCount_append, byteCount_append]
    omega

/-- The path of a folder is no shorter than those on the way to it. -/
theorem byteCount_le_foldl_below (here : Text) (chain : List Text) :
    here.byteCount ≤ (chain.foldl below here).byteCount := by
  induction chain generalizing here with
  | nil => exact Nat.le_refl _
  | cons n ns ih => exact Nat.le_trans (byteCount_le_below here n) (ih (here.below n))

end Text

namespace FileTree

variable {t u : FileTree} {es : List (Text × FileTree)} {filename here n : Text}
  {denied chain ns : List Text}

theorem visits_iff :
    visits denied here n = true ↔ n ∉ denied ∧ (here.below n).byteCount < World.pathLimit := by
  rw [visits, Bool.and_eq_true, decide_eq_true_eq, decide_eq_true_eq]

/-! ## Chains that lead to a file -/

/-- The chain leads from the folder at the path `here` to one that directly holds something of the
given name that is no folder. None of the folders on the way is denied, and none has too long a
path, which is to say that the last one has not. -/
structure LeadsTo (t : FileTree) (filename : Text) (denied : List Text) (here : Text)
    (chain : List Text) : Prop where
  holds : ∃ es u, t.at? chain = some (.folder es) ∧ Table.get? es filename = some u ∧
    u.isFolder = false
  allowed : ∀ n ∈ chain, n ∉ denied
  listed : (chain.foldl Text.below here).byteCount < World.pathLimit

/-- The first of the chains that lead to a file of the name: chains are compared name by name, names
by code point, and a proper beginning comes before what goes on with it. -/
structure LeastChain (t : FileTree) (filename : Text) (denied : List Text) (here : Text)
    (chain : List Text) : Prop where
  leads : t.LeadsTo filename denied here chain
  least : ∀ other, t.LeadsTo filename denied here other →
    chain.map Text.vals ≤ other.map Text.vals

/-- There is one first chain at most. -/
theorem LeastChain.unique {chain' : List Text} (h : t.LeastChain filename denied here chain)
    (h' : t.LeastChain filename denied here chain') : chain = chain' := by
  have hle := h.least chain' h'.leads
  have hge := h'.least chain h.leads
  exact List.map_inj_right (fun _ _ => Text.vals_injective) |>.mp (hle.antisymm hge)

/-- No chain leads on from anything but a folder. -/
theorem not_leadsTo (h : t.isFolder = false) : ¬t.LeadsTo filename denied here chain := by
  rintro ⟨⟨es, u, hat, -⟩, -, -⟩
  cases t with
  | folder es => cases h
  | file bytes | device bytes => cases chain <;> cases hat

/-- The folder where a chain starts has a path that is short enough, too. -/
theorem LeadsTo.here_lt (h : t.LeadsTo filename denied here chain) :
    here.byteCount < World.pathLimit :=
  (Text.byteCount_le_foldl_below here chain).trans_lt h.listed

/-- The chain of no names leads to the folder itself. -/
theorem leadsTo_nil_iff (hhere : here.byteCount < World.pathLimit) :
    (folder es).LeadsTo filename denied here [] ↔ holdsFile filename es = true := by
  constructor
  · rintro ⟨⟨es', u, hat, hfile⟩, -, -⟩
    cases hat
    exact holdsFile_iff.mpr ⟨u, hfile⟩
  · intro h
    obtain ⟨u, hfile⟩ := holdsFile_iff.mp h
    exact ⟨⟨es, u, rfl, hfile⟩, List.forall_mem_nil _, hhere⟩

/-- A longer chain leads to an entry that is not denied, and from there on. -/
theorem leadsTo_cons_iff :
    (folder es).LeadsTo filename denied here (n :: ns) ↔
      n ∉ denied ∧ ∃ u, Table.get? es n = some u ∧ u.LeadsTo filename denied (here.below n) ns := by
  constructor
  · rintro ⟨⟨es', v, hat, hfile⟩, hallowed, hlisted⟩
    obtain ⟨hn, hns⟩ := List.forall_mem_cons.mp hallowed
    obtain ⟨u, hu, hat⟩ := at?_cons_eq_some.mp hat
    exact ⟨hn, u, hu, ⟨es', v, hat, hfile⟩, hns, hlisted⟩
  · rintro ⟨hn, u, hu, ⟨es', v, hat, hfile⟩, hns, hlisted⟩
    exact ⟨⟨es', v, at?_cons_eq_some.mpr ⟨u, hu, hat⟩, hfile⟩,
      List.forall_mem_cons.mpr ⟨hn, hns⟩, hlisted⟩

/-- A chain leads to something of the name when it lies behind it and is no folder. -/
theorem leadsTo_iff :
    t.LeadsTo filename denied here chain ↔
      (∃ u, t.at? (chain ++ [filename]) = some u ∧ u.isFolder = false) ∧ (∀ n ∈ chain, n ∉ denied) ∧
        (chain.foldl Text.below here).byteCount < World.pathLimit := by
  constructor
  · rintro ⟨⟨es, u, hat, hu, hfile⟩, hallowed, hlisted⟩
    refine ⟨⟨u, ?_, hfile⟩, hallowed, hlisted⟩
    rw [at?_append, hat]
    exact at?_cons_eq_some.mpr ⟨u, hu, rfl⟩
  · rintro ⟨⟨u, hat, hfile⟩, hallowed, hlisted⟩
    rw [at?_append] at hat
    obtain ⟨v, hv, hbelow⟩ := Option.bind_eq_some_iff.mp hat
    obtain ⟨u', hu, hend⟩ := at?_cons_eq_some.mp hbelow
    cases hend
    cases v with
    | file bytes | device bytes => cases hu
    | folder es => exact ⟨⟨es, u, hv, hu, hfile⟩, hallowed, hlisted⟩

/-! ## Searching one folder -/

theorem leastChain_eq_none {cs : List (Text × List Text)} : leastChain cs = none ↔ cs = [] := by
  cases cs with
  | nil => exact iff_of_true rfl rfl
  | cons c cs =>
    refine iff_of_false ?_ (List.cons_ne_nil c cs)
    rw [leastChain]
    split
    next => exact Option.some_ne_none _
    next => exact Option.some_ne_none _
    next => split <;> exact Option.some_ne_none _

/-- No chain starts with a lesser name than the least one. -/
theorem leastChain_le {cs : List (Text × List Text)} (h : leastChain cs = some (n :: ns)) :
    ∀ c ∈ cs, n.le c.1 = true := by
  induction cs generalizing n ns with
  | nil => cases h
  | cons c cs ih =>
    obtain ⟨m, ms⟩ := c
    rw [List.forall_mem_cons]
    rw [leastChain] at h
    split at h
    next hnone =>
      cases h
      rw [leastChain_eq_none.mp hnone]
      exact ⟨Text.le_refl _, List.forall_mem_nil _⟩
    next hempty =>
      obtain ⟨c, -, hc⟩ := mem_of_leastChain hempty
      cases hc
    next hleast =>
      split at h
      next hle =>
        cases h
        exact ⟨Text.le_refl _, fun c hc => Text.le_trans hle (ih hleast c hc)⟩
      next hgt =>
        cases h
        have htotal := Text.le_total m n
        rw [Bool.or_eq_true, or_iff_right hgt] at htotal
        exact ⟨htotal, ih hleast⟩

/-! ## Searching a tree -/

/-- A chain that starts with a lesser name comes first; of two that start with one name, the first
is the one that goes on with the first chain. -/
theorem map_vals_cons_le {m : Text} {ms : List Text} (hle : n.le m = true)
    (hrest : n = m → ns.map Text.vals ≤ ms.map Text.vals) :
    (n :: ns).map Text.vals ≤ (m :: ms).map Text.vals := by
  rw [← not_lt, List.map_cons, List.map_cons, List.cons_lt_cons_iff, not_or]
  refine ⟨((Text.le_iff n m).mp hle).not_gt, ?_⟩
  rintro ⟨heq, hlt⟩
  exact (hrest (Text.vals_injective heq.symm)).not_gt hlt

/-- **A search ends at the least chain**, unless no chain leads to a file of the name. -/
theorem Lawful.discover_cases (h : t.Lawful) (filename : Text) (denied : List Text)
    (hhere : here.byteCount < World.pathLimit) :
    (∃ chain, t.discover filename denied here = some chain ∧
        t.LeastChain filename denied here chain) ∨
      t.discover filename denied here = none ∧ ∀ chain, ¬t.LeadsTo filename denied here chain := by
  induction h generalizing here with
  | file bytes | device bytes => exact .inr ⟨by rw [discover], fun _ => not_leadsTo rfl⟩
  | @folder es distinct _ _ ih =>
    rw [discover]
    by_cases hholds : holdsFile filename es = true
    · rw [if_pos hholds]
      exact .inl ⟨[], rfl, (leadsTo_nil_iff hhere).mpr hholds,
        fun _ _ => not_lt.mp (List.not_lt_nil _)⟩
    · rw [if_neg hholds]
      -- every chain to a file goes on below an entry, and the search found a chain there
      have hbelow : ∀ other, (FileTree.folder es).LeadsTo filename denied here other →
          ∃ m u ms ks, other = m :: ms ∧ (m, u) ∈ es ∧
            u.discover filename denied (here.below m) = some ks ∧
            ks.map Text.vals ≤ ms.map Text.vals ∧
            (m, ks) ∈ discoverBelow filename denied here es := by
        intro other hother
        cases other with
        | nil => exact absurd ((leadsTo_nil_iff hhere).mp hother) hholds
        | cons m ms =>
          obtain ⟨hm, u, hu, hleads⟩ := leadsTo_cons_iff.mp hother
          have hmem := Table.mem_of_get? hu
          have hvisits : visits denied here m = true := visits_iff.mpr ⟨hm, hleads.here_lt⟩
          rcases ih (m, u) hmem hleads.here_lt with ⟨ks, hks, hleast⟩ | ⟨-, hnone⟩
          · exact ⟨m, u, ms, ks, rfl, hmem, hks, hleast.least ms hleads,
              mem_discoverBelow_iff.mpr ⟨hvisits, u, hmem, hks⟩⟩
          · exact absurd hleads (hnone ms)
      cases hleast : leastChain (discoverBelow filename denied here es) with
      | none =>
        refine .inr ⟨rfl, fun chain hchain => ?_⟩
        obtain ⟨m, u, ms, ks, -, -, -, -, hmem⟩ := hbelow chain hchain
        rw [leastChain_eq_none.mp hleast] at hmem
        cases hmem
      | some chain =>
        obtain ⟨⟨n, ns⟩, hmem, rfl⟩ := mem_of_leastChain hleast
        obtain ⟨hvisits, v, hv, hdiscover⟩ := mem_discoverBelow_iff.mp hmem
        obtain ⟨hn, hshort⟩ := visits_iff.mp hvisits
        have hget := Table.get?_of_mem distinct hv
        rcases ih (n, v) hv hshort with ⟨ns', hns', hfirst⟩ | ⟨hnone, -⟩
        · rw [hdiscover] at hns'
          cases hns'
          refine .inl ⟨_, rfl, leadsTo_cons_iff.mpr ⟨hn, v, hget, hfirst.leads⟩, ?_⟩
          intro other hother
          obtain ⟨m, u, ms, ks, rfl, hu, hks, hle, hbelow⟩ := hbelow other hother
          refine map_vals_cons_le (leastChain_le hleast _ hbelow) ?_
          -- no other entry has the same name
          rintro rfl
          rw [Table.get?_of_mem distinct hu] at hget
          cases hget
          rw [hdiscover] at hks
          cases hks
          exact hle
        · rw [hdiscover] at hnone
          cases hnone

/-! ## Other listings -/

/-- The same tree, with the entries of some of its folders listed in another order. -/
inductive Relisted : FileTree → FileTree → Prop where
  | refl (t : FileTree) : Relisted t t
  /-- The entries of a folder stand in another order. -/
  | perm {es es' : List (Text × FileTree)} (h : es.Perm es') : Relisted (.folder es) (.folder es')
  /-- Something in a folder is listed otherwise. -/
  | entry (before after : List (Text × FileTree)) (n : Text) {t t' : FileTree}
    (h : Relisted t t') :
    Relisted (.folder (before ++ (n, t) :: after)) (.folder (before ++ (n, t') :: after))
  | trans {t u v : FileTree} (h : Relisted t u) (h' : Relisted u v) : Relisted t v

namespace Relisted

variable {t' : FileTree}

theorem symm (h : Relisted t t') : Relisted t' t := by
  induction h with
  | refl t => exact .refl t
  | perm h => exact .perm h.symm
  | entry before after n _ ih => exact .entry before after n ih
  | trans _ _ ih ih' => exact .trans ih' ih

theorem isFolder_eq (h : Relisted t t') : t'.isFolder = t.isFolder := by
  induction h with
  | refl t => rfl
  | perm _ => rfl
  | entry _ _ _ _ _ => rfl
  | trans _ _ ih ih' => exact ih'.trans ih

/-- The names of a tree do not depend on how it is listed. -/
theorem lawful (h : Relisted t t') (hl : t.Lawful) : t'.Lawful := by
  induction h with
  | refl t => exact hl
  | perm h =>
    cases hl with
    | folder distinct names below =>
      exact .folder ((h.map Prod.fst).nodup_iff.mp distinct)
        (fun e he => names e (h.mem_iff.mpr he)) fun e he => below e (h.mem_iff.mpr he)
  | entry before after n _ ih =>
    cases hl with
    | folder distinct names below =>
      rw [List.forall_mem_append, List.forall_mem_cons] at names below
      obtain ⟨hbefore, hentry, hafter⟩ := below
      refine .folder ?_ ?_ ?_
      · rwa [List.map_append, List.map_cons] at distinct ⊢
      · rw [List.forall_mem_append, List.forall_mem_cons]
        exact names
      · rw [List.forall_mem_append, List.forall_mem_cons]
        exact ⟨hbefore, ih hentry, hafter⟩
  | trans _ _ ih ih' => exact ih' (ih hl)

/-- What lies in a tree lies at the same place however it is listed. -/
theorem at? (h : Relisted t t') (hl : t.Lawful) (hat : t.at? ns = some u) :
    ∃ u', t'.at? ns = some u' ∧ Relisted u u' := by
  induction h generalizing ns u with
  | refl t => exact ⟨u, hat, .refl u⟩
  | perm h =>
    cases ns with
    | nil =>
      cases hat
      exact ⟨_, rfl, .perm h⟩
    | cons n ns =>
      obtain ⟨v, hv, hat⟩ := at?_cons_eq_some.mp hat
      cases (Relisted.perm h).lawful hl with
      | folder distinct _ _ =>
        have hv' := Table.get?_of_mem distinct (h.mem_iff.mp (Table.mem_of_get? hv))
        exact ⟨u, at?_cons_eq_some.mpr ⟨v, hv', hat⟩, .refl u⟩
  | entry before after n hrel ih =>
    cases ns with
    | nil =>
      cases hat
      exact ⟨_, rfl, .entry before after n hrel⟩
    | cons m ns =>
      obtain ⟨v, hv, hat⟩ := at?_cons_eq_some.mp hat
      have hmem := Table.mem_of_get? hv
      cases (Relisted.entry before after n hrel).lawful hl with
      | folder distinct _ _ =>
        rcases List.mem_append.mp hmem with hmem | hmem
        · have hv' := Table.get?_of_mem distinct (List.mem_append_left _ hmem)
          exact ⟨u, at?_cons_eq_some.mpr ⟨v, hv', hat⟩, .refl u⟩
        · rcases List.mem_cons.mp hmem with heq | hmem
          · -- the entry that is listed otherwise
            cases heq
            cases hl with
            | folder _ _ below =>
              have hbelow := below _ (List.mem_append_right _ List.mem_cons_self)
              obtain ⟨u', hu', hrel'⟩ := ih hbelow hat
              have hv' := Table.get?_of_mem distinct (List.mem_append_right _ List.mem_cons_self)
              exact ⟨u', at?_cons_eq_some.mpr ⟨_, hv', hu'⟩, hrel'⟩
          · have hv' := Table.get?_of_mem distinct
              (List.mem_append_right _ (List.mem_cons_of_mem _ hmem))
            exact ⟨u, at?_cons_eq_some.mpr ⟨v, hv', hat⟩, .refl u⟩
  | trans h _ ih ih' =>
    obtain ⟨v, hv, hrel⟩ := ih hl hat
    obtain ⟨u', hu', hrel'⟩ := ih' (h.lawful hl) hv
    exact ⟨u', hu', hrel.trans hrel'⟩

/-- What is a folder in one listing is one in the other. -/
theorem exists_folder (h : Relisted (.folder es) t') : ∃ es', t' = .folder es' := by
  cases t' with
  | folder es' => exact ⟨es', rfl⟩
  | file bytes | device bytes => exact nomatch h.isFolder_eq

theorem leadsTo (h : Relisted t t') (hl : t.Lawful)
    (hleads : t.LeadsTo filename denied here chain) : t'.LeadsTo filename denied here chain := by
  rw [leadsTo_iff] at hleads ⊢
  obtain ⟨⟨u, hat, hfile⟩, hchain⟩ := hleads
  obtain ⟨u', hu', hrel⟩ := h.at? hl hat
  exact ⟨⟨u', hu', hrel.isFolder_eq.trans hfile⟩, hchain⟩

/-- **Searching does not depend on how folders are listed.** -/
theorem discover_eq (h : Relisted t t') (hl : t.Lawful) (filename : Text) (denied : List Text)
    (hhere : here.byteCount < World.pathLimit) :
    t'.discover filename denied here = t.discover filename denied here := by
  have hl' := h.lawful hl
  rcases hl.discover_cases filename denied hhere with ⟨chain, hfound, hleast⟩ | ⟨hnone, hno⟩
  · rcases hl'.discover_cases filename denied hhere with ⟨chain', hfound', hleast'⟩ | ⟨-, hno'⟩
    · have hleast'' : t.LeastChain filename denied here chain' :=
        ⟨h.symm.leadsTo hl' hleast'.leads,
          fun other hother => hleast'.least other (h.leadsTo hl hother)⟩
      rw [hfound, hfound', hleast.unique hleast'']
    · exact absurd (h.leadsTo hl hleast.leads) (hno' chain)
  · rcases hl'.discover_cases filename denied hhere with ⟨chain', -, hleast'⟩ | ⟨hnone', -⟩
    · exact absurd (h.symm.leadsTo hl' hleast'.leads) (hno chain')
    · rw [hnone, hnone']

end Relisted

end FileTree

end RouteAtlas
