import RouteAtlas.Files.Discover
import RouteAtlas.Files.Locate
import RouteAtlas.Proofs.Text.Scalar

/-!
# What probing a path comes to

Most texts that no file can have as its name lead nowhere. Only a path that is too long is a fault,
and where a path leads somewhere, it can be resolved:

- `Text.Nameable`: the text can be given to a file system, and `Path.nameable_toText`: a path can
  when its parts can;
- `Path.resolve_of_nameable`: such a path can be resolved;
- `World.Overlong`: the path is too long as a whole, or it leads to a folder in which a name of it
  is too long, and `find?_eq_error_iff`: **nothing else is a fault**;
- `World.Blocked`: a search among several paths comes to one that is too long before it comes to a
  file, and `firstFile_of_blocked`, `firstFile_of_not_blocked`: what the search comes to, by
  induction over the paths;
- `sourcePaths`: the paths that are searched for the source of a module.
-/

namespace RouteAtlas

/-! ## Texts for a file system -/

namespace Text

/-- No code point of the text is kept out of file names, and none is NUL. -/
def Nameable (t : Text) : Prop := ∀ p ∈ t, p.isUnnameable = false ∧ p.is '\x00' = false

theorem checkName_eq_ok {t : Text} : t.checkName = .ok () ↔ t.Nameable := by
  have hunnameable : t.unnameable? = none ↔ ∀ p ∈ t, p.isUnnameable = false :=
    unencodableFrom_eq_none
  rw [checkName]
  constructor
  · intro h
    split at h
    next => cases h
    next hnone =>
      split at h
      next => cases h
      next hnul =>
        intro p hp
        refine ⟨hunnameable.mp hnone p hp, Bool.eq_false_iff.mpr fun hp0 => hnul ?_⟩
        exact List.any_eq_true.mpr ⟨p, hp, hp0⟩
  · intro h
    rw [hunnameable.mpr fun p hp => (h p hp).1]
    refine if_neg fun hany => ?_
    obtain ⟨p, hp, hp0⟩ := List.any_eq_true.mp hany
    rw [(h p hp).2] at hp0
    cases hp0

@[simp] theorem nameable_append {s t : Text} : Nameable (s ++ t) ↔ s.Nameable ∧ t.Nameable :=
  List.forall_mem_append

theorem nameable_join {sep : Text} (hsep : sep.Nameable) :
    ∀ {ts : List Text}, (join sep ts).Nameable ↔ ∀ t ∈ ts, t.Nameable
  | [] => by simp [join, Nameable]
  | [t] => by simp [join]
  | t :: u :: ts => by
    rw [join, nameable_append, nameable_append, nameable_join hsep, List.forall_mem_cons]
    · simp [hsep]
    · exact List.cons_ne_nil u ts

end Text

/-! ## Resolving -/

namespace Path

/-- A path has a root exactly when its text starts with a slash. -/
theorem isAbsolute_ofText_iff {t : Text} :
    (ofText t).isAbsolute = true ↔ Text.ofString "/" <+: t := by
  show decide (Root.ofText t ≠ .relative) = true ↔ _
  rw [decide_eq_true_eq]
  constructor
  · intro hroot
    cases t with
    | nil => exact absurd rfl hroot
    | cons p t =>
      by_cases hp : p.is '/' = true
      · exact ⟨t, by rw [CodePoint.eq_ofChar hp]; rfl⟩
      · rw [Root.ofText, List.takeWhile_cons, if_neg hp] at hroot
        exact absurd rfl hroot
  · rintro ⟨rest, rfl⟩
    -- at least one slash is counted, so the root is not the one of a relative path
    have hslash : (CodePoint.ofChar '/').is '/' = true := rfl
    show Root.ofText (.ofChar '/' :: rest) ≠ .relative
    rw [Root.ofText, List.takeWhile_cons, if_pos hslash, List.length_cons]
    split
    next hzero => exact absurd hzero (Nat.succ_ne_zero _)
    next => exact fun hne => nomatch hne
    next => exact fun hne => nomatch hne

theorem isAbsolute_join {p : Path} (h : p.isAbsolute = true) (q : Path) :
    (p.join q).isAbsolute = true := by
  unfold join
  split
  next hq => exact hq
  next => exact h

theorem isAbsolute_normalize {p : Path} (h : p.isAbsolute = true) :
    p.normalize.isAbsolute = true := h

/-- A path can be given to a file system exactly when its parts can. -/
theorem nameable_toText {p : Path} : p.toText.Nameable ↔ ∀ part ∈ p.parts, part.Nameable := by
  have hslash : (Text.ofString "/").Nameable := by unfold Text.Nameable; decide
  have hroot : p.root.toText.Nameable := by
    cases p.root <;> unfold Text.Nameable <;> decide
  have hjoined : (p.root.toText ++ Text.join (Text.ofString "/") p.parts).Nameable ↔
      ∀ part ∈ p.parts, part.Nameable := by
    rw [Text.nameable_append, Text.nameable_join hslash, and_iff_right hroot]
  rw [toText, ← hjoined]
  split
  next hempty =>
    rw [List.isEmpty_iff.mp hempty]
    unfold Text.Nameable
    decide
  next => rfl

/-- Climbing brings in no part but the one it climbs to. -/
theorem mem_climb {rooted : Bool} {stack : List Text} {part x : Text}
    (h : x ∈ climb rooted stack part) : x = part ∨ x ∈ stack := by
  unfold climb at h
  split at h
  next hup =>
    subst hup
    cases stack with
    | nil =>
      cases rooted with
      | true => cases h
      | false => exact .inl (List.mem_singleton.mp h)
    | cons last rest =>
      simp only at h
      split at h
      · exact List.mem_cons.mp h
      · exact .inr (List.mem_cons_of_mem last h)
  next => exact List.mem_cons.mp h

theorem check_of_nameable {root : Root} :
    ∀ {parts stack : List Text}, (∀ part ∈ parts, part.Nameable) → (∀ part ∈ stack, part.Nameable) →
      check root stack parts = .ok ()
  | [], _, _, _ => rfl
  | part :: parts, stack, hparts, hstack => by
    obtain ⟨hpart, hparts⟩ := List.forall_mem_cons.mp hparts
    have hclimb : ∀ x ∈ climb (root ≠ .relative) stack part, x.Nameable := by
      intro x hx
      rcases mem_climb hx with rfl | hx
      · exact hpart
      · exact hstack x hx
    have hname : ∀ r : Root,
        (toText ⟨r, (climb (root ≠ .relative) stack part).reverse⟩).checkName = .ok () := by
      intro r
      rw [Text.checkName_eq_ok, nameable_toText]
      exact fun x hx => hclimb x (List.mem_reverse.mp hx)
    rw [check]
    simp only [hname, check_of_nameable hparts hclimb, ite_self]

/-- A path of nameable parts can be resolved. -/
theorem resolve_of_nameable {p : Path} (h : ∀ part ∈ p.parts, part.Nameable) (cwd : List Text) :
    ∃ q, p.resolve cwd = .ok q := by
  have hcheck : check p.root [] p.parts = .ok () :=
    check_of_nameable h fun _ hx => nomatch hx
  rw [resolve, hcheck]
  exact ⟨_, rfl⟩

end Path

/-! ## Looking up -/

namespace World

section Walk

variable {files : FileTree} {here here' parts : List Text} {part : Text}

theorem walk_nil_eq_found {t : FileTree} :
    walk files here [] = .found t ↔ files.at? here = some t := by
  rw [walk]
  cases files.at? here <;> simp

/-- One step from a folder. -/
theorem walk_of_folder {es : List (Text × FileTree)} (h : files.at? here = some (.folder es))
    (part : Text) (parts : List Text) :
    walk files here (part :: parts) =
      if part = upward then walk files here.dropLast parts
      else if maxName < part.byteCount then .tooLong
      else if Table.contains es part then walk files (here ++ [part]) parts
      else .missing := by
  rw [walk, h]

/-- Nothing lies below a place that is no folder. -/
theorem walk_of_not_folder (h : ¬∃ es, files.at? here = some (.folder es)) (part : Text)
    (parts : List Text) : walk files here (part :: parts) = .missing := by
  rw [walk]
  split
  next es hes => exact absurd ⟨es, hes⟩ h
  next => rfl

/-- The walk along the parts reaches a folder in which the next name is too long. -/
def ReachesLongName (files : FileTree) (here parts : List Text) : Prop :=
  ∃ before part after es, parts = before ++ part :: after ∧ maxName < part.byteCount ∧
    walk files here before = .found (.folder es)

/-- The first name is too long, or a later one is. -/
theorem reachesLongName_cons :
    ReachesLongName files here (part :: parts) ↔
      (maxName < part.byteCount ∧ ∃ es, walk files here [] = .found (.folder es)) ∨
        ∃ before long after es, parts = before ++ long :: after ∧ maxName < long.byteCount ∧
          walk files here (part :: before) = .found (.folder es) := by
  constructor
  · rintro ⟨before, long, after, es, hparts, hlong, hwalk⟩
    cases before with
    | nil =>
      cases hparts
      exact .inl ⟨hlong, es, hwalk⟩
    | cons q before =>
      cases hparts
      exact .inr ⟨before, long, after, es, rfl, hlong, hwalk⟩
  · rintro (⟨hlong, es, hwalk⟩ | ⟨before, long, after, es, rfl, hlong, hwalk⟩)
    · exact ⟨[], part, parts, es, rfl, hlong, hwalk⟩
    · exact ⟨part :: before, long, after, es, rfl, hlong, hwalk⟩

/-- Where a short name leads on, what is reached behind it is reached from there. -/
theorem reachesLongName_of_step (hshort : ¬maxName < part.byteCount)
    (hstep : ∀ ps, walk files here (part :: ps) = walk files here' ps) :
    ReachesLongName files here (part :: parts) ↔ ReachesLongName files here' parts := by
  rw [reachesLongName_cons, or_iff_right fun h => hshort h.1]
  simp only [hstep]
  rfl

/-- A walk ends for a name that is too long exactly when it reaches the folder before it. -/
theorem walk_eq_tooLong_iff :
    walk files here parts = .tooLong ↔ ReachesLongName files here parts := by
  induction parts generalizing here with
  | nil =>
    refine iff_of_false ?_ ?_
    · rw [walk]
      split <;> exact fun h => nomatch h
    · rintro ⟨before, part, after, es, hparts, -⟩
      exact absurd hparts.symm (by simp)
  | cons part parts ih =>
    by_cases hfolder : ∃ es, files.at? here = some (.folder es)
    · obtain ⟨es, hes⟩ := hfolder
      -- each test on the first name is decided here once, for the whole path and for its beginnings
      have hwalk := walk_of_folder hes part
      by_cases hup : part = upward
      · have hshort : ¬maxName < part.byteCount := by rw [hup]; decide
        simp only [if_pos hup] at hwalk
        rw [hwalk, ih, reachesLongName_of_step hshort hwalk]
      · simp only [if_neg hup] at hwalk
        by_cases hlong : maxName < part.byteCount
        · refine iff_of_true ((hwalk parts).trans (if_pos hlong)) ?_
          exact reachesLongName_cons.mpr (.inl ⟨hlong, es, walk_nil_eq_found.mpr hes⟩)
        · simp only [if_neg hlong] at hwalk
          by_cases hin : Table.contains es part
          · simp only [if_pos hin] at hwalk
            rw [hwalk, ih, reachesLongName_of_step hlong hwalk]
          · simp only [if_neg hin] at hwalk
            rw [reachesLongName_cons]
            simp [hwalk, hlong]
    · rw [reachesLongName_cons]
      simp [walk_of_not_folder hfolder, walk_nil_eq_found, not_exists.mp hfolder]

end Walk

/-- The path is too long: as a whole, or in a name whose folder is there. -/
def Overlong (w : World) (p : Path) : Prop :=
  p.toText.Nameable ∧ (pathLimit ≤ p.toText.byteCount ∨
    ReachesLongName w.files (if p.isAbsolute then [] else w.cwd) p.parts)

section Lookup

variable {w : World} {p : Path}

/-- **Only a path that is too long is a fault.** -/
theorem find?_eq_error_iff {e : PathFault} :
    w.find? p = .error e ↔ w.Overlong p ∧ e = .tooLong p.toText := by
  rw [find?, Overlong]
  cases hname : p.toText.checkName with
  | error fault =>
    have hnot : ¬p.toText.Nameable := fun h => by
      rw [Text.checkName_eq_ok.mpr h] at hname
      cases hname
    simp [hnot]
  | ok u =>
    rw [and_iff_right (Text.checkName_eq_ok.mp hname), ← walk_eq_tooLong_iff]
    by_cases hlimit : pathLimit ≤ p.toText.byteCount
    · simp only [hlimit, if_true, true_or, true_and, Except.error.injEq]
      exact eq_comm
    · simp only [hlimit, false_or, if_false]
      cases walk w.files (if p.isAbsolute then [] else w.cwd) p.parts with
      | found t => simp
      | missing => simp
      | tooLong =>
        simp only [Except.error.injEq, true_and]
        exact eq_comm

/-- What lies somewhere lies at a path that can be resolved. -/
theorem exists_resolve_of_find? {t : FileTree} (h : w.find? p = .ok (some t)) :
    ∃ q, p.resolve w.cwd = .ok q := by
  refine Path.resolve_of_nameable (Path.nameable_toText.mp (Text.checkName_eq_ok.mp ?_)) w.cwd
  rw [find?] at h
  split at h
  next => cases h
  next hname => exact hname

/-- A fault in probing for a file is one of its path. -/
theorem isFile_eq_error_iff {e : PathFault} :
    w.isFile p = .error e ↔ w.Overlong p ∧ e = .tooLong p.toText := by
  rw [← find?_eq_error_iff, isFile]
  cases w.find? p with
  | error fault =>
    show Except.error fault = .error e ↔ _
    rw [Except.error.injEq, Except.error.injEq]
  | ok found => exact iff_of_false (fun h => nomatch h) fun h => nomatch h

/-- A file can be resolved. -/
theorem exists_resolve_of_isFile (h : w.isFile p = .ok true) : ∃ q, w.resolve p = .ok q := by
  rw [isFile] at h
  cases hfind : w.find? p with
  | error fault =>
    rw [hfind] at h
    cases h
  | ok found =>
    cases found with
    | none =>
      rw [hfind] at h
      cases h
    | some t => exact exists_resolve_of_find? hfind

/-- What is discovered is the end of a chain of folders below the one that is searched, resolved. -/
theorem exists_chain_of_discover {filename : Text} {denied : List Text} {found : Path}
    (h : w.discover p filename denied = .ok (some (some found))) :
    ∃ es chain, w.find? p = .ok (some (.folder es)) ∧
      (FileTree.folder es).discover filename denied p.toText = some chain ∧
      w.resolve (p.join ⟨.relative, chain ++ [filename]⟩) = .ok found := by
  rw [discover] at h
  split at h
  next => cases h
  next es hfolder =>
    split at h
    next => cases h
    next chain hchain =>
      split at h
      next => cases h
      next hresolve =>
        cases h
        exact ⟨es, chain, hfolder, hchain, hresolve⟩
  next => cases h

end Lookup

/-! ## Searching for a file -/

/-- The search among the paths comes to one that is too long before it comes to a file. -/
def Blocked (w : World) (ps : List Path) : Prop :=
  ∃ before p after, ps = before ++ p :: after ∧ (∀ q ∈ before, w.isFile q = .ok false) ∧
    w.Overlong p

theorem blocked_cons {w : World} {p : Path} {ps : List Path} :
    w.Blocked (p :: ps) ↔ w.Overlong p ∨ w.isFile p = .ok false ∧ w.Blocked ps := by
  constructor
  · rintro ⟨before, q, after, hps, hbefore, hlong⟩
    cases before with
    | nil =>
      cases hps
      exact .inl hlong
    | cons r before =>
      cases hps
      obtain ⟨hp, hbefore⟩ := List.forall_mem_cons.mp hbefore
      exact .inr ⟨hp, before, q, after, rfl, hbefore, hlong⟩
  · rintro (hlong | ⟨hp, before, q, after, rfl, hbefore, hlong⟩)
    · exact ⟨[], p, ps, rfl, List.forall_mem_nil _, hlong⟩
    · exact ⟨p :: before, q, after, rfl, List.forall_mem_cons.mpr ⟨hp, hbefore⟩, hlong⟩

/-- Where every path can be probed, nothing blocks the search. -/
theorem not_blocked_of_isFile {w : World} {ps : List Path}
    (h : ∀ p ∈ ps, ∃ there, w.isFile p = .ok there) : ¬w.Blocked ps := by
  rintro ⟨before, p, after, rfl, -, hlong⟩
  obtain ⟨there, hp⟩ := h p (List.mem_append_right before List.mem_cons_self)
  rw [isFile_eq_error_iff.mpr ⟨hlong, rfl⟩] at hp
  cases hp

/-- A search that is blocked fails. -/
theorem firstFile_of_blocked {w : World} :
    ∀ {ps : List Path}, w.Blocked ps → ∃ t, w.firstFile ps = .error (.tooLong t)
  | [], h => by
    obtain ⟨before, p, after, hps, -⟩ := h
    exact absurd hps.symm (by simp)
  | p :: ps, h => by
    rcases blocked_cons.mp h with hlong | ⟨hp, hps⟩
    · rw [firstFile, isFile_eq_error_iff.mpr ⟨hlong, rfl⟩]
      exact ⟨_, rfl⟩
    · rw [firstFile, hp]
      exact firstFile_of_blocked hps

/-- Any other search succeeds, and it finds nothing only where there is nothing. -/
theorem firstFile_of_not_blocked {w : World} :
    ∀ {ps : List Path}, ¬w.Blocked ps → ∃ found, w.firstFile ps = .ok found ∧
      (found = none ↔ ∀ p ∈ ps, w.isFile p = .ok false)
  | [], _ => ⟨none, rfl, iff_of_true rfl (List.forall_mem_nil _)⟩
  | p :: ps, h => by
    rw [blocked_cons, not_or] at h
    obtain ⟨hfits, hrest⟩ := h
    rw [firstFile, List.forall_mem_cons]
    cases hp : w.isFile p with
    | error e => exact absurd (isFile_eq_error_iff.mp hp).1 hfits
    | ok there =>
      cases there with
      | true =>
        obtain ⟨q, hq⟩ := exists_resolve_of_isFile hp
        exact ⟨some q, by rw [hq]; rfl, by simp⟩
      | false =>
        obtain ⟨found, hfound, hnone⟩ := firstFile_of_not_blocked fun hps => hrest ⟨hp, hps⟩
        exact ⟨found, hfound, by simp [hnone]⟩

end World

/-! ## Locating a module -/

/-- The paths where a module is looked for have the root of the folder, or one of their own. -/
theorem isAbsolute_candidate {folder : Path} (h : folder.isAbsolute = true)
    (specifier extension : Text) : (candidate folder specifier extension).isAbsolute = true :=
  Path.isAbsolute_normalize (Path.isAbsolute_join h _)

/-- The paths where the source of a module is looked for; a blank specifier names none. -/
def sourcePaths (folder : Path) (extensions : List Text) (specifier : Text) : List Path :=
  if specifier.strip.isEmpty then [] else candidates folder specifier.strip extensions

/-- Locating a module is searching its paths. -/
theorem World.locate_eq (w : World) (folder : Path) (specifier : Text) (extensions : List Text) :
    w.locate folder specifier extensions =
      w.firstFile (sourcePaths folder extensions specifier) := by
  rw [locate, sourcePaths]
  split <;> rfl

end RouteAtlas
