import RouteAtlas.Json.Reader
import RouteAtlas.Proofs.Json.Printer
import RouteAtlas.Proofs.Table

/-!
# Printed values are read back

The reader takes from the front of a text what the printer has put there, whatever stands behind it:

- `stringTo_quoted`: the inside of a string, one step per code point (`Escaped.stringTo`);
- `ReadsBack`: a value is read back by any fuel above the length of its print;
- `elements_printValues`, `members_printMembers`: the same for the inside of arrays and objects, by
  induction over their parts;
- `Plain.parse_print_append`, `Plain.parse_print`: **reading undoes printing** for values without
  numbers.
-/

namespace RouteAtlas

/-- A code point is found under its own number. -/
theorem CodePoint.ofNat_val (p : CodePoint) : CodePoint.ofNat p.val = p := by
  rw [CodePoint.ofNat, dif_pos p.isLt]

namespace Json

/-! ## Strings -/

/-- Only the first four characters count. -/
theorem hexFour?_append {s : Text} (h : s.length = 4) (r : Text) :
    hexFour? (s ++ r) = hexFour? s := by
  match s, h with
  | [_, _, _, _], _ => rfl

theorem length_hex : ∀ n < 0x20, (Text.hex 4 n).length = 4 := by
  decide +kernel

theorem hexFour?_hex : ∀ n < 0x20, hexFour? (Text.hex 4 n) = some n := by
  decide +kernel

/-- The characters of an escape are passed over. -/
theorem stringTo_length (start r : Text) :
    ∀ s : Text, stringTo start s.length (s ++ r) = stringTo start 0 r
  | [] => rfl
  | _ :: s => stringTo_length start r s

/-- An escape is read as the code point it names, and the string goes on behind it. -/
theorem stringTo_of_escape {start s r : Text} {q : CodePoint}
    (h : escape start (.ofChar '\\' :: (s ++ r)) (s ++ r) = .ok (q, s.length)) :
    stringTo start 0 (.ofChar '\\' :: (s ++ r)) =
      (stringTo start 0 r).map fun (t, r) => (q :: t, r) := by
  have hquote : (CodePoint.ofChar '\\').is '\x22' = false := rfl
  have hslash : (CodePoint.ofChar '\\').is '\\' = true := rfl
  rw [stringTo, if_neg (Bool.eq_false_iff.mp hquote), if_pos hslash, h]
  show (stringTo start s.length (s ++ r)).map _ = _
  rw [stringTo_length]

/-- A printed code point is read as itself. A text must go on behind an escape by number. -/
theorem Escaped.stringTo_append {p : CodePoint} {t : Text} (h : Escaped p t) (start : Text)
    {r : Text} (hr : r ≠ []) :
    stringTo start 0 (t ++ r) = (stringTo start 0 r).map fun (s, r) => (p :: s, r) := by
  cases h with
  | letter c l hl hp =>
    subst hp
    have hletters : ∀ cl ∈ letters, (CodePoint.ofChar cl.2).is 'u' = false ∧
        letterEscape? (.ofChar cl.2) = some cl.1 := by decide
    obtain ⟨hu, hletter⟩ := hletters (c, l) hl
    apply stringTo_of_escape (s := [.ofChar l])
    rw [List.singleton_append, escape, if_neg (Bool.eq_false_iff.mp hu), hletter]
    rfl
  | number hp =>
    have hlength : 0 < r.length := List.length_pos_iff.mpr hr
    have hhex := length_hex p.val hp
    have hescape : ∀ here : Text, escape start here (.ofChar 'u' :: (Text.hex 4 p.val ++ r)) =
        .ok (p, 5) := by
      intro here
      rw [escape, if_pos (by decide), hexFour?_append hhex, hexFour?_hex p.val hp]
      simp only [List.length_append, hhex]
      rw [if_neg (by omega), if_neg (by omega), CodePoint.ofNat_val]
    have hs : (CodePoint.ofChar 'u' :: Text.hex 4 p.val).length = 5 := by
      rw [List.length_cons, hhex]
    exact stringTo_of_escape (s := .ofChar 'u' :: Text.hex 4 p.val) (hs ▸ hescape _)
  | itself hp hquote hslash =>
    rw [List.singleton_append, stringTo, if_neg (Bool.eq_false_iff.mp hquote),
      if_neg (Bool.eq_false_iff.mp hslash), if_neg (by omega)]

/-- The inside of a string is read back up to its closing quote. -/
theorem stringTo_quoted (start r : Text) :
    ∀ t : Text, stringTo start 0 (t.flatMap escapePoint ++ .ofChar '\x22' :: r) = .ok (t, r)
  | [] => rfl
  | p :: t => by
    have hrest : t.flatMap escapePoint ++ .ofChar '\x22' :: r ≠ [] := by simp
    rw [List.flatMap_cons, List.append_assoc,
      (escaped_escapePoint p).stringTo_append start hrest, stringTo_quoted start r t]
    rfl

/-! ## Values -/

/-- The value is read back from the front of any text, if there is fuel for every character. -/
def ReadsBack (d : Nat) (v : Json) : Prop :=
  ∀ {n : Nat} {r : Text}, v.print.length < n → value n d (v.print ++ r) = .ok (v, r)

/-- The characters that a printed value starts with. -/
def openings : List Char := ['n', 't', 'f', '\x22', '[', '\x7b']

/-- What is evaluated for each of them holds for all of them. -/
theorem forall_openings {P : Char → Prop} [DecidablePred P]
    (h : (openings.all fun c => decide (P c)) = true) : ∀ c ∈ openings, P c := by
  simpa using h

/-- The text starts as a printed value does. -/
def Opens (t : Text) : Prop := ∃ c ∈ openings, ∃ s, t = .ofChar c :: s

theorem Opens.append {t : Text} (h : Opens t) (r : Text) : Opens (t ++ r) := by
  obtain ⟨c, hc, s, rfl⟩ := h
  exact ⟨c, hc, s ++ r, rfl⟩

theorem Plain.opens_print {d : Nat} {j : Json} (h : Plain d j) : Opens j.print := by
  cases h with
  | null => exact ⟨'n', by decide, _, rfl⟩
  | bool b =>
    cases b with
    | false => exact ⟨'f', by decide, _, rfl⟩
    | true => exact ⟨'t', by decide, _, rfl⟩
  | string t => exact ⟨'\x22', by decide, _, rfl⟩
  | array => exact ⟨'[', by decide, _, rfl⟩
  | object => exact ⟨'\x7b', by decide, _, rfl⟩

theorem opens_printValues {d : Nat} {v : Json} (h : Plain d v) (vs : List Json) :
    Opens (printValues (v :: vs)) := by
  cases vs with
  | nil => exact h.opens_print
  | cons w vs => exact (h.opens_print.append _).append _

theorem opens_printMembers (m : Text × Json) (ms : List (Text × Json)) :
    Opens (printMembers (m :: ms)) := by
  cases ms with
  | nil => exact ⟨'\x22', by decide, _, rfl⟩
  | cons n ms => exact ⟨'\x22', by decide, _, rfl⟩

/-- No blank stands before a printed value. -/
theorem Opens.skipBlanks_eq {t : Text} (h : Opens t) : skipBlanks t = t := by
  obtain ⟨c, hc, s, rfl⟩ := h
  have hblank : ∀ c ∈ openings, isBlank (.ofChar c) = false := forall_openings rfl
  exact List.dropWhile_cons_of_neg (by simp [hblank c hc])

/-- An array that does not close at once is read value by value. -/
theorem Opens.value_array {t : Text} (h : Opens t) (n d : Nat) :
    value (n + 1) (d + 1) (.ofChar '[' :: t) = elements n d [] t := by
  have hskip := h.skipBlanks_eq
  obtain ⟨c, hc, s, rfl⟩ := h
  have hclose : ∀ c ∈ openings, (CodePoint.ofChar c).is ']' = false := forall_openings rfl
  rw [value.eq_def]
  simp only [hskip]
  exact if_neg (Bool.eq_false_iff.mp (hclose c hc))

/-- An object that does not close at once is read member by member. -/
theorem Opens.value_object {t : Text} (h : Opens t) (n d : Nat) :
    value (n + 1) (d + 1) (.ofChar '\x7b' :: t) = members n d [] t := by
  have hskip := h.skipBlanks_eq
  obtain ⟨c, hc, s, rfl⟩ := h
  have hclose : ∀ c ∈ openings, (CodePoint.ofChar c).is '\x7d' = false := forall_openings rfl
  rw [value.eq_def]
  simp only [hskip]
  exact if_neg (Bool.eq_false_iff.mp (hclose c hc))

/-- The inside of an array is read back up to its closing bracket. -/
theorem elements_printValues {d : Nat} :
    ∀ {vs : List Json}, vs ≠ [] → (∀ v ∈ vs, Plain d v ∧ ReadsBack d v) →
      ∀ {n : Nat} {before : List Json} {r : Text}, (printValues vs).length + 1 < n →
        elements n d before (printValues vs ++ .ofChar ']' :: r) =
          .ok (.array (before.reverse ++ vs), r)
  | [v], _, h, n + 1, before, r, hn => by
    obtain ⟨-, hv⟩ := h v (List.mem_singleton.mpr rfl)
    show elements (n + 1) d before (v.print ++ .ofChar ']' :: r) = _
    rw [elements, hv (Nat.lt_of_succ_lt_succ hn), ← List.reverse_cons]
    rfl
  | v :: w :: vs, _, h, n + 1, before, r, hn => by
    obtain ⟨⟨-, hv⟩, hrest⟩ := List.forall_mem_cons.mp h
    obtain ⟨hw, -⟩ := hrest w List.mem_cons_self
    have hprint : printValues (v :: w :: vs) =
        v.print ++ .ofChar ',' :: printValues (w :: vs) := List.append_assoc _ _ _
    rw [hprint, List.length_append, List.length_cons] at hn
    have hblanks : skipBlanks (printValues (w :: vs) ++ .ofChar ']' :: r) =
        printValues (w :: vs) ++ .ofChar ']' :: r :=
      ((opens_printValues hw vs).append _).skipBlanks_eq
    -- the first value is read, then a comma; the others are read by induction
    have hstep : elements (n + 1) d before
        (v.print ++ .ofChar ',' :: (printValues (w :: vs) ++ .ofChar ']' :: r)) =
          elements n d (v :: before)
            (skipBlanks (printValues (w :: vs) ++ .ofChar ']' :: r)) := by
      rw [elements, hv (by omega)]
      rfl
    rw [hprint, List.append_assoc, List.cons_append, hstep, hblanks,
      elements_printValues (List.cons_ne_nil w vs) hrest (by omega), List.reverse_cons,
      List.append_assoc]
    rfl

/-- A printed member is read, and what follows it decides how the object goes on. -/
theorem members_print {d n : Nat} {v : Json} (hplain : Plain d v) (hv : ReadsBack d v)
    (hn : v.print.length < n) (before : List (Text × Json)) (k r : Text) :
    members (n + 1) d before (quote k ++ .ofChar ':' :: (v.print ++ r)) =
      match skipBlanks r with
      | [] => .error (.problem .comma [])
      | c :: r =>
        if c.is '\x7d' then .ok (.object (Table.insert before k v), r)
        else if c.is ',' then members n d (Table.insert before k v) (skipBlanks r)
        else .error (.problem .comma (c :: r)) := by
  have hquote : quote k ++ .ofChar ':' :: (v.print ++ r) = .ofChar '\x22' ::
      (k.flatMap escapePoint ++ .ofChar '\x22' :: .ofChar ':' :: (v.print ++ r)) := by
    simp [quote]
  have hcolon : skipBlanks (.ofChar ':' :: (v.print ++ r)) = .ofChar ':' :: (v.print ++ r) := rfl
  rw [hquote, members]
  simp only [stringTo_quoted, hcolon, (hplain.opens_print.append r).skipBlanks_eq, hv hn]
  rfl

/-- Of distinct names, one that comes later is not among those before. -/
theorem notMem_of_nodup {before ms : List (Text × Json)} {k : Text} {v : Json}
    (h : ((before ++ (k, v) :: ms).map Prod.fst).Nodup) : k ∉ before.map Prod.fst := by
  rw [List.map_append, List.nodup_append] at h
  intro hk
  exact h.2.2 k hk k List.mem_cons_self rfl

/-- The inside of an object is read back up to its closing brace. -/
theorem members_printMembers {d : Nat} :
    ∀ {ms : List (Text × Json)}, ms ≠ [] → (∀ m ∈ ms, Plain d m.2 ∧ ReadsBack d m.2) →
      ∀ {n : Nat} {before : List (Text × Json)} {r : Text},
        ((before ++ ms).map Prod.fst).Nodup → (printMembers ms).length < n →
          members n d before (printMembers ms ++ .ofChar '\x7d' :: r) =
            .ok (.object (before ++ ms), r)
  | [(k, v)], _, h, n + 1, before, r, hd, hn => by
    obtain ⟨hplain, hv⟩ : Plain d v ∧ ReadsBack d v := h _ (List.mem_singleton.mpr rfl)
    have hprint : printMembers [(k, v)] = quote k ++ .ofChar ':' :: v.print :=
      List.append_assoc _ _ _
    rw [hprint, List.length_append, List.length_cons] at hn
    rw [hprint, List.append_assoc, List.cons_append, members_print hplain hv (by omega),
      Table.insert_of_notMem (notMem_of_nodup hd)]
    rfl
  | (k, v) :: m :: ms, _, h, n + 1, before, r, hd, hn => by
    obtain ⟨hfirst, hrest⟩ := List.forall_mem_cons.mp h
    obtain ⟨hplain, hv⟩ : Plain d v ∧ ReadsBack d v := hfirst
    have hprint : printMembers ((k, v) :: m :: ms) =
        quote k ++ .ofChar ':' :: (v.print ++ .ofChar ',' :: printMembers (m :: ms)) := by
      rw [printMembers, List.append_assoc, List.append_assoc, List.append_assoc]
      rfl
    rw [hprint, List.length_append, List.length_cons, List.length_append, List.length_cons] at hn
    have hd' : ((before ++ [(k, v)] ++ m :: ms).map Prod.fst).Nodup := by
      rwa [List.append_assoc]
    have hblanks : skipBlanks (printMembers (m :: ms) ++ .ofChar '\x7d' :: r) =
        printMembers (m :: ms) ++ .ofChar '\x7d' :: r :=
      ((opens_printMembers m ms).append _).skipBlanks_eq
    -- the first member is read, then a comma; the others are read by induction
    have hstep : members (n + 1) d before
        (printMembers ((k, v) :: m :: ms) ++ .ofChar '\x7d' :: r) =
          members n d (before ++ [(k, v)])
            (skipBlanks (printMembers (m :: ms) ++ .ofChar '\x7d' :: r)) := by
      rw [hprint, List.append_assoc, List.cons_append, List.append_assoc,
        members_print hplain hv (by omega), Table.insert_of_notMem (notMem_of_nodup hd)]
      rfl
    rw [hstep, hblanks, members_printMembers (List.cons_ne_nil m ms) hrest hd' (by omega),
      List.append_assoc]
    rfl

/-- A printed value is read back from the front of any text. -/
theorem Plain.readsBack {d : Nat} {j : Json} (h : Plain d j) : ReadsBack d j := by
  induction h with
  | null =>
    intro n r hn
    obtain ⟨n, rfl⟩ := Nat.exists_eq_add_one_of_ne_zero (Nat.ne_zero_of_lt hn)
    rfl
  | bool b =>
    intro n r hn
    obtain ⟨n, rfl⟩ := Nat.exists_eq_add_one_of_ne_zero (Nat.ne_zero_of_lt hn)
    cases b <;> rfl
  | @string d t =>
    intro n r hn
    obtain ⟨n, rfl⟩ := Nat.exists_eq_add_one_of_ne_zero (Nat.ne_zero_of_lt hn)
    have hprint : (Json.string t).print ++ r =
        .ofChar '\x22' :: (t.flatMap escapePoint ++ .ofChar '\x22' :: r) := by
      simp [print, quote]
    have hstep : ∀ s : Text, value (n + 1) d (.ofChar '\x22' :: s) =
        (stringTo (.ofChar '\x22' :: s) 0 s).map fun (s, r) => (.string s, r) := fun _ => rfl
    rw [hprint, hstep, stringTo_quoted]
    rfl
  | @array d vs items ih =>
    intro n r hn
    obtain ⟨n, rfl⟩ := Nat.exists_eq_add_one_of_ne_zero (Nat.ne_zero_of_lt hn)
    cases vs with
    | nil => rfl
    | cons v vs =>
      have hprint : (Json.array (v :: vs)).print =
          .ofChar '[' :: (printValues (v :: vs) ++ [.ofChar ']']) := rfl
      rw [hprint, List.length_cons, List.length_append, List.length_singleton] at hn
      have hopens := (opens_printValues (items v List.mem_cons_self) vs).append (.ofChar ']' :: r)
      rw [hprint, List.cons_append, List.append_assoc, List.singleton_append, hopens.value_array,
        elements_printValues (List.cons_ne_nil v vs) (fun w hw => ⟨items w hw, ih w hw⟩) (by omega)]
      rfl
  | @object d ms distinct values ih =>
    intro n r hn
    obtain ⟨n, rfl⟩ := Nat.exists_eq_add_one_of_ne_zero (Nat.ne_zero_of_lt hn)
    cases ms with
    | nil => rfl
    | cons m ms =>
      have hprint : (Json.object (m :: ms)).print =
          .ofChar '\x7b' :: (printMembers (m :: ms) ++ [.ofChar '\x7d']) := rfl
      rw [hprint, List.length_cons, List.length_append, List.length_singleton] at hn
      have hopens := (opens_printMembers m ms).append (.ofChar '\x7d' :: r)
      rw [hprint, List.cons_append, List.append_assoc, List.singleton_append, hopens.value_object,
        members_printMembers (List.cons_ne_nil m ms) (fun x hx => ⟨values x hx, ih x hx⟩) distinct
          (by omega)]
      rfl

/-- **Reading undoes printing**: a value without numbers, of bounded depth and with distinct names,
is read back from its print, also where blanks follow it. -/
theorem Plain.parse_print_append {j : Json} (h : Plain maxDepth j) {r : Text}
    (hr : skipBlanks r = []) : parse (j.print ++ r) = .ok j := by
  have hopens : Opens (j.print ++ r) := h.opens_print.append r
  have hvalue : value (2 * (j.print ++ r).length + 2) maxDepth (j.print ++ r) = .ok (j, r) := by
    refine h.readsBack ?_
    rw [List.length_append]
    omega
  have hmark : ((j.print ++ r).head?.any fun p => p.val = 0xFEFF) = false := by
    obtain ⟨c, hc, s, hs⟩ := hopens
    have hopening : ∀ c ∈ openings, (CodePoint.ofChar c).val ≠ 0xFEFF := forall_openings rfl
    rw [hs]
    exact decide_eq_false (hopening c hc)
  rw [parse, hmark, hopens.skipBlanks_eq, hvalue]
  simp only [hr]
  rfl

theorem Plain.parse_print {j : Json} (h : Plain maxDepth j) : parse j.print = .ok j := by
  have hread := h.parse_print_append (r := []) rfl
  rwa [List.append_nil] at hread

end Json

end RouteAtlas
