import RouteAtlas.Proofs.Script.Placed
import RouteAtlas.Script.Reader

/-!
# Generated scripts are read back

Declarations one below the other are read as what they declare, each at its line.

- `Source.linesBetween_add`: lines are counted on over a part of a text;
- `Written.entries_members`: the members of an interface are read as its entries;
- `Declaration.item_written`: a declaration is read as its item (**step lemma**);
- `Source.read?_script`: the tree that a script is read as;
- `parse?_script`: **the items of a script are those of its declarations**.
-/

namespace RouteAtlas.Script

open Reading

variable {s : Source} {i : Nat} {cs : List Char}

/-! ## Lines -/

namespace Source

theorem linesBetween_eq (s : Source) (i j : Nat) :
    s.linesBetween i j = (s.slice i j).count '\n' := by
  have hfold : ∀ (cs : List Char) (n : Nat),
      cs.foldl (fun n c => if c == '\n' then n + 1 else n) n = n + cs.count '\n' := by
    intro cs
    induction cs with
    | nil => exact fun _ => rfl
    | cons c cs ih =>
      intro n
      rw [List.foldl_cons, ih, List.count_cons]
      split <;> omega
  rw [linesBetween, Array.foldl_eq_foldl_extract, ← Array.foldl_toList, hfold, Nat.zero_add]
  rfl

/-- Lines are counted on over a part of the text. -/
theorem linesBetween_add {a : List Char} {k : Nat} (h : s.After i (a ++ cs)) (hk : k ≤ i) :
    s.linesBetween k (i + a.length) = s.linesBetween k i + a.count '\n' := by
  have hsplit : s.slice k (i + a.length) = s.slice k i ++ s.slice i (i + a.length) := by
    have hlength : i + a.length - k = (i - k) + a.length := by omega
    have hdrop : k + (i - k) = i := by omega
    rw [slice, slice, slice, Array.toList_extract, Array.toList_extract, Array.toList_extract,
      List.extract_eq_take_drop, List.extract_eq_take_drop, List.extract_eq_take_drop, hlength,
      List.take_add, List.drop_drop, hdrop, Nat.add_sub_cancel_left]
  rw [linesBetween_eq, linesBetween_eq, hsplit, List.count_append, h.slice]

theorem linesBetween_self (s : Source) (i : Nat) : s.linesBetween i i = 0 := by
  rw [linesBetween_eq, slice, Array.toList_extract, List.extract_eq_take_drop, Nat.sub_self]
  rfl

end Source

theorem IsName.newline_notMem {n : String} (hn : IsName n) : '\n' ∉ n.toList := fun hmem =>
  absurd (List.all_eq_true.mp hn.word.all _ hmem) (by decide)

/-- The line ends of a literal are those of its escapes. -/
theorem Literal.Reads.count_source {l : Literal} (hl : l.Reads) :
    l.source.count '\n' = l.newlines := by
  have hquote : l.quote ≠ '\n' := by
    rcases hl.quoted with hq | hq <;> rw [hq] <;> decide
  have hpieces : (l.pieces.flatMap Piece.source).count '\n' = l.newlines := by
    rw [newlines, List.count_flatMap, List.count_flatMap]
    refine congrArg List.sum (List.map_congr_left fun p hp => ?_)
    cases p with
    | raw c => exact List.count_eq_zero.mpr fun h =>
        (hl.raws c hp).2.2.1 (List.mem_singleton.mp h).symm
    | escape body => exact List.count_cons_of_ne (by decide)
  rw [source, List.count_cons_of_ne hquote, List.count_append, hpieces,
    List.count_eq_zero.mpr fun h => hquote (List.mem_singleton.mp h).symm, Nat.add_zero]

theorem Written.count_memberLine {m : Literal × String} (hm : m.1.Reads ∧ IsName m.2) :
    (memberLine m).count '\n' = m.1.newlines := by
  rw [memberLine, List.count_append, List.count_append, List.count_append, hm.1.count_source,
    List.count_eq_zero.mpr hm.2.newline_notMem]
  exact Nat.zero_add _

/-! ## Members of interfaces -/

namespace Source

variable {α : Type} {f : Reading → Option α} {r : Reading}

theorem entries_cons_none (rs : List Reading) (haside : r.isAside = false) (h : f r = none) :
    s.entries f (r :: rs) = s.entries f rs := by
  simp [entries, haside, h]

theorem entries_cons_some {x : α} (rs : List Reading) (haside : r.isAside = false)
    (h : f r = some x) : s.entries f (r :: rs) = .part x :: s.entries f rs := by
  simp [entries, haside, h]

end Source

namespace Written

variable {start line : Nat} {m : Literal × String}

/-- A member of an interface is read as its property. -/
theorem interfaceMember?_memberParts (line : Nat) (hm : m.1.Reads ∧ IsName m.2) (hstart : start ≤ i)
    (h : s.After i ((memberParts m).text ++ cs)) :
    s.interfaceMember? start line (phraseOf .propertySignature ((memberParts m).place i)) =
      some (.property (line + s.linesBetween start i + 1) (.quoted m.1)
        (some ⟨[], .typeof [] m.2⟩) []) := by
  have hline : line + s.linesBetween start (i + 3) = line + s.linesBetween start i + 1 := by
    have hkey : s.After i ((literal .lines ['\n', ' ', ' '] m.1 nil).text ++ _) := h.parts
    rw [text_literal hm.1, List.append_assoc] at hkey
    exact congrArg (line + ·) (s.linesBetween_add hkey hstart)
  have hkey := s.literal_written hm.1 h.parts
  have hname := h.behind.parts.next.parts.parts.parts.next.text_name
  simp only [memberParts, literal, place_andThen, place_mark, place_of, place_word, place_name,
    place_nil] at hkey ⊢
  rw [s.interfaceMember?_written start line ⟨_, _, _, rfl⟩ ⟨_, _, _, rfl⟩ ⟨_, _, _, rfl⟩, hkey]
  exact congrArg₂ (fun l n => some (Member.property l (.quoted m.1) (some ⟨[], .typeof [] n⟩) []))
    hline hname

/-- A member has a line end before it, and those of its key. -/
theorem linesBetween_member (hm : m.1.Reads ∧ IsName m.2) (hstart : start ≤ i)
    (h : s.After i ((member m nil).text ++ cs)) :
    s.linesBetween start (i + (member m nil).text.length) =
      s.linesBetween start i + (1 + m.1.newlines) := by
  rw [s.linesBetween_add h hstart, text_member hm.1, text_nil, List.append_nil,
    List.count_cons_self, count_memberLine hm, Nat.add_comm 1]

theorem entries_cons_lineEnd (i j k : Nat) (rs : List Reading) :
    s.entries (s.interfaceMember? start line) (tokenAt (.token .lineEnd) i j k :: rs) =
      s.entries (s.interfaceMember? start line) rs :=
  Source.entries_cons_none _ rfl
    (s.interfaceMember?_tokenAt _ _ _ _ _ _ (isPhrase_tokenAt_token _ _ _ _ _))

theorem entries_cons_mark (text : String) (i j k : Nat) (rs : List Reading) :
    s.entries (s.interfaceMember? start line) (tokenAt (.spelled text) i j k :: rs) =
      s.entries (s.interfaceMember? start line) rs :=
  Source.entries_cons_none _ rfl
    (s.interfaceMember?_tokenAt _ _ _ _ _ _ (isPhrase_tokenAt_spelled _ _ _ _ _))

theorem spreadAll_line (m : Literal × String) (i : Nat) (rs : List Reading) :
    spreadAll ((lineEnd (member m nil)).place i) rs = tokenAt (.token .lineEnd) i i 0 ::
      phraseOf .propertySignature ((memberParts m).place i) :: rs := by
  rw [place_lineEnd, member, place_andThen, place_nil, spreadAll, spread_tokenAt, spreadAll,
    spread_phraseOf, spreadAll]

/-- Members of which each stands on a new line. -/
theorem entries_lines (rs : List Reading) :
    ∀ {ms : List (Literal × String)} {i : Nat}, (∀ m ∈ ms, m.1.Reads ∧ IsName m.2) → start ≤ i →
      s.After i ((ms.map fun m => lineEnd (member m nil)).flatMap Written.text ++ cs) →
      s.entries (s.interfaceMember? start line)
          (spreadAll (placeAll (ms.map fun m => lineEnd (member m nil)) i) rs) =
        Declaration.entries (line + s.linesBetween start i + 1) ms ++
          s.entries (s.interfaceMember? start line) rs
  | [], _, _, _, _ => rfl
  | m :: ms, i, hms, hstart, h => by
    obtain ⟨hm, hms⟩ := List.forall_mem_cons.mp hms
    rw [List.map_cons, List.flatMap_cons, text_lineEnd, List.append_assoc] at h
    have hsome := interfaceMember?_memberParts line hm hstart h.parts
    rw [List.map_cons, placeAll, text_lineEnd, spreadAll_append, spreadAll_line,
      entries_cons_lineEnd, Source.entries_cons_some _ rfl hsome,
      entries_lines rs hms (Nat.le_add_right_of_le hstart) h.skip, linesBetween_member hm hstart h]
    simp only [Declaration.entries, Nat.add_assoc, List.cons_append]

/-- The closing brace, on a line of its own. -/
def closing : Written := lineEnd (mark .lines ['\n'] "\x7d" nil)

/-- The members of an interface behind the first one stand on lines of their own. -/
theorem members_cons (m : Literal × String) (ms : List (Literal × String)) :
    (members (m :: ms)).text = (member m nil).text ++
        ((ms.map fun m => lineEnd (member m nil)).flatMap text ++ closing.text) ∧
      ∀ i, ∃ j, spreadAll ((members (m :: ms)).place i) [] =
        phraseOf .propertySignature ((memberParts m).place i) ::
          spreadAll (placeAll (ms.map fun m => lineEnd (member m nil))
            (i + (member m nil).text.length)) (spreadAll (closing.place j) []) := by
  have hparts : (memberParts m).text = (member m nil).text := (List.append_nil _).symm
  cases ms with
  | nil =>
    refine ⟨?_, fun i => ⟨i + (member m nil).text.length, ?_⟩⟩
    · rw [← hparts]
      rfl
    · rw [← hparts, members, member, place_andThen, spreadAll, spread_phraseOf]
      rfl
  | cons m' ms =>
    have htext := text_chain (Phrase.objectType.repetition 0)
      (ms.map fun m => lineEnd (member m nil)) (lineEnd (member m' nil))
    refine ⟨?_, fun i => ⟨i + (member m nil).text.length + (chain (Phrase.objectType.repetition 0)
      (lineEnd (member m' nil)) (ms.map fun m => lineEnd (member m nil))).text.length, ?_⟩⟩
    · rw [← hparts, List.map_cons, List.flatMap_cons, ← htext]
      rfl
    · rw [← hparts, members, member, place_andThen, spreadAll, spread_phraseOf]
      show _ :: (Reading.ofChildren (Phrase.objectType.repetition 0) 0 _).spread _ = _
      rw [spread_repetition (le_repetition _ _), spreadAll_chain (le_repetition _ _)]
      rfl

/-- **The members of an interface** are read as its entries. -/
theorem entries_members {ms : List (Literal × String)} (hms : ∀ m ∈ ms, m.1.Reads ∧ IsName m.2)
    (hstart : start ≤ i) (h : s.After i ((members ms).text ++ cs)) :
    s.entries (s.interfaceMember? start line) (spreadAll ((members ms).place i) []) =
      Declaration.entries (line + s.linesBetween start i + 1) ms := by
  cases ms with
  | nil =>
    rw [members, place_mark, place_nil, spreadAll, spread_tokenAt, entries_cons_mark]
    rfl
  | cons m ms =>
    obtain ⟨htext, hplace⟩ := members_cons m ms
    obtain ⟨j, hspread⟩ := hplace i
    obtain ⟨hm, hms⟩ := List.forall_mem_cons.mp hms
    rw [htext, List.append_assoc, List.append_assoc] at h
    have hsome := interfaceMember?_memberParts line hm hstart h.parts
    have hclosing :
        s.entries (s.interfaceMember? start line) (spreadAll (closing.place j) []) = [] := by
      rw [closing, place_lineEnd, place_mark, place_nil, spreadAll, spread_tokenAt, spreadAll,
        spread_tokenAt, entries_cons_lineEnd, entries_cons_mark]
      rfl
    rw [hspread, Source.entries_cons_some _ rfl hsome,
      entries_lines _ hms (Nat.le_add_right_of_le hstart) h.skip, hclosing, List.append_nil,
      linesBetween_member hm hstart h]
    simp only [Declaration.entries, Nat.add_assoc]

/-- The members of an interface whose brace stands at `i`. -/
theorem entries_body {ms : List (Literal × String)} (hms : ∀ m ∈ ms, m.1.Reads ∧ IsName m.2)
    (h : s.After i ("\x7b".toList ++ ((members ms).text ++ cs))) :
    s.entries (s.interfaceMember? i line) (spreadAll ((members ms).place (i + 1)) []) =
      Declaration.entries (line + 1) ms := by
  have hlines : s.linesBetween i (i + 1) = s.linesBetween i i + 0 :=
    s.linesBetween_add h (Nat.le_refl i)
  rw [entries_members hms (Nat.le_succ i) h.skip]
  show Declaration.entries (line + s.linesBetween i (i + 1) + 1) ms = _
  rw [hlines, s.linesBetween_self]

end Written

/-! ## Declarations -/

theorem Source.item_phraseOf (f : Phrase) (es : List Reading) :
    s.item (phraseOf f es) =
      .statement (s.statement (phraseOf f es)) (s.chars (phraseOf f es)) := by
  have hhash : (phraseOf f es).isToken .hashBang = false := by
    have hlt := TokenClass.code_lt .hashBang
    have hle := Symbol.le_ofPhrase f
    rw [isToken, symbol_phraseOf, beq_eq_false_iff_ne]
    exact Nat.ne_of_gt (Nat.lt_of_lt_of_le hlt hle)
  rw [item, isAside_phraseOf, hhash]
  rfl

namespace Written

variable {gap : List Char} {n : String} {value : Written} {body : List Char} {semicolon : Bool}

/-- A constant is read as a declarator of its value. -/
theorem statement_constant (hends : value.endsInToken = true) (htext : value.text = ' ' :: body)
    (hstart : ∀ j, (phraseOf .expression ((of .primaryExpression value).place j)).start = j + 1)
    (h : s.After i ((Written.constant gap n value semicolon).text ++ cs)) :
    ∃ j, ∃ back : List Char, s.After j (value.text ++ back) ∧
      s.statement (phraseOf .statement ((Written.constant gap n value semicolon).place i)) =
        ⟨false, .variables true [Declaration.declarator n
          (s.outline (phraseOf .expression [phraseOf .primaryExpression (value.place j)]))
          body]⟩ := by
  have hvalue := h.parts.parts.next.parts.next.parts.next.parts
  refine ⟨_, _, hvalue.parts, ?_⟩
  have hname := h.parts.parts.next.parts.text_name
  have htext' : (of .primaryExpression value).text = [' '] ++ body := by
    rw [text_of, htext]
    rfl
  have hbody := chars_place (of .primaryExpression value) .expression [' '] body hends htext'
    (hstart _) hvalue
  simp only [Written.constant, place_andThen, place_mark, place_of, place_word,
    place_name] at hbody ⊢
  rw [s.statement_constant ⟨_, _, _, rfl⟩ ⟨_, _, _, rfl⟩ ⟨_, _, _, rfl⟩ (finishes_finish _ _)]
  exact congrArg₂ (fun a b => (⟨false, .variables true [Declaration.declarator a _ b]⟩ : Statement))
    hname hbody

end Written

namespace Declaration

open Written

variable {gap : List Char}

theorem statement_import {imported bound : String} {source : Literal} {semicolon : Bool}
    (hs : source.Reads) (line : Nat)
    (h : s.After i (((import_ imported bound source semicolon).writtenPart gap).text ++ cs)) :
    s.statement (phraseOf .statement
      (((import_ imported bound source semicolon).writtenPart gap).place i)) =
      (import_ imported bound source semicolon).statement line := by
  have himported := h.parts.next.parts.parts.next.parts.parts.text_name
  have hbound := h.parts.next.parts.parts.next.parts.behind.next.parts.text_name
  have hsource := s.literal_written hs h.parts.next.behind.parts.next
  simp only [writtenPart, place_andThen, place_mark, place_of, place_word, place_name,
    place_literal, place_nil]
  rw [s.statement_import ⟨_, _, _, rfl⟩ ⟨_, _, _, rfl⟩ ⟨_, _, _, rfl⟩ ⟨_, _, _, rfl⟩ ⟨_, _, _, rfl⟩
    ⟨_, _, _, rfl⟩ ⟨_, _, _, rfl⟩ (finishes_finish _ _)]
  have hall : ∀ {a b : String} {l : Literal}, a = imported → b = bound → l = source →
      (⟨false, .import_ ⟨none, none, [.part ⟨.name a, some b, []⟩], some l, []⟩⟩ : Statement) =
        (import_ imported bound source semicolon).statement line := by
    rintro _ _ _ rfl rfl rfl
    rfl
  exact hall himported hbound hsource

theorem statement_constant {n : String} {value : Literal} {semicolon : Bool}
    (hv : value.Reads) (line : Nat)
    (h : s.After i (((constant n value semicolon).writtenPart gap).text ++ cs)) :
    s.statement (phraseOf .statement (((constant n value semicolon).writtenPart gap).place i)) =
      (constant n value semicolon).statement line := by
  have htext : (Written.literal .blanks [' '] value nil).text = ' ' :: value.source := by
    rw [text_literal hv, text_nil, List.append_nil]
    rfl
  obtain ⟨j, back, hafter, hstatement⟩ := Written.statement_constant
    (endsInToken_literal value) htext (fun _ => rfl) h
  rw [writtenPart, hstatement, place_literal, place_nil, s.outline_string,
    s.literal_written hv hafter]
  rfl

theorem statement_call {n object method : String} {a : Argument} {semicolon : Bool}
    (ha : a.Readable) (line : Nat)
    (h : s.After i (((call n object method a semicolon).writtenPart gap).text ++ cs)) :
    s.statement (phraseOf .statement
      (((call n object method a semicolon).writtenPart gap).place i)) =
      (call n object method a semicolon).statement line := by
  have hends : (Written.call object method a).endsInToken = true := by
    cases a <;> rfl
  obtain ⟨j, back, hafter, hstatement⟩ := Written.statement_constant hends (text_call ha)
    (fun _ => rfl) h
  have hobject := hafter.parts.parts.parts.parts.parts.text_name
  have hmethod := hafter.parts.parts.parts.parts.behind.next.text_name
  have hargument := chars_place _ .arguments [] (argumentText a) (by cases a <;> rfl)
    (by rw [text_mark, text_argument ha, argumentText, List.append_assoc]; simp) rfl
    hafter.parts.behind.parts
  have hall : ∀ {o m : String} {cs : List Char}, o = object → m = method → cs = argumentText a →
      (⟨false, .variables true
        [declarator n (.call o m [] cs) (callText object method a)]⟩ : Statement) =
        (call n object method a semicolon).statement line := by
    rintro _ _ _ rfl rfl rfl
    rfl
  rw [writtenPart, hstatement]
  simp only [Written.call, place_andThen, place_mark, place_of, place_name, place_nil]
  rw [s.outline_call ⟨_, _, _, rfl⟩ ⟨_, _, _, rfl⟩ ⟨_, _, _, rfl⟩]
  refine hall hobject hmethod ((congrArg (s.slice · _) ?_).trans hargument)
  rw [stop_tokenAt, place_mark, start_phraseOf, start_tokenAt, text_of, text_of, text_andThen,
    text_mark, text_name, text_name, text_nil, List.append_nil]
  simp only [List.length_append, List.length_nil]
  omega

/-- The words in front of the members of an interface. -/
def header (n : String) : List Char :=
  "export".toList ++ ([' '] ++ ("interface".toList ++ ([' '] ++ (n.toList ++ [' ']))))

theorem header_eq (n : String) : header n =
    "export".toList ++ ([' '] ++ ("interface".toList ++ ([' '] ++ (n.toList ++ [' '])))) := rfl

theorem count_header {n : String} (hn : IsName n) : (header n).count '\n' = 0 := by
  rw [header_eq, List.count_append, List.count_append, List.count_append, List.count_append,
    List.count_append, List.count_eq_zero.mpr hn.newline_notMem]
  rfl

theorem statement_interface {n : String} {ms : List (Literal × String)} (hn : IsName n)
    (hms : ∀ m ∈ ms, m.1.Reads ∧ IsName m.2)
    (h : s.After i (((interface_ n ms).writtenPart gap).text ++ cs)) :
    s.statement (phraseOf .statement (((interface_ n ms).writtenPart gap).place i)) =
      (interface_ n ms).statement (1 + s.linesBetween 0 (i + gap.length)) := by
  have hall : ∀ {line : Nat} {a : String} {cs : List Char} {es : List (Entry Member)}, a = n →
      cs = [' '] → es = entries (line + 1) ms →
      (⟨true, .interface_ ⟨a, cs, es, []⟩⟩ : Statement) = (interface_ n ms).statement line := by
    rintro line _ _ _ rfl rfl rfl
    rfl
  have hname := h.parts.next.parts.parts.next.text_name
  have hbody := h.parts.next.parts.parts.next.next.parts
  rw [text_mark, List.append_assoc, List.append_assoc] at hbody
  -- the brace stands on the line that the declaration begins on
  have hline : s.linesBetween 0 (i + (gap ++ "export".toList).length +
      ([' '] ++ "interface".toList).length + ([' '] ++ n.toList).length + [' '].length) =
      s.linesBetween 0 (i + gap.length) := by
    have htext : ((interface_ n ms).writtenPart gap).text =
        gap ++ (header n ++ (mark .none [] "\x7b" (members ms)).text) := by
      simp only [writtenPart, header_eq, text_of, text_word, text_name, text_mark,
        List.append_assoc, List.nil_append]
    rw [htext, List.append_assoc, List.append_assoc] at h
    have hlines := s.linesBetween_add h.skip (Nat.zero_le _)
    rw [count_header hn, Nat.add_zero] at hlines
    rw [← hlines, header_eq]
    simp only [List.length_append, Nat.add_assoc]
  simp only [writtenPart, place_mark, place_of, place_word, place_name]
  rw [s.statement_interface ⟨_, _, _, rfl⟩ ⟨_, _, _, rfl⟩ ⟨_, _, _, rfl⟩ ⟨_, _, _, rfl⟩]
  refine hall hname ?_ ?_
  · rw [stop_tokenAt, start_tokenAt, Nat.add_assoc _ [' '].length, ← List.length_append]
    exact hbody.slice
  · rw [start_tokenAt, hline]
    exact entries_body hms hbody.skip

/-- **Step lemma**: a declaration is read as its item. -/
theorem item_written {d : Declaration} {gap : List Char} (hd : d.Readable)
    (h : s.After i ((d.written gap).text ++ cs)) :
    s.item (phraseOf .statement ((d.writtenPart gap).place i)) =
      d.item (1 + s.linesBetween 0 (i + gap.length)) := by
  have hends : (d.writtenPart gap).endsInToken = true := by
    cases d with
    | import_ imported bound source semicolon | constant n value semicolon
    | call n object method a semicolon => cases semicolon <;> rfl
    | interface_ n ms =>
      match ms with
      | [] | [_] | _ :: _ :: _ => rfl
  have htext : (d.writtenPart gap).text = gap ++ d.text := by
    rw [← d.text_written hd, written, text_of]
  have hstart : (phraseOf .statement ((d.writtenPart gap).place i)).start = i + gap.length := by
    cases d <;> rfl
  have hstatement : s.statement (phraseOf .statement ((d.writtenPart gap).place i)) =
      d.statement (1 + s.linesBetween 0 (i + gap.length)) := by
    cases d with
    | import_ imported bound source semicolon => exact statement_import hd.2.2 _ h.parts
    | constant n value semicolon => exact statement_constant hd.2 _ h.parts
    | call n object method a semicolon => exact statement_call hd.2.2.2 _ h.parts
    | interface_ n ms => exact statement_interface hd.1 hd.2 h.parts
  rw [s.item_phraseOf, hstatement, chars_place _ _ gap _ hends htext hstart h.parts]
  rfl

end Declaration

/-! ## Scripts -/

open Written

theorem items_placed_head (d : Declaration) (gap : List Char) (i : Nat) (rs : List Reading) :
    (spreadAll ((d.written gap).place i) rs).map s.item =
      s.item (phraseOf .statement ((d.writtenPart gap).place i)) :: rs.map s.item := by
  rw [Declaration.written, place_of, spreadAll, spread_phraseOf, spreadAll, List.map_cons]

/-- Declarations of which each stands on a new line are read as their items. -/
theorem items_placed :
    ∀ {ds : List Declaration} {i : Nat}, (∀ d ∈ ds, d.Readable) →
      s.After i ((ds.map (Declaration.written ['\n'])).flatMap text ++ cs) →
      (spreadAll (placeAll (ds.map (Declaration.written ['\n'])) i) []).map s.item =
        Generated.items (1 + s.linesBetween 0 i + 1) ds
  | [], _, _, _ => rfl
  | d :: ds, i, hds, h => by
    obtain ⟨hd, hds⟩ := List.forall_mem_cons.mp hds
    rw [List.map_cons, List.flatMap_cons, List.append_assoc] at h
    -- the declaration begins behind a line end, and the next one behind those that it holds as well
    have hlines : s.linesBetween 0 (i + 1) = s.linesBetween 0 i + 1 := by
      have hline := h
      rw [d.text_written hd, List.append_assoc] at hline
      exact s.linesBetween_add hline (Nat.zero_le i)
    have hnext : s.linesBetween 0 (i + (d.written ['\n']).text.length) =
        s.linesBetween 0 i + 1 + d.text.count '\n' := by
      rw [s.linesBetween_add h (Nat.zero_le i), d.text_written hd, List.cons_append,
        List.nil_append, List.count_cons_self, Nat.add_right_comm, Nat.add_assoc]
    have hitem := Declaration.item_written hd h
    have hlength : i + ['\n'].length = i + 1 := rfl
    rw [List.map_cons, placeAll, spreadAll_append, items_placed_head, hitem, hlength, hlines,
      items_placed hds h.skip, hnext, Generated.items]
    simp only [Nat.add_comm, Nat.add_left_comm]

/-- The tree that declarations are read as. -/
def Written.tree (w : Written) : Reading := phraseOf .program [phraseOf .program (w.place 0)]

/-- Declarations one below the other are read as their items. -/
theorem items_tree {d : Declaration} {ds : List Declaration} (hds : ∀ e ∈ d :: ds, e.Readable)
    (h : s.After 0 ((statements d ds).text ++ cs)) :
    s.items (statements d ds).tree = Generated.items 1 (d :: ds) := by
  obtain ⟨hd, hds⟩ := List.forall_mem_cons.mp hds
  have htop : (statements d ds).tree.topLevel = spreadAll ((d.written []).place 0 ++
      placeAll (ds.map (Declaration.written ['\n'])) (0 + (d.written []).text.length)) [] := by
    rw [← spreadAll_chain (le_repetition .program 0)]
    rw [topLevel, tree, parts_phraseOf, spreadAll, spread_phraseOf, spreadAll,
      List.flatMap_singleton, isPhrase_phraseOf, decide_eq_true rfl, if_pos rfl, parts_phraseOf]
    show (Reading.ofChildren (Phrase.program.repetition 0) 0 _).spread [] = _
    rw [spread_repetition (le_repetition _ _)]
  rw [Written.statements, text_phrase, text_chain, text_nil, List.append_nil,
    List.append_assoc] at h
  have hlines := s.linesBetween_add h (Nat.le_refl 0)
  have hzero : s.linesBetween 0 (0 + ([] : List Char).length) = 0 := s.linesBetween_self 0
  rw [s.linesBetween_self, d.text_written hd, List.nil_append, Nat.zero_add] at hlines
  rw [s.items_eq, htop, spreadAll_append, items_placed_head, items_placed hds h.skip,
    Declaration.item_written hd h, hzero, d.text_written hd, List.nil_append, Nat.zero_add, hlines,
    Nat.zero_add]
  rfl

/-- No declaration goes on with what stands on the line before it. -/
theorem Declaration.opensLine_text (d : Declaration) (cs : List Char) :
    opensLine (d.text ++ cs) = true := by
  cases d with
  | import_ => rw [import_text_append]; rfl
  | constant => rw [constant_text_append]; rfl
  | call => rw [call_text_append]; rfl
  | interface_ => rw [interface_text_append]; rfl

theorem spelledAll_written (hcs : EndsHere cs) :
    ∀ {ds : List Declaration}, (∀ d ∈ ds, d.Readable) →
      SpelledAll (ds.map (Declaration.written ['\n'])) cs ∧
        EndsHere ((ds.map (Declaration.written ['\n'])).flatMap text ++ cs)
  | [], _ => ⟨trivial, hcs⟩
  | d :: ds, hds => by
    obtain ⟨hd, hds⟩ := List.forall_mem_cons.mp hds
    obtain ⟨hall, hend⟩ := spelledAll_written hcs hds
    refine ⟨⟨d.spelled_written hd rfl hend, hall⟩, ?_⟩
    rw [List.map_cons, List.flatMap_cons, d.text_written hd, List.append_assoc]
    exact endsHere_cons [] _ rfl (d.opensLine_text _)

theorem spelled_statements {d : Declaration} {ds : List Declaration}
    (hds : ∀ e ∈ d :: ds, e.Readable) (hcs : EndsHere cs) : (statements d ds).Spelled cs := by
  obtain ⟨hd, hds⟩ := List.forall_mem_cons.mp hds
  obtain ⟨hall, hend⟩ := spelledAll_written hcs hds
  exact ⟨spelled_chain _ (d.spelled_written hd rfl hend) hall, trivial⟩

theorem text_statements {d : Declaration} {ds : List Declaration}
    (hds : ∀ e ∈ d :: ds, e.Readable) :
    (statements d ds).text = d.text ++ ds.flatMap fun e => '\n' :: e.text := by
  obtain ⟨hd, hds⟩ := List.forall_mem_cons.mp hds
  have hlines : (ds.map (Declaration.written ['\n'])).flatMap text =
      ds.flatMap fun e => '\n' :: e.text := by
    rw [List.flatMap_map]
    exact congrArg List.flatten (List.map_congr_left fun e he => e.text_written (hds e he) _)
  rw [Written.statements, text_phrase, text_chain, text_nil, List.append_nil, hlines,
    d.text_written hd, List.nil_append]

theorem size_statements {d : Declaration} {ds : List Declaration}
    (hds : ∀ e ∈ d :: ds, e.Readable) :
    (statements d ds).size ≤ 64 * (statements d ds).text.length := by
  rw [text_statements hds, List.length_append]
  obtain ⟨hd, hds⟩ := List.forall_mem_cons.mp hds
  have hsize := Declaration.size_written hd []
  have hline : ∀ e ∈ ds, (e.written ['\n']).size + 2 ≤ 64 * ('\n' :: e.text).length := by
    intro e he
    have hsize := Declaration.size_written (hds e he) ['\n']
    rw [List.length_cons]
    omega
  have hlines := size_chain_le (Phrase.program.repetition 0) 64 (Declaration.written ['\n'])
    (fun e => '\n' :: e.text) ds (d.written []) hline
  simp only [Written.statements, size]
  omega

/-- **The tree that a script is read as.** -/
theorem Source.read?_statements {d : Declaration} {ds : List Declaration} {gap : List Char}
    (hds : ∀ e ∈ d :: ds, e.Readable) (hgap : gap.all isGap = true) (hend : EndsHere gap)
    (h : s.After 0 ((statements d ds).text ++ gap)) : s.read? = some (statements d ds).tree := by
  -- no declaration begins with a mark of the byte order, which would be passed over
  have hmark : s.charAt 0 ≠ '\uFEFF' := by
    have hopens := d.opensLine_text ((ds.flatMap fun e => '\n' :: e.text) ++ gap)
    rw [← List.append_assoc, ← text_statements hds] at hopens
    rw [h.charAt]
    intro hmark
    obtain ⟨c, back, hcs⟩ : ∃ c back, (statements d ds).text ++ gap = c :: back := by
      cases hcs : (statements d ds).text ++ gap with
      | nil =>
        rw [hcs] at hmark
        exact absurd hmark (by decide)
      | cons c back => exact ⟨c, back, rfl⟩
    rw [hcs] at hopens hmark
    obtain rfl : c = '\uFEFF' := hmark
    rw [opensLine, Bool.and_eq_true, Bool.and_eq_true] at hopens
    exact absurd hopens.1.1 (by decide)
  have hsize : (statements d ds).size + 1 < Stack.bound s := by
    have hle := size_statements hds
    have hlength := h.size
    rw [List.length_append] at hlength
    rw [Stack.bound]
    omega
  refine Source.read?_of_reads layout_reads (matches_statements d ds) hmark
    ⟨?_, ?_, hgap, rfl, rfl⟩ hsize
  · show s.After 0 ((statements d ds).text ++ (gap ++ [] ++ []))
    rwa [List.append_nil, List.append_nil]
  · show (statements d ds).Spelled (gap ++ [] ++ [])
    rw [List.append_nil, List.append_nil]
    exact spelled_statements hds hend

/-- What is read and holds no NUL is accepted. -/
theorem parse?_of_read? {source : List Char} {r : Reading}
    (hread : Source.read? source.toArray = some r) (hnul : '\x00' ∉ source) :
    parse? source = some (Source.items source.toArray r) := by
  rw [parse?, List.contains_eq_mem, decide_eq_false hnul, if_neg Bool.false_ne_true, hread,
    Option.map_some]

/-- **A script is read**, and its items are those of its declarations. -/
theorem Source.read?_script {ds : List Declaration} (hds : ∀ d ∈ ds, d.Readable) :
    ∃ r, Source.read? (Generated.script ds).toArray = some r ∧
      Source.items (Generated.script ds).toArray r = Generated.items 1 ds := by
  cases ds with
  | nil =>
    refine ⟨phraseOf .program [], Source.read?_nil layout_reads, ?_⟩
    rw [Source.items_eq, topLevel, parts_phraseOf]
    rfl
  | cons d ds =>
    have htext : Generated.script (d :: ds) = (statements d ds).text ++ ['\n'] := by
      rw [text_statements hds, Generated.script_cons, List.append_assoc, flatMap_cons_append,
        List.append_nil]
      rfl
    have hafter : Source.After (Generated.script (d :: ds)).toArray 0
        ((statements d ds).text ++ ['\n']) := htext ▸ .start (Generated.script (d :: ds))
    exact ⟨_, Source.read?_statements hds rfl (endsHere_cons [] [] rfl rfl) hafter,
      items_tree hds hafter⟩

/-- **The items of a script** are those of its declarations. -/
theorem parse?_script {ds : List Declaration} (hds : ∀ d ∈ ds, d.Readable)
    (hnul : '\x00' ∉ Generated.script ds) :
    parse? (Generated.script ds) = some (Generated.items 1 ds) := by
  obtain ⟨r, hread, hitems⟩ := Source.read?_script hds
  rw [parse?_of_read? hread hnul, hitems]

/-- A text that is one declaration. -/
theorem parse?_text {d : Declaration} (hd : d.Readable) (hnul : '\x00' ∉ d.text) :
    parse? d.text = some [d.item 1] := by
  have hds : ∀ e ∈ [d], e.Readable := List.forall_mem_singleton.mpr hd
  have hafter : Source.After d.text.toArray 0 ((statements d []).text ++ []) := by
    rw [text_statements hds, List.flatMap_nil, List.append_nil, List.append_nil]
    exact .start d.text
  rw [parse?_of_read? (Source.read?_statements hds rfl (.inl rfl) hafter) hnul,
    items_tree hds hafter]
  rfl

end RouteAtlas.Script
