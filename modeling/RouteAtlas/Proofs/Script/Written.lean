import RouteAtlas.Proofs.Script.Pile
import RouteAtlas.Proofs.Script.Tokens

/-!
# Texts as they are written

A text with the tokens and phrases that it is meant to be read as. What is meant is the reading of
the text wherever the reader, at each token, has nothing else to do:

- `Written`: tokens and phrases, one behind the other, with the text of each token;
- `Written.place`: the readings that are meant, at their places;
- `Sketch`: the forms that texts take, with choices and repetitions;
- `Sketch.check`: on every text of a form, the reader does what is meant, as a test that can be run;
- `Sketch.comes_of_check`: **it does**, by induction over the form, and over the number of parts of
  each repetition (`Sketch.comes_repeated`);
- `Source.read?_of_reads`: the reading of a whole text.
-/

namespace RouteAtlas.Script

/-! ## Texts -/

/-- Tokens and phrases as they are written, one behind the other. -/
inductive Written where
  | nil
  | token (x : Ink) (rest : Written)
  | phrase (symbol : Nat) (parts rest : Written)

namespace Written

/-- What is written. -/
def text : Written → List Char
  | nil => []
  | token x rest => x.text ++ rest.text
  | phrase _ parts rest => parts.text ++ rest.text

/-- The number of tokens and phrases. -/
def size : Written → Nat
  | nil => 0
  | token _ rest => rest.size + 1
  | phrase _ parts rest => parts.size + 1 + rest.size

/-- The first token; the given one where nothing is written. -/
def lead : Written → Ink → Ink
  | nil, next => next
  | token x _, _ => x
  | phrase _ parts rest, next => parts.lead (rest.lead next)

/-- Every token is spelled, with the given text behind all of them. -/
def Spelled : Written → List Char → Prop
  | nil, _ => True
  | token x rest, cs => x.Spelled (rest.text ++ cs) ∧ rest.Spelled cs
  | phrase _ parts rest, cs => parts.Spelled (rest.text ++ cs) ∧ rest.Spelled cs

/-- The readings that are meant, where the text begins at `i`. -/
def place : Written → Nat → List Reading
  | nil, _ => []
  | token x rest, i => .leaf (x.lexeme i) x.gap.length false :: rest.place (i + x.text.length)
  | phrase n parts rest, i =>
    .ofChildren n 0 (parts.place i) :: rest.place (i + parts.text.length)

/-- The first token stands in front of the text, and is spelled there. -/
theorem lead_spec {next : Ink} {rest : List Char} (hnext : next.Spelled rest) :
    ∀ {w : Written} {cs : List Char}, cs = next.text ++ rest → w.Spelled cs →
      ∃ back, w.text ++ cs = (w.lead next).text ++ back ∧ (w.lead next).Spelled back := by
  intro w
  induction w generalizing next rest with
  | nil => exact fun hcs _ => ⟨rest, hcs, hnext⟩
  | token x w _ =>
    intro cs _ hw
    exact ⟨w.text ++ cs, List.append_assoc _ _ _, hw.1⟩
  | phrase n parts w ihparts ihw =>
    intro cs hcs hw
    obtain ⟨back, hback, hspelled⟩ := ihw hnext hcs hw.2
    obtain ⟨back', hback', hspelled'⟩ := ihparts hspelled hback hw.1
    exact ⟨back', by rw [text, List.append_assoc, hback']; rfl, hspelled'⟩

end Written

/-! ## Forms of texts -/

/-- A form of texts: tokens and phrases, one behind the other, with choices and repetitions. -/
inductive Sketch where
  | nil
  | token (slot : Slot) (rest : Sketch)
  | phrase (symbol : Nat) (parts rest : Sketch)
  /-- Either of two forms. -/
  | either (a b : Sketch)
  /-- A repetition of a form, once or more often. -/
  | many (symbol : Nat) (item rest : Sketch)

/-- A repetition of what is written in a certain way: the part once, or the repetition with the
part behind it. -/
inductive Repeated (n : Nat) (P : Written → Prop) : Written → Prop where
  | one {w : Written} (h : P w) : Repeated n P w
  | more {v w : Written} (hv : Repeated n P v) (hw : P w) :
      Repeated n P (.phrase n v (.phrase n w .nil))

namespace Sketch

/-- The text has the form. -/
def Matches : Sketch → Written → Prop
  | nil, .nil => True
  | token f rest, .token x w => x.slot = f ∧ rest.Matches w
  | phrase n parts rest, .phrase m v w => m = n ∧ parts.Matches v ∧ rest.Matches w
  | either a b, w => a.Matches w ∨ b.Matches w
  | many n item rest, .phrase m v w => m = n ∧ Repeated n item.Matches v ∧ rest.Matches w
  | _, _ => False

/-- How the first token is written; one of the given ways where there is none. -/
def firsts : Sketch → List Slot → List Slot
  | nil, ts => ts
  | token f _, _ => [f]
  | phrase _ parts _, _ => parts.firsts []
  | either a b, ts => a.firsts ts ++ b.firsts ts
  | many _ item _, _ => item.firsts []

/-- The symbols that a text of the form begins with: a token, and the phrases that begin with it. -/
def leads : Sketch → List Nat
  | nil => []
  | token f _ => [f.code]
  | phrase n parts _ => n :: parts.leads
  | either a b => a.leads ++ b.leads
  | many n item _ => n :: item.leads

end Sketch

/-! ## What the reader does -/

namespace State

/-- On the token the phrase of the given symbol ends, which has the given number of parts, and
nothing else can be done. -/
def ends (q : State) (n k token : Nat) : Bool :=
  match q.actions token with
  | [.reduce i] => Grammar.tokenCount + i.phrase = n && i.done = k && i.weight = 0
  | _ => false

/-- The symbol means the same in both states. -/
def alike (q r : State) (x : Nat) : Bool :=
  (Grammar.tokenCount ≤ x || q.actions x = r.actions x) && q.advance x = r.advance x

theorem exists_of_ends {q : State} {n k token : Nat} (h : q.ends n k token = true) :
    ∃ i : Spot, q.actions token = [.reduce i] ∧ Grammar.tokenCount + i.phrase = n ∧ i.done = k ∧
      i.weight = 0 := by
  rw [ends] at h
  split at h
  next i hdo =>
    rw [Bool.and_eq_true, Bool.and_eq_true, decide_eq_true_eq, decide_eq_true_eq,
      decide_eq_true_eq] at h
    exact ⟨i, hdo, h.1.1, h.1.2, h.2⟩
  next => cases h

variable {q r u : State} {x : Nat}

theorem goto_eq_of_alike (h : q.alike r x = true) : q.goto x = r.goto x := by
  rw [alike, Bool.and_eq_true, decide_eq_true_eq] at h
  rw [goto, goto, h.2]

theorem actions_eq_of_alike (h : q.alike r x = true) (hx : x < Grammar.tokenCount) :
    q.actions x = r.actions x := by
  rw [alike, Bool.and_eq_true, Bool.or_eq_true, decide_eq_true_eq, decide_eq_true_eq] at h
  exact h.1.resolve_left (Nat.not_le.mpr hx)

theorem alike_trans (hr : q.alike r x = true) (hu : q.alike u x = true) : r.alike u x = true := by
  simp only [alike, Bool.and_eq_true, Bool.or_eq_true, decide_eq_true_eq] at hr hu ⊢
  refine ⟨?_, hr.2.symm.trans hu.2⟩
  rcases hr.1 with hle | hr
  · exact .inl hle
  · exact hu.1.imp_right (hr.symm.trans ·)

end State

namespace Sketch

/-- On every text of the form, read in the given state, the reader does what is meant, and nothing
else can be done: it reads the rest of a phrase, of which `k` parts are read, up to a token that is
written in one of the ways `ts`, and there it ends the phrase. -/
def check : Sketch → State → (n k : Nat) → (ts : List Slot) → Bool
  | nil, q, n, k, ts => 0 < k && ts.all fun f => q.ends n k f.code
  | token f rest, q, n, k, ts =>
    f.code ≠ TokenClass.endOfText.code && q.actions f.code = [.shift] &&
      (rest.firsts ts).all (·.fits (q.goto f.code).valid) &&
      rest.check (q.goto f.code) n (k + 1) ts
  | phrase m parts rest, q, n, k, ts =>
    parts.check q m 0 (rest.firsts ts) && rest.check (q.goto m) n (k + 1) ts
  | either a b, q, n, k, ts => a.check q n k ts && b.check q n k ts
  | many m item rest, q, n, k, ts =>
    item.check q m 0 (item.firsts [] ++ rest.firsts ts) &&
      (item.leads.all (q.alike (q.goto m)) ||
        item.check (q.goto m) m 0 (item.firsts [] ++ rest.firsts ts)) &&
      (item.firsts [] ++ rest.firsts ts).all (fun f => ((q.goto m).goto m).ends m 2 f.code) &&
      rest.check (q.goto m) n (k + 1) ts

theorem code_lt (f : Slot) : f.code < Grammar.tokenCount := by
  have hsingle : ∀ t : Rule, (∃ c, t = .token c) ∨ (∃ text, t = .spelled text) →
      Symbol.ofRule t < Grammar.tokenCount := by
    rintro t (⟨c, rfl⟩ | ⟨text, rfl⟩)
    · exact TokenClass.code_lt c
    · exact Symbol.ofSpelling_lt text
  refine hsingle _ ?_
  cases f.form with
  | word text | mark text => exact .inr ⟨text, rfl⟩
  | _ => exact .inl ⟨_, rfl⟩

/-- What holds of a form in a state holds of it in a state where its first symbols mean the same. -/
theorem check_of_alike {sk : Sketch} :
    ∀ {q r : State} {n : Nat} {ts : List Slot}, sk.check q n 0 ts = true →
      (∀ x ∈ sk.leads, q.alike r x = true) → sk.check r n 0 ts = true := by
  induction sk with
  | nil =>
    -- no phrase ends without a part
    intro q r n ts h _
    cases h
  | token f rest _ =>
    intro q r n ts h halike
    have hf := halike f.code List.mem_cons_self
    rw [check] at h ⊢
    rw [← State.goto_eq_of_alike hf, ← State.actions_eq_of_alike hf (code_lt f)]
    exact h
  | phrase m parts rest ihparts _ =>
    intro q r n ts h halike
    rw [check, Bool.and_eq_true] at h ⊢
    rw [← State.goto_eq_of_alike (halike m List.mem_cons_self)]
    exact ⟨ihparts h.1 fun x hx => halike x (List.mem_cons_of_mem _ hx), h.2⟩
  | either a b iha ihb =>
    intro q r n ts h halike
    rw [check, Bool.and_eq_true] at h ⊢
    exact ⟨iha h.1 fun x hx => halike x (List.mem_append_left _ hx),
      ihb h.2 fun x hx => halike x (List.mem_append_right _ hx)⟩
  | many m item rest ihitem _ =>
    intro q r n ts h halike
    have hitem : ∀ x ∈ item.leads, q.alike r x = true :=
      fun x hx => halike x (List.mem_cons_of_mem _ hx)
    simp only [check, Bool.and_eq_true, Bool.or_eq_true] at h ⊢
    obtain ⟨⟨⟨hcheck, hagain⟩, hends⟩, hrest⟩ := h
    rw [← State.goto_eq_of_alike (halike m List.mem_cons_self)]
    refine ⟨⟨⟨ihitem hcheck hitem, hagain.imp_left ?_⟩, hends⟩, hrest⟩
    intro hagain
    rw [List.all_eq_true] at hagain ⊢
    exact fun x hx => State.alike_trans (hitem x hx) (hagain x hx)

/-- The first token of a text is written in one of the ways that its form begins with. -/
theorem lead_mem_firsts {sk : Sketch} :
    ∀ {q : State} {n k : Nat} {ts us : List Slot} {w : Written} {next : Ink},
      sk.check q n k ts = true → sk.Matches w → (0 < k → next.slot ∈ us) →
      (w.lead next).slot ∈ sk.firsts us := by
  induction sk with
  | nil =>
    intro q n k ts us w next h hw hnext
    cases w with
    | nil =>
      rw [check, Bool.and_eq_true, decide_eq_true_eq] at h
      exact hnext h.1
    | token | phrase => exact absurd hw id
  | token f rest _ =>
    intro q n k ts us w next h hw hnext
    cases w with
    | token x w => exact List.mem_singleton.mpr hw.1
    | nil | phrase => exact absurd hw id
  | phrase m parts rest ihparts _ =>
    intro q n k ts us w next h hw hnext
    cases w with
    | phrase l v w =>
      rw [check, Bool.and_eq_true] at h
      show (v.lead (w.lead next)).slot ∈ parts.firsts []
      exact ihparts h.1 hw.2.1 (absurd · (Nat.lt_irrefl 0))
    | nil | token => exact absurd hw id
  | either a b iha ihb =>
    intro q n k ts us w next h hw hnext
    rw [check, Bool.and_eq_true] at h
    rcases hw with hw | hw
    · exact List.mem_append_left _ (iha h.1 hw hnext)
    · exact List.mem_append_right _ (ihb h.2 hw hnext)
  | many m item rest ihitem _ =>
    intro q n k ts us w next h hw hnext
    cases w with
    | phrase l v w =>
      simp only [check, Bool.and_eq_true] at h
      have hchain : ∀ {v : Written} {next : Ink}, Repeated m item.Matches v →
          (v.lead next).slot ∈ item.firsts [] := by
        intro v next hv
        induction hv generalizing next with
        | one hv => exact ihitem h.1.1.1 hv (absurd · (Nat.lt_irrefl 0))
        | more _ _ ih => exact ih
      show (v.lead (w.lead next)).slot ∈ item.firsts []
      exact hchain hw.2.1
    | nil | token => exact absurd hw id

end Sketch

/-! ## Texts that lie ahead -/

/-- At the position the given text lies ahead, and behind it the given token, with the rest of the
source. -/
structure Source.Ahead (s : Source) (i : Nat) (w : Written) (next : Ink) (rest : List Char) :
    Prop where
  after : s.After i (w.text ++ (next.text ++ rest))
  spelled : w.Spelled (next.text ++ rest)
  next : next.Spelled rest

namespace Source.Ahead

variable {s : Source} {i n : Nat} {x next : Ink} {v w : Written} {rest : List Char}

theorem lead (h : s.Ahead i w next rest) :
    ∃ back, s.After i ((w.lead next).text ++ back) ∧ (w.lead next).Spelled back := by
  obtain ⟨back, hback, hspelled⟩ := Written.lead_spec h.next rfl h.spelled
  exact ⟨back, hback ▸ h.after, hspelled⟩

theorem tail (h : s.Ahead i (.token x w) next rest) :
    s.Ahead (i + x.text.length) w next rest where
  after := by
    have hafter := h.after
    rw [Written.text, List.append_assoc] at hafter
    exact hafter.skip
  spelled := h.spelled.2
  next := h.next

theorem parts (h : s.Ahead i (.phrase n v w) next rest) :
    ∃ back, s.Ahead i v (w.lead next) back := by
  obtain ⟨back, hback, hspelled⟩ := Written.lead_spec h.next rfl h.spelled.2
  have hafter := h.after
  rw [Written.text, List.append_assoc, hback] at hafter
  exact ⟨back, hafter, hback ▸ h.spelled.1, hspelled⟩

theorem behind (h : s.Ahead i (.phrase n v w) next rest) :
    s.Ahead (i + v.text.length) w next rest where
  after := by
    have hafter := h.after
    rw [Written.text, List.append_assoc] at hafter
    exact hafter.skip
  spelled := h.spelled.2
  next := h.next

end Source.Ahead

/-- No token of a form is a comment. -/
theorem Ink.isComment_lexeme (x : Ink) (i : Nat) : (x.lexeme i).isComment = false := by
  have hne : ∀ c ∈ [TokenClass.comment, .pageComment], x.slot.code ≠ c.code := by
    intro c hc
    have hend : c ≠ .endOfText := by
      rintro rfl
      exact absurd hc (by decide)
    rw [Slot.code]
    cases x.slot.form with
    | word text | mark text => exact Symbol.ofSpelling_ne_code text hend
    | raw q =>
      cases q <;> revert c <;> decide
    | _ => revert c; decide
  rw [Lexeme.isComment, Bool.or_eq_false_iff]
  exact ⟨beq_false_of_ne (hne _ List.mem_cons_self),
    beq_false_of_ne (hne _ (List.mem_cons_of_mem _ List.mem_cons_self))⟩

theorem Source.next_of_spelled {s : Source} {q : State} {i : Nat} {x : Ink} {rest : List Char}
    (hmark : s.charAt 0 ≠ '\uFEFF') (h : s.After i (x.text ++ rest)) (hx : x.Spelled rest)
    (hfits : x.slot.fits q.valid = true) : s.Next q i (x.lexeme i) :=
  ⟨lexeme?_of_spelled hmark h hx hfits, x.isComment_lexeme i⟩

theorem Ink.stop_lexeme (x : Ink) (i : Nat) : (x.lexeme i).stop = i + x.text.length := by
  rw [lexeme, text, List.length_append, Nat.add_assoc]

/-! ## Runs -/

namespace Pile

/-- A phrase in the place of the last parts of a pile and of those that are still ahead. -/
def close (σ : Pile) (n k : Nat) (rs : List Reading) : Pile :=
  push (σ.drop k) (.ofChildren n 0 (readings (σ.take k) ++ rs))

theorem close_push (σ : Pile) (r : Reading) (n k : Nat) (rs : List Reading) :
    (σ.push r).close n (k + 1) rs = σ.close n k (r :: rs) := by
  have hreadings : readings ((σ.push r).take (k + 1)) = readings (σ.take k) ++ [r] := by
    rw [push, List.take_succ_cons, readings, List.map_cons, List.reverse_cons]
    rfl
  rw [close, hreadings, List.append_assoc]
  rfl

/-- The reader has come from one pile to another one, whose readings end at the given position. -/
structure Comes (s : Source) (k : Nat) (σ : Pile) (x : Lexeme) (τ : Pile) (y : Ink) (i : Nat) :
    Prop where
  steps : Steps s k σ x τ (y.lexeme i)
  stop : τ.stop = i

theorem Comes.trans {s : Source} {a b i j : Nat} {σ τ υ : Pile} {x : Lexeme} {y z : Ink}
    (h : Comes s a σ x τ y i) (h' : Comes s b τ (y.lexeme i) υ z j) : Comes s (a + b) σ x υ z j :=
  ⟨h.steps.trans h'.steps, h'.stop⟩

theorem actions_eq {σ : Pile} {token : Nat} (h : σ ≠ [] ∨ token ≠ TokenClass.endOfText.code) :
    σ.actions token = σ.top.actions token := by
  rw [actions, if_neg]
  rw [List.isEmpty_iff]
  rintro ⟨hσ, htoken⟩
  exact h.elim (absurd hσ) (absurd htoken)

/-- **Step lemma**: where its phrase ends, the pile is closed over its parts. -/
theorem comes_of_ends {s : Source} {σ : Pile} {n k i : Nat} {x : Ink} (hk : 0 < k)
    (hle : k ≤ σ.length) (hstop : σ.stop = i) (hends : σ.top.ends n k x.slot.code = true) :
    Comes s 1 σ (x.lexeme i) (σ.close n k []) x i := by
  obtain ⟨p, hdo, rfl, rfl, hweight⟩ := State.exists_of_ends hends
  have hne : σ ≠ [] := by
    rintro rfl
    exact absurd hk (Nat.not_lt.mpr hle)
  have hclose : σ.close (Grammar.tokenCount + p.phrase) p.done [] = σ.end_ p := by
    rw [close, end_, List.append_nil, hweight]
  rw [hclose]
  exact ⟨.single (.ends ((actions_eq (.inl hne)).trans hdo) hk hle), (stop_end hk hle).trans hstop⟩

/-- **Step lemma**: a token that fits is taken over. -/
theorem step_of_spelled {s : Source} {σ : Pile} {i : Nat} {x next : Ink} {rest : List Char}
    (hmark : s.charAt 0 ≠ '\uFEFF') (hx : x.slot.code ≠ TokenClass.endOfText.code)
    (hstop : σ.stop = i) (hdo : σ.top.actions x.slot.code = [.shift])
    (h : s.After (i + x.text.length) (next.text ++ rest)) (hnext : next.Spelled rest)
    (hfits : next.slot.fits (σ.top.goto x.slot.code).valid = true) :
    Step s σ (x.lexeme i) (σ.push (.leaf (x.lexeme i) x.gap.length false))
      (next.lexeme (i + x.text.length)) := by
  have hgap : (x.lexeme i).start - σ.stop = x.gap.length := by
    rw [hstop]
    exact Nat.add_sub_cancel_left _ _
  have hgo := Source.next_of_spelled hmark h hnext hfits
  rw [← x.stop_lexeme i] at hgo ⊢
  rw [← hgap]
  exact .goes ((actions_eq (.inr hx)).trans hdo) hgo

/-- A phrase that is read, and then what is behind it. -/
theorem comes_phrase {s : Source} {σ : Pile} {i m n k : Nat} {v w : Written} {next : Ink}
    (hv : Comes s (v.size + 1) σ ((v.lead (w.lead next)).lexeme i) (σ.close m 0 (v.place i))
      (w.lead next) (i + v.text.length))
    (hw : Comes s (w.size + 1) (σ.close m 0 (v.place i)) ((w.lead next).lexeme (i + v.text.length))
      ((σ.close m 0 (v.place i)).close n (k + 1) (w.place (i + v.text.length))) next
      (i + v.text.length + w.text.length)) :
    Comes s ((Written.phrase m v w).size + 1) σ (((Written.phrase m v w).lead next).lexeme i)
      (σ.close n k ((Written.phrase m v w).place i)) next
      (i + (Written.phrase m v w).text.length) := by
  have hclose : (σ.close m 0 (v.place i)).close n (k + 1) (w.place (i + v.text.length)) =
      σ.close n k ((Written.phrase m v w).place i) := close_push σ _ n k _
  rw [hclose] at hw
  rw [Written.text, List.length_append, ← Nat.add_assoc]
  exact hv.trans hw

end Pile

namespace Sketch

open Pile

/-- From the pile on, every text of the form is read up to one of the given tokens, and it closes
the phrase of which `k` parts lie on the pile. -/
def ReadFrom (sk : Sketch) (s : Source) (σ : Pile) (n k : Nat) (ts : List Slot) : Prop :=
  ∀ {w : Written} {i : Nat} {next : Ink} {rest : List Char}, sk.Matches w → σ.stop = i →
    next.slot ∈ ts → s.Ahead i w next rest →
      Comes s (w.size + 1) σ ((w.lead next).lexeme i) (σ.close n k (w.place i)) next
        (i + w.text.length)

/-- A repetition is read where its part is, **by induction on how often the part is repeated**:
behind each part but the first, the reader ends the repetition of two repetitions. -/
theorem comes_repeated {s : Source} {item : Sketch} {σ : Pile} {m : Nat} {ts : List Slot}
    (hfirst : item.ReadFrom s σ m 0 ts) (hagain : ∀ rs, item.ReadFrom s (σ.close m 0 rs) m 0 ts)
    (hlead : ∀ {w : Written} {next : Ink}, item.Matches w → (w.lead next).slot ∈ ts)
    (hends : ∀ f ∈ ts, ((σ.top.goto m).goto m).ends m 2 f.code = true) {v : Written} {i : Nat}
    {next : Ink} {rest : List Char} (hv : Repeated m item.Matches v) (hstop : σ.stop = i)
    (hnext : next.slot ∈ ts) (hahead : s.Ahead i v next rest) :
    Comes s (v.size + 1) σ ((v.lead next).lexeme i) (σ.close m 0 (v.place i)) next
      (i + v.text.length) := by
  induction hv generalizing i next rest with
  | one hv => exact hfirst hv hstop hnext hahead
  | @more v w hv hw ih =>
    obtain ⟨back, hbefore⟩ := hahead.parts
    obtain ⟨back', hbehind⟩ := hahead.behind.parts
    have hone := ih hstop (hlead hw) hbefore
    have htwo := hagain (v.place i) hw hone.stop hnext hbehind
    have hlength : 2 ≤ ((σ.close m 0 (v.place i)).close m 0
        (w.place (i + v.text.length))).length := Nat.le_add_left 2 σ.length
    have hthree := comes_of_ends (s := s) (n := m) (by decide) hlength htwo.stop (hends _ hnext)
    exact comes_phrase hone (comes_phrase htwo hthree)

/-- **The reader does what is meant**: it goes over the text ahead and closes the phrase that the
text ends. -/
theorem comes_of_check {s : Source} (hmark : s.charAt 0 ≠ '\uFEFF') {sk : Sketch} :
    ∀ {σ : Pile} {n k : Nat} {ts : List Slot}, sk.check σ.top n k ts = true → k ≤ σ.length →
      sk.ReadFrom s σ n k ts := by
  induction sk with
  | nil =>
    intro σ n k ts h hle w i next rest hw hstop hnext _
    cases w with
    | nil =>
      rw [check, Bool.and_eq_true, decide_eq_true_eq] at h
      exact comes_of_ends h.1 hle hstop (List.all_eq_true.mp h.2 _ hnext)
    | token | phrase => exact absurd hw id
  | token f rest' ih =>
    intro σ n k ts h hle w i next rest hw hstop hnext hahead
    cases w with
    | token x w =>
      obtain ⟨rfl, hw⟩ := hw
      simp only [check, Bool.and_eq_true, decide_eq_true_eq] at h
      obtain ⟨⟨⟨hend, hdo⟩, hfits⟩, hrest⟩ := h
      obtain ⟨back, hafter, hspelled⟩ := hahead.tail.lead
      have hfirst := lead_mem_firsts hrest hw fun _ => hnext
      have hstep := step_of_spelled hmark hend hstop hdo hafter hspelled
        (List.all_eq_true.mp hfits _ hfirst)
      have hcomes := ih (σ := σ.push (.leaf (x.lexeme i) x.gap.length false)) hrest
        (Nat.succ_le_succ hle) hw (x.stop_lexeme i) hnext hahead.tail
      rw [close_push] at hcomes
      rw [Written.text, List.length_append, ← Nat.add_assoc]
      exact ⟨.head hstep hcomes.steps, hcomes.stop⟩
    | nil | phrase => exact absurd hw id
  | phrase m parts rest' ihparts ih =>
    intro σ n k ts h hle w i next rest hw hstop hnext hahead
    cases w with
    | phrase l v w =>
      obtain ⟨rfl, hv, hw⟩ := hw
      simp only [check, Bool.and_eq_true] at h
      obtain ⟨back, hparts⟩ := hahead.parts
      have hcomes := ihparts h.1 (Nat.zero_le _) hv hstop
        (lead_mem_firsts h.2 hw fun _ => hnext) hparts
      have hbehind := ih (σ := σ.close l 0 (v.place i)) h.2 (Nat.succ_le_succ hle) hw hcomes.stop
        hnext hahead.behind
      exact comes_phrase hcomes hbehind
    | nil | token => exact absurd hw id
  | either a b iha ihb =>
    intro σ n k ts h hle w i next rest hw hstop hnext hahead
    rw [check, Bool.and_eq_true] at h
    rcases hw with hw | hw
    · exact iha h.1 hle hw hstop hnext hahead
    · exact ihb h.2 hle hw hstop hnext hahead
  | many m item rest' ihitem ih =>
    intro σ n k ts h hle w i next rest hw hstop hnext hahead
    cases w with
    | phrase l v w =>
      obtain ⟨rfl, hv, hw⟩ := hw
      simp only [check, Bool.and_eq_true, Bool.or_eq_true] at h
      obtain ⟨⟨⟨hitem, hagain⟩, hends⟩, hrest⟩ := h
      -- behind the first part the state is another one, where the part is read all the same
      have hitem' := hagain.elim (check_of_alike hitem <| List.all_eq_true.mp ·) id
      obtain ⟨back, hparts⟩ := hahead.parts
      have hcomes := comes_repeated (ihitem hitem (Nat.zero_le _))
        (fun rs => ihitem (σ := σ.close l 0 rs) hitem' (Nat.zero_le _))
        (fun hw => List.mem_append_left _ (lead_mem_firsts hitem hw (absurd · (Nat.lt_irrefl 0))))
        (List.all_eq_true.mp hends) hv hstop
        (List.mem_append_right _ (lead_mem_firsts hrest hw fun _ => hnext)) hparts
      have hbehind := ih (σ := σ.close l 0 (v.place i)) hrest (Nat.succ_le_succ hle) hw hcomes.stop
        hnext hahead.behind
      exact comes_phrase hcomes hbehind
    | nil | token => exact absurd hw id

/-- The end of a text is a token like others. -/
def endSlot : Slot := ⟨.lines, .endOfText⟩

/-- On every text of the form that makes up a script, the reader does what is meant; it does not
mistake the end of an empty script for anything else either. -/
def reads (sk : Sketch) : Bool :=
  sk.check .start (Symbol.ofPhrase .program) 0 [endSlot] &&
    (endSlot :: sk.firsts []).all (·.fits State.start.valid) &&
    (State.start.goto (Symbol.ofPhrase .program)).actions TokenClass.endOfText.code = [.accept]

end Sketch

/-- **A text of such a form is read as it is meant**, where the reader has steps enough. -/
theorem Source.read?_of_reads {s : Source} {sk : Sketch} {w : Written} {gap : List Char}
    (hsk : sk.reads = true) (hw : sk.Matches w) (hmark : s.charAt 0 ≠ '\uFEFF')
    (hahead : s.Ahead 0 w ⟨Sketch.endSlot, gap, []⟩ []) (hsize : w.size + 1 < Stack.bound s) :
    s.read? = some (.ofChildren (Symbol.ofPhrase .program) 0
      [.ofChildren (Symbol.ofPhrase .program) 0 (w.place 0)]) := by
  simp only [Sketch.reads, Bool.and_eq_true, decide_eq_true_eq] at hsk
  obtain ⟨⟨hcheck, hfits⟩, haccept⟩ := hsk
  obtain ⟨back, hafter, hspelled⟩ := hahead.lead
  have hfirst : (w.lead ⟨Sketch.endSlot, gap, []⟩).slot ∈ sk.firsts [] :=
    Sketch.lead_mem_firsts hcheck hw (absurd · (Nat.lt_irrefl 0))
  have hnext := s.next_of_spelled hmark hafter hspelled
    (List.all_eq_true.mp hfits _ (List.mem_cons_of_mem _ hfirst))
  have hcomes := Sketch.comes_of_check (σ := []) hmark hcheck (Nat.zero_le _) hw rfl
    List.mem_cons_self hahead
  exact Source.read?_of_steps hnext hcomes.steps
    ((Pile.actions_eq (.inl (List.cons_ne_nil _ _))).trans haccept) hsize

/-- An empty script is read. -/
theorem Source.read?_nil {sk : Sketch} (hsk : sk.reads = true) :
    Source.read? #[] = some (.ofChildren (Symbol.ofPhrase .program) 0 []) := by
  simp only [Sketch.reads, Bool.and_eq_true] at hsk
  have hvalid := List.all_eq_true.mp hsk.1.2 _ List.mem_cons_self
  have hnext := Source.next_of_spelled (q := .start) (x := ⟨Sketch.endSlot, [], []⟩)
    (by decide) (Source.After.start []) ⟨rfl, rfl, rfl⟩ hvalid
  exact Source.read?_of_steps hnext (.refl [] _) rfl (by decide)

end RouteAtlas.Script
