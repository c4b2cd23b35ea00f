import Mathlib.Data.List.TakeWhile
import RouteAtlas.Command.Dotenv
import RouteAtlas.Proofs.Table
import RouteAtlas.Proofs.Workflow.Run

/-!
# What loading a dotenv file does

A file is loaded line by line, and whether a line assigns anything may depend on the lines before
it. The assignments that are made are told apart from the environment they are made in:

- `Dotenv.assignments`: the assignments of lines, in their order;
- `assignLines_eq`: the lines leave the environment with these pairs bound, up to the first pair
  that holds a NUL;
- `Dotenv.Refused`: the reasons why a file cannot be loaded, and `load_eq_error_iff`: **there are no
  others**;
- `Dotenv.made`: the assignments of a file, and `load_eq_ok`: what they leave behind.
-/

namespace RouteAtlas.Dotenv

/-- The assignments that lines make in an environment, in their order. A name that is set, by the
environment or by a line before, is assigned again only with `override`. -/
def assignments (override : Bool) (env : Table Text Text) : List Text → List (Text × Text)
  | [] => []
  | line :: lines =>
    match parseLine line with
    | none => assignments override env lines
    | some (name, value) =>
      if !override && env.contains name then assignments override env lines
      else (name, value) :: assignments override (env.insert name value) lines

/-- The name or the value holds a NUL. -/
def holdsNul (a : Text × Text) : Bool := (a.1 ++ a.2).any (·.is '\x00')

/-- Lines bind the pairs they assign, one after the other, and stop at the first that holds a
NUL. -/
theorem assignLines_eq (override : Bool) :
    ∀ (lines : List Text) (env : Table Text Text),
      assignLines override env lines =
        (env.bindAll ((assignments override env lines).takeWhile fun a => !holdsNul a),
          if (assignments override env lines).any holdsNul then .error (.path .nulByte)
          else .ok ())
  | [], env => rfl
  | line :: lines, env => by
    rw [assignLines, assignments]
    cases parseLine line with
    | none => exact assignLines_eq override lines env
    | some pair =>
      obtain ⟨name, value⟩ := pair
      by_cases hkept : (!override && env.contains name) = true
      · simp only [assign, hkept, if_true]
        exact assignLines_eq override lines env
      · have hnul : holdsNul (name, value) = (name ++ value).any (·.is '\x00') := rfl
        simp only [assign, hkept]
        cases h : (name ++ value).any (·.is '\x00') with
        | true => simp [hnul, h]
        | false =>
          simp only [Bool.false_eq_true, if_false, assignLines_eq override lines,
            List.takeWhile_cons, List.any_cons, hnul, h, Bool.not_false, if_true, Bool.false_or]
          rfl

/-- Without `override` no name is assigned that the environment sets already. -/
theorem get?_eq_none_of_mem {name value : Text} :
    ∀ {lines : List Text} {env : Table Text Text},
      (name, value) ∈ assignments false env lines → env.get? name = none
  | [], _, h => nomatch h
  | line :: lines, env, h => by
    rw [assignments] at h
    cases hline : parseLine line with
    | none =>
      rw [hline] at h
      exact get?_eq_none_of_mem h
    | some pair =>
      rw [hline] at h
      obtain ⟨k, v⟩ := pair
      by_cases hk : env.contains k = true
      · simp only [hk, Bool.not_false, Bool.true_and, if_true] at h
        exact get?_eq_none_of_mem h
      · simp only [hk, Bool.not_false, Bool.true_and] at h
        rcases List.mem_cons.mp h with h | h
        · cases h
          simpa [Table.contains] using hk
        · have hlater := get?_eq_none_of_mem h
          rw [Table.get?_insert] at hlater
          split at hlater
          · cases hlater
          · exact hlater

/-! ## Whole files -/

/-- Why a dotenv file cannot be loaded: its path is too long for the file system, its bytes are no
UTF-8, or it assigns a NUL. -/
inductive Refused (w : World) (path : Text) (override : Bool) : Cause → Prop where
  | path {fault : PathFault} (hfind : w.find? (.ofText path) = .error fault) :
    Refused w path override (.path fault)
  | bytes {bytes : List Nat} {fault : Utf8.Fault}
    (hfind : w.find? (.ofText path) = .ok (some (.file bytes)))
    (hdecode : Utf8.decode bytes = .error fault) : Refused w path override (.undecodable fault)
  | nul {bytes : List Nat} {cs : List Char} {a : Text × Text}
    (hfind : w.find? (.ofText path) = .ok (some (.file bytes)))
    (hread : readText w (.ofText path) = .ok cs)
    (ha : a ∈ assignments override w.env (Text.ofChars cs).lines) (hnul : holdsNul a = true) :
    Refused w path override (.path .nulByte)

/-- Loading a file that can be read makes its assignments, up to the first that holds a NUL. -/
theorem load_of_readText {w : World} {path : Text} {bytes : List Nat} {cs : List Char}
    (hfind : w.find? (.ofText path) = .ok (some (.file bytes)))
    (h : readText w (.ofText path) = .ok cs) (override : Bool) :
    load w path override =
      (w.env.bindAll ((assignments override w.env (Text.ofChars cs).lines).takeWhile
          fun a => !holdsNul a),
        if (assignments override w.env (Text.ofChars cs).lines).any holdsNul
          then .error (.path .nulByte) else .ok true) := by
  rw [load, hfind, h]
  simp only [assignLines_eq]
  split
  · rfl
  · rfl

/-- **A file is loaded unless it is refused.** -/
theorem load_eq_error_iff {w : World} {path : Text} {override : Bool} {e : Cause} :
    (load w path override).2 = .error e ↔ Refused w path override e := by
  constructor
  · intro h
    cases hfind : w.find? (.ofText path) with
    | error fault =>
      rw [load, hfind] at h
      cases h
      exact .path hfind
    | ok found =>
      match found with
      | none | some (.folder _) | some (.device _) =>
        rw [load, hfind] at h
        cases h
      | some (.file bytes) =>
        cases hdecode : Utf8.decode bytes with
        | error fault =>
          have hread := readText_of_find? hfind rfl
          rw [hdecode] at hread
          rw [load, hfind, hread] at h
          cases h
          exact .bytes hfind hdecode
        | ok cs =>
          have hread := readText_of_find? hfind rfl
          rw [hdecode] at hread
          rw [load_of_readText hfind hread] at h
          split at h
          next hany =>
            cases h
            obtain ⟨a, ha, hnul⟩ := List.any_eq_true.mp hany
            exact .nul hfind hread ha hnul
          next => cases h
  · intro h
    cases h with
    | path hfind => rw [load, hfind]
    | bytes hfind hdecode =>
      have hread := readText_of_find? hfind rfl
      rw [hdecode] at hread
      rw [load, hfind, hread]
    | nul hfind hread ha hnul =>
      rw [load_of_readText hfind hread, if_pos (List.any_eq_true.mpr ⟨_, ha, hnul⟩)]

/-- The assignments that the file at a path makes; none where there is no file to read. -/
def made (w : World) (path : Text) (override : Bool) : List (Text × Text) :=
  match w.find? (.ofText path), readText w (.ofText path) with
  | .ok (some (.file _)), .ok cs => assignments override w.env (Text.ofChars cs).lines
  | _, _ => []

/-- Without `override` a file assigns no name that the environment sets already. -/
theorem get?_eq_none_of_mem_made {w : World} {path name value : Text}
    (h : (name, value) ∈ made w path false) : w.env.get? name = none := by
  rw [made] at h
  split at h
  next => exact get?_eq_none_of_mem h
  next => cases h

/-- A file that is loaded leaves its assignments behind, all of them; without a file there are
none. -/
theorem load_eq_ok {w : World} {path : Text} {override found : Bool}
    (h : (load w path override).2 = .ok found) :
    (load w path override).1 = w.env.bindAll (made w path override) ∧
      (found = false → made w path override = []) := by
  by_cases hfile : ∃ bytes cs, w.find? (.ofText path) = .ok (some (.file bytes)) ∧
      readText w (.ofText path) = .ok cs
  · obtain ⟨bytes, cs, hfind, hread⟩ := hfile
    have hmade : made w path override = assignments override w.env (Text.ofChars cs).lines := by
      rw [made, hfind, hread]
    rw [load_of_readText hfind hread] at h ⊢
    split at h
    next => cases h
    next hnone =>
      cases h
      have hall : ∀ a ∈ made w path override, (!holdsNul a) = true := by
        intro a ha
        rw [hmade] at ha
        simpa using fun hnul => hnone (List.any_eq_true.mpr ⟨a, ha, hnul⟩)
      rw [← hmade, List.takeWhile_eq_self_iff.mpr hall]
      exact ⟨rfl, fun hf => nomatch hf⟩
  · have hmade : made w path override = [] := by
      rw [made]
      split
      next bytes cs hfind hread => exact absurd ⟨bytes, cs, hfind, hread⟩ hfile
      next => rfl
    refine ⟨?_, fun _ => hmade⟩
    rw [hmade, Table.bindAll_nil]
    -- without a text nothing is assigned, whatever the reason
    rw [load]
    split
    next => rfl
    next bytes hfind =>
      cases hread : readText w (.ofText path) with
      | error e => rfl
      | ok cs => exact absurd ⟨bytes, cs, hfind, hread⟩ hfile
    next => rfl

end RouteAtlas.Dotenv
