import Mathlib.Data.List.TakeWhile
import RouteAtlas.Command.Payload

/-!
# Payloads of an environment

- `PayloadMissing`: the variable of the payload is not set, or holds nothing but blanks;
- `holdsPayload_iff`: exactly then there is no payload to decode;
- `readPayload_of_missing`, `readPayload_of_error`, `readPayload_of_object`,
  `readPayload_of_other`: what reading the payload comes to, in all four cases.
-/

namespace RouteAtlas

/-- What is left of a text without blanks at its ends is empty exactly when the text is blank. -/
theorem Text.strip_eq_nil_iff (t : Text) : t.strip = [] ↔ t.isBlank = true := by
  rw [strip, stripRight, List.reverse_eq_nil_iff, List.dropWhile_eq_nil_iff, isBlank,
    List.all_eq_true]
  constructor
  · intro h p hp
    rw [← List.takeWhile_append_dropWhile (p := CodePoint.isBlank) (l := t)] at hp
    rcases List.mem_append.mp hp with hp | hp
    · exact List.mem_takeWhile_imp hp
    · exact h p (List.mem_reverse.mpr hp)
  · intro h p hp
    exact h p ((List.dropWhile_sublist _).subset (List.mem_reverse.mp hp))

/-- The variable of the payload is not set, or holds nothing but blanks. -/
def PayloadMissing (env : Table Text Text) : Prop :=
  ∀ t, env.get? jobVariable = some t → t.isBlank = true

theorem not_payloadMissing {env : Table Text Text} {t : Text}
    (hget : env.get? jobVariable = some t) (h : t.isBlank = false) : ¬PayloadMissing env := by
  intro hmissing
  have hblank : t.isBlank = true := hmissing t hget
  rw [h] at hblank
  cases hblank

/-- There is a payload to decode exactly when it is not missing. -/
theorem holdsPayload_iff {env : Table Text Text} :
    holdsPayload env = true ↔ ¬PayloadMissing env := by
  rw [holdsPayload, Bool.not_eq_true', List.isEmpty_eq_false_iff, Ne, Text.strip_eq_nil_iff,
    payloadText, PayloadMissing]
  cases env.get? jobVariable with
  | none => simp [Text.isBlank]
  | some t => simp

/-- What is said of a payload that is there: the hint, unless it is empty or there is none. -/
def saidSource (hint : Option Text) : Text :=
  match hint with
  | some (p :: t) => p :: t
  | _ => envSource

section Reading

variable {env : Table Text Text} {hint : Option Text}

theorem readPayload_of_missing (h : PayloadMissing env) :
    readPayload env hint = .ok ([], noPayloadSource) := by
  have hholds : holdsPayload env = false := by
    rw [Bool.eq_false_iff]
    exact fun hholds => holdsPayload_iff.mp hholds h
  unfold readPayload
  rw [hholds]
  rfl

theorem readPayload_of_error (h : ¬PayloadMissing env) {e : Json.ReadError}
    (hparse : Json.parse (payloadText env) = .error e) :
    readPayload env hint = .error (.payload e) := by
  unfold readPayload
  rw [holdsPayload_iff.mpr h, hparse]
  rfl

theorem readPayload_of_object (h : ¬PayloadMissing env) {ms : List (Text × Json)}
    (hparse : Json.parse (payloadText env) = .ok (.object ms)) :
    readPayload env hint = .ok (ms, saidSource hint) := by
  unfold readPayload
  rw [holdsPayload_iff.mpr h, hparse]
  rfl

theorem readPayload_of_other (h : ¬PayloadMissing env) {j : Json}
    (hparse : Json.parse (payloadText env) = .ok j) (hj : ∀ ms, j ≠ .object ms) :
    readPayload env hint = .error .payloadNotObject := by
  unfold readPayload
  rw [holdsPayload_iff.mpr h, hparse]
  cases j with
  | object ms => exact absurd rfl (hj ms)
  | null | bool | int | float | string | array => rfl

/-- What reading a payload comes to where there is one. -/
theorem readPayload_cases (h : ¬PayloadMissing env) (hint : Option Text) :
    (∃ e, readPayload env hint = .error (.payload e)) ∨
      (∃ ms, readPayload env hint = .ok (ms, saidSource hint)) ∨
        readPayload env hint = .error .payloadNotObject := by
  cases hparse : Json.parse (payloadText env) with
  | error e => exact .inl ⟨e, readPayload_of_error h hparse⟩
  | ok j =>
    by_cases hj : ∃ ms, j = .object ms
    · obtain ⟨ms, rfl⟩ := hj
      exact .inr (.inl ⟨ms, readPayload_of_object h hparse⟩)
    · exact .inr (.inr (readPayload_of_other h hparse fun ms hms => hj ⟨ms, hms⟩))

theorem source_of_readPayload (h : ¬PayloadMissing env) {ms : List (Text × Json)} {source : Text}
    (hread : readPayload env hint = .ok (ms, source)) : source = saidSource hint := by
  obtain ⟨e, he⟩ | ⟨ms', hms⟩ | hother := readPayload_cases h hint
  · rw [he] at hread
    cases hread
  · rw [hms] at hread
    cases hread
    rfl
  · rw [hother] at hread
    cases hread

end Reading

end RouteAtlas
