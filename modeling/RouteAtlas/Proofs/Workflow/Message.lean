import RouteAtlas.Proofs.Text.Scalar
import RouteAtlas.Workflow.Cause

/-!
# Which messages can be printed

Most messages are worded by the program itself. A few repeat a text as it was given, and only
through such a text can a surrogate come into a message:

- `Cause.repeated`: the text that a message repeats;
- `Cause.scalar_message_iff`: a message can be printed exactly when that text can.
-/

namespace RouteAtlas

@[simp] theorem PathFault.scalar_message (f : PathFault) : f.message.Scalar := by
  cases f with
  | nulByte => exact Text.scalar_ofString _
  | unencodable u => exact u.scalar_message
  | tooLong path => exact Text.scalar_append.mpr ⟨Text.scalar_ofString _, Text.scalar_quoted path⟩
  | noHome => exact Text.scalar_ofString _

@[simp] theorem Script.Blemish.scalar_fault (b : Script.Blemish) : b.fault.toText.Scalar := by
  have hmessage : b.fault.message.Scalar :=
    Text.scalar_append.mpr ⟨Text.scalar_ofString _, Text.scalar_quoted _⟩
  have hplace : b.fault.place.Scalar := by
    simp only [Fault.place, fault, Option.getD_none, List.isEmpty_nil, if_true, Text.scalar_append,
      Text.scalar_ofString, Text.scalar_ofInt, and_self]
  simp only [Fault.toText, Text.scalar_append, Text.scalar_ofString, hmessage, hplace, and_self]

@[simp] theorem Json.ReadError.scalar_message (e : Json.ReadError) : e.message.Scalar := by
  cases e with
  | malformed problem line column index =>
    simp only [message, Text.scalar_append, Text.scalar_ofString, Text.scalar_ofNat, and_self]
  | digits count =>
    simp only [message, Text.scalar_append, Text.scalar_ofString, Text.scalar_ofNat, and_self]
  | depth container =>
    simp only [message, Text.scalar_append, Text.scalar_ofString, and_self]

/-- The place of a violation is told by the names of fields and by numbers. -/
theorem Step.scalar_toText (s : Step) : s.toText.Scalar := by
  cases s with
  | field name => exact Text.scalar_ofString name
  | item index => exact Text.scalar_ofNat index

theorem Violation.scalar_toText (v : Violation) : v.toText.Scalar := by
  have hplace : (Text.join (Text.ofString ".") (v.place.map Step.toText)).Scalar := by
    refine Text.scalar_join (Text.scalar_ofString _) fun t ht => ?_
    obtain ⟨s, -, rfl⟩ := List.mem_map.mp ht
    exact s.scalar_toText
  rw [toText]
  split
  · simp only [Text.scalar_append, Text.scalar_nil, Text.scalar_ofString, and_self]
  · simp only [Text.scalar_append, Text.scalar_ofString, hplace, and_self]

@[simp] theorem Violation.scalar_report (vs : List Violation) : (Violation.report vs).Scalar := by
  have hlines : Text.Scalar (vs.flatMap toText) :=
    Text.scalar_flatMap.mpr fun v _ => v.scalar_toText
  simp only [report, Text.scalar_append, Text.scalar_ofString, Text.scalar_ofNat, hlines, and_self]

/-- The text that the message of a cause repeats as it was given. -/
def Cause.repeated : Cause → Text
  | .notFolder t | .routeTreeMissing t | .noRouteTree t | .routeMissing t | .sourceMissing t => t
  | _ => []

/-- A message can be printed exactly when the text that it repeats can. -/
theorem Cause.scalar_message_iff (c : Cause) : c.message.Scalar ↔ c.repeated.Scalar := by
  cases c with
  | path fault => exact iff_of_true fault.scalar_message Text.scalar_nil
  | invalidJob vs => exact iff_of_true (Violation.scalar_report vs) Text.scalar_nil
  | undecodable fault => exact iff_of_true fault.scalar_message Text.scalar_nil
  | malformed blemish => exact iff_of_true blemish.scalar_fault Text.scalar_nil
  | payload e => exact iff_of_true e.scalar_message Text.scalar_nil
  | payloadNotObject =>
    have hmessage : (jobVariable ++ Text.ofString " must decode to a JSON object (dict).").Scalar :=
      Text.scalar_append.mpr ⟨Text.scalar_ofString _, Text.scalar_ofString _⟩
    exact iff_of_true hmessage Text.scalar_nil
  | unprintable u => exact iff_of_true u.scalar_message Text.scalar_nil
  | notFolder t | routeTreeMissing t | noRouteTree t | routeMissing t | sourceMissing t =>
    simp only [message, repeated, Text.scalar_append, Text.scalar_ofString, true_and, and_true]

end RouteAtlas
