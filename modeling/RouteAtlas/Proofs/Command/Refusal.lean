import Mathlib.Data.List.TakeWhile
import RouteAtlas.Proofs.Command.Answer

/-!
# Payloads that are refused

A payload may be no JSON, no object, or no job. The command tells all of it as a failure of the
stage that loads the job, with two exceptions, which are limits of the reader and no faults of the
text:

- `FailsAt`: the command ends with one, and its line tells of a stage, one only (`FailsAt.unique`);
- `run_of_invalid`: a payload that is no job ends a run in its first stage;
- `command_refuses_payload`: **what is refused at which stage**;
- `Json.parse_eq_digits`: an integer of more digits than the reader takes is one of the exceptions.
-/

namespace RouteAtlas

/-- The command ends with one, and its line tells of a failure at the given stage. -/
def FailsAt (w : World) (arguments : List Text) (stage : Stage) : Prop :=
  ∃ a message, (w.command arguments).2 = .ok a ∧ a.exitCode = 1 ∧
    OneLine a.stdout (failureMembers stage.name message)

/-- The code that stands beside a stage is made from its name. -/
example (message : Text) :
    Table.get? (failureMembers Stage.parseJob.name message) (Text.ofString "error_code") =
      some (.string (Text.ofString "ROUTEMAP_FAILED_PARSE_JOB")) := rfl

/-- A command fails at one stage. -/
theorem FailsAt.unique {w : World} {arguments : List Text} {s s' : Stage}
    (h : FailsAt w arguments s) (h' : FailsAt w arguments s') : s = s' := by
  obtain ⟨a, m, ha, -, hline⟩ := h
  obtain ⟨a', m', ha', -, hline'⟩ := h'
  obtain rfl : a = a' := by
    rw [ha] at ha'
    exact Except.ok.inj ha'
  have hstage := congrArg (Table.get? · (Text.ofString "stage")) (hline.unique hline')
  have hname : Text.ofString s.name = Text.ofString s'.name :=
    Json.string.inj (Option.some.inj hstage)
  cases s <;> cases s' <;> first | rfl | exact absurd hname (by decide)

/-- A payload that is no job ends a run in its first stage. -/
theorem run_of_invalid {payload : Json} {vs : List Violation} (h : Job.ofJson payload = .error vs)
    (w : World) (source : Text) : w.run payload source = .error ⟨.parseJob, .invalidJob vs⟩ := by
  have hload : loadJob w payload = .error (.invalidJob vs) := by
    rw [loadJob, h]
    rfl
  rw [World.run, hload]
  rfl

section Refusal

variable {w : World} {arguments : List Text} {o : Options}

/-- Without a dotenv file the command answers in the world as it is. -/
theorem command_of_no_dotenv (hparse : Options.parse arguments = .ok o)
    (hdotenv : o.dotenv = none) : (w.command arguments).2 = w.answer o none := by
  have hprepare : w.prepare o = (w, .ok none) :=
    prepare_of_no_dotenv fun path hpath => nomatch hdotenv ▸ hpath
  rw [command_of_prepared hparse hprepare]

theorem failsAt_of_error (hparse : Options.parse arguments = .ok o) (hdotenv : o.dotenv = none)
    {e : Cause} (h : readPayload w.env none = .error e) :
    FailsAt w arguments (payloadStage e) := by
  obtain ⟨t, ht, hline⟩ := answer_of_error (o := o) h
  exact ⟨_, e.message, (command_of_no_dotenv hparse hdotenv).trans ht, rfl, hline⟩

/-- **What is refused at which stage.** A text that is no JSON, a value that is no object, and an
object that is no job with the options put in, are refused where the job is loaded. A text that goes
over a limit of the reader is refused outside of all stages. -/
theorem command_refuses_payload (hparse : Options.parse arguments = .ok o)
    (hdotenv : o.dotenv = none) (hset : ¬PayloadMissing w.env) :
    (∀ problem line column index,
        Json.parse (payloadText w.env) = .error (.malformed problem line column index) →
          FailsAt w arguments .parseJob) ∧
      (∀ j, Json.parse (payloadText w.env) = .ok j → (∀ ms, j ≠ .object ms) →
        FailsAt w arguments .parseJob) ∧
      (∀ ms vs, Json.parse (payloadText w.env) = .ok (.object ms) →
        Job.ofJson (.object (o.apply ms)) = .error vs → FailsAt w arguments .parseJob) ∧
      (∀ count, Json.parse (payloadText w.env) = .error (.digits count) →
        FailsAt w arguments .unknown) ∧
      ∀ container, Json.parse (payloadText w.env) = .error (.depth container) →
        FailsAt w arguments .unknown := by
  refine ⟨fun problem line column index h => ?_, fun j h hj => ?_, fun ms vs h hvs => ?_,
    fun count h => ?_, fun container h => ?_⟩
  · have hfails := failsAt_of_error hparse hdotenv (readPayload_of_error hset h)
    exact hfails
  · have hfails := failsAt_of_error hparse hdotenv (readPayload_of_other hset h hj)
    exact hfails
  · have hpayload : readPayload w.env none = .ok (ms, envSource) := readPayload_of_object hset h
    have hscalar : (Cause.invalidJob vs).repeated.Scalar := Text.scalar_nil
    obtain ⟨t, stderr, ht, hline⟩ :=
      answer_of_failure hpayload (run_of_invalid hvs w envSource) hscalar
    exact ⟨_, _, (command_of_no_dotenv hparse hdotenv).trans ht, rfl, hline⟩
  · have hfails := failsAt_of_error hparse hdotenv (readPayload_of_error hset h)
    exact hfails
  · have hfails := failsAt_of_error hparse hdotenv (readPayload_of_error hset h)
    exact hfails

end Refusal

/-! ## Payloads of each kind -/

/-- A world without files whose environment holds a payload. -/
def payloadWorld (t : Text) : World where
  files := .empty
  cwd := []
  env := [(jobVariable, t)]

theorem command_refuses_payload_ofEachKind :
    FailsAt (payloadWorld (Text.ofString "[1,")) [] .parseJob ∧
      FailsAt (payloadWorld (Text.ofString "[1]")) [] .parseJob ∧
      FailsAt (payloadWorld (Text.ofString "\x7b\x7d")) [Text.ofString "--workspace=--"]
        .parseJob := by
  have hparse : Options.parse [] = .ok {} := rfl
  refine ⟨?_, ?_, ?_⟩
  · have hset : ¬PayloadMissing (payloadWorld (Text.ofString "[1,")).env :=
      not_payloadMissing rfl rfl
    have hmalformed : Json.parse (Text.ofString "[1,") = .error (.malformed .value 1 4 3) := rfl
    exact (command_refuses_payload hparse rfl hset).1 _ _ _ _ hmalformed
  · have hset : ¬PayloadMissing (payloadWorld (Text.ofString "[1]")).env :=
      not_payloadMissing rfl rfl
    have harray : Json.parse (Text.ofString "[1]") = .ok (.array [.int 1]) := rfl
    exact (command_refuses_payload hparse rfl hset).2.1 _ harray fun _ h => nomatch h
  · -- the option empties the workspace, and an empty list is no text
    have hset : ¬PayloadMissing (payloadWorld (Text.ofString "\x7b\x7d")).env :=
      not_payloadMissing rfl rfl
    have hobject : Json.parse (Text.ofString "\x7b\x7d") = .ok (.object []) := rfl
    have hemptied : Options.parse [Text.ofString "--workspace=--"] =
        .ok { workspace := some .emptied } := rfl
    exact (command_refuses_payload hemptied rfl hset).2.2.1 _ [⟨[.field "workspace"], .string⟩]
      hobject rfl

/-! ## A payload over the limit -/

namespace Json

/-- No value is named by a text that starts with a digit. -/
theorem named?_eq_none {p : CodePoint} (hp : isDigit p = true) (r : Text) :
    named? (p :: r) = none := by
  have hnames : ∀ x ∈ named, ∃ q s, Text.ofString x.1 = q :: s ∧ isDigit q = false := by
    simp only [named, List.forall_mem_cons, List.not_mem_nil, false_implies, implies_true, and_true]
    exact ⟨⟨_, _, rfl, rfl⟩, ⟨_, _, rfl, rfl⟩, ⟨_, _, rfl, rfl⟩, ⟨_, _, rfl, rfl⟩,
      ⟨_, _, rfl, rfl⟩, ⟨_, _, rfl, rfl⟩⟩
  rw [named?, Option.map_eq_none_iff, List.find?_eq_none]
  intro x hx hstarts
  obtain ⟨q, s, hs, hq⟩ := hnames x hx
  have hbegins : (q :: s).isPrefixOf (p :: r) = true := hs ▸ hstarts
  rw [List.isPrefixOf_iff_prefix, List.cons_prefix_cons] at hbegins
  rw [hbegins.1, hp] at hq
  cases hq

/-- An integer of more digits than the reader takes is not read. -/
theorem parse_eq_digits {ds : Text} (hdigits : ∀ d ∈ ds, isDigit d = true)
    (hzero : ∀ d ∈ ds.head?, d.is '0' = false) (hlong : maxDigits < ds.length) :
    parse ds = .error (.digits ds.length) := by
  have htake : ds.takeWhile isDigit = ds := List.takeWhile_eq_self_iff.mpr hdigits
  have hdrop : ds.dropWhile isDigit = [] := List.dropWhile_eq_nil_iff.mpr hdigits
  cases ds with
  | nil => cases hlong
  | cons p r =>
    have hp : isDigit p = true := hdigits p List.mem_cons_self
    have hp0 : p.is '0' = false := hzero p rfl
    have hval : 48 ≤ p.val ∧ p.val ≤ 57 := by simpa [isDigit] using hp
    have hother : ∀ c : Char, ¬(48 ≤ c.toNat ∧ c.toNat ≤ 57) → p.is c = false := by
      intro c hc
      rw [CodePoint.is, beq_eq_false_iff_ne]
      omega
    have hnumber : number false (p :: r) (p :: r) = .error (.digits (p :: r).length) := by
      rw [number, hp0, hp, htake, hdrop]
      exact if_pos hlong
    have hscalar : scalar (p :: r) = .error (.digits (p :: r).length) := by
      rw [scalar, named?_eq_none hp]
      simp only [hother '-' (by decide), hnumber]
      rfl
    have hvalue : ∀ n d, value (n + 1) d (p :: r) = .error (.digits (p :: r).length) := by
      intro n d
      rw [value.eq_def]
      simp only [hother '\x22' (by decide), hother '\x7b' (by decide), hother '[' (by decide),
        hscalar]
      rfl
    have hblanks : skipBlanks (p :: r) = p :: r := by
      refine List.dropWhile_cons_of_neg ?_
      simp [isBlank, hother]
    have hmark : ((p :: r).head?.any fun p => p.val = 0xFEFF) = false := by
      simp only [List.head?_cons, Option.any_some, decide_eq_false_iff_not]
      omega
    rw [parse, hmark, hblanks, hvalue]
    rfl
end Json

/-- An integer of one digit more than the reader takes. -/
def overlong : Text := List.replicate (Json.maxDigits + 1) (.ofChar '1')

theorem parse_overlong : Json.parse overlong = .error (.digits (Json.maxDigits + 1)) := by
  have hlength : overlong.length = Json.maxDigits + 1 := List.length_replicate
  have hdigits : ∀ d ∈ overlong, Json.isDigit d = true := by
    intro d hd
    rw [List.eq_of_mem_replicate hd]
    rfl
  have hzero : ∀ d ∈ overlong.head?, d.is '0' = false := by
    intro d hd
    rw [List.eq_of_mem_replicate (List.mem_of_mem_head? hd)]
    rfl
  rw [Json.parse_eq_digits hdigits hzero (by omega), hlength]

/-- A number that is too long is no payload, and yet it is not refused where the job is loaded. -/
theorem command_not_failsAt_parseJob_overlong :
    ¬PayloadMissing (payloadWorld overlong).env ∧
      Json.parse (payloadText (payloadWorld overlong).env) = .error (.digits (Json.maxDigits + 1)) ∧
      ¬FailsAt (payloadWorld overlong) [] .parseJob := by
  have hset : ¬PayloadMissing (payloadWorld overlong).env := not_payloadMissing rfl rfl
  refine ⟨hset, parse_overlong, fun hfails => ?_⟩
  have hunknown : FailsAt (payloadWorld overlong) [] .unknown :=
    failsAt_of_error rfl rfl (readPayload_of_error hset parse_overlong)
  exact nomatch hfails.unique hunknown

end RouteAtlas
