/-
Readings, reports, acknowledgements and outcomes written and read back.

Readings and reports are records. Acknowledgements and outcomes say first which form they
have, and are then records of that form: a key is unknown to them if no form knows it.
-/
import Settle.Proofs.Json
import Settle.Wire

set_option autoImplicit false

namespace Settle

open Json

/-! ## 1. Readings and reports -/

namespace Reading

/-- Null unsets either text. -/
def format : Format where
  slots := [{ key := "status", implied := some .null }, { key := "fault", implied := some .null }]

theorem ofJson?_toJson (r : Reading) : ofJson? r.toJson = some r := by
  simp [ofJson?, toJson]

theorem ofJson?_unmoved : Unmoved format.Pads ofJson? :=
  Format.unmoved_record fun _ _ hpads => by
    have hstatus := hpads.optional 0 "status" string? rfl unmoved_never
    have hfault := hpads.optional 1 "fault" string? rfl unmoved_never
    simp only [hstatus, hfault]

theorem roundTrips : RoundTrips ofJson? toJson [format] :=
  .of (fun _ => Format.spells_of_keys rfl) ofJson?_toJson ofJson?_unmoved

end Reading

namespace JobReport

/-- Null unsets either text. -/
def format : Format where
  slots := [{ key := "state", implied := some .null }, { key := "message", implied := some .null }]

theorem ofJson?_toJson (r : JobReport) : ofJson? r.toJson = some r := by
  simp [ofJson?, toJson]

theorem ofJson?_unmoved : Unmoved format.Pads ofJson? :=
  Format.unmoved_record fun _ _ hpads => by
    have hstate := hpads.optional 0 "state" string? rfl unmoved_never
    have hmessage := hpads.optional 1 "message" string? rfl unmoved_never
    simp only [hstate, hmessage]

theorem roundTrips : RoundTrips ofJson? toJson [format] :=
  .of (fun _ => Format.spells_of_keys rfl) ofJson?_toJson ofJson?_unmoved

end JobReport

/-! ## 2. Acknowledgements -/

namespace Ack

theorem mem_forms (form : Form) : form ∈ Form.all := by
  cases form <;> decide

/-- Beside the form there is a value, or nothing if the form has none. -/
def format : Form → Format
  | .accepted => { slots := [{ key := "type" }, { key := "value", implied := some .null }] }
  | .status | .job => { slots := [{ key := "type" }, { key := "value" }] }

/-- What there is to read once the form is known. -/
def contents (f : Fields) : Form → Option Ack
  | .accepted => do
    let _ ← f.optional 1 "value" nothing?
    return .accepted
  | .status => return .status (← f.required 1 "value" string?)
  | .job => return .job (← f.required 1 "value" string?)

/-- The form of an acknowledgement. -/
def form? (j : Json) : Option Form := do
  (← j.fields? 2).required 0 "type" (tag? Form.all Form.name)

theorem ofJson?_eq :
    ofJson? = fun j => form? j >>= fun form => j.fields? 2 >>= fun f => contents f form := by
  funext j
  rw [ofJson?, form?]
  cases j.fields? 2 <;> rfl

/-- What is accepted has no value, and none is written. -/
theorem toJson_spells (a : Ack) : ∃ form, (format form).Spells a.toJson := by
  cases a with
  | accepted => exact ⟨.accepted, _, rfl, by decide, by simp [format]⟩
  | status value => exact ⟨.status, Format.spells_of_keys rfl⟩
  | job id => exact ⟨.job, Format.spells_of_keys rfl⟩

theorem ofJson?_toJson (a : Ack) : ofJson? a.toJson = some a := by
  cases a <;> rfl

theorem form?_unmoved (form : Form) : Unmoved (format form).Pads form? := by
  apply Format.unmoved_record
  intro f f' hpads
  cases form <;> exact hpads.required _ _ _ rfl unmoved_never

theorem ofJson?_unmoved : Unmoved (.Each (Form.all.map format)) ofJson? := by
  rw [ofJson?_eq]
  apply unmoved_forms mem_forms .accepted (form?_unmoved .accepted)
  intro form
  apply Format.unmoved_record
  intro f f' hpads
  cases form with
  | accepted =>
    have hvalue := hpads.optional 1 "value" nothing? rfl unmoved_never
    simp only [contents, hvalue]
  | status | job =>
    have hvalue := hpads.required 1 "value" string? rfl unmoved_never
    simp only [contents, hvalue]

theorem roundTrips : RoundTrips ofJson? toJson (Form.all.map format) :=
  .of_forms mem_forms toJson_spells ofJson?_toJson ofJson?_unmoved

end Ack

/-! ## 3. Outcomes -/

namespace Outcome

theorem mem_forms (form : Form) : form ∈ Form.all := by
  cases form <;> decide

/-- Every form has fields of its own. -/
def format : Form → Format
  | .converged => { slots := [{ key := "outcome" }, { key := "status" }] }
  | .failed =>
    { slots := [{ key := "outcome" }, { key := "reason" },
        { key := "remote_fault", implied := some .null }, { key := "kind" }] }
  | .timedOut => { slots := [{ key := "outcome" }, { key := "cause" }] }

/-- The form of an outcome. -/
def form? (j : Json) : Option Form := do
  let word ← (← j.fields? 4).required 0 "outcome" string?
  Form.all.find? (·.name == word)

/-- What there is to read once the form is known. -/
def contents (f : Fields) : Form → Option Outcome
  | .converged => return .converged (← f.required 1 "status" string?)
  | .failed => do
    let reason ← f.required 1 "reason" string?
    let fault ← f.optional 2 "remote_fault" string?
    let kind ← f.required 3 "kind" (innerTag? FailureKind.all FailureKind.name)
    return .failed reason fault kind
  | .timedOut =>
    return .timedOut (← f.required 1 "cause" (innerTag? Interruption.all Interruption.name))

theorem ofJson?_eq : ofJson? = fun j =>
    form? j >>= fun form => j.fields? form.size >>= fun f => contents f form := by
  funext j
  simp only [ofJson?, form?, Option.bind_eq_bind, Option.bind_assoc]
  rfl

theorem toJson_spells (o : Outcome) : ∃ form, (format form).Spells o.toJson := by
  cases o with
  | converged status => exact ⟨.converged, Format.spells_of_keys rfl⟩
  | failed reason fault kind => exact ⟨.failed, Format.spells_of_keys rfl⟩
  | timedOut cause => exact ⟨.timedOut, Format.spells_of_keys rfl⟩

theorem ofJson?_toJson (o : Outcome) : ofJson? o.toJson = some o := by
  cases o with
  | converged status => rfl
  | failed reason fault kind =>
    have hkind : innerTag? FailureKind.all FailureKind.name kind.toJson = some kind := by
      cases kind <;> rfl
    simp [ofJson?, toJson, hkind, Form.all, Form.name]
  | timedOut cause => cases cause <;> rfl

/-- Every form has its name in the same field, so none has to be known to read it. -/
theorem form?_unmoved (form : Form) : Unmoved (format form).Pads form? := by
  apply Format.unmoved_record
  intro f f' hpads
  have hword : f'.required 0 "outcome" string? = f.required 0 "outcome" string? := by
    cases form <;> exact hpads.required _ _ _ rfl unmoved_never
  simp only [hword]

theorem ofJson?_unmoved : Unmoved (.Each (Form.all.map format)) ofJson? := by
  rw [ofJson?_eq]
  apply unmoved_forms mem_forms .converged (form?_unmoved .converged)
  intro form
  apply Format.unmoved_record
  intro f f' hpads
  cases form with
  | converged =>
    have hstatus := hpads.required 1 "status" string? rfl unmoved_never
    simp only [contents, hstatus]
  | failed =>
    have hreason := hpads.required 1 "reason" string? rfl unmoved_never
    have hfault := hpads.optional 2 "remote_fault" string? rfl unmoved_never
    have hkind := hpads.required 3 "kind" (innerTag? FailureKind.all FailureKind.name)
      rfl unmoved_never
    simp only [contents, hreason, hfault, hkind]
  | timedOut =>
    have hcause := hpads.required 1 "cause" (innerTag? Interruption.all Interruption.name)
      rfl unmoved_never
    simp only [contents, hcause]

theorem roundTrips : RoundTrips ofJson? toJson (Form.all.map format) :=
  .of_forms mem_forms toJson_spells ofJson?_toJson ofJson?_unmoved

end Outcome

end Settle
