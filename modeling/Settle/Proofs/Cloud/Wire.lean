/-
The cloud's resources written and read back.

For each resource, `format` says which fields the cloud gives it, what is inside them and
what it means to leave one out; the writer fills in the format, and the reader keeps to it.
Every one of the written forms comes back as it was, whatever the cloud adds on its own.
-/
import Settle.Cloud.Wire
import Settle.Proofs.Wire

set_option autoImplicit false

namespace Settle.Cloud

open Json

/-! ## 1. A text in an object of its own -/

/-- An object of one field. -/
def wrapping (key : String) : Format where
  slots := [{ key }]
  distinct := List.nodup_singleton key

@[simp] theorem unwrapped?_wrapped (key value : String) :
    unwrapped? key (wrapped key value) = some value := by
  simp [unwrapped?, wrapped]

theorem unwrapped?_unmoved (key : String) : Unmoved (wrapping key).Pads (unwrapped? key) :=
  Format.unmoved_record fun _ _ hpads => hpads.required 0 key string? rfl unmoved_never

/-! ## 2. Storage and networks -/

namespace Volume

def format : Format where
  slots := [{ key := "volumeID" }, { key := "state", implied := some .null }]

theorem ofJson?_toJson (v : Volume) : ofJson? v.toJson = some v := by
  simp [ofJson?, toJson]

theorem ofJson?_unmoved : Unmoved format.Pads ofJson? :=
  Format.unmoved_record fun _ _ hpads => by
    have hid := hpads.required 0 "volumeID" string? rfl unmoved_never
    have hstate := hpads.defaulted 1 "state" none (nullable? string?) rfl unmoved_never rfl
    simp only [hid, hstate]

theorem roundTrips : RoundTrips ofJson? toJson [format] :=
  .of (fun _ => Format.spells_of_keys rfl) ofJson?_toJson ofJson?_unmoved

end Volume

namespace Image

def format : Format where
  slots := [{ key := "imageID" }, { key := "state", implied := some .null }]

theorem ofJson?_toJson (i : Image) : ofJson? i.toJson = some i := by
  simp [ofJson?, toJson]

theorem ofJson?_unmoved : Unmoved format.Pads ofJson? :=
  Format.unmoved_record fun _ _ hpads => by
    have hid := hpads.required 0 "imageID" string? rfl unmoved_never
    have hstate := hpads.defaulted 1 "state" none (nullable? string?) rfl unmoved_never rfl
    simp only [hid, hstate]

theorem roundTrips : RoundTrips ofJson? toJson [format] :=
  .of (fun _ => Format.spells_of_keys rfl) ofJson?_toJson ofJson?_unmoved

end Image

namespace Network

def format : Format where
  slots := [{ key := "networkID" }, { key := "vlanID", implied := some .null }]

theorem ofJson?_toJson (n : Network) : ofJson? n.toJson = some n := by
  have hvlan := nullable?_ofOption (by rfl) int64?_ofInt64 n.vlan
  simp [ofJson?, toJson, hvlan]

theorem ofJson?_unmoved : Unmoved format.Pads ofJson? :=
  Format.unmoved_record fun _ _ hpads => by
    have hid := hpads.required 0 "networkID" string? rfl unmoved_never
    have hvlan := hpads.defaulted 1 "vlanID" none (nullable? int64?) rfl unmoved_never rfl
    simp only [hid, hvlan]

theorem roundTrips : RoundTrips ofJson? toJson [format] :=
  .of (fun _ => Format.spells_of_keys rfl) ofJson?_toJson ofJson?_unmoved

end Network

namespace Port

/-- The server that a port is attached to is told in an object. -/
def format : Format where
  slots := [{ key := "portID" }, { key := "status", implied := some .null },
    { key := "pvmInstance", inside := (wrapping "pvmInstanceID").Pads, implied := some .null }]

theorem ofJson?_toJson (p : Port) : ofJson? p.toJson = some p := by
  have hattached := nullable?_ofOption (by rfl) (unwrapped?_wrapped "pvmInstanceID") p.attachedTo
  simp [ofJson?, toJson, hattached]

theorem ofJson?_unmoved : Unmoved format.Pads ofJson? :=
  Format.unmoved_record fun _ _ hpads => by
    have hid := hpads.required 0 "portID" string? rfl unmoved_never
    have hstatus := hpads.defaulted 1 "status" none (nullable? string?) rfl unmoved_never rfl
    have hattached := hpads.defaulted 2 "pvmInstance" none (nullable? (unwrapped? "pvmInstanceID"))
      rfl (unmoved_nullable (unwrapped?_unmoved _)) rfl
    simp only [hid, hstatus, hattached]

theorem roundTrips : RoundTrips ofJson? toJson [format] :=
  .of (fun _ => Format.spells_of_keys rfl) ofJson?_toJson ofJson?_unmoved

end Port

namespace Snapshot

/-- A snapshot that does not tell how far it is has not begun. -/
def format : Format where
  slots := [{ key := "snapshotID" }, { key := "status", implied := some .null },
    { key := "percentComplete", implied := some (.ofInt64 0) }]

theorem ofJson?_toJson (s : Snapshot) : ofJson? s.toJson = some s := by
  simp [ofJson?, toJson]

theorem ofJson?_unmoved : Unmoved format.Pads ofJson? :=
  Format.unmoved_record fun _ _ hpads => by
    have hid := hpads.required 0 "snapshotID" string? rfl unmoved_never
    have hstatus := hpads.defaulted 1 "status" none (nullable? string?) rfl unmoved_never rfl
    have hcomplete := hpads.defaulted 2 "percentComplete" 0 int64?
      rfl unmoved_never (int64?_ofInt64 0)
    simp only [hid, hstatus, hcomplete]

theorem roundTrips : RoundTrips ofJson? toJson [format] :=
  .of (fun _ => Format.spells_of_keys rfl) ofJson?_toJson ofJson?_unmoved

end Snapshot

namespace SecurityGroup

/-- Every rule is told in an object, and a group that tells of none has none. -/
def format : Format where
  slots := [{ key := "id" },
    { key := "rules", inside := .Items (wrapping "id").Pads, implied := some (.array []) }]

theorem ofJson?_toJson (g : SecurityGroup) : ofJson? g.toJson = some g := by
  have hrules := list?_map (unwrapped?_wrapped "id") g.rules
  simp [ofJson?, toJson, hrules]

theorem ofJson?_unmoved : Unmoved format.Pads ofJson? :=
  Format.unmoved_record fun _ _ hpads => by
    have hid := hpads.required 0 "id" string? rfl unmoved_never
    have hrules := hpads.defaulted 1 "rules" [] (list? (unwrapped? "id"))
      rfl (unmoved_list (unwrapped?_unmoved _)) rfl
    simp only [hid, hrules]

theorem roundTrips : RoundTrips ofJson? toJson [format] :=
  .of (fun _ => Format.spells_of_keys rfl) ofJson?_toJson ofJson?_unmoved

end SecurityGroup

/-! ## 3. Connections and jobs -/

namespace Connection

def format : Format where
  slots := [{ key := "cloudConnectionID" }, { key := "name" }, { key := "speed" }]

theorem ofJson?_toJson (c : Connection) : ofJson? c.toJson = some c := by
  simp [ofJson?, toJson]

theorem ofJson?_unmoved : Unmoved format.Pads ofJson? :=
  Format.unmoved_record fun _ _ hpads => by
    have hid := hpads.required 0 "cloudConnectionID" string? rfl unmoved_never
    have hname := hpads.required 1 "name" string? rfl unmoved_never
    have hspeed := hpads.required 2 "speed" int64? rfl unmoved_never
    simp only [hid, hname, hspeed]

theorem roundTrips : RoundTrips ofJson? toJson [format] :=
  .of (fun _ => Format.spells_of_keys rfl) ofJson?_toJson ofJson?_unmoved

end Connection

namespace ConnectionSpec

/-- What a connection is not said to be it is not. -/
def format : Format where
  slots := [{ key := "name" }, { key := "speed" },
    { key := "globalRouting", implied := some (.bool false) },
    { key := "metered", implied := some (.bool false) },
    { key := "transitEnabled", implied := some (.bool false) }]

theorem ofJson?_toJson (s : ConnectionSpec) : ofJson? s.toJson = some s := by
  simp [ofJson?, toJson]

theorem ofJson?_unmoved : Unmoved format.Pads ofJson? :=
  Format.unmoved_record fun _ _ hpads => by
    have hname := hpads.required 0 "name" string? rfl unmoved_never
    have hspeed := hpads.required 1 "speed" int64? rfl unmoved_never
    have hrouting := hpads.defaulted 2 "globalRouting" false bool? rfl unmoved_never rfl
    have hmetered := hpads.defaulted 3 "metered" false bool? rfl unmoved_never rfl
    have htransit := hpads.defaulted 4 "transitEnabled" false bool? rfl unmoved_never rfl
    simp only [hname, hspeed, hrouting, hmetered, htransit]

theorem roundTrips : RoundTrips ofJson? toJson [format] :=
  .of (fun _ => Format.spells_of_keys rfl) ofJson?_toJson ofJson?_unmoved

end ConnectionSpec

namespace ConnectionUpdate

def format : Format where
  slots := [{ key := "name", implied := some .null }, { key := "speed", implied := some .null }]

/-- What is unset is not written. -/
theorem toJson_spells (u : ConnectionUpdate) : format.Spells u.toJson := by
  obtain ⟨name, speed⟩ := u
  cases name <;> cases speed <;>
    exact ⟨_, rfl, by simp [format], by simp [format]⟩

/-- What is left out is read as unset, and what is written is never null. -/
theorem ofJson?_toJson (u : ConnectionUpdate) : ofJson? u.toJson = some u := by
  obtain ⟨name, speed⟩ := u
  have hname (s : String) : nullable? string? (.string s) = some (some s) :=
    nullable?_text (some s)
  have hspeed := nullable?_of_back (by rfl) int64?_ofInt64
  cases name <;> cases speed <;> simp [ofJson?, toJson, objectOf, hname, hspeed]

theorem ofJson?_unmoved : Unmoved format.Pads ofJson? :=
  Format.unmoved_record fun _ _ hpads => by
    have hname := hpads.optional 0 "name" string? rfl unmoved_never
    have hspeed := hpads.optional 1 "speed" int64? rfl unmoved_never
    simp only [hname, hspeed]

theorem roundTrips : RoundTrips ofJson? toJson [format] :=
  .of toJson_spells ofJson?_toJson ofJson?_unmoved

end ConnectionUpdate

namespace ConnectionJob

/-- The job is told in an object. -/
def format : Format where
  slots := [{ key := "cloudConnectionID" }, { key := "jobRef", inside := (wrapping "id").Pads }]

theorem ofJson?_toJson (c : ConnectionJob) : ofJson? c.toJson = some c := by
  simp [ofJson?, toJson]

theorem ofJson?_unmoved : Unmoved format.Pads ofJson? :=
  Format.unmoved_record fun _ _ hpads => by
    have hconnection := hpads.required 0 "cloudConnectionID" string? rfl unmoved_never
    have hjob := hpads.required 1 "jobRef" (unwrapped? "id") rfl (unwrapped?_unmoved _)
    simp only [hconnection, hjob]

theorem roundTrips : RoundTrips ofJson? toJson [format] :=
  .of (fun _ => Format.spells_of_keys rfl) ofJson?_toJson ofJson?_unmoved

end ConnectionJob

namespace Job

/-- The report is an object of its own, written as a report is anywhere. -/
def format : Format where
  slots := [{ key := "id" },
    { key := "status", inside := JobReport.format.Pads, implied := some .null }]

theorem reportOfJson?_toJson (r : JobReport) : reportOfJson? r.toJson = some r := by
  simp [reportOfJson?, JobReport.toJson]

theorem reportOfJson?_unmoved : Unmoved JobReport.format.Pads reportOfJson? :=
  Format.unmoved_record fun _ _ hpads => by
    have hstate := hpads.defaulted 0 "state" none (nullable? string?) rfl unmoved_never rfl
    have hmessage := hpads.defaulted 1 "message" none (nullable? string?) rfl unmoved_never rfl
    simp only [hstate, hmessage]

theorem ofJson?_toJson (j : Job) : ofJson? j.toJson = some j := by
  have hstatus := nullable?_ofOption (by rfl) reportOfJson?_toJson j.status
  simp [ofJson?, toJson, hstatus]

theorem ofJson?_unmoved : Unmoved format.Pads ofJson? :=
  Format.unmoved_record fun _ _ hpads => by
    have hid := hpads.required 0 "id" string? rfl unmoved_never
    have hstatus := hpads.defaulted 1 "status" none (nullable? reportOfJson?)
      rfl (unmoved_nullable reportOfJson?_unmoved) rfl
    simp only [hid, hstatus]

theorem roundTrips : RoundTrips ofJson? toJson [format] :=
  .of (fun _ => Format.spells_of_keys rfl) ofJson?_toJson ofJson?_unmoved

example : ofJson? (.object [("colour", .bool true), ("id", .string "j"), ("status", .null)]) =
    ofJson? (.object [("id", .string "j")]) := rfl

end Job

/-! ## 4. All written forms -/

/-- **Every written form comes back.** What is written of a resource, a report, an acknowledgement
or an outcome is read as just that; a key that the reader does not know, or a field written out
that means the same when it is left out, changes nothing of what is read, wherever in a record it
stands and however many there are; and what was read stays what it is when it is written and read
again. -/
theorem written_forms_round_trip :
    RoundTrips Volume.ofJson? Volume.toJson [Volume.format] ∧
    RoundTrips Image.ofJson? Image.toJson [Image.format] ∧
    RoundTrips Network.ofJson? Network.toJson [Network.format] ∧
    RoundTrips Port.ofJson? Port.toJson [Port.format] ∧
    RoundTrips Snapshot.ofJson? Snapshot.toJson [Snapshot.format] ∧
    RoundTrips SecurityGroup.ofJson? SecurityGroup.toJson [SecurityGroup.format] ∧
    RoundTrips Connection.ofJson? Connection.toJson [Connection.format] ∧
    RoundTrips ConnectionSpec.ofJson? ConnectionSpec.toJson [ConnectionSpec.format] ∧
    RoundTrips ConnectionUpdate.ofJson? ConnectionUpdate.toJson [ConnectionUpdate.format] ∧
    RoundTrips ConnectionJob.ofJson? ConnectionJob.toJson [ConnectionJob.format] ∧
    RoundTrips Job.ofJson? Job.toJson [Job.format] ∧
    RoundTrips Reading.ofJson? Reading.toJson [Reading.format] ∧
    RoundTrips JobReport.ofJson? JobReport.toJson [JobReport.format] ∧
    RoundTrips Ack.ofJson? Ack.toJson (Ack.Form.all.map Ack.format) ∧
    RoundTrips Outcome.ofJson? Outcome.toJson (Outcome.Form.all.map Outcome.format) :=
  ⟨Volume.roundTrips, Image.roundTrips, Network.roundTrips, Port.roundTrips, Snapshot.roundTrips,
    SecurityGroup.roundTrips, Connection.roundTrips, ConnectionSpec.roundTrips,
    ConnectionUpdate.roundTrips, ConnectionJob.roundTrips, Job.roundTrips, Reading.roundTrips,
    JobReport.roundTrips, Ack.roundTrips, Outcome.roundTrips⟩

end Settle.Cloud
