/-
The words of the waits.

A wait judges readings by the words of its policy, and the readings come from another
place: a function that turns the resource into one. The two have to speak of the same
things in the same words. `Policy.Reads` says that they do: what a reading says is always
a word of the policy, it is a target word exactly if the resource is ready, and a fatal
one exactly if it is in error. `ResourceWait` is the table of the waits with what being
ready and in error means for each, said of the resource as it was fetched.

A wait that knows all the words it can hear never remarks on one.
-/
import Settle.Cloud.Networks
import Settle.Cloud.Storage
import Settle.Proofs.Cloud.Readiness
import Settle.Proofs.Notes

set_option autoImplicit false

namespace Settle

/-! ## 1. Policies and readings -/

/-- No state has two meanings. -/
structure Policy.Separate (p : Policy) : Prop where
  pending_target : ∀ status ∈ p.pending, status ∉ p.target
  pending_fatal : ∀ status ∈ p.pending, status ∉ p.fatal
  target_fatal : ∀ status ∈ p.target, status ∉ p.fatal

/-- A policy and a reading speak the same words: a reading without status is one of something
`silent`, any other has a status that the policy knows, and what the policy makes of it is that
something is `ready` or `broken`. -/
structure Policy.Reads (p : Policy) (r : Reading) (silent ready broken : Prop) : Prop where
  silent_iff : r.status = none ↔ silent
  known : ∀ status, r.status = some status →
    status ∈ p.pending ∨ status ∈ p.target ∨ status ∈ p.fatal
  target_iff : (∃ status ∈ p.target, r.status = some status) ↔ ready
  fatal_iff : (∃ status ∈ p.fatal, r.status = some status) ↔ broken

namespace Policy.Reads

variable {p : Policy} {r : Reading} {silent ready broken : Prop}

/-- Nothing can be made of a reading without status. -/
theorem of_silent (hstatus : r.status = none) (hsilent : silent) (hready : ¬ ready)
    (hbroken : ¬ broken) : p.Reads r silent ready broken where
  silent_iff := ⟨fun _ => hsilent, fun _ => hstatus⟩
  known status h := by
    rw [hstatus] at h
    cases h
  target_iff := by
    refine ⟨?_, fun h => absurd h hready⟩
    rintro ⟨status, -, h⟩
    rw [hstatus] at h
    cases h
  fatal_iff := by
    refine ⟨?_, fun h => absurd h hbroken⟩
    rintro ⟨status, -, h⟩
    rw [hstatus] at h
    cases h

theorem of_status {word : String} (hstatus : r.status = some word) (hsilent : ¬ silent)
    (hknown : word ∈ p.pending ∨ word ∈ p.target ∨ word ∈ p.fatal)
    (htarget : word ∈ p.target ↔ ready) (hfatal : word ∈ p.fatal ↔ broken) :
    p.Reads r silent ready broken where
  silent_iff := by
    rw [hstatus]
    exact iff_of_false (by simp) hsilent
  known status h := by
    rw [hstatus, Option.some.injEq] at h
    rw [← h]
    exact hknown
  target_iff := by
    rw [← htarget, hstatus]
    exact ⟨fun ⟨_, hword, h⟩ => Option.some.inj h ▸ hword, fun hword => ⟨word, hword, rfl⟩⟩
  fatal_iff := by
    rw [← hfatal, hstatus]
    exact ⟨fun ⟨_, hword, h⟩ => Option.some.inj h ▸ hword, fun hword => ⟨word, hword, rfl⟩⟩

/-- **A policy and a reading speak the same words if the reading has the right one in each of three
cases**: the resource is ready, it is in error, or it is neither. That it is not both is known
from the words, none of which has two meanings. -/
theorem of_cases (hp : p.Separate) (hsilent : ¬ silent)
    (hready : ready → ∃ word ∈ p.target, r.status = some word)
    (hbroken : broken → ∃ word ∈ p.fatal, r.status = some word)
    (hwaiting : ¬ ready → ¬ broken → ∃ word ∈ p.pending, r.status = some word) :
    p.Reads r silent ready broken := by
  by_cases h : ready
  · obtain ⟨word, hword, hstatus⟩ := hready h
    have hfatal : word ∉ p.fatal := hp.target_fatal word hword
    have hnot : ¬ broken := fun hb => by
      obtain ⟨other, hother, hstatus'⟩ := hbroken hb
      rw [hstatus, Option.some.injEq] at hstatus'
      exact hfatal (hstatus' ▸ hother)
    exact .of_status hstatus hsilent (.inr (.inl hword)) (iff_of_true hword h)
      (iff_of_false hfatal hnot)
  by_cases h' : broken
  · obtain ⟨word, hword, hstatus⟩ := hbroken h'
    have htarget : word ∉ p.target := fun htarget => hp.target_fatal word htarget hword
    exact .of_status hstatus hsilent (.inr (.inr hword)) (iff_of_false htarget h)
      (iff_of_true hword h')
  · obtain ⟨word, hword, hstatus⟩ := hwaiting h h'
    exact .of_status hstatus hsilent (.inl hword)
      (iff_of_false (hp.pending_target word hword) h)
      (iff_of_false (hp.pending_fatal word hword) h')

/-- A reading that is nothing but a choice between ready and not yet. -/
theorem of_choice {there waiting : String} [Decidable ready] (hp : p.Separate)
    (hthere : there ∈ p.target) (hwaiting : waiting ∈ p.pending) :
    p.Reads (.of (if ready then there else waiting)) False ready False := by
  refine .of_cases hp not_false (fun h => ⟨there, hthere, ?_⟩) False.elim
    fun h _ => ⟨waiting, hwaiting, ?_⟩
  · rw [if_pos h]
    rfl
  · rw [if_neg h]
    rfl

/-- Being ready may be said in another way. -/
theorem congr_ready {ready' : Prop} (h : p.Reads r silent ready broken) (hready : ready ↔ ready') :
    p.Reads r silent ready' broken :=
  ⟨h.silent_iff, h.known, h.target_iff.trans hready, h.fatal_iff⟩

end Policy.Reads

namespace Cloud

/-! ## 2. The presets -/

namespace Preset

variable {subject : String} {timeout initialDelay least : Nat} {pending target fatal : List String}

/-- The words of a preset are those it is made from. -/
theorem every_separate (hpending : ∀ word ∈ pending, word ∉ target ∧ word ∉ fatal)
    (htarget : ∀ word ∈ target, word ∉ fatal) :
    (every subject timeout initialDelay least pending target fatal).Separate where
  pending_target word hword h :=
    (hpending word (StateSet.mem_ofList.1 hword)).1 (StateSet.mem_ofList.1 h)
  pending_fatal word hword h :=
    (hpending word (StateSet.mem_ofList.1 hword)).2 (StateSet.mem_ofList.1 h)
  target_fatal word hword h := htarget word (StateSet.mem_ofList.1 hword) (StateSet.mem_ofList.1 h)

/-- A resource that is waited for to be ready, and never fails on the way. -/
theorem every_reads_choice {ready : Prop} [Decidable ready] {there waiting : String}
    (hother : waiting ≠ there) :
    (every subject timeout initialDelay least [waiting] [there] []).Reads
      (.of (if ready then there else waiting)) False ready False := by
  have hseparate : (every subject timeout initialDelay least [waiting] [there] []).Separate :=
    every_separate (by simp [hother]) (by simp)
  exact .of_choice hseparate (StateSet.mem_ofList.2 (List.mem_singleton_self _))
    (StateSet.mem_ofList.2 (List.mem_singleton_self _))

/-- A resource that is waited for to be gone, and is the same until then. -/
theorem every_reads_waiting {gone waiting : String} (hother : waiting ≠ gone) :
    (every subject timeout initialDelay least [waiting] [gone] []).Reads (.of waiting)
      False False False := by
  have hchoice : (every subject timeout initialDelay least [waiting] [gone] []).Reads
      (.of (if False then gone else waiting)) False False False := every_reads_choice hother
  rw [if_neg not_false] at hchoice
  exact hchoice

end Preset

/-! ## 3. What the resources say -/

/-- The word for an error, in whatever letter case. -/
def SpellsError (word : String) : Prop := word.toList.map Char.toLower = "error".toList

instance (word : String) : Decidable (SpellsError word) := inferInstanceAs (Decidable (_ = _))

theorem spellsError_iff {word : String} :
    Text.sameIgnoringCase word State.error = true ↔ SpellsError word := by
  unfold Text.sameIgnoringCase SpellsError
  rw [beq_iff_eq]
  exact Iff.rfl

/-- A server on its way to a status that is no other word of its policy. -/
theorem Instance.reaching_reads {wanted : String} (ready : ReadyHealth) (i : Instance)
    (hwanted : wanted ∉ [State.pending, State.build, Health.warning, State.error]) :
    (Preset.instanceReaching wanted ready).Reads (i.reaching wanted ready) (i.status = none)
      (i.status = some wanted ∧ ready.Counts i.health) (i.status = some "ERROR") := by
  unfold Instance.reaching
  cases hstatus : i.status with
  | none => exact .of_silent rfl rfl (by simp) (by simp)
  | some status =>
    simp only [List.mem_cons, List.not_mem_nil, not_or] at hwanted
    obtain ⟨hpending, hbuild, hwarning, herror, -⟩ := hwanted
    refine .of_cases (Preset.every_separate ?_ ?_) (by simp) ?_ ?_ ?_
    · simp [Ne.symm hpending, Ne.symm hbuild, Ne.symm hwarning]
      decide
    · simp [herror]
    · rintro ⟨hsame, hcounts⟩
      obtain rfl := Option.some.inj hsame
      refine ⟨_, StateSet.mem_ofList.2 (List.mem_singleton_self _), ?_⟩
      simp only [if_neg herror, (ready.accepts_iff _).2 hcounts, and_self, if_true]
      rfl
    · intro hsame
      obtain rfl := Option.some.inj hsame
      exact ⟨State.error, StateSet.mem_ofList.2 (List.mem_singleton_self _), rfl⟩
    · intro hready hbroken
      have hother : ¬ status = State.error := fun h => hbroken (congrArg some h)
      have hunready : ¬ (status = wanted ∧ ready.accepts i.health = true) := fun h =>
        hready ⟨congrArg some h.1, (ready.accepts_iff _).1 h.2⟩
      refine ⟨State.build, StateSet.mem_ofList.2 (by simp), ?_⟩
      simp only [if_neg hother, if_neg hunready]
      rfl

/-- A resource that says in a word of its own how it is: ready if the word is a good one, in error
if it spells an error, and on its way with any other word or with none. -/
theorem Preset.every_reads_word {subject there waiting fault : String}
    {timeout initialDelay least : Nat} (good : String → Prop) [DecidablePred good]
    (word : Option String)
    (hwords : waiting ∉ [there, State.error] ∧ there ≠ State.error)
    (hgood : ∀ state, good state → ¬ SpellsError state) :
    (every subject timeout initialDelay least [waiting] [there] [State.error]).Reads
      (match word with
        | some state =>
          if good state then .of there
          else if Text.sameIgnoringCase state State.error then .faulty State.error fault
          else .of waiting
        | none => .of waiting)
      False (∃ state, word = some state ∧ good state)
      (∃ state, word = some state ∧ SpellsError state) := by
  obtain ⟨hwaiting, hthere⟩ := hwords
  simp only [List.mem_cons, List.not_mem_nil, or_false, not_or] at hwaiting
  refine .of_cases (every_separate (by simp [hwaiting]) (by simp [hthere])) not_false ?_ ?_ ?_
  · rintro ⟨state, rfl, h⟩
    refine ⟨there, StateSet.mem_ofList.2 (List.mem_singleton_self _), ?_⟩
    simp only [if_pos h]
    rfl
  · rintro ⟨state, rfl, herror⟩
    -- A word that spells an error is not among the good ones, which are tried first.
    have hbad : ¬ good state := fun h => hgood state h herror
    refine ⟨State.error, StateSet.mem_ofList.2 (List.mem_singleton_self _), ?_⟩
    simp only [if_neg hbad, if_pos (spellsError_iff.2 herror)]
    rfl
  · intro hready hbroken
    refine ⟨waiting, StateSet.mem_ofList.2 (List.mem_singleton_self _), ?_⟩
    cases word with
    | none => rfl
    | some state =>
      have hbad : ¬ good state := fun h => hready ⟨state, rfl, h⟩
      have herror : ¬ Text.sameIgnoringCase state State.error = true := fun h =>
        hbroken ⟨state, rfl, spellsError_iff.1 h⟩
      simp only [if_neg hbad, if_neg herror]
      rfl

theorem Volume.available_reads (timeout : Nat) (v : Volume) :
    (Preset.volumeAvailable timeout).Reads v.available False
      (v.state = some "available" ∨ v.state = some "in-use")
      (∃ state, v.state = some state ∧ SpellsError state) := by
  have hgood : ∀ state, state = State.volumeAvailable ∨ state = State.volumeInUse →
      ¬ SpellsError state := by
    rintro _ (rfl | rfl) <;> decide
  have hword : (Preset.volumeAvailable timeout).Reads v.available False
      (∃ state, v.state = some state ∧
        (state = State.volumeAvailable ∨ state = State.volumeInUse))
      (∃ state, v.state = some state ∧ SpellsError state) :=
    Preset.every_reads_word _ v.state (by decide) hgood
  refine hword.congr_ready ⟨?_, ?_⟩
  · rintro ⟨state, hstate, rfl | rfl⟩
    · exact .inl hstate
    · exact .inr hstate
  · rintro (hstate | hstate)
    · exact ⟨_, hstate, .inl rfl⟩
    · exact ⟨_, hstate, .inr rfl⟩

theorem Snapshot.available_reads (timeout : Nat) (s : Snapshot) :
    (Preset.snapshotAvailable timeout).Reads s.available False
      ((s.status = some "available" ∨ s.status = some "ACTIVE") ∧ 100 ≤ s.percentComplete.toInt)
      (∃ status, s.status = some status ∧ SpellsError status) := by
  have hgood : ∀ status, (status = State.snapshotAvailable ∨ status = State.active) ∧
      Snapshot.complete ≤ s.percentComplete → ¬ SpellsError status := by
    rintro _ ⟨rfl | rfl, -⟩ <;> decide
  have hword : (Preset.snapshotAvailable timeout).Reads s.available False
      (∃ status, s.status = some status ∧
        (status = State.snapshotAvailable ∨ status = State.active) ∧
          Snapshot.complete ≤ s.percentComplete)
      (∃ status, s.status = some status ∧ SpellsError status) :=
    Preset.every_reads_word _ s.status (by decide) hgood
  have hcomplete : Snapshot.complete ≤ s.percentComplete ↔ 100 ≤ s.percentComplete.toInt :=
    Int64.le_iff_toInt_le
  refine hword.congr_ready ⟨?_, ?_⟩
  · rintro ⟨status, hstatus, rfl | rfl, hpercent⟩
    · exact ⟨.inl hstatus, hcomplete.1 hpercent⟩
    · exact ⟨.inr hstatus, hcomplete.1 hpercent⟩
  · rintro ⟨hstatus | hstatus, hpercent⟩
    · exact ⟨_, hstatus, .inl rfl, hcomplete.2 hpercent⟩
    · exact ⟨_, hstatus, .inr rfl, hcomplete.2 hpercent⟩

theorem Network.ready_reads (timeout : Nat) (n : Network) :
    (Preset.networkReady timeout).Reads n.ready False (∃ vlan, n.vlan = some vlan) False := by
  have hchoice : (Preset.networkReady timeout).Reads n.ready False (n.vlan.isSome = true) False :=
    Preset.every_reads_choice (by decide)
  exact hchoice.congr_ready Option.isSome_iff_exists

theorem SecurityGroup.ruleAdded_reads (timeout : Nat) (rule : String) (g : SecurityGroup) :
    (Preset.ruleAdded timeout).Reads (g.ruleAdded rule) False (rule ∈ g.rules) False := by
  have hchoice : (Preset.ruleAdded timeout).Reads (g.ruleAdded rule) False
      (g.hasRule rule = true) False := Preset.every_reads_choice (by decide)
  exact hchoice.congr_ready decide_eq_true_iff

theorem SecurityGroup.ruleRemoved_reads (timeout : Nat) (rule : String) (g : SecurityGroup) :
    (Preset.ruleRemoved timeout).Reads (g.ruleRemoved rule) False (rule ∉ g.rules) False := by
  have hchoice : (Preset.ruleRemoved timeout).Reads
      (.of (if ¬ g.hasRule rule = true then State.ruleRemoved else State.rulePending)) False
      (¬ g.hasRule rule = true) False := Preset.every_reads_choice (by decide)
  rw [ite_not] at hchoice
  exact hchoice.congr_ready (not_congr decide_eq_true_iff)

/-! ## 4. The waits -/

/-- The waits for a resource of the cloud to be there, or to be gone. -/
inductive ResourceWait where
  | instanceAvailable (id : String) (ready : ReadyHealth)
  | instanceShutoff (id : String) (ready : ReadyHealth)
  | volumeAvailable (id : String)
  | imageActive (id : String)
  | networkReady (id : String)
  | portDown (network port : String)
  | portAttached (network port instanceId : String)
  | snapshotAvailable (id : String)
  | ruleAdded (group rule : String)
  | ruleRemoved (group rule : String)
  | instanceDeleted (id : String)
  | volumeDeleted (id : String)
  | snapshotDeleted (id : String)

namespace ResourceWait

/-- The request that looks at the resource. -/
def request : ResourceWait → Request
  | .instanceAvailable id _ | .instanceShutoff id _ | .instanceDeleted id => .getInstance id
  | .volumeAvailable id | .volumeDeleted id => .getVolume id
  | .imageActive id => .getImage id
  | .networkReady id => .getNetwork id
  | .portDown network port | .portAttached network port _ => .getPort network port
  | .snapshotAvailable id | .snapshotDeleted id => .getSnapshot id
  | .ruleAdded group _ | .ruleRemoved group _ => .getSecurityGroup group

/-- What the wait makes of the resource. -/
def reading : (a : ResourceWait) → a.request.Value → Reading
  | .instanceAvailable _ ready => Instance.available ready
  | .instanceShutoff _ ready => Instance.shutoff ready
  | .volumeAvailable _ => Volume.available
  | .imageActive _ => Image.available
  | .networkReady _ => Network.ready
  | .portDown _ _ => Port.down
  | .portAttached _ _ instanceId => Port.attached instanceId
  | .snapshotAvailable _ => Snapshot.available
  | .ruleAdded _ rule => SecurityGroup.ruleAdded rule
  | .ruleRemoved _ rule => SecurityGroup.ruleRemoved rule
  | .instanceDeleted _ => Instance.deleting
  | .volumeDeleted _ => Volume.deleting
  | .snapshotDeleted _ => Snapshot.deleting

/-- The policy of the wait; servers have timeouts of their own. -/
def policy (timeout : Nat) : ResourceWait → Policy
  | .instanceAvailable _ ready => Preset.instanceAvailable ready
  | .instanceShutoff _ ready => Preset.instanceShutoff ready
  | .volumeAvailable _ => Preset.volumeAvailable timeout
  | .imageActive _ => Preset.imageActive timeout
  | .networkReady _ => Preset.networkReady timeout
  | .portDown _ _ => Preset.portDown timeout
  | .portAttached _ _ _ => Preset.portAttached timeout
  | .snapshotAvailable _ => Preset.snapshotAvailable timeout
  | .ruleAdded _ _ => Preset.ruleAdded timeout
  | .ruleRemoved _ _ => Preset.ruleRemoved timeout
  | .instanceDeleted _ => Preset.instanceDeleted
  | .volumeDeleted _ => Preset.volumeDeleted timeout
  | .snapshotDeleted _ => Preset.snapshotDeleted timeout

/-- The wait in a workspace. -/
def run {σ : Type} (ws : Workspace) (R : Remote interface σ) (timeout : Option Nat) :
    ResourceWait → Operate σ String
  | .instanceAvailable id ready => ws.waitInstanceAvailable R id ready
  | .instanceShutoff id ready => ws.waitInstanceShutoff R id ready
  | .volumeAvailable id => ws.waitVolumeAvailable R id timeout
  | .imageActive id => ws.waitImageActive R id timeout
  | .networkReady id => ws.waitNetworkReady R id timeout
  | .portDown network port => ws.waitPortDown R network port timeout
  | .portAttached network port instanceId => ws.waitPortAttached R network port instanceId timeout
  | .snapshotAvailable id => ws.waitSnapshotAvailable R id timeout
  | .ruleAdded group rule => ws.waitRuleAdded R group rule timeout
  | .ruleRemoved group rule => ws.waitRuleRemoved R group rule timeout
  | .instanceDeleted id => ws.waitInstanceDeleted R id
  | .volumeDeleted id => ws.waitVolumeDeleted R id timeout
  | .snapshotDeleted id => ws.waitSnapshotDeleted R id timeout

/-! What the resource has to be like, in the words of the cloud. -/

/-- The resource says nothing about its status. Only a server can, and only while it is waited for
to be there. -/
def Silent : (a : ResourceWait) → a.request.Value → Prop
  | .instanceAvailable _ _, i | .instanceShutoff _ _, i => Instance.status i = none
  | _, _ => False

/-- The resource is what is waited for. One that is waited for to be gone never is. -/
def Ready : (a : ResourceWait) → a.request.Value → Prop
  | .instanceAvailable _ ready, i =>
    Instance.status i = some "ACTIVE" ∧ ready.Counts (Instance.health i)
  | .instanceShutoff _ ready, i =>
    Instance.status i = some "SHUTOFF" ∧ ready.Counts (Instance.health i)
  | .volumeAvailable _, v => Volume.state v = some "available" ∨ Volume.state v = some "in-use"
  | .imageActive _, i => Image.state i = some "active"
  | .networkReady _, n => ∃ vlan, Network.vlan n = some vlan
  | .portDown _ _, p => Port.status p = some "DOWN"
  | .portAttached _ _ instanceId, p =>
    Port.status p = some "ACTIVE" ∧ Port.attachedTo p = some instanceId
  | .snapshotAvailable _, s =>
    (Snapshot.status s = some "available" ∨ Snapshot.status s = some "ACTIVE") ∧
      100 ≤ (Snapshot.percentComplete s).toInt
  | .ruleAdded _ rule, g => rule ∈ SecurityGroup.rules g
  | .ruleRemoved _ rule, g => rule ∉ SecurityGroup.rules g
  | .instanceDeleted _, _ | .volumeDeleted _, _ | .snapshotDeleted _, _ => False

/-- The resource is in error. A server says so in one letter case only, and what is waited for to be
gone is so in error as well. -/
def Broken : (a : ResourceWait) → a.request.Value → Prop
  | .instanceAvailable _ _, i | .instanceShutoff _ _, i => Instance.status i = some "ERROR"
  | .volumeAvailable _, v => ∃ state, Volume.state v = some state ∧ SpellsError state
  | .snapshotAvailable _, s => ∃ status, Snapshot.status s = some status ∧ SpellsError status
  | _, _ => False

/-- **Every wait speaks the words of its policy.** -/
theorem reads (a : ResourceWait) (timeout : Nat) (value : a.request.Value) :
    (a.policy timeout).Reads (a.reading value) (a.Silent value) (a.Ready value)
      (a.Broken value) := by
  cases a with
  | instanceAvailable id ready => exact Instance.reaching_reads ready value (by decide)
  | instanceShutoff id ready => exact Instance.reaching_reads ready value (by decide)
  | volumeAvailable id => exact Volume.available_reads timeout value
  | imageActive id => exact Preset.every_reads_choice (by decide)
  | networkReady id => exact Network.ready_reads timeout value
  | portDown network port => exact Preset.every_reads_choice (by decide)
  | portAttached network port instanceId => exact Preset.every_reads_choice (by decide)
  | snapshotAvailable id => exact Snapshot.available_reads timeout value
  | ruleAdded group rule => exact SecurityGroup.ruleAdded_reads timeout rule value
  | ruleRemoved group rule => exact SecurityGroup.ruleRemoved_reads timeout rule value
  | instanceDeleted id => exact Preset.every_reads_waiting (by decide)
  | volumeDeleted id => exact Preset.every_reads_waiting (by decide)
  | snapshotDeleted id => exact Preset.every_reads_waiting (by decide)

/-! ## 5. What the waits note -/

section Run

variable {σ : Type} (ws : Workspace) (R : Remote interface σ)

/-- A wait in a workspace recognizes what it sees if its policy knows the words it is read in. -/
theorem wait_recognizes {p : Policy} {operation : Operation} {q : Request}
    {read : q.Value → Reading}
    (hknown : ∀ value status, (read value).status = some status → p.knows status = true) :
    Act.Notes (ws.wait R p operation (look q read)).run
      fun n => ∀ status, n ≠ .unrecognized status := by
  unfold Workspace.wait
  cases hvalid : p.validate with
  | error e => exact .map .pure
  | ok valid =>
    have hp := Policy.eq_of_validate hvalid
    have hrun : Act.Notes (Wait.run ⟨valid, ws.heeds⟩ R operation (look q read))
        fun n => ∀ status, n ≠ .unrecognized status := by
      refine Wait.run_recognizes _ fun answer status fault hread => ?_
      rcases answer with e | value
      · cases hread
      · rw [hp]
        exact hknown value status (congrArg Reading.status (Except.ok.inj hread))
    exact .map (.map hrun)

/-- Each wait is one under its policy, of what it makes of its resource. -/
theorem run_eq (a : ResourceWait) (timeout : Option Nat) :
    ∃ operation, a.run ws R timeout =
      ws.wait R (a.policy (ws.config.timeout timeout)) operation (look a.request a.reading) := by
  cases a <;> exact ⟨_, rfl⟩

theorem run_recognizes (a : ResourceWait) (timeout : Option Nat) :
    Act.Notes (a.run ws R timeout).run fun n => ∀ status, n ≠ .unrecognized status := by
  obtain ⟨operation, hrun⟩ := a.run_eq ws R timeout
  rw [hrun]
  refine wait_recognizes ws R fun value status hstatus => ?_
  exact Policy.knows_iff.2 ((a.reads _ value).known status hstatus)

end Run

/-- A wait and the resource that it looks at understand each other. -/
structure Understood (a : ResourceWait) : Prop where
  /-- What the wait makes of a resource is a word of its policy, with the right meaning. -/
  reads : ∀ (timeout : Nat) (value : a.request.Value),
    (a.policy timeout).Reads (a.reading value) (a.Silent value) (a.Ready value) (a.Broken value)
  /-- This is the policy and the reading with which it runs. -/
  runs : ∀ {σ : Type} (ws : Workspace) (R : Remote interface σ) (timeout : Option Nat),
    ∃ operation, a.run ws R timeout =
      ws.wait R (a.policy (ws.config.timeout timeout)) operation (look a.request a.reading)
  /-- It never notes that it does not recognize a status. -/
  recognizes : ∀ {σ : Type} (ws : Workspace) (R : Remote interface σ) (timeout : Option Nat),
    Act.Notes (a.run ws R timeout).run fun n => ∀ status, n ≠ .unrecognized status

/-- **Every wait for a resource of the cloud speaks the words of its policy**, whatever the cloud
tells of the resource, so it never comes upon a word that it does not know. -/
theorem waits_understood (a : ResourceWait) : a.Understood where
  reads := a.reads
  runs ws R timeout := a.run_eq ws R timeout
  recognizes ws R timeout := a.run_recognizes ws R timeout

end ResourceWait

end Cloud

end Settle
