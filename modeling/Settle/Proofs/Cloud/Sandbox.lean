/-
The cloud in memory over a session.

A session is a list of moves: requests, and between them failures that are queued and
answers that are prepared. What one move does is said once, by what can be seen of a cloud
in memory: the failures that wait for a request (`waiting`), the answers that are prepared
for it (`prepared`), and the log. A request takes the first failure that waits for it, and
only if there is none the next answer of its script; nothing else that can be seen changes.
The rest is about runs of moves, by induction on the session.
-/
import Mathlib.Logic.Function.Iterate
import Settle.Cloud.Sandbox

set_option autoImplicit false

namespace Settle

/-! ## 1. Scripts that are used -/

namespace Script

variable {α β : Type}

/-- A script of which one more answer has been used. The last answer stays. -/
def rest : Script α → Script α
  | _ :: b :: answers => b :: answers
  | script => script

theorem next?_eq (script : Script α) :
    next? script = script.head?.map fun a => (a, rest script) := by
  match script with
  | [] => rfl
  | [_] => rfl
  | _ :: _ :: _ => rfl

@[simp] theorem rest_nil : rest ([] : Script α) = [] := rfl

theorem rest_map (f : α → β) (script : Script α) :
    rest (List.map f script) = List.map f (rest script) := by
  match script with
  | [] => rfl
  | [_] => rfl
  | _ :: _ :: _ => rfl

/-- A script that has an answer is never used up. -/
theorem rest_eq_nil_iff {script : Script α} : rest script = [] ↔ script = [] := by
  match script with
  | [] => simp [rest]
  | [_] => simp [rest]
  | _ :: _ :: _ => simp [rest]

theorem iterate_rest (script : Script α) (k : Nat) :
    rest^[k] script = script.drop (min k (script.length - 1)) := by
  induction k generalizing script with
  | zero => simp
  | succ k ih =>
    rw [Function.iterate_succ_apply, ih]
    match script with
    | [] => simp [rest]
    | [_] => simp [rest]
    | _ :: b :: answers =>
      have hmin : min (k + 1) (answers.length + 1) = min k answers.length + 1 := by omega
      simp [rest, hmin]

/-- The next answer after `k` uses is the one of the `k`-th use. -/
theorem head?_iterate_rest (script : Script α) (k : Nat) :
    (rest^[k] script).head? = answerAt? script k := by
  rw [iterate_rest, List.head?_drop]
  rfl

end Script

namespace Table

variable {α β : Type}

/-- A table of which one more answer for a key has been used. -/
def skip (t : Table α) (key : String) : Table α := ((t.next? key).map Prod.snd).getD t

theorem get_append (t : Table α) (key other : String) (entries : List α) :
    (t.append key entries).get other = t.get other ++ if key = other then entries else [] := by
  unfold append
  rw [get_set]
  split
  · rename_i h
    rw [h]
  · rw [List.append_nil]

theorem map_get_append (f : α → β) (t : Table α) (key other : String) (entries : List α) :
    ((t.append key entries).get other).map f =
      (t.get other).map f ++ if key = other then entries.map f else [] := by
  rw [get_append, List.map_append]
  split
  · rfl
  · rw [List.map_nil]

theorem skip_eq (t : Table α) (key : String) :
    t.skip key = if t.get key = [] then t else t.set key (Script.rest (t.get key)) := by
  unfold skip next?
  rw [Script.next?_eq]
  cases t.get key <;> rfl

theorem next?_eq (t : Table α) (key : String) :
    t.next? key = (t.get key).head?.map fun a => (a, t.skip key) := by
  unfold skip next?
  rw [Script.next?_eq]
  cases t.get key <;> rfl

theorem skip_eq_self {t : Table α} {key : String} (h : t.get key = []) : t.skip key = t := by
  rw [skip_eq, if_pos h]

theorem get_skip_of_eq (t : Table α) {key other : String} (h : key = other) :
    (t.skip key).get other = Script.rest (t.get other) := by
  rw [skip_eq, h]
  split
  · rename_i hnone
    rw [hnone, Script.rest_nil]
  · rw [get_set, if_pos rfl]

theorem get_skip_of_ne (t : Table α) {key other : String} (h : key ≠ other) :
    (t.skip key).get other = t.get other := by
  rw [skip_eq]
  split
  · rfl
  · rw [get_set, if_neg h]

end Table

namespace Cloud

/-! ## 2. What can be seen of a cloud in memory -/

/-- What a script is for. Requests with the same source are answered from the same script. -/
inductive Source where
  | instance (id : String)
  | volume (id : String)
  | image (id : String)
  | network (id : String)
  /-- The key of a port is that of its network, a slash, and its own. -/
  | port (key : String)
  | snapshot (id : String)
  | securityGroup (id : String)
  | connection (id : String)
  | job (id : String)
  /-- Creating and updating connections, whichever they are. -/
  | changes
  | deletion (id : String)
  deriving DecidableEq

namespace Request

/-- The source of the answers to a request, if it has a script at all. -/
def source? : Request → Option Source
  | .getInstance id => some (.instance id)
  | .getVolume id => some (.volume id)
  | .getImage id => some (.image id)
  | .getNetwork id => some (.network id)
  | .getPort network port => some (.port (network ++ "/" ++ port))
  | .getSnapshot id => some (.snapshot id)
  | .getSecurityGroup id => some (.securityGroup id)
  | .getConnection id => some (.connection id)
  | .getJob id => some (.job id)
  | .createConnection _ | .updateConnection _ _ => some .changes
  | .deleteConnection id => some (.deletion id)
  | .updateInstance _ _ | .actOnInstance _ _ | .deleteInstance _ | .deleteVolume _
  | .deleteSnapshot _ => none

/-- Whether failures that wait for the operation of the request reach it. -/
def heedsFailures : Request → Bool
  | .updateInstance _ _ | .actOnInstance _ _ | .deleteInstance _ | .deleteVolume _
  | .deleteSnapshot _ | .deleteConnection _ => true
  | _ => false

/-- The answer to a request for which nothing is prepared. -/
def otherwise : (q : Request) → Result q.Value
  | .getInstance id => .error (.missing "pcloudPvminstancesGet" id)
  | .updateInstance id _ => .ok { id }
  | .actOnInstance _ _ | .deleteInstance _ | .deleteVolume _ | .deleteSnapshot _ => .ok ()
  | .getVolume id => .error (.missing "pcloudCloudinstancesVolumesGet" id)
  | .getImage id => .error (.missing "pcloudCloudinstancesImagesGet" id)
  | .getNetwork id => .error (.missing "pcloudNetworksGet" id)
  | .getPort network port => .error (.missing "pcloudNetworksPortsGet" (network ++ "/" ++ port))
  | .getSnapshot id => .error (.missing "pcloudCloudinstancesSnapshotsGet" id)
  | .getSecurityGroup id => .error (.missing "v1NetworkSecurityGroupsGet" id)
  | .getConnection id => .error (.missing "pcloudCloudconnectionsGet" id)
  | .createConnection spec =>
    .ok (.done { id := "cc-" ++ spec.name, name := spec.name, speed := spec.speed })
  | .updateConnection id update =>
    .ok (.done { id, name := update.name.getD "", speed := update.speed.getD 0 })
  | .deleteConnection _ => .ok none
  | .getJob id => .error (.missing "pcloudCloudinstancesJobsGet" id)

end Request

/-- The answers that a batch prepares for a request. -/
def Batch.answersTo (b : Batch) : (q : Request) → List (Result q.Value)
  | .getInstance id =>
    match b with | .instances id' answers => if id' = id then answers else [] | _ => []
  | .getVolume id =>
    match b with | .volumes id' answers => if id' = id then answers else [] | _ => []
  | .getImage id =>
    match b with | .images id' answers => if id' = id then answers else [] | _ => []
  | .getNetwork id =>
    match b with | .networks id' answers => if id' = id then answers else [] | _ => []
  | .getPort network port =>
    match b with
    | .ports network' port' answers =>
      if network' ++ "/" ++ port' = network ++ "/" ++ port then answers else []
    | _ => []
  | .getSnapshot id =>
    match b with | .snapshots id' answers => if id' = id then answers else [] | _ => []
  | .getSecurityGroup id =>
    match b with | .securityGroups id' answers => if id' = id then answers else [] | _ => []
  | .getConnection id =>
    match b with | .connections id' answers => if id' = id then answers else [] | _ => []
  | .getJob id =>
    match b with
    | .jobs id' answers => if id' = id then answers.map (Except.map Job.report) else []
    | _ => []
  | .createConnection _ | .updateConnection _ _ =>
    match b with | .connectionResponses answers => answers | _ => []
  | .deleteConnection id =>
    match b with | .deleteJob id' job => if id' = id then [.ok job] else [] | _ => []
  | .updateInstance _ _ | .actOnInstance _ _ | .deleteInstance _ | .deleteVolume _
  | .deleteSnapshot _ => []

namespace Sandbox

variable (s : Sandbox)

/-- The answers that are prepared for a request, in the form in which it gets them. -/
def prepared : (q : Request) → Script (Result q.Value)
  | .getInstance id => s.instances.get id
  | .getVolume id => s.volumes.get id
  | .getImage id => s.images.get id
  | .getNetwork id => s.networks.get id
  | .getPort network port => s.ports.get (network ++ "/" ++ port)
  | .getSnapshot id => s.snapshots.get id
  | .getSecurityGroup id => s.securityGroups.get id
  | .getConnection id => s.connections.get id
  | .getJob id => (s.jobs.get id).map (Except.map Job.report)
  | .createConnection _ | .updateConnection _ _ => s.connectionResponses
  | .deleteConnection id => (s.deleteJobs.get id).map .ok
  | .updateInstance _ _ | .actOnInstance _ _ | .deleteInstance _ | .deleteVolume _
  | .deleteSnapshot _ => []

/-- The failures that wait for a request. -/
def waiting (q : Request) : List ApiFailure :=
  if q.heedsFailures then s.failures.get q.operation else []

/-- The cloud once the script of a request has been used. -/
def used : Request → Sandbox
  | .getInstance id => { s with instances := s.instances.skip id }
  | .getVolume id => { s with volumes := s.volumes.skip id }
  | .getImage id => { s with images := s.images.skip id }
  | .getNetwork id => { s with networks := s.networks.skip id }
  | .getPort network port => { s with ports := s.ports.skip (network ++ "/" ++ port) }
  | .getSnapshot id => { s with snapshots := s.snapshots.skip id }
  | .getSecurityGroup id => { s with securityGroups := s.securityGroups.skip id }
  | .getConnection id => { s with connections := s.connections.skip id }
  | .getJob id => { s with jobs := s.jobs.skip id }
  | .createConnection _ | .updateConnection _ _ =>
    { s with connectionResponses := Script.rest s.connectionResponses }
  | .deleteConnection id => { s with deleteJobs := s.deleteJobs.skip id }
  | .updateInstance _ _ | .actOnInstance _ _ | .deleteInstance _ | .deleteVolume _
  | .deleteSnapshot _ => s

variable {s}

/-- Using the script of a request brings everything with the same source to its next answer. -/
theorem prepared_used_of_eq {q q' : Request} (h : q.source? = q'.source?) :
    (s.used q).prepared q' = Script.rest (s.prepared q') := by
  cases q <;> cases q' <;>
    simp only [Request.source?, reduceCtorEq, Option.some.injEq, Source.instance.injEq,
      Source.volume.injEq, Source.image.injEq, Source.network.injEq, Source.port.injEq,
      Source.snapshot.injEq, Source.securityGroup.injEq, Source.connection.injEq,
      Source.job.injEq, Source.deletion.injEq] at h
  -- Two kinds of request with one source are left: both have none, both change connections, or
  -- they are of one kind and have one key.
  all_goals
    first
    | exact Table.get_skip_of_eq _ h
    | rfl
    | exact (congrArg _ (Table.get_skip_of_eq _ h)).trans (Script.rest_map _ _).symm

/-- Using the script of a request leaves those of other sources as they are. -/
theorem prepared_used_of_ne {q q' : Request} (h : q.source? ≠ q'.source?) :
    (s.used q).prepared q' = s.prepared q' := by
  cases q <;> cases q'
  -- Two kinds of request have their answers in different fields; for one kind the keys differ.
  all_goals
    first
    | rfl
    | exact Table.get_skip_of_ne _ (by simpa [Request.source?] using h)
    | exact congrArg _ (Table.get_skip_of_ne _ (by simpa [Request.source?] using h))
    | exact absurd rfl h

/-- What is prepared for a request is added to the end of its script. -/
theorem prepared_prepare (b : Batch) (q : Request) :
    (s.prepare b).prepared q = s.prepared q ++ b.answersTo q := by
  cases b <;> cases q
  -- A batch of another kind adds nothing, and one of the same kind what `get_append` says.
  all_goals
    first
    | exact (List.append_nil _).symm
    | exact Table.get_append _ _ _ _
    | exact Table.map_get_append _ _ _ _ _
    | rfl

/-- Neither the queues of failures nor the log have to do with what is prepared. -/
theorem prepared_mk (failures : Table ApiFailure) (calls : Array Request) (q : Request) :
    { s with failures := failures, calls := calls }.prepared q = s.prepared q := by
  cases q <;> rfl

/-! ## 3. One request -/

theorem lookup_eq {α : Type} (scripts : Table (Result α)) (operation key : String) :
    lookup scripts operation key =
      ((scripts.get key).head?.getD (.error (.missing operation key)), scripts.skip key) := by
  unfold lookup
  rw [Table.next?_eq]
  cases hscript : scripts.get key with
  | nil =>
    rw [Table.skip_eq_self hscript]
    rfl
  | cons => rfl

theorem respond_eq (otherwise : Connection) :
    s.respond otherwise = (s.connectionResponses.head?.getD (.ok (.done otherwise)),
      { s with connectionResponses := Script.rest s.connectionResponses }) := by
  unfold respond
  rw [Script.next?_eq]
  cases hresponses : s.connectionResponses with
  | nil =>
    obtain ⟨⟩ := s
    cases hresponses
    rfl
  | cons response responses => rfl

theorem attempt_of_nil {α : Type} {operation : String} (value : α)
    (h : s.failures.get operation = []) : s.attempt operation value = (.ok value, s) := by
  unfold attempt
  rw [h]

theorem attempt_of_cons {α : Type} {operation : String} {e : ApiFailure} {es : List ApiFailure}
    (value : α) (h : s.failures.get operation = e :: es) :
    s.attempt operation value =
      (.error e, { s with failures := s.failures.set operation es }) := by
  unfold attempt
  rw [h]

/-- A request for which no failure waits is answered from its script. -/
theorem handle_of_nil {q : Request} (h : s.waiting q = []) :
    handle q s = ((s.prepared q).head?.getD q.otherwise, s.used q) := by
  cases q with
  | updateInstance | actOnInstance | deleteInstance | deleteVolume | deleteSnapshot =>
    exact attempt_of_nil _ h
  | createConnection | updateConnection => exact respond_eq _
  | getInstance | getVolume | getImage | getNetwork | getPort | getSnapshot | getSecurityGroup
  | getConnection =>
    rw [handle, lookup_eq]
    rfl
  | getJob id =>
    rw [handle, lookup_eq, prepared, List.head?_map]
    cases (s.jobs.get id).head? <;> rfl
  | deleteConnection id =>
    rw [handle, attempt_of_nil () h, prepared, used]
    simp only [Table.next?_eq]
    cases hscript : s.deleteJobs.get id with
    | nil =>
      rw [Table.skip_eq_self hscript]
      rfl
    | cons => rfl

/-- A failure that waits for a request is its answer, and is all that the request takes. -/
theorem handle_of_cons {q : Request} {e : ApiFailure} {es : List ApiFailure}
    (h : s.waiting q = e :: es) :
    handle q s = (.error e, { s with failures := s.failures.set q.operation es }) := by
  cases q with
  | updateInstance | actOnInstance | deleteInstance | deleteVolume | deleteSnapshot =>
    exact attempt_of_cons _ h
  | deleteConnection id =>
    rw [handle, attempt_of_cons () h]
  | getInstance | getVolume | getImage | getNetwork | getPort | getSnapshot | getSecurityGroup
  | getConnection | createConnection | updateConnection | getJob => cases h

/-- The answer to a request that no failure turns away. -/
theorem answer_of_nil {q : Request} (h : s.waiting q = []) :
    s.answer q = ((s.prepared q).head?.getD q.otherwise,
      { s with calls := s.calls.push q }.used q) := by
  have hprepared : { s with calls := s.calls.push q }.prepared q = s.prepared q :=
    prepared_mk _ _ q
  have hhandle := handle_of_nil (s := { s with calls := s.calls.push q }) h
  rw [hprepared] at hhandle
  exact hhandle

/-- The answer to a request that a failure turns away. -/
theorem answer_of_cons {q : Request} {e : ApiFailure} {es : List ApiFailure}
    (h : s.waiting q = e :: es) :
    s.answer q = (.error e,
      { s with calls := s.calls.push q, failures := s.failures.set q.operation es }) :=
  handle_of_cons (s := { s with calls := s.calls.push q }) h

/-- A request is recorded, whatever its answer. -/
theorem calls_answer (q : Request) : (s.answer q).2.calls = s.calls.push q := by
  match h : s.waiting q with
  | [] =>
    rw [answer_of_nil h]
    cases q <;> rfl
  | _ :: _ => rw [answer_of_cons h]

theorem prepared_answer_of_cons {q : Request} {e : ApiFailure} {es : List ApiFailure}
    (h : s.waiting q = e :: es) (q' : Request) :
    (s.answer q).2.prepared q' = s.prepared q' := by
  rw [answer_of_cons h]
  exact prepared_mk _ _ q'

theorem prepared_answer_of_eq {q q' : Request} (h : s.waiting q = [])
    (hsource : q.source? = q'.source?) :
    (s.answer q).2.prepared q' = Script.rest (s.prepared q') := by
  rw [answer_of_nil h, prepared_used_of_eq hsource]
  exact congrArg Script.rest (prepared_mk _ _ q')

theorem prepared_answer_of_ne {q q' : Request} (hsource : q.source? ≠ q'.source?) :
    (s.answer q).2.prepared q' = s.prepared q' := by
  match h : s.waiting q with
  | [] =>
    rw [answer_of_nil h, prepared_used_of_ne hsource]
    exact prepared_mk _ _ q'
  | _ :: _ => exact prepared_answer_of_cons h q'

theorem waiting_of_heeds {q : Request} (h : q.heedsFailures = true) :
    s.waiting q = s.failures.get q.operation := if_pos h

theorem waiting_of_not_heeds {q : Request} (h : q.heedsFailures = false) : s.waiting q = [] := by
  unfold waiting
  rw [h]
  rfl

/-- Failures wait only for a request that they reach. -/
theorem heeds_of_waiting {q : Request} {e : ApiFailure} {es : List ApiFailure}
    (h : s.waiting q = e :: es) : q.heedsFailures = true := by
  by_contra hnot
  rw [waiting_of_not_heeds (by simpa using hnot)] at h
  cases h

/-- A request takes one of the failures that wait for it, and none of the others. -/
theorem failures_answer (q : Request) (operation : String) :
    (s.answer q).2.failures.get operation =
      if q.heedsFailures ∧ q.operation = operation then (s.failures.get operation).tail
      else s.failures.get operation := by
  match h : s.waiting q with
  | [] =>
    have hfailures : (s.answer q).2.failures = s.failures := by
      rw [answer_of_nil h]
      cases q <;> rfl
    rw [hfailures]
    split
    · rename_i hop
      rw [waiting_of_heeds hop.1, hop.2] at h
      rw [h]
      rfl
    · rfl
  | e :: es =>
    have hheeds := heeds_of_waiting h
    rw [answer_of_cons h, Table.get_set]
    rw [waiting_of_heeds hheeds] at h
    by_cases hop : q.operation = operation
    · rw [if_pos hop, if_pos ⟨hheeds, hop⟩, ← hop, h]
      rfl
    · rw [if_neg hop, if_neg fun hand => hop hand.2]

/-! ## 4. Sessions -/

/-- What can happen to a cloud in memory. -/
inductive Move where
  | ask (q : Request)
  | failNext (operation : String) (e : ApiFailure)
  | prepare (b : Batch)

/-- The cloud after a move. -/
def move (s : Sandbox) : Move → Sandbox
  | .ask q => (s.answer q).2
  | .failNext operation e => s.failNext operation e
  | .prepare b => s.prepare b

/-- The cloud after a session. -/
def play (s : Sandbox) (moves : List Move) : Sandbox := moves.foldl move s

/-- The requests of a session. -/
def asked : List Move → List Request :=
  List.filterMap fun
    | .ask q => some q
    | _ => none

/-- The batches of a session. -/
def batches : List Move → List Batch :=
  List.filterMap fun
    | .prepare b => some b
    | _ => none

theorem play_cons (m : Move) (moves : List Move) :
    s.play (m :: moves) = (s.move m).play moves := rfl

theorem play_append (before after : List Move) :
    s.play (before ++ after) = (s.play before).play after := List.foldl_append

theorem prepared_failNext (operation : String) (e : ApiFailure) (q : Request) :
    (s.failNext operation e).prepared q = s.prepared q :=
  prepared_mk _ _ q

theorem failures_failNext (operation other : String) (e : ApiFailure) :
    (s.failNext operation e).failures.get other =
      s.failures.get other ++ if operation = other then [e] else [] :=
  Table.get_append _ _ _ _

theorem failures_prepare (b : Batch) : (s.prepare b).failures = s.failures := by
  cases b <;> rfl

theorem calls_prepare (b : Batch) : (s.prepare b).calls = s.calls := by
  cases b <;> rfl

/-! ## 5. Clouds that answer alike -/

/-- Two clouds in memory in which the same is prepared for some requests, and the same failures
wait for some operations. -/
structure Alike (seen : Request → Prop) (heard : String → Prop) (s t : Sandbox) : Prop where
  prepared : ∀ q, seen q → s.prepared q = t.prepared q
  failures : ∀ operation, heard operation →
    s.failures.get operation = t.failures.get operation

namespace Alike

variable {seen : Request → Prop} {heard : String → Prop} {t : Sandbox}

theorem waiting (h : s.Alike seen heard t) {q : Request} (hheard : heard q.operation) :
    s.waiting q = t.waiting q := by
  unfold Sandbox.waiting
  rw [h.failures _ hheard]

/-- They give a request that is seen the same answer, if the same failures wait for it. -/
theorem result (h : s.Alike seen heard t) {q : Request} (hseen : seen q)
    (hwaiting : s.waiting q = t.waiting q) : (s.answer q).1 = (t.answer q).1 := by
  match hs : s.waiting q with
  | [] => rw [answer_of_nil hs, answer_of_nil (hwaiting ▸ hs), h.prepared q hseen]
  | _ :: _ => rw [answer_of_cons hs, answer_of_cons (hwaiting ▸ hs)]

/-- They stay alike over a request for which the same failures wait. -/
theorem answer (h : s.Alike seen heard t) {q : Request} (hwaiting : s.waiting q = t.waiting q) :
    (s.answer q).2.Alike seen heard (t.answer q).2 where
  prepared q' hseen := by
    by_cases hsource : q.source? = q'.source?
    · match hs : s.waiting q with
      | [] =>
        rw [prepared_answer_of_eq hs hsource, prepared_answer_of_eq (hwaiting ▸ hs) hsource,
          h.prepared q' hseen]
      | _ :: _ =>
        rw [prepared_answer_of_cons hs, prepared_answer_of_cons (hwaiting ▸ hs),
          h.prepared q' hseen]
    · rw [prepared_answer_of_ne hsource, prepared_answer_of_ne hsource, h.prepared q' hseen]
  failures operation hheard := by
    rw [failures_answer, failures_answer, h.failures operation hheard]

theorem failNext (h : s.Alike seen heard t) (operation : String) (e : ApiFailure) :
    (s.failNext operation e).Alike seen heard (t.failNext operation e) where
  prepared q hseen := by
    rw [prepared_failNext, prepared_failNext, h.prepared q hseen]
  failures other hheard := by
    rw [failures_failNext, failures_failNext, h.failures other hheard]

theorem prepare (h : s.Alike seen heard t) (b : Batch) :
    (s.prepare b).Alike seen heard (t.prepare b) where
  prepared q hseen := by
    rw [prepared_prepare, prepared_prepare, h.prepared q hseen]
  failures operation hheard := by
    rw [failures_prepare, failures_prepare, h.failures operation hheard]

end Alike

end Sandbox

end Cloud

end Settle
