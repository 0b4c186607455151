/-
Failures that are queued for operations.

A failure that is queued for an operation (`fail_next`) is the answer to the next request
of this operation for which no earlier one waits. Over a session this is the law of a
queue: what an operation's requests have failed with, followed by what still waits, is
what waited at first, followed by what was queued. All other requests are answered as if
there were no queue.

Not all operations that change something have one. Creating and updating a connection
take their answers from a script, and the failures that are queued for them wait for ever
(`not_all_delivered`).
-/
import Mathlib.Data.List.ReduceOption
import Settle.Proofs.Cloud.Sandbox

set_option autoImplicit false

namespace Settle.Cloud

/-! ## 1. Operations that fail when told to -/

/-- The operations whose requests take the failures that are queued for them. -/
def fallible : List String :=
  ["update_instance", "delete_instance", "delete_volume", "delete_snapshot",
    "delete_cloud_connection"] ++ InstanceAction.all.map ("action:" ++ ·.name)

/-- All operations that change something. -/
def changing : List String :=
  fallible ++ ["create_cloud_connection", "update_cloud_connection"]

theorem Request.heedsFailures_iff (q : Request) :
    q.heedsFailures = true ↔ q.operation ∈ fallible := by
  cases q with
  | actOnInstance id action =>
    cases action <;> simp [heedsFailures, operation, fallible, InstanceAction.all]
  | _ => simp [heedsFailures, operation, fallible, InstanceAction.all, InstanceAction.name]

namespace Sandbox

/-- The failures that a session queues for an operation. -/
def queued (operation : String) : List Move → List ApiFailure :=
  List.filterMap fun
    | .failNext other e => if other = operation then some e else none
    | _ => none

/-- How many requests of an operation a session makes. -/
def requests (operation : String) (moves : List Move) : Nat :=
  (asked moves).countP (·.operation = operation)

/-- The failure that a request is answered with, if it is. -/
def failure? {α : Type} : Result α → Option ApiFailure
  | .ok _ => none
  | .error e => some e

variable {s t : Sandbox} {operation : String}

/-- What becomes of an operation's request, if a move is one. -/
def outcome (s : Sandbox) (operation : String) : Move → List (Option ApiFailure)
  | .ask q => if q.operation = operation then [failure? (s.answer q).1] else []
  | _ => []

/-- What becomes of the requests of an operation in a session, in order. -/
def outcomes (s : Sandbox) (operation : String) : List Move → List (Option ApiFailure)
  | [] => []
  | m :: moves => s.outcome operation m ++ (s.move m).outcomes operation moves

/-! ## 2. The queue of an operation -/

/-- Requests that take failures succeed if none waits, with whatever script. -/
theorem failure?_prepared {q : Request} (h : q.heedsFailures = true) :
    failure? ((s.prepared q).head?.getD q.otherwise) = none := by
  cases q with
  | deleteConnection id =>
    rw [prepared]
    cases s.deleteJobs.get id <;> rfl
  | updateInstance | actOnInstance | deleteInstance | deleteVolume | deleteSnapshot => rfl
  | _ => cases h

theorem failure?_answer {q : Request} (h : q.heedsFailures = true) :
    failure? (s.answer q).1 = (s.failures.get q.operation).head? := by
  rw [← waiting_of_heeds h]
  match hwaiting : s.waiting q with
  | [] => rw [answer_of_nil hwaiting, failure?_prepared h, List.head?_nil]
  | e :: es =>
    rw [answer_of_cons hwaiting]
    rfl

/-- A request of the operation fails with the first failure that waits, if there is one. -/
theorem outcome_of_eq (hop : operation ∈ fallible) {q : Request} (h : q.operation = operation) :
    s.outcome operation (.ask q) = [(s.failures.get operation).head?] := by
  have hheeds : q.heedsFailures = true := q.heedsFailures_iff.2 (h ▸ hop)
  rw [outcome, if_pos h, failure?_answer hheeds, h]

theorem outcome_of_ne {q : Request} (h : q.operation ≠ operation) :
    s.outcome operation (.ask q) = [] := if_neg h

/-- It takes this failure from the queue. -/
theorem failures_ask_of_eq (hop : operation ∈ fallible) {q : Request}
    (h : q.operation = operation) :
    (s.move (.ask q)).failures.get operation = (s.failures.get operation).tail := by
  have hheeds : q.heedsFailures = true := q.heedsFailures_iff.2 (h ▸ hop)
  exact (failures_answer q operation).trans (if_pos ⟨hheeds, h⟩)

theorem failures_ask_of_ne {q : Request} (h : q.operation ≠ operation) :
    (s.move (.ask q)).failures.get operation = s.failures.get operation :=
  (failures_answer q operation).trans (if_neg fun hand => h hand.2)

theorem failures_move_failNext (other : String) (e : ApiFailure) :
    (s.move (.failNext other e)).failures.get operation =
      s.failures.get operation ++ queued operation [.failNext other e] := by
  refine (failures_failNext other operation e).trans ?_
  by_cases h : other = operation <;> simp [queued, h]

theorem failures_move_prepare (b : Batch) :
    (s.move (.prepare b)).failures.get operation = s.failures.get operation := by
  rw [move, failures_prepare]

theorem queued_cons (m : Move) (moves : List Move) :
    queued operation (m :: moves) = queued operation [m] ++ queued operation moves :=
  List.filterMap_append (l := [m])

theorem requests_ask (q : Request) (moves : List Move) :
    requests operation (.ask q :: moves) =
      requests operation moves + if q.operation = operation then 1 else 0 := by
  change List.countP _ (q :: asked moves) = _
  rw [List.countP_cons]
  simp [requests]

/-- A move takes from the front of the queue what it fails with, and adds to its end what it
queues. -/
theorem outcome_append (hop : operation ∈ fallible) (m : Move) :
    (s.outcome operation m).reduceOption ++ (s.move m).failures.get operation =
      s.failures.get operation ++ queued operation [m] := by
  cases m with
  | ask q =>
    have hnone : queued operation [.ask q] = [] := rfl
    rw [hnone, List.append_nil]
    by_cases h : q.operation = operation
    · rw [outcome_of_eq hop h, failures_ask_of_eq hop h]
      cases s.failures.get operation <;> rfl
    · rw [outcome_of_ne h, failures_ask_of_ne h]
      rfl
  | failNext other e =>
    rw [failures_move_failNext]
    rfl
  | prepare b =>
    rw [failures_move_prepare]
    exact (List.append_nil _).symm

/-- **The law of the queue.** Each failure that is queued is given to one request, in order, or
still waits. -/
theorem outcomes_append (hop : operation ∈ fallible) (moves : List Move) :
    (s.outcomes operation moves).reduceOption ++ (s.play moves).failures.get operation =
      s.failures.get operation ++ queued operation moves := by
  induction moves generalizing s with
  | nil =>
    rw [outcomes, List.reduceOption_nil]
    exact (List.append_nil _).symm
  | cons m moves ih =>
    rw [outcomes, List.reduceOption_append, List.append_assoc, play_cons, ih, ← List.append_assoc,
      outcome_append hop m, List.append_assoc, ← queued_cons]

/-- **The turn of each request.** As long as no more is queued, the requests of an operation fail
with what waits, one after the other, and then succeed. -/
theorem outcomes_eq (hop : operation ∈ fallible) {moves : List Move}
    (h : queued operation moves = []) :
    s.outcomes operation moves =
      (List.range (requests operation moves)).map ((s.failures.get operation)[·]?) := by
  induction moves generalizing s with
  | nil => rfl
  | cons m moves ih =>
    rw [queued_cons, List.append_eq_nil_iff] at h
    rw [outcomes, ih h.2]
    cases m with
    | ask q =>
      rw [requests_ask]
      by_cases hq : q.operation = operation
      · -- The queue is one shorter for the requests that follow, and each of them is one later.
        rw [outcome_of_eq hop hq, failures_ask_of_eq hop hq, if_pos hq, List.range_succ_eq_map,
          List.map_cons, List.map_map, List.head?_eq_getElem?, List.singleton_append]
        simp [Function.comp_def]
      · rw [outcome_of_ne hq, failures_ask_of_ne hq, if_neg hq]
        rfl
    | failNext other e =>
      rw [failures_move_failNext, h.1, List.append_nil]
      rfl
    | prepare b =>
      rw [failures_move_prepare]
      rfl

/-- Two failures for three deletions, and a stop in between. -/
example (e e' : ApiFailure) :
    (({} : Sandbox).play [.failNext "delete_volume" e, .failNext "delete_volume" e']).outcomes
      "delete_volume" [.ask (.deleteVolume "vol-1"), .ask (.actOnInstance "pvm-1" .stop),
        .ask (.deleteVolume "vol-1"), .ask (.deleteVolume "vol-2")] =
      [some e, some e', none] :=
  rfl

/-- An operation that is asked for nothing has no outcome. -/
theorem outcomes_eq_nil {moves : List Move} (h : requests operation moves = 0) :
    s.outcomes operation moves = [] := by
  induction moves generalizing s with
  | nil => rfl
  | cons m moves ih =>
    cases m with
    | ask q =>
      rw [requests_ask] at h
      have hq : q.operation ≠ operation := by
        intro hop
        rw [if_pos hop] at h
        omega
      rw [outcomes, outcome_of_ne hq, ih (by omega), List.append_nil]
    | failNext other e => exact ih h
    | prepare b => exact ih h

/-- The failures that are queued for an operation before it is first asked for all wait. -/
theorem failures_play_of_requests (hop : operation ∈ fallible) {moves : List Move}
    (h : requests operation moves = 0) :
    (s.play moves).failures.get operation =
      s.failures.get operation ++ queued operation moves := by
  rw [← outcomes_append hop moves, outcomes_eq_nil h]
  rfl

/-! ## 3. As if nothing had been queued -/

/-- Whether a move has nothing to do with the failures that are queued for an operation: it does
not queue one and is not turned away by one. -/
def spares (s : Sandbox) (operation : String) : Move → Bool
  | .ask q => q.operation ≠ operation || (s.waiting q).isEmpty
  | .failNext other _ => other ≠ operation
  | .prepare _ => true

/-- What is left of a session if its failures of an operation are not queued, and the requests
that these turn away are not made. -/
def spared (s : Sandbox) (operation : String) : List Move → List Move
  | [] => []
  | m :: moves =>
    if s.spares operation m then m :: (s.move m).spared operation moves
    else (s.move m).spared operation moves

/-- Clouds that differ only in the failures that wait for one operation, and for this operation
none waits in the second. -/
structure Apart (operation : String) (s t : Sandbox) : Prop where
  alike : s.Alike (fun _ => True) (· ≠ operation) t
  none_waits : t.failures.get operation = []

theorem Apart.waiting (h : s.Apart operation t) {q : Request}
    (hq : q.operation ≠ operation ∨ s.waiting q = []) : s.waiting q = t.waiting q := by
  by_cases hop : q.operation = operation
  · rw [hq.resolve_left fun hne => hne hop]
    unfold Sandbox.waiting
    rw [hop, h.none_waits, ite_self]
  · exact h.alike.waiting hop

/-- A move that has nothing to do with the failures of the operation is the same in both. -/
theorem Apart.move (h : s.Apart operation t) {m : Move} (hm : s.spares operation m = true) :
    (s.move m).Apart operation (t.move m) := by
  cases m with
  | ask q =>
    have hq : q.operation ≠ operation ∨ s.waiting q = [] := by
      simpa [spares] using hm
    refine ⟨h.alike.answer (h.waiting hq), (failures_answer q operation).trans ?_⟩
    rw [h.none_waits, List.tail_nil, ite_self]
  | failNext other e =>
    have hother : other ≠ operation := by simpa [spares] using hm
    refine ⟨h.alike.failNext other e, (failures_failNext other operation e).trans ?_⟩
    rw [h.none_waits, if_neg hother, List.append_nil]
  | prepare b =>
    exact ⟨h.alike.prepare b, (failures_move_prepare b).trans h.none_waits⟩

/-- Any other move is as if it had not been made. -/
theorem Apart.skip (h : s.Apart operation t) {m : Move} (hm : s.spares operation m = false) :
    (s.move m).Apart operation t := by
  cases m with
  | ask q =>
    have hq : q.operation = operation ∧ s.waiting q ≠ [] := by simpa [spares] using hm
    obtain ⟨e, es, hwaiting⟩ := List.exists_cons_of_ne_nil hq.2
    refine ⟨⟨fun q' hseen => ?_, fun other hother => ?_⟩, h.none_waits⟩
    · exact (prepared_answer_of_cons hwaiting q').trans (h.alike.prepared q' hseen)
    · rw [failures_ask_of_ne (hq.1.trans_ne hother.symm), h.alike.failures other hother]
  | failNext other e =>
    have hother : other = operation := by simpa [spares] using hm
    refine ⟨⟨fun q hseen => ?_, fun another hanother => ?_⟩, h.none_waits⟩
    · exact (prepared_failNext other e q).trans (h.alike.prepared q hseen)
    · refine (failures_failNext other another e).trans ?_
      rw [if_neg (hother.trans_ne hanother.symm), List.append_nil,
        h.alike.failures another hanother]
  | prepare b => cases hm

theorem Apart.play (h : s.Apart operation t) (moves : List Move) :
    (s.play moves).Apart operation (t.play (s.spared operation moves)) := by
  induction moves generalizing s t with
  | nil => exact h
  | cons m moves ih =>
    rw [spared]
    split
    · rename_i hm
      exact ih (h.move hm)
    · rename_i hm
      exact ih (h.skip (by simpa using hm))

theorem apart_self (h : s.failures.get operation = []) : s.Apart operation s :=
  ⟨⟨fun _ _ => rfl, fun _ _ => rfl⟩, h⟩

/-! ## 4. Operations without a queue -/

theorem waiting_of_notMem {q : Request} (h : q.operation ∉ fallible) : s.waiting q = [] := by
  apply waiting_of_not_heeds
  rw [← Bool.not_eq_true, q.heedsFailures_iff]
  exact h

theorem failures_move_of_notMem (h : operation ∉ fallible) (m : Move) :
    (s.move m).failures.get operation = s.failures.get operation ++ queued operation [m] := by
  cases m with
  | ask q =>
    refine (failures_answer q operation).trans ?_
    have hnot : ¬ (q.heedsFailures ∧ q.operation = operation) := fun ⟨hheeds, hop⟩ =>
      h (hop ▸ q.heedsFailures_iff.1 hheeds)
    rw [if_neg hnot]
    exact (List.append_nil _).symm
  | failNext other e => exact failures_move_failNext other e
  | prepare b =>
    rw [failures_move_prepare]
    exact (List.append_nil _).symm

/-- The failures that are queued for an operation without a queue wait for ever. -/
theorem failures_play_of_notMem (h : operation ∉ fallible) (moves : List Move) :
    (s.play moves).failures.get operation =
      s.failures.get operation ++ queued operation moves := by
  induction moves generalizing s with
  | nil => exact (List.append_nil _).symm
  | cons m moves ih =>
    rw [play_cons, ih, failures_move_of_notMem h m, List.append_assoc, ← queued_cons]

theorem spares_ask_of_notMem (h : operation ∉ fallible) (q : Request) :
    s.spares operation (.ask q) = true := by
  by_cases hop : q.operation = operation
  · have hwaiting : s.waiting q = [] := waiting_of_notMem (hop ▸ h)
    simp [spares, hwaiting]
  · simp [spares, hop]

/-- They turn no request away. -/
theorem asked_spared_of_notMem (h : operation ∉ fallible) (moves : List Move) :
    asked (s.spared operation moves) = asked moves := by
  induction moves generalizing s with
  | nil => rfl
  | cons m moves ih =>
    rw [spared]
    cases m with
    | ask q =>
      rw [if_pos (spares_ask_of_notMem h q)]
      exact congrArg (q :: ·) ih
    | failNext other e =>
      split
      · exact ih
      · exact ih
    | prepare b => exact ih

/-! ## 5. What can be relied on -/

/-- Once failures are queued for the operation, its requests fail with them, the first with the
first and so on, and then succeed, whatever else is asked, queued for others and prepared in the
meantime. -/
def InTurn (operation : String) : Prop :=
  ∀ (s : Sandbox) (before after : List Move),
    requests operation before = 0 → queued operation after = [] →
      (s.play before).outcomes operation after =
        (List.range (requests operation after)).map
          ((s.failures.get operation ++ queued operation before)[·]?)

/-- A failure of the service that creates connections. -/
def busy : ApiFailure :=
  { operation := "pcloudCloudconnectionsPost", status := some 409, text := "busy" }

theorem inTurn_of_fallible (hop : operation ∈ fallible) : InTurn operation := by
  intro s before after hbefore hafter
  rw [outcomes_eq hop hafter, failures_play_of_requests hop hbefore]

/-- Where a request succeeds although a failure is queued for it, the failures do not arrive in
turn. -/
theorem not_inTurn {q : Request} {value : q.Value}
    (h : ((failNext {} q.operation busy).answer q).1 = .ok value) : ¬ InTurn q.operation := by
  intro hturn
  have hrun := hturn {} [.failNext q.operation busy] [.ask q] rfl rfl
  have houtcome : (play {} [.failNext q.operation busy]).outcomes q.operation [.ask q] =
      [none] := by
    change (if q.operation = q.operation then
      [failure? ((failNext {} q.operation busy).answer q).1] else []) ++ [] = _
    rw [if_pos rfl, h]
    rfl
  have hqueued : queued q.operation [.failNext q.operation busy] = [busy] := by
    simp [queued]
  have hrequests : requests q.operation [.ask q] = 1 := by
    simp [requests, asked]
  rw [houtcome, hqueued, hrequests] at hrun
  cases hrun

/-- What can be relied on when failures are queued for an operation. -/
structure FailuresDelivered (s : Sandbox) (operation : String) : Prop where
  /-- Of the operations that change something, exactly those that take failures get them in
  turn. -/
  in_turn : operation ∈ changing → (InTurn operation ↔ operation ∈ fallible)
  /-- However queueing and asking alternate, each failure is given to one request, in order, or
  still waits, and nothing else makes such an operation fail. -/
  once : operation ∈ fallible → ∀ moves : List Move,
    (s.outcomes operation moves).reduceOption ++ (s.play moves).failures.get operation =
      s.failures.get operation ++ queued operation moves
  /-- The requests of all other operations, and its own once its queue is used up, are answered as
  if nothing had been queued for it and those that it turned away had not been made. -/
  unnoticed : s.failures.get operation = [] → ∀ (moves : List Move) (q : Request),
    (q.operation ≠ operation ∨ (s.play moves).waiting q = []) →
      ((s.play moves).answer q).1 = ((s.play (s.spared operation moves)).answer q).1
  /-- An operation that takes no failures is asked as if nothing had been queued for it, and what
  is queued for it waits for ever. -/
  lost : operation ∉ fallible → ∀ moves : List Move,
    (∀ q : Request, q.operation = operation → (s.play moves).waiting q = []) ∧
      asked (s.spared operation moves) = asked moves ∧
      (s.play moves).failures.get operation =
        s.failures.get operation ++ queued operation moves

/-- **Queued failures reach the operations that take them, and no others.** -/
theorem failures_delivered (s : Sandbox) (operation : String) :
    FailuresDelivered s operation where
  in_turn hchanging := by
    refine ⟨fun hturn => ?_, inTurn_of_fallible⟩
    rcases List.mem_append.1 hchanging with hop | hop
    · exact hop
    · -- Creating and updating a connection succeed with a failure in their queue.
      rcases List.mem_pair.1 hop with rfl | rfl
      · exact absurd hturn (not_inTurn (q := .createConnection { name := "link", speed := 50 }) rfl)
      · exact absurd hturn (not_inTurn (q := .updateConnection "cc-1" {}) rfl)
  once hop := outcomes_append hop
  unnoticed hnone moves q hq := by
    have hapart := (apart_self hnone).play moves
    exact hapart.alike.result trivial (hapart.waiting hq)
  lost hop moves :=
    ⟨fun q hq => waiting_of_notMem (hq ▸ hop), asked_spared_of_notMem hop moves,
      failures_play_of_notMem hop moves⟩

/-- They do not reach everything that changes something: a connection is created although a
failure is queued for it. -/
theorem not_all_delivered : ¬ ∀ operation ∈ changing, InTurn operation := by
  intro h
  have hcreated := h "create_cloud_connection" (by simp [changing]) {}
    [.failNext "create_cloud_connection" busy]
    [.ask (.createConnection { name := "link", speed := 50 })] rfl rfl
  cases hcreated

end Sandbox

end Settle.Cloud
