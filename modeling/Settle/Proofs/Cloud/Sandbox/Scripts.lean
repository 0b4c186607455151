/-
Scripts that are replayed.

Each script is used by its own requests only, one answer at a time, and the last answer
stays. So what a request is answered with is found by counting: the answer of the `k`-th use
of everything that was prepared for it, where `k` is the number of earlier requests that
were answered from the same script (`scripts_replayed`). Requests with a script of their own
do not enter, and neither does the order in which the scripts were filled.

A request that a failure turns away does not use its script. Of those with a script only
the deletion of a connection can be turned away, and for all others the count is that of
the requests made.
-/
import Mathlib.Data.List.Basic
import Settle.Proofs.Cloud.Sandbox

set_option autoImplicit false

namespace Settle.Cloud

/-! ## 1. Which requests share a script -/

/-- The keys of ports are apart if no slash is in the parts of one of them. -/
theorem portKey_inj {network port network' port' : String} (hnetwork : '/' ∉ network.toList)
    (hport : '/' ∉ port.toList) :
    network ++ "/" ++ port = network' ++ "/" ++ port' ↔ network = network' ∧ port = port' := by
  have hkey : ∀ a b : String, (a ++ "/" ++ b).toList = a.toList ++ '/' :: b.toList := by
    intro a b
    rw [String.toList_append, String.toList_append, List.append_assoc]
    rfl
  rw [← String.toList_inj, hkey, hkey, List.append_cons_inj_of_notMem hnetwork hport,
    String.toList_inj, String.toList_inj]
  simp

theorem Request.heedsFailures_congr {q q' : Request} (h : q.source? = q'.source?) :
    q.heedsFailures = q'.heedsFailures := by
  cases q <;> cases q' <;> first | rfl | cases h

/-- Whether a request looks a resource up. -/
def Request.looksUp : Request → Bool
  | .getInstance _ | .getVolume _ | .getImage _ | .getNetwork _ | .getPort _ _ | .getSnapshot _
  | .getSecurityGroup _ | .getConnection _ | .getJob _ => true
  | _ => false

theorem Request.heedsFailures_of_looksUp {q : Request} (h : q.looksUp = true) :
    q.heedsFailures = false := by
  cases q <;> first | rfl | cases h

/-- A resource for which nothing is prepared does not exist. -/
theorem Request.otherwise_of_looksUp {q : Request} (h : q.looksUp = true) :
    ∃ e, q.otherwise = .error e ∧ e.status = some 404 ∧ RemoteFailure.classify e = .absent := by
  cases q <;> first | exact ⟨_, rfl, rfl, rfl⟩ | cases h

namespace Sandbox

variable {s t : Sandbox} {q : Request}

/-- Whether a move takes an answer from the script of a request. -/
def uses (s : Sandbox) (q : Request) : Move → Bool
  | .ask q' => q'.source? = q.source? && (s.waiting q').isEmpty
  | _ => false

/-- How often a session takes an answer from the script of a request. -/
def useCount (s : Sandbox) (q : Request) : List Move → Nat
  | [] => 0
  | m :: moves => (if s.uses q m then 1 else 0) + (s.move m).useCount q moves

/-- All that a session prepares for a request. -/
def added (q : Request) (moves : List Move) : Script (Result q.Value) :=
  (batches moves).flatMap (·.answersTo q)

/-! ## 2. What a session leaves of a script -/

theorem added_cons (m : Move) (moves : List Move) :
    added q (m :: moves) = added q [m] ++ added q moves := by
  have hbatches : batches (m :: moves) = batches [m] ++ batches moves :=
    List.filterMap_append (l := [m])
  unfold added
  rw [hbatches, List.flatMap_append]

/-- A move takes an answer from the script of a request, or adds answers to it, or neither. -/
theorem prepared_move (m : Move) :
    (s.move m).prepared q =
      (if s.uses q m then Script.rest (s.prepared q) else s.prepared q) ++ added q [m] := by
  cases m with
  | ask q' =>
    have hadded : added q [.ask q'] = [] := rfl
    rw [hadded, List.append_nil]
    by_cases hsource : q'.source? = q.source?
    · match hwaiting : s.waiting q' with
      | [] =>
        have huses : s.uses q (.ask q') = true := by simp [uses, hsource, hwaiting]
        rw [if_pos huses]
        exact prepared_answer_of_eq hwaiting hsource
      | _ :: _ =>
        -- The deletion of a connection that is turned away keeps its job.
        have huses : ¬ s.uses q (.ask q') = true := by simp [uses, hwaiting]
        rw [if_neg huses]
        exact prepared_answer_of_cons hwaiting q
    · have huses : ¬ s.uses q (.ask q') = true := by simp [uses, hsource]
      rw [if_neg huses]
      exact prepared_answer_of_ne hsource
  | failNext operation e =>
    exact (prepared_failNext operation e q).trans (List.append_nil _).symm
  | prepare b =>
    have hadded : added q [.prepare b] = b.answersTo q := List.append_nil _
    rw [hadded]
    exact prepared_prepare b q

/-- Before its first use a script gets longer by all that is prepared. -/
theorem prepared_play_of_unused {moves : List Move} (h : s.useCount q moves = 0) :
    (s.play moves).prepared q = s.prepared q ++ added q moves := by
  induction moves generalizing s with
  | nil => exact (List.append_nil _).symm
  | cons m moves ih =>
    rw [useCount] at h
    have hunused : ¬ s.uses q m = true := by
      intro huses
      rw [if_pos huses] at h
      omega
    rw [play_cons, ih (by omega), prepared_move, if_neg hunused, List.append_assoc, ← added_cons]

/-- Once nothing more is prepared, each use brings a script to its next answer. -/
theorem prepared_play_of_complete {moves : List Move} (h : added q moves = []) :
    (s.play moves).prepared q = Script.rest^[s.useCount q moves] (s.prepared q) := by
  induction moves generalizing s with
  | nil => rfl
  | cons m moves ih =>
    rw [added_cons, List.append_eq_nil_iff] at h
    rw [play_cons, ih h.2, prepared_move, h.1, List.append_nil, useCount]
    split
    · rw [Nat.add_comm, Function.iterate_succ_apply]
    · rw [Nat.zero_add]

/-- **The turn of each use.** After a session the next answer for a request is found by counting
the uses since its script was complete. -/
theorem head?_prepared_play {before after : List Move} (hbefore : s.useCount q before = 0)
    (hafter : added q after = []) :
    ((s.play (before ++ after)).prepared q).head? =
      Script.answerAt? (s.prepared q ++ added q before) ((s.play before).useCount q after) := by
  rw [play_append, prepared_play_of_complete hafter, prepared_play_of_unused hbefore,
    Script.head?_iterate_rest]

/-- What is never turned away by a failure uses its script whenever it is asked for. -/
theorem useCount_eq_countP (h : q.heedsFailures = false) (moves : List Move) :
    s.useCount q moves = (asked moves).countP (·.source? = q.source?) := by
  induction moves generalizing s with
  | nil => rfl
  | cons m moves ih =>
    rw [useCount, ih]
    cases m with
    | ask q' =>
      change _ = List.countP _ (q' :: asked moves)
      rw [List.countP_cons, Nat.add_comm]
      congr 1
      by_cases hsource : q'.source? = q.source?
      · have hwaiting : s.waiting q' = [] :=
          waiting_of_not_heeds ((Request.heedsFailures_congr hsource).trans h)
        simp [uses, hsource, hwaiting]
      · simp [uses, hsource]
    | failNext operation e => exact Nat.zero_add _
    | prepare b => exact Nat.zero_add _

/-- A script that has an answer keeps one. -/
theorem prepared_play_ne_nil (h : s.prepared q ≠ []) (moves : List Move) :
    (s.play moves).prepared q ≠ [] := by
  induction moves generalizing s with
  | nil => exact h
  | cons m moves ih =>
    refine ih ?_
    rw [prepared_move]
    intro hnil
    rw [List.append_eq_nil_iff] at hnil
    split at hnil
    · exact h (Script.rest_eq_nil_iff.1 hnil.1)
    · exact h hnil.1

/-! ## 3. The log of a session -/

theorem calls_move (m : Move) : (s.move m).calls.toList = s.calls.toList ++ asked [m] := by
  cases m with
  | ask q' =>
    change (s.answer q').2.calls.toList = _
    rw [calls_answer, Array.toList_push]
    rfl
  | failNext operation e => exact (List.append_nil _).symm
  | prepare b =>
    change (s.prepare b).calls.toList = _
    rw [calls_prepare]
    exact (List.append_nil _).symm

/-- The log of a session is what was asked for, in order. -/
theorem calls_play (moves : List Move) :
    (s.play moves).calls.toList = s.calls.toList ++ asked moves := by
  induction moves generalizing s with
  | nil => exact (List.append_nil _).symm
  | cons m moves ih =>
    have hasked : asked (m :: moves) = asked [m] ++ asked moves := List.filterMap_append (l := [m])
    rw [play_cons, ih, calls_move, List.append_assoc, ← hasked]

/-! ## 4. Sessions that answer alike -/

theorem Alike.play {seen : Request → Prop} (h : s.Alike seen (fun _ => True) t)
    (moves : List Move) : (s.play moves).Alike seen (fun _ => True) (t.play moves) := by
  induction moves generalizing s t with
  | nil => exact h
  | cons m moves ih =>
    refine ih ?_
    cases m with
    | ask q => exact h.answer (h.waiting trivial)
    | failNext operation e => exact h.failNext operation e
    | prepare b => exact h.prepare b

/-- A request that no failure can turn away is noticed by none with another script. -/
theorem alike_answer {q' : Request} (hheeds : q'.heedsFailures = false)
    (hsource : q'.source? ≠ q.source?) :
    (s.answer q').2.Alike (· = q) (fun _ => True) s where
  prepared q'' hseen := by
    rw [hseen]
    exact prepared_answer_of_ne hsource
  failures operation _ := by
    rw [failures_answer, hheeds, if_neg fun hand => Bool.noConfusion hand.1]

/-! ## 5. What can be relied on -/

/-- What can be relied on when answers are prepared. -/
structure ScriptsReplayed : Prop where
  /-- Let all answers for a lookup be prepared before the first request with its script. Then the
  lookup is answered with the `k`-th of them if `k` requests with this script came before it, or
  with the last if there are not so many. What else is asked, queued or prepared makes no
  difference. The same holds for creating and updating connections, which share one script. -/
  replays : ∀ (s : Sandbox) (before after : List Move) (q : Request), q.heedsFailures = false →
    (∀ q' ∈ asked before, q'.source? ≠ q.source?) → added q after = [] →
      ((s.play (before ++ after)).answer q).1 =
        (Script.answerAt? (s.prepared q ++ added q before)
          ((asked after).countP (·.source? = q.source?))).getD q.otherwise
  /-- It holds of every request that no failure turns away, if only such requests are counted. -/
  replays_unhindered : ∀ (s : Sandbox) (before after : List Move) (q : Request),
    s.useCount q before = 0 → added q after = [] → (s.play (before ++ after)).waiting q = [] →
      ((s.play (before ++ after)).answer q).1 =
        (Script.answerAt? (s.prepared q ++ added q before)
          ((s.play before).useCount q after)).getD q.otherwise
  /-- A lookup for which nothing is prepared fails with a status that means absence. -/
  missing : ∀ (s : Sandbox) (moves : List Move) (q : Request), q.looksUp = true →
    s.prepared q = [] → added q moves = [] →
      ∃ e, ((s.play moves).answer q).1 = .error e ∧ e.status = some 404 ∧
        RemoteFailure.classify e = .absent
  /-- A lookup, and the creation or update of a connection, changes the answers to no request with
  another script, however long the session goes on. -/
  independent : ∀ (s : Sandbox) (moves : List Move) (q q' : Request), q'.heedsFailures = false →
    q'.source? ≠ q.source? →
      (((s.answer q').2.play moves).answer q).1 = ((s.play moves).answer q).1
  /-- Ports have scripts of their own if no slash is in the names of their networks and in their
  own. -/
  ports_apart : ∀ network port network' port' : String,
    '/' ∉ network.toList → '/' ∉ port.toList →
      ((Request.getPort network port).source? = (Request.getPort network' port').source? ↔
        network = network' ∧ port = port') ∧
      ∀ answers, (Batch.ports network port answers).answersTo (.getPort network' port') =
        if network = network' ∧ port = port' then answers else []
  /-- A script that has an answer is never used up. -/
  lasting : ∀ (s : Sandbox) (moves : List Move) (q : Request),
    s.prepared q ≠ [] → (s.play moves).prepared q ≠ []
  /-- All requests are recorded, in order, whatever their answers. -/
  recorded : ∀ (s : Sandbox) (moves : List Move),
    (s.play moves).calls.toList = s.calls.toList ++ asked moves

theorem useCount_eq_zero (h : q.heedsFailures = false) {moves : List Move}
    (hother : ∀ q' ∈ asked moves, q'.source? ≠ q.source?) : s.useCount q moves = 0 := by
  rw [useCount_eq_countP h, List.countP_eq_zero]
  intro q' hq'
  simpa using hother q' hq'

/-- **Scripts are replayed, each for itself.** -/
theorem scripts_replayed : ScriptsReplayed where
  replays s before after q hheeds hbefore hafter := by
    rw [answer_of_nil (waiting_of_not_heeds hheeds),
      head?_prepared_play (useCount_eq_zero hheeds hbefore) hafter, useCount_eq_countP hheeds]
  replays_unhindered s before after q hbefore hafter hwaiting := by
    rw [answer_of_nil hwaiting, head?_prepared_play hbefore hafter]
  missing s moves q hlooks hnone hadded := by
    have hwaiting : (s.play moves).waiting q = [] :=
      waiting_of_not_heeds (Request.heedsFailures_of_looksUp hlooks)
    have hprepared : (s.play moves).prepared q = [] := by
      rw [prepared_play_of_complete hadded, hnone]
      exact Function.iterate_fixed Script.rest_nil _
    rw [answer_of_nil hwaiting, hprepared]
    exact Request.otherwise_of_looksUp hlooks
  independent s moves q q' hheeds hsource := by
    have halike := (alike_answer (s := s) hheeds hsource).play moves
    exact halike.result rfl (halike.waiting trivial)
  ports_apart network port network' port' hnetwork hport := by
    have hkey : network ++ "/" ++ port = network' ++ "/" ++ port' ↔
        network = network' ∧ port = port' := portKey_inj hnetwork hport
    constructor
    · rw [← hkey]
      simp [Request.source?]
    · intro answers
      simp only [← hkey]
      rfl
  lasting _ moves _ hsome := prepared_play_ne_nil hsome moves
  recorded _ moves := calls_play moves

/-- Two batches for one volume and a look at another one in between. -/
example :
    let session : List Move :=
      [.prepare (.volumes "vol-1" [.ok { id := "vol-1", state := some "creating" }]),
        .prepare (.volumes "vol-1" [.ok { id := "vol-1", state := some "available" }]),
        .ask (.getVolume "vol-1"), .ask (.getVolume "vol-2"), .ask (.getVolume "vol-1")]
    ((({} : Sandbox).play session).answer (.getVolume "vol-1")).1 =
      .ok { id := "vol-1", state := some "available" } :=
  rfl

end Sandbox

end Settle.Cloud
