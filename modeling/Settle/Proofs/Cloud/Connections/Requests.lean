/-
What is asked under the token of a connection.

A token that can be read leads to one connection, and the operation asks about that one
and about jobs: `Request.Concerns` says so in a word, and section 3 says what each
operation asks in detail. An update is repeated and its job followed; reading is one
lookup; a deletion looks first, and asks to delete only what it has found.
-/
import Settle.Proofs.Cloud.Jobs

set_option autoImplicit false

namespace Settle

variable {I : Interface} {σ ε α β : Type}

/-! ## 1. What a task asks for -/

/-- Wherever the task begins, all that it asks for is of this kind. -/
def Task.Asks (t : Task I σ ε α) (P : I.Request → Prop) : Prop :=
  Act.Yields t.run fun calls _ => ∀ e ∈ calls, P e.request

namespace Task.Asks

variable {t : Task I σ ε α} {f : α → Task I σ ε β} {P : I.Request → Prop}

theorem mono {P' : I.Request → Prop} (ht : Task.Asks t P) (h : ∀ q, P q → P' q) :
    Task.Asks t P' :=
  Act.Yields.mono ht fun _ _ hcalls e he => h e.request (hcalls e he)

theorem pure (x : α) : Task.Asks (Pure.pure x : Task I σ ε α) P :=
  Act.Yields.pure fun _ he => absurd he List.not_mem_nil

theorem bind (ht : Task.Asks t P) (hf : ∀ x, Task.Asks (f x) P) : Task.Asks (t >>= f) P := by
  refine Act.Yields.bind ht (fun _ h => h) fun calls result hcalls => ?_
  cases result with
  | error e =>
    refine Act.Yields.pure ?_
    rw [List.append_nil]
    exact hcalls
  | ok x =>
    refine Act.Yields.mono (hf x) fun later _ hlater e he => ?_
    rcases List.mem_append.1 he with he | he
    · exact hcalls e he
    · exact hlater e he

theorem adapt {ε' : Type} {g : ε → ε'} (ht : Task.Asks t P) : Task.Asks (ExceptT.adapt g t) P :=
  Act.Yields.map ht

/-- Calls of one query ask for one thing. -/
theorem of_calls {q : Query I α} {calls : List q.Call} (h : P q.request) :
    ∀ e ∈ calls.map Query.Call.exchange, P e.request := by
  intro e he
  obtain ⟨c, -, rfl⟩ := List.mem_map.1 he
  exact h

end Task.Asks

namespace Cloud

/-- What is asked about one connection, or about a job. -/
def Request.Concerns (connection : String) : Request → Prop
  | .getConnection id | .updateConnection id _ | .deleteConnection id => id = connection
  | .getJob _ => True
  | _ => False

namespace Workspace

variable {R : Remote interface σ} {ws : Workspace} {timeout : Option Nat}

/-! ## 2. What the parts of an operation ask for -/

section Asks

variable {P : Request → Prop}

theorem insist_asks {q : Request} (h : P q) : Task.Asks (ws.insist R q) P := by
  refine Act.Yields.mono (ws.insist_ends q) ?_
  rintro _ _ ⟨calls, rfl, -, -⟩
  exact Task.Asks.of_calls h

theorem follow_asks (h : ∀ job, P (.getJob job)) (handle : Handle) :
    Task.Asks (ws.follow R handle timeout) P := by
  unfold follow
  split
  · rename_i job _
    have hwait : Task.Asks (ws.waitJob R job timeout) P := by
      refine Task.Asks.adapt (Act.Yields.map ?_)
      refine (ws.jobWait.run_spec R (query (.getJob job)) (ws.config.timeout timeout)).mono ?_
      rintro _ _ ⟨looks, rfl, -, -⟩
      exact Task.Asks.of_calls (h job)
    exact hwait.bind fun _ => .pure ()
  · exact .pure ()

end Asks

/-! ## 3. What is asked under a token -/

section Answers

/-- What reading a connection makes of the answer to its lookup. -/
def readOff : Except ApiFailure Connection → Except OperationError (Option Connection)
  | .ok found => .ok (some found)
  | .error e => if RemoteFailure.classify e = .absent then .ok none else .error (failed e)

variable {answer : Except ApiFailure Connection}

theorem readOff_error (e : ApiFailure) :
    readOff (.error e) =
      if RemoteFailure.classify e = .absent then .ok none else .error (failed e) := rfl

theorem readOff_eq_some_iff {found : Connection} :
    readOff answer = .ok (some found) ↔ answer = .ok found := by
  cases answer with
  | ok other => simp [readOff]
  | error e =>
    rw [readOff_error]
    split <;> simp

theorem readOff_eq_none_iff :
    readOff answer = .ok none ↔ ∃ e, answer = .error e ∧ RemoteFailure.classify e = .absent := by
  cases answer with
  | ok found => simp [readOff]
  | error e =>
    rw [readOff_error]
    by_cases habsent : RemoteFailure.classify e = .absent
    · simp [habsent]
    · simp [habsent]

end Answers

section Token

/-- A deletion looks the connection up. If that succeeds it asks once for its deletion, and then for
nothing but jobs. -/
inductive DeletionCalls (connection : String) : List (Exchange interface) → Prop
  | unseen {lookup : (query (.getConnection connection)).Call} {e : ApiFailure}
    (h : lookup.result = .error e) : DeletionCalls connection [lookup.exchange]
  | seen {lookup : (query (.getConnection connection)).Call} {found : Connection}
    (h : lookup.result = .ok found) (request : (query (.deleteConnection connection)).Call)
    {jobs : List (Exchange interface)} (hjobs : ∀ e ∈ jobs, ∃ job, e.request = .getJob job) :
    DeletionCalls connection (lookup.exchange :: request.exchange :: jobs)

theorem DeletionCalls.concerns {connection : String} {calls : List (Exchange interface)}
    (h : DeletionCalls connection calls) : ∀ e ∈ calls, Request.Concerns connection e.request := by
  cases h with
  | unseen h =>
    intro e he
    rw [List.mem_singleton.1 he]
    exact rfl
  | seen h request hjobs =>
    intro e he
    rcases List.mem_cons.1 he with rfl | he
    · exact rfl
    · rcases List.mem_cons.1 he with rfl | he
      · exact rfl
      · obtain ⟨job, hjob⟩ := hjobs e he
        rw [hjob]
        trivial

variable {token : String} {id : Identifier} (hid : parseConnection token = .ok id)
include hid

theorem updateConnection_asks (ws : Workspace) (update : ConnectionUpdate) (timeout : Option Nat) :
    Task.Asks (ws.updateConnection R token update timeout)
      fun q => q = .updateConnection id.leaf update ∨ ∃ job, q = .getJob job := by
  unfold updateConnection
  rw [hid, Task.lift_ok_bind]
  refine Task.Asks.bind (insist_asks (.inl rfl)) fun response => ?_
  exact (follow_asks (fun job => .inr ⟨job, rfl⟩) _).bind fun _ => .pure id

/-- Reading a connection is looking it up. -/
theorem readConnection_eq :
    readConnection R token =
      (ask R (.getConnection id.leaf) >>= fun answer => liftM (readOff answer)) := by
  unfold readConnection
  rw [hid, Task.lift_ok_bind]
  refine congrArg _ (funext fun answer => ?_)
  cases answer with
  | ok found => rfl
  | error e =>
    unfold readOff
    dsimp only
    by_cases habsent : RemoteFailure.classify e = .absent
    · rw [if_pos habsent, if_pos habsent]
      rfl
    · rw [if_neg habsent, if_neg habsent]
      rfl

theorem readConnection_ends :
    Task.Ends (readConnection R token) fun calls o =>
      ∃ lookup : (query (.getConnection id.leaf)).Call, calls = [lookup.exchange] ∧
        o = some (readOff lookup.result) := by
  rw [readConnection_eq hid]
  refine .bind (ask_ends _) (fun _ ⟨_, _, h⟩ => nomatch h) (fun _ _ ⟨_, _, h⟩ => nomatch h) ?_
  rintro _ answer ⟨lookup, rfl, hanswer⟩
  obtain rfl : answer = lookup.result := Except.ok.inj (Option.some.inj hanswer)
  exact Act.Yields.pure ⟨lookup, rfl, rfl⟩

theorem deleteConnection_ends (ws : Workspace) (timeout : Option Nat) :
    Task.Ends (ws.deleteConnection R token timeout) fun calls _ =>
      DeletionCalls id.leaf calls := by
  unfold deleteConnection
  rw [hid, Task.lift_ok_bind]
  refine .bind (ask_ends _) (fun _ ⟨_, _, h⟩ => nomatch h) (fun _ _ ⟨_, _, h⟩ => nomatch h) ?_
  rintro _ answer ⟨lookup, rfl, hanswer⟩
  obtain rfl : answer = lookup.result := Except.ok.inj (Option.some.inj hanswer)
  cases hresult : lookup.result with
  | ok found =>
    -- The request is made, and whatever comes of it there are only jobs to ask for.
    refine .bind (demand_ends _) ?_ ?_ ?_
    · rintro _ ⟨request, rfl⟩
      exact .seen hresult request (by simp)
    · rintro _ _ ⟨request, rfl⟩
      exact .seen hresult request (by simp)
    · rintro _ job ⟨request, rfl⟩
      have hjobs : Task.Asks (ws.follow R { resource := id.leaf, job, operation := .delete }
          timeout) fun q => ∃ job, q = .getJob job := follow_asks (fun job => ⟨job, rfl⟩) _
      exact Act.Yields.mono hjobs fun _ _ h => .seen hresult request h
  | error e =>
    simp only
    by_cases habsent : RemoteFailure.classify e = .absent
    · rw [if_pos habsent]
      exact .pure (.unseen hresult)
    · rw [if_neg habsent]
      exact Act.Yields.pure (.unseen hresult)

/-! All of it concerns the connection that the token leads to. -/

theorem updateConnection_concerns (ws : Workspace) (update : ConnectionUpdate)
    (timeout : Option Nat) :
    Task.Asks (ws.updateConnection R token update timeout) (Request.Concerns id.leaf) := by
  refine (updateConnection_asks hid ws update timeout).mono ?_
  rintro _ (rfl | ⟨job, rfl⟩)
  · exact rfl
  · trivial

theorem readConnection_concerns :
    Task.Asks (readConnection R token) (Request.Concerns id.leaf) := by
  refine Act.Yields.mono (readConnection_ends hid) ?_
  rintro _ _ ⟨lookup, rfl, -⟩ e he
  rw [List.mem_singleton.1 he]
  exact rfl

theorem deleteConnection_concerns (ws : Workspace) (timeout : Option Nat) :
    Task.Asks (ws.deleteConnection R token timeout) (Request.Concerns id.leaf) :=
  Act.Yields.mono (deleteConnection_ends hid ws timeout) fun _ _ h => h.concerns

end Token

end Workspace

end Cloud

end Settle
