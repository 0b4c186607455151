/-
The names of connections.

Creating and changing a connection are one and the same thing up to the request and
the name: the request is repeated, the answer gives the name, and the job is waited for
if there is one. `Workspace.submit` is that, and `Changes` says what comes of it: that
there is a request unless the caller has cancelled before, which calls are made, and that
there is a name in the end exactly if the last request succeeded, the parts of the name
are legal, and the job is complete.

The name of a new connection leads back to it: whatever is asked about connections
under the token of the name is asked about that one.
-/
import Settle.Proofs.Attempt
import Settle.Proofs.Cloud.Connections.Requests
import Settle.Proofs.Identifier

set_option autoImplicit false

namespace Settle

variable {σ α : Type}

namespace Cloud

/-! ## 1. A change to a connection -/

/-- The identifier names a connection of the cloud instance, and both names are legal. -/
structure Names (cloudInstance connection : String) (id : Identifier) : Prop where
  scope : Identifier.LegalSegment cloudInstance
  own : Identifier.LegalSegment connection
  segments_eq : id.segments = [cloudInstance, connection]

namespace Workspace

variable {R : Remote interface σ} {q : Query interface (Except ApiFailure ConnectionResponse)}
  {ws : Workspace} {timeout : Option Nat} {w : World interface σ}

/-- Repeats a request, names the connection by the answer, and waits for the job. -/
def submit (ws : Workspace) (R : Remote interface σ)
    (q : Query interface (Except ApiFailure ConnectionResponse)) (operation : Operation)
    (name : ConnectionResponse → Except OperationError Identifier) (timeout : Option Nat) :
    Operate σ Identifier := do
  let response ← settling (ws.config.retry.call ws.heeds R q)
  let id ← name response
  ws.follow R (response.handle operation) timeout
  return id

/-- The name of a connection that has been created. -/
def createdName (ws : Workspace) (response : ConnectionResponse) :
    Except OperationError Identifier :=
  (Identifier.ofSegments [ws.cloudInstance, response.connection]).mapError (.unsettled ·.error)

theorem createConnection_eq (spec : ConnectionSpec) :
    ws.createConnection R spec timeout =
      ws.submit R (query (.createConnection spec)) .create ws.createdName timeout := rfl

theorem updateConnection_eq {token : String} {id : Identifier}
    (hid : parseConnection token = .ok id) (update : ConnectionUpdate) :
    ws.updateConnection R token update timeout =
      ws.submit R (query (.updateConnection id.leaf update)) .update (fun _ => .ok id) timeout := by
  unfold updateConnection
  rw [hid, Task.lift_ok_bind]
  rfl

theorem createdName_eq_ok_iff {response : ConnectionResponse} {id : Identifier} :
    ws.createdName response = .ok id ↔ Names ws.cloudInstance response.connection id := by
  have hlegal : Identifier.Legal [ws.cloudInstance, response.connection] ↔
      Identifier.LegalSegment ws.cloudInstance ∧ Identifier.LegalSegment response.connection := by
    have hcount : Identifier.LegalCount 2 := by decide
    unfold Identifier.Legal
    simp [hcount]
  have hid : ws.createdName response = .ok id ↔
      Identifier.ofSegments [ws.cloudInstance, response.connection] = .ok id := by
    unfold createdName
    cases Identifier.ofSegments [ws.cloudInstance, response.connection] <;> simp [Except.mapError]
  rw [hid, Identifier.ofSegments_eq_ok_iff, hlegal]
  constructor
  · rintro ⟨⟨hscope, hown⟩, hsegments⟩
    exact ⟨hscope, hown, hsegments⟩
  · rintro ⟨hscope, hown, hsegments⟩
    exact ⟨⟨hscope, hown⟩, hsegments⟩

/-- The wait for the job ends with its completion. -/
def Completes (ws : Workspace) (R : Remote interface σ) (job : String) (timeout : Option Nat)
    (w : World interface σ) : Prop :=
  ∃ w', (ws.awaitJob R job timeout).runIn w = (some (.converged "completed"), w')

/-- The world when the requests of a change have been made. -/
def afterRequests (ws : Workspace) (R : Remote interface σ)
    (q : Query interface (Except ApiFailure ConnectionResponse)) (w : World interface σ) :
    World interface σ :=
  ((ws.config.retry.call ws.heeds R q).run.runIn w).2

/-- The calls of a change: first its requests, each but the last of which failed for a passing
reason, and then looks at the job that the last one was answered with, if it was. -/
structure ChangeCalls (limit : Nat) (named : ConnectionResponse → Prop) (requests : List q.Call)
    (looks : List (Exchange interface)) : Prop where
  tries : Tries limit requests
  one_job : looks ≠ [] → ∃ response job, ∃ seen : List (query (.getJob job)).Call,
    EndsWith requests (.ok response) ∧ named response ∧ response.job? = some job ∧
      looks = seen.map Query.Call.exchange

/-- What comes of an operation that is to change a connection with a request and to name it. -/
structure Changes (ws : Workspace) (R : Remote interface σ)
    (q : Query interface (Except ApiFailure ConnectionResponse))
    (names : ConnectionResponse → Identifier → Prop) (timeout : Option Nat)
    (op : Operate σ Identifier) (w : World interface σ) (requests : List q.Call)
    (looks : List (Exchange interface)) : Prop where
  requested : (ws.afterRequests R q w).trace.toList =
    w.trace.toList ++ requests.map Query.Call.exchange
  /-- There is a request unless the caller has cancelled before. -/
  asked : requests = [] ↔ ws.heeds = true ∧ w.token.fired = true
  followed : (op.run.runIn w).2.trace.toList =
    w.trace.toList ++ requests.map Query.Call.exchange ++ looks
  calls : ChangeCalls ws.config.retry.maxAttempts (∃ id, names · id) requests looks
  /-- There is a name in the end exactly if the last request succeeded, its answer gives the name,
  and the job, if it has one, completes. -/
  ok_iff : ∀ id, (op.run.runIn w).1 = some (.ok id) ↔
    ∃ response, EndsWith requests (.ok response) ∧ names response id ∧
      ∀ job, response.job? = some job → ws.Completes R job timeout (ws.afterRequests R q w)
  /-- By then the last look has shown that the job is complete. -/
  seen_complete : ∀ id response job, (op.run.runIn w).1 = some (.ok id) →
    EndsWith requests (.ok response) → response.job? = some job →
      ∃ seen : List (query (.getJob job)).Call, ∃ report, looks = seen.map Query.Call.exchange ∧
        EndsWith seen (.ok report) ∧ report.IsComplete

/-! ## 2. How it goes -/

/-- What goes on as a job ends as the wait for it does, or never if that never ends. -/
theorem runIn_follow_pure {handle : Handle} {job : String} (hjob : handle.job = some job)
    (value : α) (w : World interface σ) :
    (ws.follow R handle timeout >>= fun _ => (pure value : Operate σ α)).run.runIn w =
      (((ws.awaitJob R job timeout).runIn w).1.map fun outcome =>
        (outcome.result.map fun _ => value).mapError .unsettled,
        ((ws.awaitJob R job timeout).runIn w).2) := by
  cases hwait : (ws.awaitJob R job timeout).runIn w with
  | mk outcome w' =>
    cases outcome with
    | some outcome => exact (EndsAsJob.of_follow handle hjob rfl).ends outcome w' hwait
    | none =>
      have hnone : (ws.waitJob R job timeout).run.runIn w = (none, w') :=
        Act.runIn_map_of_none (Act.runIn_map_of_none hwait _) _
      unfold follow
      rw [hjob, Task.discard_bind_eq]
      exact Task.runIn_bind_of_none hnone _

/-- It gives its value exactly if the job completes. -/
theorem follow_pure_eq_ok_iff {handle : Handle} {job : String} (hjob : handle.job = some job)
    {value value' : α} {w : World interface σ} :
    ((ws.follow R handle timeout >>= fun _ => (pure value : Operate σ α)).run.runIn w).1 =
      some (.ok value') ↔ ws.Completes R job timeout w ∧ value' = value := by
  rw [runIn_follow_pure hjob]
  unfold Completes
  cases hwait : (ws.awaitJob R job timeout).runIn w with
  | mk outcome w' =>
    constructor
    · intro h
      obtain ⟨result, rfl, hresult⟩ := Option.map_eq_some_iff.1 h
      cases result with
      | converged status =>
        cases JobWait.eq_completed_of_converged hwait
        cases hresult
        exact ⟨⟨w', rfl⟩, rfl⟩
      | failed reason fault kind => cases kind <;> cases hresult
      | timedOut cause => cases hresult
    · rintro ⟨⟨w'', hconverged⟩, rfl⟩
      cases hconverged
      rfl

section Submit

variable {operation : Operation} {names : ConnectionResponse → Identifier → Prop}
  {op : Operate σ Identifier} {requests : List q.Call}

/-- A change that is over with its requests. -/
theorem Changes.of_stopped {result : Option (Except OperationError Identifier)}
    (hrun : op.run.runIn w = (result, ws.afterRequests R q w))
    (hlead : w.Leads (requests.map Query.Call.exchange) (ws.afterRequests R q w))
    (htries : Tries ws.config.retry.maxAttempts requests)
    (hok : ∀ id, result = some (.ok id) ↔
      ∃ response, EndsWith requests (.ok response) ∧ names response id)
    (hjobless : ∀ response id, EndsWith requests (.ok response) → names response id →
      response.job? = none) :
    Changes ws R q names timeout op w requests [] where
  requested := hlead.trace_eq
  asked := ws.config.retry.call_unasked_iff hlead
  followed := by
    rw [hrun, List.append_nil]
    exact hlead.trace_eq
  calls := ⟨htries, fun h => absurd rfl h⟩
  ok_iff id := by
    rw [hrun, hok]
    constructor
    · rintro ⟨response, hends, hnames⟩
      refine ⟨response, hends, hnames, fun job hjob => ?_⟩
      rw [hjobless response id hends hnames] at hjob
      cases hjob
    · rintro ⟨response, hends, hnames, -⟩
      exact ⟨response, hends, hnames⟩
  seen_complete id response job hresult hends hjob := by
    rw [hrun] at hresult
    obtain ⟨response', hends', hnames⟩ := (hok id).1 hresult
    cases hends.unique hends'
    rw [hjobless response id hends hnames] at hjob
    cases hjob

/-- One that is over because there is no answer, or no name in it. -/
theorem Changes.of_nameless {result : Option (Except OperationError Identifier)}
    (hrun : op.run.runIn w = (result, ws.afterRequests R q w))
    (hlead : w.Leads (requests.map Query.Call.exchange) (ws.afterRequests R q w))
    (htries : Tries ws.config.retry.maxAttempts requests) (hresult : ∀ id, result ≠ some (.ok id))
    (hnot : ∀ response id, EndsWith requests (.ok response) → ¬ names response id) :
    Changes ws R q names timeout op w requests [] := by
  refine .of_stopped hrun hlead htries (fun id => ?_) fun response id hends hnames => ?_
  · constructor
    · intro hok
      exact absurd hok (hresult id)
    · rintro ⟨response, hends, hnames⟩
      exact absurd hnames (hnot response id hends)
  · exact absurd hnames (hnot response id hends)

/-- A change that goes on as a job. -/
theorem Changes.of_job {response : ConnectionResponse} {id : Identifier} {job : String}
    (hlead : w.Leads (requests.map Query.Call.exchange) (ws.afterRequests R q w))
    (htries : Tries ws.config.retry.maxAttempts requests)
    (hends : EndsWith requests (.ok response)) (hnames : ∀ id', names response id' ↔ id' = id)
    (hjob : response.job? = some job)
    (hrun : op.run.runIn w =
      ((ws.follow R (response.handle operation) timeout) >>= fun _ =>
        (pure id : Operate σ Identifier)).run.runIn (ws.afterRequests R q w)) :
    ∃ looks, Changes ws R q names timeout op w requests looks := by
  obtain ⟨_, hlooked, seen, rfl, -, hjudged⟩ :=
    ws.jobWait.run_spec R (query (.getJob job)) (ws.config.timeout timeout)
      (ws.afterRequests R q w)
  have hrun' := hrun.trans (runIn_follow_pure hjob id (ws.afterRequests R q w))
  -- Nothing but the name of this answer can come of it, and only with the job.
  have hcompleted : ∀ id', (op.run.runIn w).1 = some (.ok id') ↔
      ws.Completes R job timeout (ws.afterRequests R q w) ∧ id' = id := fun id' => by
    rw [hrun]
    exact follow_pure_eq_ok_iff hjob
  refine ⟨seen.map Query.Call.exchange, hlead.trace_eq, ws.config.retry.call_unasked_iff hlead, ?_,
    ⟨htries, fun _ => ?_⟩, fun id' => ?_, ?_⟩
  · rw [hrun', ← hlead.trace_eq]
    exact hlooked.trace_eq
  · exact ⟨response, job, seen, hends, ⟨id, (hnames id).2 rfl⟩, hjob, rfl⟩
  · rw [hcompleted]
    constructor
    · rintro ⟨hcomplete, rfl⟩
      refine ⟨response, hends, (hnames id').2 rfl, fun job' hjob' => ?_⟩
      rw [hjob, Option.some.injEq] at hjob'
      rw [← hjob']
      exact hcomplete
    · rintro ⟨response', hends', hnames', hcomplete⟩
      cases hends.unique hends'
      exact ⟨hcomplete job hjob, (hnames id').1 hnames'⟩
  · intro id' response' job' hresult hends' hjob'
    cases hends.unique hends'
    rw [hjob, Option.some.injEq] at hjob'
    subst hjob'
    obtain ⟨⟨w', hconverged⟩, -⟩ := (hcompleted id').1 hresult
    cases hjudged _ (congrArg Prod.fst hconverged) with
    | settled hseen hsettles =>
      cases hsettles with
      | completed message => exact ⟨seen, _, rfl, hseen, rfl⟩

/-- **A change makes the requests of a retry and then looks at one job, and it gives a name exactly
if the last request succeeded, its answer gives the name, and the job completes.** -/
theorem submit_changes (operation : Operation)
    (name : ConnectionResponse → Except OperationError Identifier) (w : World interface σ) :
    ∃ requests looks, Changes ws R q (fun response id => name response = .ok id) timeout
      (ws.submit R q operation name timeout) w requests looks := by
  obtain ⟨_, hlead, requests, rfl, htries, hlast⟩ :=
    ws.config.retry.call_ends ws.heeds (R := R) (q := q) w
  refine ⟨requests, ?_⟩
  cases hrequest : (ws.config.retry.call ws.heeds R q).run.runIn w with
  | mk result w₁ =>
    rw [hrequest] at hlast
    have hw₁ : ws.afterRequests R q w = w₁ := congrArg Prod.snd hrequest
    have hbegun : (settling (ws.config.retry.call ws.heeds R q)).run.runIn w =
        (result.map (Except.mapError OperationError.unsettled), ws.afterRequests R q w) := by
      rw [hw₁]
      refine (Act.runIn_map _ _ _).trans ?_
      exact congrArg (fun run => (run.1.map (Except.mapError OperationError.unsettled), run.2))
        hrequest
    rcases result with _ | e | response
    · refine ⟨[], .of_nameless (Task.runIn_bind_of_none hbegun _) hlead htries nofun ?_⟩
      intro response id hends
      cases (hlast response).2 hends
    · refine ⟨[], .of_nameless (Task.runIn_bind_of_error hbegun _) hlead htries nofun ?_⟩
      intro response id hends
      cases (hlast response).2 hends
    · have hends : EndsWith requests (.ok response) := (hlast response).1 rfl
      have hrun := Task.runIn_bind_of_ok hbegun fun response => do
        let id ← name response
        ws.follow R (response.handle operation) timeout
        return id
      cases hname : name response with
      | error e =>
        rw [hname] at hrun
        refine ⟨[], .of_nameless hrun hlead htries nofun ?_⟩
        intro response' id hends' hname'
        cases hends.unique hends'
        rw [hname] at hname'
        cases hname'
      | ok id =>
        rw [hname] at hrun
        have hnames (id' : Identifier) : name response = .ok id' ↔ id' = id := by
          rw [hname, Except.ok.injEq, eq_comm]
        cases hjob : response.job? with
        | some job => exact Changes.of_job hlead htries hends hnames hjob hrun
        | none =>
          have hdone : (response.handle operation).job = none := hjob
          have hfollow : ws.follow R (response.handle operation) timeout = pure () := by
            unfold follow
            rw [hdone]
          rw [Task.lift_ok_bind, hfollow, pure_bind] at hrun
          refine ⟨[], .of_stopped hrun hlead htries (fun id' => ?_) ?_⟩
          · constructor
            · rintro ⟨⟩
              exact ⟨response, hends, hname⟩
            · rintro ⟨response', hends', hname'⟩
              cases hends.unique hends'
              rw [(hnames id').1 hname']
          · intro response' _ hends' _
            cases hends.unique hends'
            exact hjob

end Submit

end Workspace

/-! ## 3. The way back -/

/-- The identifier leads to the connection: its token is read as it, its own part is the name of
the connection, and whatever is asked under the token about connections is asked about this one. -/
structure LeadsTo (τ : Type) (connection : String) (id : Identifier) : Prop where
  read : Workspace.parseConnection id.token = .ok id
  leaf_eq : id.leaf = connection
  updates : ∀ (ws : Workspace) (R : Remote interface τ) (update : ConnectionUpdate)
    (timeout : Option Nat), Task.Asks (ws.updateConnection R id.token update timeout)
      (Request.Concerns connection)
  reads : ∀ R : Remote interface τ,
    Task.Asks (Workspace.readConnection R id.token) (Request.Concerns connection)
  deletes : ∀ (ws : Workspace) (R : Remote interface τ) (timeout : Option Nat),
    Task.Asks (ws.deleteConnection R id.token timeout) (Request.Concerns connection)

theorem Names.leadsTo {τ : Type} {cloudInstance connection : String} {id : Identifier}
    (h : Names cloudInstance connection id) : LeadsTo τ connection id := by
  obtain rfl : id.leaf = connection := Identifier.leaf_of_segments h.segments_eq
  have hparse : Identifier.parse id.token 2 = .ok id := by
    have hback := id.parse_token
    rw [h.segments_eq] at hback
    exact hback
  have hread : Workspace.parseConnection id.token = .ok id := by
    unfold Workspace.parseConnection Workspace.connectionSegments
    rw [hparse]
    rfl
  exact
    { read := hread
      leaf_eq := rfl
      updates := fun ws _ update timeout =>
        Workspace.updateConnection_concerns hread ws update timeout
      reads := fun _ => Workspace.readConnection_concerns hread
      deletes := fun ws _ timeout => Workspace.deleteConnection_concerns hread ws timeout }

/-- What can be relied on when a connection is created or updated. -/
structure ConnectionsNamed (σ τ : Type) : Prop where
  created : ∀ (ws : Workspace) (R : Remote interface σ) (spec : ConnectionSpec)
    (timeout : Option Nat) (w : World interface σ), ∃ requests looks,
      ws.Changes R (query (.createConnection spec))
        (fun response => Names ws.cloudInstance response.connection) timeout
        (ws.createConnection R spec timeout) w requests looks
  leads_back : ∀ cloudInstance connection id, Names cloudInstance connection id →
    LeadsTo τ connection id
  /-- An update gives the name that it was given. -/
  updated : ∀ (ws : Workspace) (R : Remote interface σ) (token : String)
    (update : ConnectionUpdate) (timeout : Option Nat) (w : World interface σ) (id : Identifier),
    Workspace.parseConnection token = .ok id → ∃ requests looks,
      ws.Changes R (query (.updateConnection id.leaf update)) (fun _ named => named = id) timeout
        (ws.updateConnection R token update timeout) w requests looks
  /-- Under what is not a name nothing is asked. -/
  unnamed : ∀ (ws : Workspace) (R : Remote interface σ) (token : String)
    (update : ConnectionUpdate) (timeout : Option Nat) (w : World interface σ) (e : OperationError),
    Workspace.parseConnection token = .error e →
      (ws.updateConnection R token update timeout).run.runIn w = (some (.error e), w)

/-- **Creating and updating a connection succeed only when the work is done, and the name they give
leads back to the connection.** -/
theorem connections_named (σ τ : Type) : ConnectionsNamed σ τ where
  created ws R spec timeout w := by
    have hnames : (fun response id => ws.createdName response = .ok id) =
        fun response => Names ws.cloudInstance response.connection := by
      funext response id
      exact propext Workspace.createdName_eq_ok_iff
    rw [Workspace.createConnection_eq, ← hnames]
    exact Workspace.submit_changes .create ws.createdName w
  leads_back _ _ _ h := h.leadsTo
  updated ws R token update timeout w id hid := by
    have hnames : (fun (_ : ConnectionResponse) named =>
        (.ok id : Except OperationError Identifier) = .ok named) = fun _ named => named = id := by
      funext _ named
      rw [Except.ok.injEq]
      exact propext eq_comm
    rw [Workspace.updateConnection_eq hid, ← hnames]
    exact Workspace.submit_changes .update (fun _ => .ok id) w
  unnamed ws R token update timeout w e he := by
    unfold Workspace.updateConnection
    rw [he]
    rfl

/-- A connection that is created at once, and read under the name it was given. -/
example : ∃ id w', (({ cloudInstance := "cloud-1" } : Workspace).createConnection Sandbox.remote
    { name := "link", speed := 50 } none).run.runIn { remote := {} } = (some (.ok id), w') ∧
      id.token = "cloud-1/cc-link" := ⟨_, _, rfl, rfl⟩

end Cloud

end Settle
