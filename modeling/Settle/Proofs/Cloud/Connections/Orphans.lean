/-
Connections that are created and cannot be named.

`create_cloud_connection` makes the name of a new connection from the answer to its
request. Its first part is known before, and yet it is looked at only then: in a workspace
whose cloud instance cannot be part of a name the service is asked all the same, and if it
does what it is asked for there is a connection whose name nobody is told. Changing,
reading and deleting take a name apart before they ask for anything.

The request comes first and is made unless the caller has cancelled (`Strands.asked`);
the error is about the name exactly if the service has made the connection
(`Strands.malformed_iff`).
-/
import Settle.Proofs.Cloud.Connections.Addressing
import Settle.Proofs.Cloud.Connections.Naming
import Settle.Proofs.Elapsed
import Settle.Proofs.Resize.Attribution

set_option autoImplicit false

namespace Settle.Cloud.Workspace

/-! ## 1. Names that cannot be made -/

/-- What is wrong with a cloud instance that cannot be part of a name. -/
def instanceDefect (cloudInstance : String) : Identifier.Defect :=
  if cloudInstance = "" then .emptySegment 0 else .separatorInside 0 cloudInstance

/-- It is found before anything is said about the connection. -/
theorem createdName_of_illegal {ws : Workspace} (h : ¬ Identifier.LegalSegment ws.cloudInstance)
    (response : ConnectionResponse) :
    ws.createdName response = .error (.unsettled (instanceDefect ws.cloudInstance).error) := by
  have hdefect : Identifier.defect? [ws.cloudInstance, response.connection] =
      some (instanceDefect ws.cloudInstance) := by
    have hcount : Identifier.LegalCount [ws.cloudInstance, response.connection].length :=
      (by decide : Identifier.LegalCount 2)
    unfold Identifier.defect? Identifier.segmentDefect? instanceDefect
    rw [if_pos hcount]
    by_cases hempty : ws.cloudInstance = ""
    · rw [if_pos hempty, if_pos hempty]
    · have hinside : Identifier.separator ∈ ws.cloudInstance.toList := by
        by_contra houtside
        exact h ⟨hempty, houtside⟩
      rw [if_neg hempty, if_neg hempty, if_pos hinside]
  unfold createdName
  rw [Identifier.ofSegments_eq_error hdefect]
  rfl

/-! ## 2. Changes that stop after the request -/

section Submit

variable {σ : Type} {R : Remote interface σ}
  {q : Query interface (Except ApiFailure ConnectionResponse)} {ws : Workspace}
  {operation : Operation} {name : ConnectionResponse → Except OperationError Identifier}
  {timeout : Option Nat} {w w' : World interface σ}

/-- Requests that come to nothing end the change, -/
theorem runIn_submit_of_error {cause : Error}
    (h : (ws.config.retry.call ws.heeds R q).run.runIn w = (some (.error cause), w')) :
    (ws.submit R q operation name timeout).run.runIn w =
      (some (.error (.unsettled cause)), w') := by
  have hsettling : (settling (ws.config.retry.call ws.heeds R q)).run.runIn w =
      (some (.error (.unsettled cause)), w') := Act.runIn_map_of_some h _
  exact Task.runIn_bind_of_error hsettling _

/-- and so does an answer that gives no name. -/
theorem runIn_submit_of_nameless {response : ConnectionResponse} {e : OperationError}
    (h : (ws.config.retry.call ws.heeds R q).run.runIn w = (some (.ok response), w'))
    (hname : name response = .error e) :
    (ws.submit R q operation name timeout).run.runIn w = (some (.error e), w') := by
  have hsettling : (settling (ws.config.retry.call ws.heeds R q)).run.runIn w =
      (some (.ok response), w') := Act.runIn_map_of_some h _
  unfold submit
  rw [Task.runIn_bind_of_ok hsettling, hname]
  rfl

end Submit

/-! ## 3. Creating without a name -/

section Creation

variable {σ : Type}

/-- How a creation ends that makes these requests and has no name for what it creates. -/
structure Strands (ws : Workspace) (spec : ConnectionSpec) (w w' : World interface σ)
    (requests : List (query (.createConnection spec)).Call) (e : OperationError) : Prop where
  /-- It asks for the connection and for nothing else, -/
  requested : w.Leads (requests.map Query.Call.exchange) w'
  tries : Tries ws.config.retry.maxAttempts requests
  /-- and not at all only if a token that counts has fired before. -/
  asked : requests = [] ↔ ws.heeds = true ∧ w.token.fired = true
  /-- That the name is malformed is said exactly if there is a connection now, -/
  malformed_iff : (∃ detail, e = .unsettled (.structural detail)) ↔
    ∃ response, EndsWith requests (.ok response)
  malformed : (∃ response, EndsWith requests (.ok response)) →
    e = .unsettled (instanceDefect ws.cloudInstance).error
  /-- and otherwise the error is that of the requests. -/
  failed : (∀ response, ¬ EndsWith requests (.ok response)) →
    ∃ cause, e = .unsettled cause ∧ Retry.Fails ws.heeds requests w' cause

section Ways

variable {ws : Workspace} {spec : ConnectionSpec} {w w' : World interface σ}
  {requests : List (query (.createConnection spec)).Call}
  (hlead : w.Leads (requests.map Query.Call.exchange) w')
  (htries : Tries ws.config.retry.maxAttempts requests)
  (hasked : requests = [] ↔ ws.heeds = true ∧ w.token.fired = true)

include hlead htries hasked

/-- The service has created the connection. -/
theorem Strands.of_answered {response : ConnectionResponse}
    (hends : EndsWith requests (.ok response)) :
    Strands ws spec w w' requests (.unsettled (instanceDefect ws.cloudInstance).error) where
  requested := hlead
  tries := htries
  asked := hasked
  malformed_iff := iff_of_true ⟨_, rfl⟩ ⟨response, hends⟩
  malformed _ := rfl
  failed hnot := absurd hends (hnot response)

/-- The requests have come to nothing, and so has the connection. -/
theorem Strands.of_failed {cause : Error} (hnot : ∀ response, ¬ EndsWith requests (.ok response))
    (hfails : Retry.Fails ws.heeds requests w' cause) :
    Strands ws spec w w' requests (.unsettled cause) where
  requested := hlead
  tries := htries
  asked := hasked
  malformed_iff := by
    constructor
    · rintro ⟨detail, hstructural⟩
      cases hstructural
      exact absurd rfl (hfails.plain.not_structural detail)
    · rintro ⟨response, hends⟩
      exact absurd hends (hnot response)
  malformed := by
    rintro ⟨response, hends⟩
    exact absurd hends (hnot response)
  failed _ := ⟨cause, rfl, hfails⟩

end Ways

theorem createConnection_strands (ws : Workspace) (R : Remote interface σ)
    (hillegal : ¬ Identifier.LegalSegment ws.cloudInstance) (spec : ConnectionSpec)
    (timeout : Option Nat) (w : World interface σ) :
    ∃ e w' requests, (ws.createConnection R spec timeout).run.runIn w = (some (.error e), w') ∧
      Strands ws spec w w' requests e := by
  obtain ⟨result, w₁, _, _, hcall, -, -, -⟩ :=
    ws.config.retry.call_takes ws.heeds (R := R) (q := query (.createConnection spec)) w
  obtain ⟨_, hlead, requests, rfl, htries, hlast⟩ :=
    ws.config.retry.call_ends ws.heeds (R := R) (q := query (.createConnection spec)) w
  have hasked := ws.config.retry.call_unasked_iff hlead
  rw [hcall] at hlead hlast
  rw [createConnection_eq]
  cases result with
  | error cause =>
    have hnot (response : ConnectionResponse) : ¬ EndsWith requests (.ok response) := by
      intro hends
      cases (hlast response).2 hends
    obtain ⟨calls, hlead', -, hfails⟩ := Retry.call_fails _ hcall
    rw [← hlead.calls_unique hlead'] at hfails
    exact ⟨_, w₁, requests, runIn_submit_of_error hcall,
      .of_failed hlead htries hasked hnot hfails⟩
  | ok response =>
    -- The name is made from the answer, and only now is the cloud instance looked at.
    have hname := createdName_of_illegal hillegal response
    exact ⟨_, w₁, requests, runIn_submit_of_nameless hcall hname,
      .of_answered hlead htries hasked ((hlast response).1 rfl)⟩

/-- **Creating a connection in a workspace whose cloud instance cannot be part of a name always
fails, but the connection is asked for first, and the name is found to be malformed only when the
service has created it. Under a malformed token nothing is asked.** -/
theorem createConnection_orphans (ws : Workspace) (R : Remote interface σ)
    (hillegal : ¬ Identifier.LegalSegment ws.cloudInstance) :
    (∀ (spec : ConnectionSpec) (timeout : Option Nat) (w : World interface σ), ∃ e w' requests,
      (ws.createConnection R spec timeout).run.runIn w = (some (.error e), w') ∧
        Strands ws spec w w' requests e) ∧
      ∀ token, (∀ scope connection, ¬ TwoParts token scope connection) →
        ∃ detail, TurnsAway σ token (.unsettled (.structural detail)) := by
  refine ⟨createConnection_strands ws R hillegal, fun token h => ?_⟩
  obtain ⟨detail, hmalformed⟩ := parseConnection_of_malformed h
  exact ⟨detail, turnsAway hmalformed⟩

/-! ## 4. A connection without a name -/

/-- A workspace whose cloud instance cannot be part of a name. -/
def nameless : Workspace := { cloudInstance := "cloud/1" }

/-- A connection to be created. -/
def wanted : ConnectionSpec := { name := "link", speed := 50 }

theorem createConnection_orphans_nameless :
    ¬ Identifier.LegalSegment nameless.cloudInstance ∧
      ∃ e w' requests, (nameless.createConnection Sandbox.remote wanted none).run.runIn
          { remote := {} } = (some (.error e), w') ∧
        Strands nameless wanted { remote := {} } w' requests e := by
  have hillegal : ¬ Identifier.LegalSegment nameless.cloudInstance := by decide
  have horphans := createConnection_orphans nameless Sandbox.remote hillegal
  exact ⟨hillegal, horphans.1 wanted none { remote := {} }⟩

/-- So it is not true that without a legal name nothing is created. -/
theorem not_createConnection_refused :
    ¬ ∀ (ws : Workspace) (w : World interface Sandbox) (spec : ConnectionSpec),
      ¬ Identifier.LegalSegment ws.cloudInstance →
        ∃ detail w', (ws.createConnection Sandbox.remote spec none).run.runIn w =
            (some (.error (.unsettled (.structural detail))), w') ∧
          ∀ calls, w'.trace.toList = w.trace.toList ++ calls →
            ∀ e ∈ calls, e.request ≠ .createConnection spec := by
  intro h
  obtain ⟨detail, w', hrun, hnone⟩ := h nameless { remote := {} } wanted (by decide)
  -- The one exchange is the request, and it is answered with a connection.
  have htrace : ((nameless.createConnection Sandbox.remote wanted none).run.runIn
      { remote := {} }).2.trace.toList =
        [⟨0, .createConnection wanted,
          { response := .ok (.done { id := "cc-link", name := "link", speed := 50 }) }⟩] := rfl
  rw [hrun] at htrace
  exact hnone _ htrace _ List.mem_cons_self rfl

end Creation

end Settle.Cloud.Workspace
