/-
Good tokens and malformed ones.

A token is taken apart before anything is asked for. If it does not consist of exactly
two parts, neither of them empty, the operation is over: the name is malformed, which
says nothing about the connection, and nobody is asked about it. If it does, the second
part is the connection that the operation asks about, and nothing else is asked about.

`TwoParts` says which tokens are good, in the words of splitting a text; that reading a
token comes to the same is section 1. What a malformed token ends is section 2, and what
is asked under a good one has been said before.
-/
import Mathlib.Data.List.Basic
import Settle.Proofs.Cloud.Connections.Requests
import Settle.Proofs.Identifier

set_option autoImplicit false

namespace Settle.Cloud

/-! ## 1. Good tokens -/

/-- A token consists of two parts, and neither is empty. -/
structure TwoParts (token scope connection : String) : Prop where
  pieces_eq : Identifier.pieces token = [scope, connection]
  scope_ne : scope ≠ ""
  connection_ne : connection ≠ ""

/-- A token of two parts is decoded into them. -/
theorem TwoParts.decode_eq {token scope connection : String}
    (h : TwoParts token scope connection) :
    Identifier.decode token Workspace.connectionSegments = .ok [scope, connection] := by
  rw [Identifier.decode_eq_ok_iff, h.pieces_eq]
  refine ⟨by decide, rfl, ?_, rfl⟩
  intro s hs
  simp only [List.mem_cons, List.not_mem_nil, or_false] at hs
  rcases hs with rfl | rfl
  · exact h.scope_ne
  · exact h.connection_ne

namespace Workspace

section Tokens

variable {token scope connection : String}

/-- It names its second part, -/
theorem parseConnection_of_twoParts (h : TwoParts token scope connection) :
    ∃ id, parseConnection token = .ok id ∧ id.leaf = connection := by
  have hlegal := Identifier.legal_of_decode_eq_ok h.decode_eq
  have hparse : Identifier.parse token connectionSegments = .ok ⟨[scope, connection], hlegal⟩ :=
    Identifier.parse_eq_ok h.decode_eq
  refine ⟨⟨[scope, connection], hlegal⟩, ?_, Identifier.leaf_of_segments rfl⟩
  unfold parseConnection
  rw [hparse]
  rfl

/-- and any other token is malformed. -/
theorem parseConnection_of_malformed (h : ∀ scope connection, ¬ TwoParts token scope connection) :
    ∃ detail, parseConnection token = .error (.unsettled (.structural detail)) := by
  cases hdecode : Identifier.decode token connectionSegments with
  | error d =>
    refine ⟨d.message, ?_⟩
    unfold parseConnection
    rw [Identifier.parse_eq_error hdecode]
    rfl
  | ok segments =>
    -- What was decoded has two parts, as many as were expected, and none is empty.
    obtain ⟨-, hlength, hfull, -⟩ := Identifier.decode_eq_ok_iff.1 hdecode
    obtain ⟨first, second, hpieces⟩ := List.length_eq_two.1 hlength
    rw [hpieces] at hfull
    exact absurd ⟨hpieces, hfull first (by simp), hfull second (by simp)⟩ (h first second)

end Tokens

/-! ## 2. Malformed tokens -/

section Refusals

variable {σ α : Type}

/-- Wherever the operation begins, it is over there with this error, and nothing has happened. -/
def Refuses (op : Operate σ α) (e : OperationError) : Prop :=
  ∀ w : World interface σ, op.run.runIn w = (some (.error e), w)

/-- Whatever is to be done under the token, it is over at once with this error. -/
structure TurnsAway (σ : Type) (token : String) (e : OperationError) : Prop where
  updates : ∀ (ws : Workspace) (R : Remote interface σ) (update : ConnectionUpdate)
    (timeout : Option Nat), Refuses (ws.updateConnection R token update timeout) e
  reads : ∀ R : Remote interface σ, Refuses (readConnection R token) e
  deletes : ∀ (ws : Workspace) (R : Remote interface σ) (timeout : Option Nat),
    Refuses (ws.deleteConnection R token timeout) e

/-- The token is taken apart first. -/
theorem turnsAway {token : String} {e : OperationError} (h : parseConnection token = .error e) :
    TurnsAway σ token e where
  updates ws R update timeout w := by
    unfold updateConnection
    rw [h]
    rfl
  reads R w := by
    unfold readConnection
    rw [h]
    rfl
  deletes ws R timeout w := by
    unfold deleteConnection
    rw [h]
    rfl

end Refusals

end Workspace

/-! ## 3. All tokens -/

/-- What can be relied on when an operation is given the token of a connection. -/
structure ConnectionsAddressed (σ : Type) : Prop where
  /-- A token that is not made of two full parts is malformed, and nothing is asked under it. -/
  malformed : ∀ token, (∀ scope connection, ¬ TwoParts token scope connection) →
    ∃ detail, Workspace.TurnsAway σ token (.unsettled (.structural detail))
  /-- Under any other token all that is asked is about its second part, or about jobs. -/
  updates : ∀ token scope connection, TwoParts token scope connection →
    ∀ (ws : Workspace) (R : Remote interface σ) (update : ConnectionUpdate) (timeout : Option Nat),
      Task.Asks (ws.updateConnection R token update timeout)
        fun q => q = .updateConnection connection update ∨ ∃ job, q = .getJob job
  /-- A connection is said to be gone exactly if the one lookup says so. -/
  reads : ∀ token scope connection, TwoParts token scope connection →
    ∀ R : Remote interface σ, Task.Ends (Workspace.readConnection R token) fun calls o =>
      ∃ lookup : (query (.getConnection connection)).Call, calls = [lookup.exchange] ∧
        (∀ found, o = some (.ok (some found)) ↔ lookup.result = .ok found) ∧
        (o = some (.ok none) ↔
          ∃ e, lookup.result = .error e ∧ RemoteFailure.classify e = .absent)
  /-- Its deletion is asked for at most once, and only after it has been found. -/
  deletes : ∀ token scope connection, TwoParts token scope connection →
    ∀ (ws : Workspace) (R : Remote interface σ) (timeout : Option Nat),
      Task.Ends (ws.deleteConnection R token timeout)
        fun calls _ => Workspace.DeletionCalls connection calls

/-- **Under a malformed token nothing is asked, and under any other one nothing but what is about
the connection it names.** -/
theorem connections_addressed (σ : Type) : ConnectionsAddressed σ where
  malformed token h := by
    obtain ⟨detail, hmalformed⟩ := Workspace.parseConnection_of_malformed h
    exact ⟨detail, Workspace.turnsAway hmalformed⟩
  updates token scope connection h ws R update timeout := by
    obtain ⟨id, hid, rfl⟩ := Workspace.parseConnection_of_twoParts h
    exact Workspace.updateConnection_asks hid ws update timeout
  reads token scope connection h R := by
    obtain ⟨id, hid, rfl⟩ := Workspace.parseConnection_of_twoParts h
    refine (Workspace.readConnection_ends hid).mono ?_
    rintro _ _ ⟨lookup, rfl, rfl⟩
    refine ⟨lookup, rfl, fun found => ?_, ?_⟩
    · rw [Option.some.injEq]
      exact Workspace.readOff_eq_some_iff
    · rw [Option.some.injEq]
      exact Workspace.readOff_eq_none_iff
  deletes token scope connection h ws R timeout := by
    obtain ⟨id, hid, rfl⟩ := Workspace.parseConnection_of_twoParts h
    exact Workspace.deleteConnection_ends hid ws timeout

/-- A separator at the end leaves a second part that is empty. -/
example : Workspace.parseConnection "cloud-1/" =
    .error (.unsettled (Identifier.Defect.emptyPart "cloud-1/" 1).error) := rfl

end Settle.Cloud
