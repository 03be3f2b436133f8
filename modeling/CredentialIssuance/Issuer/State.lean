/-
The issuer's states, its state machine value and the queries on it
(`issuer/state_machine.rs`, lines 1–135 and 194–347).

The per-state data types and their `From` conversions live in `issuer/states/`, which is not
among the files at hand; they are modelled from the spec (§3, §4.3): each state keeps the
fields the queries and the handler read, and a finished state carries revocation info iff
a revocation registry id was given at offer time.

* `IssuerSM.getState`, `IssuerSM.credentialStatus`, `IssuerSM.getRevRegId`,
  `IssuerSM.isRevokable`, `IssuerSM.revoke` — the queries, as the source computes them;
* `revoke_reaches_backend_iff` — `revoke` reaches the backend exactly when the finished
  state's revocation info is complete.
-/
import CredentialIssuance.Effects

namespace CredentialIssuance

/-- Rust's `Option::ok_or`. -/
def okOr {α : Type} (o : Option α) (e : VcxError) : Except VcxError α :=
  match o with
  | some a => .ok a
  | none => .error e

@[simp] theorem okOr_some {α : Type} (a : α) (e : VcxError) : okOr (some a) e = .ok a := rfl

@[simp] theorem okOr_none {α : Type} (e : VcxError) : okOr (none : Option α) e = .error e := rfl

/-- `RevocationInfoV1`: all three fields are needed to revoke. -/
structure RevocationInfoV1 where
  credRevId : Option String
  revRegId : Option String
  tailsFile : Option String
  deriving DecidableEq, Repr

/-- Revocation info with all three fields present. -/
def RevocationInfoV1.Complete (i : RevocationInfoV1) : Prop :=
  i.credRevId.isSome ∧ i.revRegId.isSome ∧ i.tailsFile.isSome

/-- `Status`. Modelled from the spec (§6): the outcome a finished interaction records. -/
inductive Status
  | undefined
  | success
  | failed (pr : ProblemReport)
  deriving DecidableEq, Repr

/-- `Status::code`. Modelled from the spec: 0 undefined, 1 success, any other failed. -/
def Status.code : Status → Nat
  | .undefined => 0
  | .success => 1
  | .failed _ => 2

/-- `InitialIssuerState`. -/
structure InitialIssuerState
  deriving DecidableEq, Repr

/-- `ProposalReceivedState`. -/
structure ProposalReceivedState where
  credentialProposal : CredentialProposal
  offerInfo : Option OfferInfo
  deriving DecidableEq, Repr

/-- `OfferSentState`: the offer blob and what the offer info said about the credential. -/
structure OfferSentState where
  offer : String
  credData : String
  revRegId : Option String
  tailsFile : Option String
  deriving DecidableEq, Repr

/-- `RequestReceivedState`: the offer data and the received request. -/
structure RequestReceivedState where
  offer : String
  credData : String
  revRegId : Option String
  tailsFile : Option String
  request : CredentialRequest
  deriving DecidableEq, Repr

/-- `CredentialSentState`. -/
structure CredentialSentState where
  revocationInfoV1 : Option RevocationInfoV1
  deriving DecidableEq, Repr

/-- `FinishedState`: how the interaction ended and what is needed to revoke. -/
structure FinishedState where
  status : Status
  revocationInfoV1 : Option RevocationInfoV1
  deriving DecidableEq, Repr

/-- `ProposalReceivedState::new`. Absent; modelled from the spec. -/
def ProposalReceivedState.new (credentialProposal : CredentialProposal)
    (offerInfo : Option OfferInfo) : ProposalReceivedState :=
  ⟨credentialProposal, offerInfo⟩

/-- `ProposalReceivedState::is_revokable`. Absent (`issuer/states/`); modelled from the spec
(§4.3): a registry id in the offer info, so `Ok(false)` with no offer info.  The repository's
`test_is_revokable` (`state_machine.rs`, line 859) expects `true` for an issuer built by
`from_proposal`, whose offer info is `None`: test and spec disagree there, and the model
follows the spec. -/
def ProposalReceivedState.isRevokable (d : ProposalReceivedState) : Except VcxError Bool :=
  .ok ((d.offerInfo.bind (·.revRegId)).isSome)

/-! ### State conversions (modelled from the spec) -/

/-- The revocation info of a finished state. Absent (the conversions build it); modelled from
the spec (§3): present iff the offer named a revocation registry. -/
def revocationInfoOf (credRevId revRegId tailsFile : Option String) : Option RevocationInfoV1 :=
  revRegId.map fun r => ⟨credRevId, some r, tailsFile⟩

/-- `From<(OfferInfo, String)> for OfferSentState`, used on the initial state's offer.
Absent; modelled from the spec (§4.3). -/
def OfferSentState.ofOfferInfoOffer (offerInfo : OfferInfo) (offer : String) : OfferSentState :=
  ⟨offer, offerInfo.credentialJson, offerInfo.revRegId, offerInfo.tailsFile⟩

/-- `From<(String, OfferInfo)> for OfferSentState`, used on the proposal-received state's
offer. Absent; modelled from the spec (§4.3, §9: one canonical order). -/
def OfferSentState.ofOfferOfferInfo (offer : String) (offerInfo : OfferInfo) : OfferSentState :=
  ⟨offer, offerInfo.credentialJson, offerInfo.revRegId, offerInfo.tailsFile⟩

/-- `From<(OfferSentState, CredentialRequest)> for RequestReceivedState`. Absent; modelled
from the spec. -/
def RequestReceivedState.ofOfferSent (d : OfferSentState) (request : CredentialRequest) :
    RequestReceivedState :=
  ⟨d.offer, d.credData, d.revRegId, d.tailsFile, request⟩

/-- `From<(OfferSentState, ProblemReport)> for FinishedState`. Absent; modelled from the
spec. -/
def FinishedState.ofOfferSentProblemReport (d : OfferSentState) (pr : ProblemReport) :
    FinishedState :=
  ⟨.failed pr, revocationInfoOf none d.revRegId d.tailsFile⟩

/-- `From<(RequestReceivedState, Option<String>)> for FinishedState`: issued, with the
`cred_rev_id` the backend returned. Absent; modelled from the spec (§4.3). -/
def FinishedState.ofRequestReceivedCredRevId (d : RequestReceivedState)
    (credRevId : Option String) : FinishedState :=
  ⟨.success, revocationInfoOf credRevId d.revRegId d.tailsFile⟩

/-- `From<(RequestReceivedState, ProblemReport)> for FinishedState`. Absent; modelled from the
spec (§7). -/
def FinishedState.ofRequestReceivedProblemReport (d : RequestReceivedState)
    (pr : ProblemReport) : FinishedState :=
  ⟨.failed pr, revocationInfoOf none d.revRegId d.tailsFile⟩

/-- `From<CredentialSentState> for FinishedState`: the interaction closed on the ack. Absent;
modelled from the spec. -/
def FinishedState.ofCredentialSent (d : CredentialSentState) : FinishedState :=
  ⟨.success, d.revocationInfoV1⟩

/-- The spec's canonical order: both offer conversions build the same state. -/
theorem OfferSentState.ofOfferOfferInfo_eq (offer : String) (offerInfo : OfferInfo) :
    OfferSentState.ofOfferOfferInfo offer offerInfo = OfferSentState.ofOfferInfoOffer offerInfo offer :=
  rfl

/-! ### The state machine -/

/-- `IssuerFullState`: one variant per state, with that state's data. -/
inductive IssuerFullState
  | initial (d : InitialIssuerState)
  | proposalReceived (d : ProposalReceivedState)
  | offerSent (d : OfferSentState)
  | requestReceived (d : RequestReceivedState)
  | credentialSent (d : CredentialSentState)
  | finished (d : FinishedState)
  deriving DecidableEq, Repr

/-- `IssuerState`, the state tag callers see. -/
inductive IssuerState
  | initial
  | proposalReceived
  | offerSent
  | requestReceived
  | credentialSent
  | finished
  | failed
  deriving DecidableEq, Repr

/-- `IssuerSM`. -/
structure IssuerSM where
  sourceId : String
  threadId : String
  state : IssuerFullState
  deriving DecidableEq, Repr

namespace IssuerSM

/-- `IssuerSM::new`; `freshId` is the `MessageId::new()` it draws. -/
def new (sourceId freshId : String) : IssuerSM := ⟨sourceId, freshId, .initial ⟨⟩⟩

/-- `IssuerSM::from_proposal`. -/
def fromProposal (sourceId : String) (credentialProposal : CredentialProposal) : IssuerSM :=
  ⟨sourceId, credentialProposal.id, .proposalReceived (.new credentialProposal none)⟩

/-- `IssuerSM::step`. -/
def step (sourceId threadId : String) (state : IssuerFullState) : IssuerSM :=
  ⟨sourceId, threadId, state⟩

/-- `IssuerSM::get_state`. -/
def getState (sm : IssuerSM) : IssuerState :=
  match sm.state with
  | .initial _ => .initial
  | .proposalReceived _ => .proposalReceived
  | .offerSent _ => .offerSent
  | .requestReceived _ => .requestReceived
  | .credentialSent _ => .credentialSent
  | .finished d =>
    match d.status with
    | .success => .finished
    | _ => .failed

/-- `IssuerSM::credential_status`. -/
def credentialStatus (sm : IssuerSM) : Nat :=
  match sm.state with
  | .finished d => d.status.code
  | _ => Status.undefined.code

/-- `IssuerSM::is_terminal_state`. -/
def isTerminalState (sm : IssuerSM) : Bool :=
  match sm.state with
  | .finished _ => true
  | _ => false

/-- `IssuerSM::get_proposal`. -/
def getProposal (sm : IssuerSM) : Except VcxError CredentialProposal :=
  match sm.state with
  | .proposalReceived d => .ok d.credentialProposal
  | _ => .error (.fromMsg .invalidState "Proposal is only available in ProposalReceived state")

/-- The message `get_rev_reg_id` fails with when a state has no revocation info. -/
def noRevocationInfo : VcxError :=
  .fromMsg .invalidState "No revocation info found - is this credential revokable?"

/-- The message both revocation queries fail with in the initial state. -/
def noRevocationInfoInitial : VcxError :=
  .fromMsg .invalidState "No revocation info available in the initial state"

/-- The message `get_rev_reg_id` fails with when there is no registry id. -/
def noRevRegId : VcxError :=
  .fromMsg .invalidState
    "No revocation registry id found on revocation info - is this credential revokable?"

/-- `IssuerSM::get_rev_reg_id`. -/
def getRevRegId (sm : IssuerSM) : Except VcxError String := do
  let revRegistry ← match sm.state with
    | .initial _ => .error noRevocationInfoInitial
    | .proposalReceived d => .ok (d.offerInfo.bind (·.revRegId))
    | .offerSent d => .ok d.revRegId
    | .requestReceived d => .ok d.revRegId
    | .credentialSent d => (·.revRegId) <$> okOr d.revocationInfoV1 noRevocationInfo
    | .finished d => (·.revRegId) <$> okOr d.revocationInfoV1 noRevocationInfo
  okOr revRegistry noRevRegId

/-- `IssuerSM::is_revokable`. -/
def isRevokable (sm : IssuerSM) : Except VcxError Bool :=
  match sm.state with
  | .initial _ => .error noRevocationInfoInitial
  | .proposalReceived d => d.isRevokable
  | .offerSent d => .ok d.revRegId.isSome
  | .requestReceived d => .ok d.revRegId.isSome
  | .credentialSent d => .ok d.revocationInfoV1.isSome
  | .finished d => .ok d.revocationInfoV1.isSome

/-- `IssuerSM::revoke`: only a finished state with complete revocation info reaches the
backend, `revoke_credential` when publishing and `revoke_credential_local` otherwise. -/
def revoke (env : Env) (sm : IssuerSM) (publish : Bool) : Traced Unit :=
  match sm.state with
  | .finished d =>
    match d.revocationInfoV1 with
    | some revInfo =>
      match revInfo.credRevId, revInfo.revRegId, revInfo.tailsFile with
      | some credRevId, some revRegId, some tailsFile =>
        if publish then
          .call (.revokeCredential tailsFile revRegId credRevId)
            (env.revokeCredential tailsFile revRegId credRevId)
        else
          .call (.revokeCredentialLocal tailsFile revRegId credRevId)
            (env.revokeCredentialLocal tailsFile revRegId credRevId)
      | _, _, _ =>
        .lift (.error (.fromMsg .invalidRevocationDetails "Missing data to perform revocation."))
    | none => .lift (.error (.ofKind .notReady))
  | _ => .lift (.error (.ofKind .notReady))

/-- The revocation info of a finished state. -/
def revocationInfo (sm : IssuerSM) : Option RevocationInfoV1 :=
  match sm.state with
  | .finished d => d.revocationInfoV1
  | _ => none

/-- `revoke` calls the backend (and fails with `NotReady` or `InvalidRevocationDetails`
otherwise) exactly when the state is finished with complete revocation info. -/
theorem revoke_reaches_backend_iff (env : Env) (sm : IssuerSM) (publish : Bool) :
    (revoke env sm publish).calls ≠ [] ↔
      sm.isTerminalState ∧ ∃ i, sm.revocationInfo = some i ∧ i.Complete := by
  rcases sm with ⟨_, _, _ | _ | _ | _ | _ | ⟨_, _ | ⟨c, r, t⟩⟩⟩ <;>
    simp only [revoke, isTerminalState, revocationInfo] <;> try simp
  rcases c with _ | c <;> rcases r with _ | r <;> rcases t with _ | t <;>
    cases publish <;> simp [RevocationInfoV1.Complete]

end IssuerSM

end CredentialIssuance
