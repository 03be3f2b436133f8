/-
The issuer's transition function (`IssuerSM::handle_message` and `_create_credential`,
`issuer/state_machine.rs`, lines 217–328 and 387–401).

`handleMessage` verifies the thread, then dispatches on the state; each state's arm is a
definition of its own (`handleInitial`, ..., `handleFinished`), matching on the event as the
source does, and an event an arm does not name is dropped with the state unchanged.

* `Transition` — the abstract table: what one successful call can do, with the data each
  row moves;
* `handleMessage_transition` — every `Ok` of `handleMessage` is a row of `Transition`.
-/
import CredentialIssuance.Issuer.Preview

namespace CredentialIssuance

namespace Credential

/-- `Credential::create()`. Absent from the files at hand (`messages/`); modelled from the
spec: a fresh `@id`, no attachment, no thread reference. -/
def create (freshId : String) : Credential := ⟨freshId, "", none⟩

/-- `Credential::set_credential`. Absent; modelled from the spec: the credential, attached by
the codec. -/
def setCredential (env : Env) (c : Credential) (credential : String) : Except VcxError Credential :=
  (fun a => { c with credentialsAttach := a }) <$> env.attach credential

/-- `Credential::set_thread_id`. Absent; modelled from the spec. -/
def setThreadId (c : Credential) (tid : String) : Credential := { c with thread := some ⟨tid⟩ }

end Credential

namespace ProblemReport

/-- `ProblemReport::create()`. Absent; modelled from the spec: a fresh `@id`, no comment, no
thread reference. -/
def create (freshId : String) : ProblemReport := ⟨freshId, none, none⟩

/-- `ProblemReport::set_comment`. Absent; modelled from the spec. -/
def setComment (pr : ProblemReport) (comment : Option String) : ProblemReport :=
  { pr with comment := comment }

/-- `ProblemReport::set_thread_id`. Absent; modelled from the spec. -/
def setThreadId (pr : ProblemReport) (tid : String) : ProblemReport := { pr with thread := some ⟨tid⟩ }

end ProblemReport

/-- The error of an emitting step given no callback. -/
def undefinedCallback : VcxError :=
  .fromMsg .invalidState "Attempted to call undefined send_message callback"

/-- `send_message.ok_or(..)?(&msg)?`. -/
def sendOrFail (sendMessage : Option SendMessage) (msg : A2AMessage) : Traced Unit :=
  match sendMessage with
  | some cb => .call (.send msg) (cb msg)
  | none => .lift (.error undefinedCallback)

/-- `format!("{:?}", request.thread)`. -/
def threadText : Option Thread → String
  | some th => "Some(Thread \x7b thid: Some(" ++ quote th.thid ++ ") \x7d)"
  | none => "None"

/-- The error `_create_credential` raises for a request on another thread. -/
def foreignRequestError (request : CredentialRequest) : VcxError :=
  .fromMsg .invalidJson
    ("Cannot handle credential request: thread id does not match: " ++ threadText request.thread)

/-- `_create_credential`: check the request's thread, decode it, encode the attributes,
issue through the backend and wrap the credential. -/
def createCredential (env : Env) (request : CredentialRequest) (revRegId tailsFile : Option String)
    (offer credData threadId : String) : Traced (Credential × Option String) :=
  if request.fromThread threadId = false then .lift (.error (foreignRequestError request))
  else do
    let request ← .lift (env.content request.requestsAttach)
    let credData ← .lift (env.encodeAttributes credData)
    let (serCredential, credRevId) ← .call (.createCredential offer request credData revRegId tailsFile)
      (env.createCredential offer request credData revRegId tailsFile)
    let credential ← .lift ((Credential.create env.freshId).setCredential env serCredential)
    pure (credential, credRevId)

/-- The offer both offer-sending arms build and send: `bindThread` ties the fresh offer to
the thread (`set_id` from the initial state, `set_thread_id` from a received proposal).
Returns the offer blob the backend created. -/
def sendOffer (env : Env) (sendMessage : Option SendMessage) (offerInfo : OfferInfo)
    (comment : Option String) (bindThread : CredentialOffer → CredentialOffer) : Traced String := do
  let credOffer ← .call (.createCredentialOffer offerInfo.credDefId)
    (env.createCredentialOffer offerInfo.credDefId)
  let credOfferMsg ← .lift ((bindThread (CredentialOffer.create env.freshId)).setOffersAttach env credOffer)
  let credOfferMsg ← .lift (appendCredentialPreview env (credOfferMsg.setComment comment)
    offerInfo.credentialJson)
  sendOrFail sendMessage (.credentialOffer credOfferMsg)
  pure credOffer

/-- The problem report sent when issuing fails. -/
def failureReport (env : Env) (err : VcxError) (threadId : String) : ProblemReport :=
  ((ProblemReport.create env.freshId).setComment (some err.msg)).setThreadId threadId

/-! ### The arms of `handle_message` -/

/-- The `Initial` arm. -/
def handleInitial (env : Env) (sendMessage : Option SendMessage) (threadId : String)
    (stateData : InitialIssuerState) : CredentialIssuanceMessage → Traced (IssuerFullState × String)
  | .credentialProposal proposal => pure (.proposalReceived (.new proposal none), proposal.id)
  | .credentialOfferSend offerInfo comment => do
    let credOffer ← sendOffer env sendMessage offerInfo comment (·.setId threadId)
    pure (.offerSent (.ofOfferInfoOffer offerInfo credOffer), threadId)
  | _ => pure (.initial stateData, threadId)

/-- The `ProposalReceived` arm: the offer's thread is the stored proposal's. -/
def handleProposalReceived (env : Env) (sendMessage : Option SendMessage) (threadId : String)
    (stateData : ProposalReceivedState) :
    CredentialIssuanceMessage → Traced (IssuerFullState × String)
  | .credentialOfferSend offerInfo comment => do
    let threadId := stateData.credentialProposal.getThreadId
    let credOffer ← sendOffer env sendMessage offerInfo comment (·.setThreadId threadId)
    pure (.offerSent (.ofOfferOfferInfo credOffer offerInfo), threadId)
  | _ => pure (.proposalReceived stateData, threadId)

/-- The `OfferSent` arm. -/
def handleOfferSent (threadId : String) (stateData : OfferSentState) :
    CredentialIssuanceMessage → Traced (IssuerFullState × String)
  | .credentialRequest request => pure (.requestReceived (.ofOfferSent stateData request), threadId)
  | .credentialProposal proposal => pure (.proposalReceived (.new proposal none), threadId)
  | .problemReport problemReport =>
    pure (.finished (.ofOfferSentProblemReport stateData problemReport), threadId)
  | _ => pure (.offerSent stateData, threadId)

/-- The `RequestReceived` arm: a failed issue is reported to the peer and ends the interaction. -/
def handleRequestReceived (env : Env) (sendMessage : Option SendMessage) (threadId : String)
    (stateData : RequestReceivedState) : CredentialIssuanceMessage → Traced (IssuerFullState × String)
  | .credentialSend => do
    let credentialMsg ← (createCredential env stateData.request stateData.revRegId
      stateData.tailsFile stateData.offer stateData.credData threadId).attempt
    match credentialMsg with
    | .ok (credentialMsg, credRevId) =>
      sendOrFail sendMessage (.credential (credentialMsg.setThreadId threadId))
      pure (.finished (.ofRequestReceivedCredRevId stateData credRevId), threadId)
    | .error err =>
      let problemReport := failureReport env err threadId
      sendOrFail sendMessage (.commonProblemReport problemReport)
      pure (.finished (.ofRequestReceivedProblemReport stateData problemReport), threadId)
  | _ => pure (.requestReceived stateData, threadId)

/-- The `CredentialSent` arm: a problem report and an ack go through the same conversion. -/
def handleCredentialSent (threadId : String) (stateData : CredentialSentState) :
    CredentialIssuanceMessage → Traced (IssuerFullState × String)
  | .problemReport _ => pure (.finished (.ofCredentialSent stateData), threadId)
  | .credentialAck _ => pure (.finished (.ofCredentialSent stateData), threadId)
  | _ => pure (.credentialSent stateData, threadId)

/-- The dispatch on the state, after the thread check. -/
def dispatch (env : Env) (sm : IssuerSM) (cim : CredentialIssuanceMessage)
    (sendMessage : Option SendMessage) : Traced (IssuerFullState × String) :=
  match sm.state with
  | .initial d => handleInitial env sendMessage sm.threadId d cim
  | .proposalReceived d => handleProposalReceived env sendMessage sm.threadId d cim
  | .offerSent d => handleOfferSent sm.threadId d cim
  | .requestReceived d => handleRequestReceived env sendMessage sm.threadId d cim
  | .credentialSent d => handleCredentialSent sm.threadId d cim
  | .finished d => pure (.finished d, sm.threadId)

/-- `IssuerSM::handle_message`. -/
def handleMessage (env : Env) (sm : IssuerSM) (cim : CredentialIssuanceMessage)
    (sendMessage : Option SendMessage) : Traced IssuerSM := do
  .lift (verifyThreadId sm.threadId cim)
  let (state, threadId) ← dispatch env sm cim sendMessage
  pure (IssuerSM.step sm.sourceId threadId state)


/-- Collaborators that accept everything: the backend issues revocable credentials, the codec
passes texts through and parses every preview as `null`. Used to exhibit runs. -/
def acceptingEnv : Env where
  freshId := "id"
  createCredentialOffer _ := .ok "offer"
  createCredential _ _ _ _ _ := .ok ("credential", some "1")
  revokeCredential _ _ _ := .ok ()
  revokeCredentialLocal _ _ _ := .ok ()
  encodeAttributes s := .ok s
  attach s := .ok s
  content s := .ok s
  parseJson _ := .ok .null

/-- A send callback that always succeeds. -/
def acceptingSend : Option SendMessage := some fun _ => .ok ()

/-! ### The table the code implements -/

/-- The events each state's arm names; the arms drop every other event. -/
def handles : IssuerFullState → CredentialIssuanceMessage → Bool
  | .initial _, .credentialProposal _ | .initial _, .credentialOfferSend _ _
  | .proposalReceived _, .credentialOfferSend _ _
  | .offerSent _, .credentialRequest _ | .offerSent _, .credentialProposal _
  | .offerSent _, .problemReport _
  | .requestReceived _, .credentialSend
  | .credentialSent _, .problemReport _ | .credentialSent _, .credentialAck _ => true
  | _, _ => false

/-- The rows of the issuer's table as the code implements them: what one successful
`handleMessage` call can make of `sm`, with the data each row moves. -/
inductive Transition (env : Env) (sm : IssuerSM) : CredentialIssuanceMessage → IssuerSM → Prop
  | drop (cim : CredentialIssuanceMessage) : handles sm.state cim = false → Transition env sm cim sm
  | adoptProposal (d : InitialIssuerState) (p : CredentialProposal) : sm.state = .initial d →
    Transition env sm (.credentialProposal p) ⟨sm.sourceId, p.id, .proposalReceived (.new p none)⟩
  | offerFromInitial (d : InitialIssuerState) (offerInfo : OfferInfo) (comment : Option String)
    (offer : String) : sm.state = .initial d → env.createCredentialOffer offerInfo.credDefId = .ok offer →
    Transition env sm (.credentialOfferSend offerInfo comment)
      ⟨sm.sourceId, sm.threadId, .offerSent (.ofOfferInfoOffer offerInfo offer)⟩
  | offerFromProposal (d : ProposalReceivedState) (offerInfo : OfferInfo) (comment : Option String)
    (offer : String) : sm.state = .proposalReceived d →
    env.createCredentialOffer offerInfo.credDefId = .ok offer →
    Transition env sm (.credentialOfferSend offerInfo comment)
      ⟨sm.sourceId, d.credentialProposal.getThreadId, .offerSent (.ofOfferOfferInfo offer offerInfo)⟩
  | request (d : OfferSentState) (r : CredentialRequest) : sm.state = .offerSent d →
    Transition env sm (.credentialRequest r)
      ⟨sm.sourceId, sm.threadId, .requestReceived (.ofOfferSent d r)⟩
  | counterProposal (d : OfferSentState) (p : CredentialProposal) : sm.state = .offerSent d →
    Transition env sm (.credentialProposal p) ⟨sm.sourceId, sm.threadId, .proposalReceived (.new p none)⟩
  | offerProblemReport (d : OfferSentState) (pr : ProblemReport) : sm.state = .offerSent d →
    Transition env sm (.problemReport pr)
      ⟨sm.sourceId, sm.threadId, .finished (.ofOfferSentProblemReport d pr)⟩
  | issue (d : RequestReceivedState) (credential : Credential) (credRevId : Option String) :
    sm.state = .requestReceived d →
    (createCredential env d.request d.revRegId d.tailsFile d.offer d.credData sm.threadId).result =
      .ok (credential, credRevId) →
    Transition env sm .credentialSend
      ⟨sm.sourceId, sm.threadId, .finished (.ofRequestReceivedCredRevId d credRevId)⟩
  | issueFailed (d : RequestReceivedState) (err : VcxError) : sm.state = .requestReceived d →
    (createCredential env d.request d.revRegId d.tailsFile d.offer d.credData sm.threadId).result =
      .error err →
    Transition env sm .credentialSend ⟨sm.sourceId, sm.threadId,
      .finished (.ofRequestReceivedProblemReport d (failureReport env err sm.threadId))⟩
  | closeProblemReport (d : CredentialSentState) (pr : ProblemReport) : sm.state = .credentialSent d →
    Transition env sm (.problemReport pr) ⟨sm.sourceId, sm.threadId, .finished (.ofCredentialSent d)⟩
  | closeAck (d : CredentialSentState) (a : Ack) : sm.state = .credentialSent d →
    Transition env sm (.credentialAck a) ⟨sm.sourceId, sm.threadId, .finished (.ofCredentialSent d)⟩

theorem sendOrFail_result_ok {sendMessage : Option SendMessage} {msg : A2AMessage} {u : Unit}
    (h : (sendOrFail sendMessage msg).result = .ok u) :
    ∃ cb, sendMessage = some cb ∧ cb msg = .ok () := by
  cases sendMessage with
  | none => simp [sendOrFail] at h
  | some cb => exact ⟨cb, rfl, by simpa [sendOrFail] using h⟩

/-- A sent offer was created by the backend. -/
theorem sendOffer_result_ok {env : Env} {sendMessage : Option SendMessage} {offerInfo : OfferInfo}
    {comment : Option String} {bindThread : CredentialOffer → CredentialOffer} {offer : String}
    (h : (sendOffer env sendMessage offerInfo comment bindThread).result = .ok offer) :
    env.createCredentialOffer offerInfo.credDefId = .ok offer := by
  simp only [sendOffer, Traced.bind_result, Traced.call_result, Traced.lift_result,
    Traced.pure_result, except_bind_eq_ok] at h
  obtain ⟨o, ho, -, -, -, -, -, -, h⟩ := h
  cases h
  exact ho

theorem handleMessage_result (env : Env) (sm : IssuerSM) (cim : CredentialIssuanceMessage)
    (sendMessage : Option SendMessage) :
    (handleMessage env sm cim sendMessage).result =
      (verifyThreadId sm.threadId cim >>= fun _ =>
        (dispatch env sm cim sendMessage).result >>= fun r => .ok (IssuerSM.step sm.sourceId r.2 r.1)) := by
  simp only [handleMessage, Traced.bind_result, Traced.lift_result]
  rfl

/-- What the dispatch can do, row by row. -/
theorem dispatch_transition {env : Env} {sm : IssuerSM} {cim : CredentialIssuanceMessage}
    {sendMessage : Option SendMessage} {r : IssuerFullState × String}
    (hr : (dispatch env sm cim sendMessage).result = .ok r) :
    Transition env sm cim (IssuerSM.step sm.sourceId r.2 r.1) := by
  rcases sm with ⟨sourceId, threadId, state⟩
  cases state with
  | initial d =>
    cases cim <;> simp only [dispatch, handleInitial, Traced.pure_result, Except.ok.injEq,
      Traced.bind_result, except_bind_eq_ok] at hr
    case credentialProposal p => subst hr; exact .adoptProposal d p rfl
    case credentialOfferSend offerInfo comment =>
      obtain ⟨offer, ho, rfl⟩ := hr
      exact .offerFromInitial d offerInfo comment offer rfl (sendOffer_result_ok ho)
    all_goals subst hr; exact .drop _ rfl
  | proposalReceived d =>
    cases cim <;> simp only [dispatch, handleProposalReceived, Traced.pure_result, Except.ok.injEq,
      Traced.bind_result, except_bind_eq_ok] at hr
    case credentialOfferSend offerInfo comment =>
      obtain ⟨offer, ho, rfl⟩ := hr
      exact .offerFromProposal d offerInfo comment offer rfl (sendOffer_result_ok ho)
    all_goals subst hr; exact .drop _ rfl
  | offerSent d =>
    cases cim <;> simp only [dispatch, handleOfferSent, Traced.pure_result, Except.ok.injEq] at hr <;>
      subst hr
    case credentialRequest r => exact .request d r rfl
    case credentialProposal p => exact .counterProposal d p rfl
    case problemReport pr => exact .offerProblemReport d pr rfl
    all_goals exact .drop _ rfl
  | requestReceived d =>
    cases cim <;> simp only [dispatch, handleRequestReceived, Traced.pure_result, Except.ok.injEq,
      Traced.bind_result, Traced.attempt_result, except_ok_bind] at hr
    case credentialSend =>
      rcases hc : (createCredential env d.request d.revRegId d.tailsFile d.offer d.credData
        threadId).result with err | ⟨credential, credRevId⟩ <;>
        simp only [hc, Traced.bind_result, Traced.pure_result, except_bind_eq_ok,
          Except.ok.injEq] at hr <;>
        obtain ⟨-, -, rfl⟩ := hr
      · exact .issueFailed d err rfl hc
      · exact .issue d credential credRevId rfl hc
    all_goals subst hr; exact .drop _ rfl
  | credentialSent d =>
    cases cim <;> simp only [dispatch, handleCredentialSent, Traced.pure_result, Except.ok.injEq] at hr <;>
      subst hr
    case problemReport pr => exact .closeProblemReport d pr rfl
    case credentialAck a => exact .closeAck d a rfl
    all_goals exact .drop _ rfl
  | finished d =>
    simp only [dispatch, Traced.pure_result, Except.ok.injEq] at hr
    subst hr
    cases cim <;> exact .drop _ rfl

/-- Every successful call of `handleMessage` is a row of the table. -/
theorem handleMessage_transition {env : Env} {sm s' : IssuerSM} {cim : CredentialIssuanceMessage}
    {sendMessage : Option SendMessage} (h : (handleMessage env sm cim sendMessage).result = .ok s') :
    Transition env sm cim s' := by
  rw [handleMessage_result] at h
  simp only [except_bind_eq_ok] at h
  obtain ⟨-, -, r, hr, h⟩ := h
  cases h
  exact dispatch_transition hr

end CredentialIssuance
