/-
The issuer's transition table, its thread gating and its identity fields.

* `handleMessage_of_checkedThreadRef` — a credential, an ack or a problem report whose
  thread reference names another thread is rejected with a thread id mismatch, in every
  state, before any collaborator is called;
* `handleMessage_ok_table` — every successful step drops the event or follows a row of the
  spec's table, with `CredentialSend` split on the backend's outcome, except that a problem
  report in `CredentialSent` finishes the interaction as a success
  (`handleCredentialSent_problemReport_eq_ack`);
* `handleMessage_terminal` — a finished issuer is left as it is, with no collaborator called;
* `handleMessage_sourceId`, `handleMessage_threadId` — the source id never changes; the
  thread id changes only when a proposal is adopted and when an offer answers a stored
  proposal, which takes the proposal's thread (`fromProposal_offer_changes_thread`).
-/
import CredentialIssuance.Issuer.HandleMessage

namespace CredentialIssuance

open IssuerSM

/-! ### Thread gating -/

/-- The error `verify_thread_id` raises. -/
def threadMismatch (threadId : String) : VcxError :=
  .fromMsg .threadIdMismatch s!"Thread id does not match, expected {threadId}"

theorem handleMessage_of_verify_error {env : Env} {sm : IssuerSM} {cim : CredentialIssuanceMessage}
    {sendMessage : Option SendMessage} {e : VcxError} (h : verifyThreadId sm.threadId cim = .error e) :
    handleMessage env sm cim sendMessage = ⟨[], .error e⟩ := by
  simp only [handleMessage, Traced.lift, h]
  rfl

/-- A credential, an ack or a problem report naming another thread than the interaction's is
rejected, whatever the state, before any collaborator is called: no transition and nothing
sent. -/
theorem handleMessage_of_checkedThreadRef (env : Env) (sm : IssuerSM) (cim : CredentialIssuanceMessage)
    (sendMessage : Option SendMessage) (th : Thread) (href : cim.checkedThreadRef = some th)
    (hne : th.thid ≠ sm.threadId) :
    handleMessage env sm cim sendMessage = ⟨[], .error (threadMismatch sm.threadId)⟩ :=
  handleMessage_of_verify_error (verifyThreadId_error (by simp [href, hne]))

/-! ### The table -/

/-- The issuer table of the spec (§4.3): the states an event may lead to from each state;
`issued` is the backend's outcome on `CredentialSend`, `Finished` on OK and `Failed` on
error. -/
def declaredNext (issued : Bool) : IssuerState → CredentialIssuanceMessage → List IssuerState
  | .initial, .credentialProposal _ => [.proposalReceived]
  | .initial, .credentialOfferSend _ _ => [.offerSent]
  | .proposalReceived, .credentialOfferSend _ _ => [.offerSent]
  | .offerSent, .credentialRequest _ => [.requestReceived]
  | .offerSent, .credentialProposal _ => [.proposalReceived]
  | .offerSent, .problemReport _ => [.failed]
  | .requestReceived, .credentialSend => if issued then [.finished] else [.failed]
  | .credentialSent, .credentialAck _ => [.finished]
  | .credentialSent, .problemReport _ => [.failed]
  | _, _ => []

/-- Whether `_create_credential` succeeds for a `CredentialSend` from `sm`: the outcome the
table's `RequestReceived` row splits on. -/
def issues (env : Env) (sm : IssuerSM) : Bool :=
  match sm.state with
  | .requestReceived d =>
    match (createCredential env d.request d.revRegId d.tailsFile d.offer d.credData sm.threadId).result with
    | .ok _ => true
    | .error _ => false
  | _ => false

/-- In `CredentialSent` the source sends a problem report through the conversion it uses for
the ack, whatever that conversion is. -/
theorem handleCredentialSent_problemReport_eq_ack (threadId : String) (d : CredentialSentState)
    (pr : ProblemReport) (a : Ack) :
    handleCredentialSent threadId d (.problemReport pr) = handleCredentialSent threadId d (.credentialAck a) :=
  rfl

/-- Every successful step drops the event or follows a row of the spec's table, `Finished` on
`CredentialSend` exactly when the backend issued, with one exception: a problem report in
`CredentialSent` finishes the interaction as the ack does. -/
theorem handleMessage_ok_table {env : Env} {sm s' : IssuerSM} {cim : CredentialIssuanceMessage}
    {sendMessage : Option SendMessage} (h : (handleMessage env sm cim sendMessage).result = .ok s') :
    s' = sm ∨ s'.getState ∈ declaredNext (issues env sm) sm.getState cim ∨
      (sm.getState = .credentialSent ∧ (∃ pr, cim = .problemReport pr) ∧ s'.getState = .finished) := by
  rcases sm with ⟨sourceId, threadId, state⟩
  cases handleMessage_transition h with
  | drop => exact .inl rfl
  | adoptProposal d p hs
  | offerFromInitial d _ _ _ hs
  | offerFromProposal d _ _ _ hs
  | request d _ hs
  | counterProposal d _ hs
  | offerProblemReport d _ hs
  | closeAck d _ hs =>
    subst hs
    simp [getState, declaredNext, FinishedState.ofOfferSentProblemReport, FinishedState.ofCredentialSent]
  | issue d _ _ hs hc | issueFailed d _ hs hc =>
    subst hs
    simp [getState, declaredNext, issues, hc, FinishedState.ofRequestReceivedCredRevId,
      FinishedState.ofRequestReceivedProblemReport]
  | closeProblemReport d pr hs =>
    subst hs
    exact .inr (.inr ⟨rfl, ⟨pr, rfl⟩, rfl⟩)

theorem handleMessage_ok_table_request :
    let sm : IssuerSM := ⟨"s", "t", .offerSent ⟨"offer", "[]", none, none⟩⟩
    let cim : CredentialIssuanceMessage := .credentialRequest ⟨"r", "request", some ⟨"t"⟩⟩
    let s' : IssuerSM := ⟨"s", "t", .requestReceived ⟨"offer", "[]", none, none, ⟨"r", "request", some ⟨"t"⟩⟩⟩⟩
    (handleMessage acceptingEnv sm cim acceptingSend).result = .ok s' ∧
      (s' = sm ∨ s'.getState ∈ declaredNext (issues acceptingEnv sm) sm.getState cim ∨
        (sm.getState = .credentialSent ∧ (∃ pr, cim = .problemReport pr) ∧ s'.getState = .finished)) := by
  intro sm cim s'
  have h : (handleMessage acceptingEnv sm cim acceptingSend).result = .ok s' := rfl
  exact ⟨h, handleMessage_ok_table h⟩

/-- At the failing input: an issuer restored in `CredentialSent` that receives a problem
report on its thread ends `Finished` with the success code. -/
theorem credentialSent_problemReport_finishes :
    let sm : IssuerSM := ⟨"s", "t", .credentialSent ⟨none⟩⟩
    ((handleMessage acceptingEnv sm (.problemReport ⟨"pr", none, some ⟨"t"⟩⟩) acceptingSend).result.map
      fun s' => (s'.getState, s'.credentialStatus)) = .ok (.finished, 1) := rfl

/-- A finished issuer is left as it is: every event is dropped or rejected, and no
collaborator is called. -/
theorem handleMessage_terminal (env : Env) (sm : IssuerSM) (cim : CredentialIssuanceMessage)
    (sendMessage : Option SendMessage) (hterm : sm.isTerminalState = true) :
    (handleMessage env sm cim sendMessage).calls = [] ∧
      ∀ s', (handleMessage env sm cim sendMessage).result = .ok s' → s' = sm := by
  rcases sm with ⟨sourceId, threadId, _ | _ | _ | _ | _ | d⟩ <;>
    simp only [isTerminalState, Bool.false_eq_true] at hterm
  rcases hv : verifyThreadId threadId cim with e | ⟨⟩
  · simp [@handleMessage_of_verify_error env ⟨sourceId, threadId, .finished d⟩ cim sendMessage e hv]
  · simp only [handleMessage, Traced.lift, hv]
    exact ⟨rfl, fun s' h => by cases h; rfl⟩

/-! ### Identity fields -/

theorem Transition.sourceId_eq {env : Env} {sm s' : IssuerSM} {cim : CredentialIssuanceMessage}
    (h : Transition env sm cim s') : s'.sourceId = sm.sourceId := by
  cases h <;> rfl

/-- No step changes the source id. -/
theorem handleMessage_sourceId {env : Env} {sm s' : IssuerSM} {cim : CredentialIssuanceMessage}
    {sendMessage : Option SendMessage} (h : (handleMessage env sm cim sendMessage).result = .ok s') :
    s'.sourceId = sm.sourceId :=
  (handleMessage_transition h).sourceId_eq

/-- The thread id `IssuerSM::step` receives: the proposal's `@id` when the initial state
adopts it, the stored proposal's thread when an offer answers it, the current one otherwise. -/
def nextThreadId (sm : IssuerSM) (cim : CredentialIssuanceMessage) : String :=
  match sm.state, cim with
  | .initial _, .credentialProposal p => p.id
  | .proposalReceived d, .credentialOfferSend _ _ => d.credentialProposal.getThreadId
  | _, _ => sm.threadId

theorem Transition.threadId_eq {env : Env} {sm s' : IssuerSM} {cim : CredentialIssuanceMessage}
    (h : Transition env sm cim s') : s'.threadId = nextThreadId sm cim := by
  rcases sm with ⟨sourceId, threadId, state⟩
  cases h with
  | drop _ hd => cases state <;> cases cim <;> first | rfl | cases hd
  | _ => simp_all [nextThreadId]

/-- A step keeps the thread id, except when the initial state adopts a proposal's `@id` and
when an offer answers a stored proposal, which takes that proposal's thread. -/
theorem handleMessage_threadId {env : Env} {sm s' : IssuerSM} {cim : CredentialIssuanceMessage}
    {sendMessage : Option SendMessage} (h : (handleMessage env sm cim sendMessage).result = .ok s') :
    s'.threadId = nextThreadId sm cim :=
  (handleMessage_transition h).threadId_eq

/-- At the failing input: an issuer built from a proposal whose `~thread` names `x` takes the
proposal's `@id` `p` as its thread, and answering it with an offer moves it to `x`. -/
theorem fromProposal_offer_changes_thread :
    let sm : IssuerSM := IssuerSM.fromProposal "s" ⟨"p", some ⟨"x"⟩⟩
    sm.threadId = "p" ∧
      ((handleMessage acceptingEnv sm (.credentialOfferSend ⟨"[]", "cred_def", none, none⟩ none)
        acceptingSend).result.map (·.threadId)) = .ok "x" := ⟨rfl, rfl⟩

end CredentialIssuance
