/-
Sessions of the issuer: a caller's successive `handle_message` calls on one interaction, and
what reaches the peer over them.

`handle_message` takes the machine by value and returns the next one, so a caller keeps the
machine a call returns on `Ok` and the one it had on `Err`.  What reaches the peer in one
call is what the call handed to the callback if the call succeeded; a failed call handed over
only messages the callback refused.

* `session_delivers_one_credential` — over any session, whatever the collaborators and
  callbacks answer, at most one credential reaches the peer, and none once the issuer has
  finished;
* `credentialSend_refused_keeps_requestReceived` — delivery is at most once, issuing is not:
  when the callback refuses the credential, the backend has already issued it and the caller
  still holds `RequestReceived`, so a retry issues again.
-/
import CredentialIssuance.Issuer.Run

namespace CredentialIssuance

open IssuerSM

/-- One `handle_message` call of a session: the collaborators' answers, the event and the
callback. -/
structure HandleCall where
  env : Env
  cim : CredentialIssuanceMessage
  sendMessage : Option SendMessage

/-- What reaches the peer in one call: the messages handed to the callback, if the call
succeeded. -/
def delivered (t : Traced IssuerSM) : List A2AMessage :=
  match t.result with
  | .ok _ => t.sends
  | .error _ => []

/-- The machine a caller holds after a call. -/
def kept (sm : IssuerSM) (t : Traced IssuerSM) : IssuerSM :=
  match t.result with
  | .ok s' => s'
  | .error _ => sm

/-- A session: the machine the caller holds at the end, and what reached the peer. -/
def session (sm : IssuerSM) : List HandleCall → IssuerSM × List A2AMessage
  | [] => (sm, [])
  | c :: calls =>
    let t := handleMessage c.env sm c.cim c.sendMessage
    let r := session (kept sm t) calls
    (r.1, delivered t ++ r.2)

/-- A credential message. -/
def A2AMessage.isCredential : A2AMessage → Bool
  | .credential _ => true
  | _ => false

/-! ### One call -/

/-- Only `CredentialSend` in `RequestReceived` hands a credential over. -/
theorem handleMessage_credential_sent {env : Env} {sm : IssuerSM} {cim : CredentialIssuanceMessage}
    {sendMessage : Option SendMessage} {c : Credential}
    (h : .credential c ∈ (handleMessage env sm cim sendMessage).sends) :
    ∃ d, sm.state = .requestReceived d ∧ cim = .credentialSend := by
  obtain ⟨-, d, hs, -⟩ := handleMessage_threadBound env sm cim sendMessage _ (Traced.mem_sends h)
  refine ⟨d, hs, ?_⟩
  rcases handleMessage_sends_shape env sm cim sendMessage with ⟨-, hnil⟩ | ⟨hem, -⟩
  · rw [hnil] at h
    cases h
  · rw [show sm.getState = .requestReceived by simp [getState, hs]] at hem
    cases cim <;> first | rfl | cases hem

/-- A call that delivers a credential finishes the interaction. -/
theorem handleMessage_credential_finishes {env : Env} {sm s' : IssuerSM}
    {cim : CredentialIssuanceMessage} {sendMessage : Option SendMessage} {c : Credential}
    (h : .credential c ∈ (handleMessage env sm cim sendMessage).sends)
    (hok : (handleMessage env sm cim sendMessage).result = .ok s') : s'.isTerminalState = true := by
  obtain ⟨d, hs, rfl⟩ := handleMessage_credential_sent h
  rcases sm with ⟨sourceId, threadId, state⟩
  cases hs
  cases handleMessage_transition hok with
  | drop _ hh => cases hh
  | _ => rfl

/-- One call delivers at most one message. -/
theorem delivered_length_le (env : Env) (sm : IssuerSM) (cim : CredentialIssuanceMessage)
    (sendMessage : Option SendMessage) :
    (delivered (handleMessage env sm cim sendMessage)).length ≤ 1 := by
  unfold delivered
  split
  · rcases handleMessage_sends_shape env sm cim sendMessage with ⟨-, hnil⟩ | ⟨-, hx⟩
    · simp [hnil]
    · exact hx.sends_spec.1
  · simp

/-- What the issuer may still deliver of credentials: one, until it has finished. -/
def credentialCredit (sm : IssuerSM) : Nat := if sm.isTerminalState then 0 else 1

/-- One call spends the credit: a credential it delivers finishes the issuer. -/
theorem delivered_credentials_add_credit (env : Env) (sm : IssuerSM)
    (cim : CredentialIssuanceMessage) (sendMessage : Option SendMessage) :
    ((delivered (handleMessage env sm cim sendMessage)).filter A2AMessage.isCredential).length +
      credentialCredit (kept sm (handleMessage env sm cim sendMessage)) ≤ credentialCredit sm := by
  set t := handleMessage env sm cim sendMessage with ht
  rcases hr : t.result with e | s'
  · simp [delivered, kept, hr]
  have hkept : kept sm t = s' := by simp [kept, hr]
  rw [hkept]
  cases hterm : sm.isTerminalState
  case true =>
    have hnil : t.calls = [] := (handleMessage_terminal env sm cim sendMessage hterm).1
    have hs' : s' = sm := (handleMessage_terminal env sm cim sendMessage hterm).2 s' hr
    simp [delivered, hr, Traced.sends, hnil, hs', credentialCredit, hterm]
  case false =>
    rcases hcred : (delivered t).filter A2AMessage.isCredential with _ | ⟨m, rest⟩
    · simp only [credentialCredit, hterm, List.length_nil, Bool.false_eq_true, if_false]
      split <;> omega
    obtain ⟨hm, hcm⟩ := List.mem_filter.1 (hcred ▸ List.mem_cons_self m rest)
    cases m <;> simp only [A2AMessage.isCredential, reduceCtorEq] at hcm
    simp only [delivered, hr] at hm
    have hone := (List.length_filter_le A2AMessage.isCredential _).trans
      (delivered_length_le env sm cim sendMessage)
    rw [hcred] at hone
    simp only [credentialCredit, handleMessage_credential_finishes hm hr, hterm, if_true,
      Bool.false_eq_true, if_false]
    omega

/-- The credentials a session delivers: at most the issuer's credit. -/
theorem session_credentials_le (sm : IssuerSM) (calls : List HandleCall) :
    ((session sm calls).2.filter A2AMessage.isCredential).length ≤ credentialCredit sm := by
  induction calls generalizing sm with
  | nil => simp [session]
  | cons c calls ih =>
    have hstep := delivered_credentials_add_credit c.env sm c.cim c.sendMessage
    have hrest := ih (kept sm (handleMessage c.env sm c.cim c.sendMessage))
    simp only [session, List.filter_append, List.length_append]
    omega

/-- Over any session, whatever the collaborators and callbacks answer, at most one credential
reaches the peer, and none once the issuer has finished. -/
theorem session_delivers_one_credential (sm : IssuerSM) (calls : List HandleCall) :
    ((session sm calls).2.filter A2AMessage.isCredential).length ≤ 1 ∧
      (sm.isTerminalState = true → (session sm calls).2.filter A2AMessage.isCredential = []) := by
  have h := session_credentials_le sm calls
  unfold credentialCredit at h
  refine ⟨h.trans ?_, fun hterm => ?_⟩
  · split <;> omega
  · rw [hterm, if_pos rfl] at h
    exact List.eq_nil_of_length_eq_zero (Nat.le_zero.1 h)

/-! ### Issuing is not at most once -/

/-- When the callback refuses the credential, the call fails after the backend issued it, and
the caller still holds `RequestReceived`: retrying the call issues again. -/
theorem credentialSend_refused_keeps_requestReceived {env : Env} {sm : IssuerSM}
    {d : RequestReceivedState} {cb : SendMessage} {credential : Credential}
    {credRevId : Option String} {e : VcxError} (hs : sm.state = .requestReceived d)
    (hissue : (createCredential env d.request d.revRegId d.tailsFile d.offer d.credData
      sm.threadId).result = .ok (credential, credRevId))
    (hrefuse : cb (.credential (credential.setThreadId sm.threadId)) = .error e) :
    let t := handleMessage env sm .credentialSend (some cb)
    t.result = .error e ∧ kept sm t = sm ∧
      (createCredential env d.request d.revRegId d.tailsFile d.offer d.credData sm.threadId).calls <+:
        t.calls := by
  intro t
  have hr : t.result = .error e := by
    rcases sm with ⟨sourceId, threadId, state⟩
    cases hs
    simp [t, handleMessage_result, verifyThreadId, CredentialIssuanceMessage.checkedThreadRef, dispatch,
      handleRequestReceived, hissue, sendOrFail, hrefuse]
  exact ⟨hr, by simp [kept, hr], handleMessage_credentialSend_calls env sm d (some cb) hs⟩

example :
    let sm : IssuerSM := ⟨"s", "t", .requestReceived ⟨"offer", "[]", none, none, sampleRequest⟩⟩
    let d : RequestReceivedState := ⟨"offer", "[]", none, none, sampleRequest⟩
    let cb : SendMessage := fun _ => .error (.ofKind (.other "peer"))
    let credential : Credential := ⟨"id", "credential", none⟩
    (sm.state = .requestReceived d ∧
      (createCredential acceptingEnv d.request d.revRegId d.tailsFile d.offer d.credData
        sm.threadId).result = .ok (credential, some "1") ∧
      cb (.credential (credential.setThreadId sm.threadId)) = .error (.ofKind (.other "peer"))) ∧
    let t := handleMessage acceptingEnv sm .credentialSend (some cb)
    t.result = .error (.ofKind (.other "peer")) ∧ kept sm t = sm ∧
      (createCredential acceptingEnv d.request d.revRegId d.tailsFile d.offer d.credData
        sm.threadId).calls <+: t.calls :=
  ⟨⟨rfl, rfl, rfl⟩, credentialSend_refused_keeps_requestReceived rfl rfl rfl⟩

end CredentialIssuance
