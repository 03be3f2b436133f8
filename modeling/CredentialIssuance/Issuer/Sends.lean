/-
What the issuer hands to the send callback, and on which thread.

The callback is the last fallible step of each emitting arm: nothing after it can fail, and
nothing before it sends.  `EmitsLast` names that shape; it is closed under the binds the
arms are made of, so that each arm is checked once.

* `handleMessage_send_discipline` — at most one message is handed over; an `Err` means
  every message handed over was refused; an `Ok` comes with exactly one accepted message iff
  the step is one of the emitting ones; and the message is the arm's own (`SentFor`): an
  offer, or the credential when the backend issued and the problem report when it failed;
* `handleMessage_outbound_thread` — every message handed over is bound to the thread of the
  state the step returns, and a credential is issued only for a request on that thread.
-/
import CredentialIssuance.Issuer.Table

namespace CredentialIssuance

open IssuerSM

variable {α β : Type}

namespace Traced

theorem sends_bind (x : Traced α) (f : α → Traced β) :
    (x >>= f).sends = x.sends ++ match x.result with
      | .ok a => (f a).sends
      | .error _ => [] := by
  rcases x with ⟨cs, _ | a⟩ <;> simp [sends, bind_calls]

@[simp] theorem sends_pure (a : α) : (pure a : Traced α).sends = [] := rfl

@[simp] theorem sends_lift (r : Except VcxError α) : (lift r).sends = [] := rfl

/-- Every call the computation makes satisfies `P`. -/
def CallsAll (P : Call → Prop) (t : Traced α) : Prop := ∀ c ∈ t.calls, P c

theorem callsAll_bind {P : Call → Prop} {x : Traced α} {f : α → Traced β} (hx : CallsAll P x)
    (hf : ∀ a, x.result = .ok a → CallsAll P (f a)) : CallsAll P (x >>= f) := by
  intro c hc
  rw [bind_calls, List.mem_append] at hc
  rcases hc with hc | hc
  · exact hx c hc
  · revert hc
    split
    · exact hf _ ‹_› c
    · simp

theorem callsAll_mono {P Q : Call → Prop} {t : Traced α} (hPQ : ∀ c, P c → Q c)
    (h : CallsAll P t) : CallsAll Q t := fun c hc => hPQ c (h c hc)

theorem callsAll_of_calls_nil {P : Call → Prop} {t : Traced α} (h : t.calls = []) : CallsAll P t := by
  simp [CallsAll, h]

theorem mem_sends {t : Traced α} {m : A2AMessage} (h : m ∈ t.sends) : .send m ∈ t.calls := by
  obtain ⟨c, hc, hm⟩ := List.mem_filterMap.1 h
  cases c <;> cases hm
  exact hc

theorem sends_bind_of_silent {x : Traced α} (hx : x.sends = []) (f : α → Traced β)
    (hf : ∀ a, (f a).sends = []) : (x >>= f).sends = [] := by
  rw [sends_bind, hx]
  split <;> simp [hf]

end Traced

/-! ### The shape of an emitting arm -/

/-- The callback is the last fallible step: either the computation failed before handing
anything over, or it handed over exactly one message and succeeded iff the callback did. -/
def EmitsLast (sendMessage : Option SendMessage) (t : Traced α) : Prop :=
  (t.sends = [] ∧ ∃ e, t.result = .error e) ∨
    ∃ cb m, sendMessage = some cb ∧ t.sends = [m] ∧ ((∃ a, t.result = .ok a) ↔ cb m = .ok ())

/-- What the shape says of the callback: at most one message is handed over; a failed
computation handed over only refused messages; a successful one handed over exactly one
accepted message. -/
theorem EmitsLast.sends_spec {sendMessage : Option SendMessage} {t : Traced α}
    (h : EmitsLast sendMessage t) :
    t.sends.length ≤ 1 ∧
      (∀ e, t.result = .error e → ∀ cb, sendMessage = some cb → ∀ m ∈ t.sends, ∃ e', cb m = .error e') ∧
      (∀ a, t.result = .ok a → ∃ cb m, sendMessage = some cb ∧ t.sends = [m] ∧ cb m = .ok ()) := by
  rcases h with ⟨hs, e, he⟩ | ⟨cb, m, rfl, hs, hok⟩
  · simp [hs, he]
  refine ⟨by simp [hs], fun e he cb' hcb' m' hm' => ?_, fun a ha => ⟨cb, m, rfl, hs, hok.1 ⟨a, ha⟩⟩⟩
  rw [hs, List.mem_singleton] at hm'
  subst hm'
  cases hcb'
  rcases hcm : cb m' with e' | u
  · exact ⟨e', rfl⟩
  · obtain ⟨a, ha⟩ := hok.2 hcm
    simp [ha] at he

theorem emitsLast_sendOrFail (sendMessage : Option SendMessage) (msg : A2AMessage) :
    EmitsLast sendMessage (sendOrFail sendMessage msg) := by
  cases sendMessage with
  | none => exact .inl ⟨rfl, _, rfl⟩
  | some cb =>
    refine .inr ⟨cb, msg, rfl, rfl, ?_⟩
    simp only [sendOrFail, Traced.call_result]
    exact ⟨fun ⟨_, h⟩ => h, fun h => ⟨(), h⟩⟩

theorem emitsLast_bind_silent {sendMessage : Option SendMessage} {x : Traced α} {f : α → Traced β}
    (hx : x.sends = []) (hf : ∀ a, EmitsLast sendMessage (f a)) : EmitsLast sendMessage (x >>= f) := by
  rcases x with ⟨cs, _ | a⟩
  · exact .inl ⟨by simpa [Traced.sends_bind] using hx, _, rfl⟩
  · have hs : ((⟨cs, .ok a⟩ : Traced α) >>= f).sends = (f a).sends := by
      rw [Traced.sends_bind, hx]; rfl
    have hr : ((⟨cs, .ok a⟩ : Traced α) >>= f).result = (f a).result := rfl
    simpa only [EmitsLast, hs, hr] using hf a

theorem emitsLast_bind_pure {sendMessage : Option SendMessage} {x : Traced α} (g : α → β)
    (hx : EmitsLast sendMessage x) : EmitsLast sendMessage (x >>= fun a => pure (g a)) := by
  have hs : (x >>= fun a => pure (g a)).sends = x.sends := by
    rw [Traced.sends_bind]; split <;> simp
  have hr : (x >>= fun a => pure (g a)).result = g <$> x.result := by
    simp only [Traced.bind_result, Traced.pure_result]
    cases x.result <;> rfl
  simp only [EmitsLast, hs, hr] at hx ⊢
  rcases hx with ⟨h, e, he⟩ | ⟨cb, m, hcb, h, hok⟩
  · exact .inl ⟨h, e, by rw [he]; rfl⟩
  · refine .inr ⟨cb, m, hcb, h, ?_⟩
    rw [← hok]
    rcases x.result with e | a <;> simp

theorem createCredential_sends (env : Env) (request : CredentialRequest)
    (revRegId tailsFile : Option String) (offer credData threadId : String) :
    (createCredential env request revRegId tailsFile offer credData threadId).sends = [] := by
  unfold createCredential
  split
  · rfl
  · refine Traced.sends_bind_of_silent ?_ _ fun _ => Traced.sends_bind_of_silent ?_ _ fun _ =>
      Traced.sends_bind_of_silent ?_ _ fun _ => Traced.sends_bind_of_silent ?_ _ fun _ => ?_ <;> rfl

theorem emitsLast_sendOffer (env : Env) (sendMessage : Option SendMessage) (offerInfo : OfferInfo)
    (comment : Option String) (bindThread : CredentialOffer → CredentialOffer) :
    EmitsLast sendMessage (sendOffer env sendMessage offerInfo comment bindThread) :=
  emitsLast_bind_silent rfl fun credOffer => emitsLast_bind_silent rfl fun _ =>
    emitsLast_bind_silent rfl fun _ => emitsLast_bind_pure (fun _ => credOffer) (emitsLast_sendOrFail _ _)

theorem emitsLast_credentialSend (env : Env) (sendMessage : Option SendMessage) (threadId : String)
    (d : RequestReceivedState) :
    EmitsLast sendMessage (handleRequestReceived env sendMessage threadId d .credentialSend) := by
  refine emitsLast_bind_silent (createCredential_sends _ _ _ _ _ _ _) fun r => ?_
  rcases r with err | ⟨credential, credRevId⟩
  · exact emitsLast_bind_pure _ (emitsLast_sendOrFail _ _)
  · exact emitsLast_bind_pure _ (emitsLast_sendOrFail _ _)

/-! ### Send discipline -/

/-- The steps that hand a message to the callback: an offer from `Initial` or
`ProposalReceived`, and `CredentialSend` from `RequestReceived`. -/
def emits : IssuerState → CredentialIssuanceMessage → Bool
  | .initial, .credentialOfferSend _ _ | .proposalReceived, .credentialOfferSend _ _
  | .requestReceived, .credentialSend => true
  | _, _ => false

theorem handleMessage_eq_bind (env : Env) (sm : IssuerSM) (cim : CredentialIssuanceMessage)
    (sendMessage : Option SendMessage) :
    handleMessage env sm cim sendMessage =
      (Traced.lift (verifyThreadId sm.threadId cim) >>= fun _ =>
        dispatch env sm cim sendMessage >>= fun r => pure (IssuerSM.step sm.sourceId r.2 r.1)) := rfl

theorem dispatch_silent {env : Env} {sm : IssuerSM} {cim : CredentialIssuanceMessage}
    {sendMessage : Option SendMessage} (h : emits sm.getState cim = false) :
    (dispatch env sm cim sendMessage).sends = [] := by
  rcases sm with ⟨sourceId, threadId, _ | _ | _ | _ | _ | ⟨_ | _ | _, _⟩⟩ <;> cases cim <;>
    first | rfl | cases h

theorem dispatch_emitsLast {env : Env} {sm : IssuerSM} {cim : CredentialIssuanceMessage}
    {sendMessage : Option SendMessage} (h : emits sm.getState cim = true) :
    EmitsLast sendMessage (dispatch env sm cim sendMessage) := by
  rcases sm with ⟨sourceId, threadId, _ | _ | _ | _ | _ | ⟨_ | _ | _, _⟩⟩ <;> cases cim <;> cases h
  · exact emitsLast_bind_pure _ (emitsLast_sendOffer _ _ _ _ _)
  · exact emitsLast_bind_pure _ (emitsLast_sendOffer _ _ _ _ _)
  · exact emitsLast_credentialSend _ _ _ _

/-- A step is silent unless it is an emitting one, which has the emitting shape. -/
theorem handleMessage_sends_shape (env : Env) (sm : IssuerSM) (cim : CredentialIssuanceMessage)
    (sendMessage : Option SendMessage) :
    (emits sm.getState cim = false ∧ (handleMessage env sm cim sendMessage).sends = []) ∨
      (emits sm.getState cim = true ∧ EmitsLast sendMessage (handleMessage env sm cim sendMessage)) := by
  rw [handleMessage_eq_bind]
  cases hem : emits sm.getState cim
  · refine .inl ⟨rfl, Traced.sends_bind_of_silent ?_ _ fun _ =>
      Traced.sends_bind_of_silent (dispatch_silent hem) _ fun _ => ?_⟩ <;> rfl
  · exact .inr ⟨rfl, emitsLast_bind_silent rfl fun _ => emitsLast_bind_pure _ (dispatch_emitsLast hem)⟩

/-! ### Outbound thread correlation -/

/-- What a call of a step from `sm` may be when the step gives the machine thread `tid`: an
offer from `Initial` carries `tid` as its `@id`, every other outbound message carries it as
its `~thread`, and the backend issues only for a stored request on `tid`. -/
def ThreadBound (sm : IssuerSM) (tid : String) : Call → Prop
  | .send (.credentialOffer o) =>
    (sm.getState = .initial ∧ o.id = tid) ∨ (sm.getState = .proposalReceived ∧ o.thread = some ⟨tid⟩)
  | .send (.credential c) =>
    c.thread = some ⟨tid⟩ ∧ ∃ d, sm.state = .requestReceived d ∧ d.request.fromThread tid = true
  | .send (.commonProblemReport pr) => sm.getState = .requestReceived ∧ pr.thread = some ⟨tid⟩
  | .send _ => False
  | .createCredential .. => ∃ d, sm.state = .requestReceived d ∧ d.request.fromThread tid = true
  | _ => True

/-- `_create_credential` makes one kind of call, to the backend's `create_credential`, and
only for a request on the thread. -/
theorem createCredential_callsAll (env : Env) (request : CredentialRequest)
    (revRegId tailsFile : Option String) (offer credData threadId : String) :
    Traced.CallsAll (fun c => (∃ o r cd, c = .createCredential o r cd revRegId tailsFile) ∧
        request.fromThread threadId = true)
      (createCredential env request revRegId tailsFile offer credData threadId) := by
  unfold createCredential
  split
  · exact Traced.callsAll_of_calls_nil rfl
  · refine Traced.callsAll_bind (Traced.callsAll_of_calls_nil rfl) fun r _ => ?_
    refine Traced.callsAll_bind (Traced.callsAll_of_calls_nil rfl) fun cd _ => ?_
    refine Traced.callsAll_bind (fun c hc => ⟨⟨offer, r, cd, by simpa [Traced.call] using hc⟩,
      by simpa using ‹¬request.fromThread threadId = false›⟩) fun ⟨_, _⟩ _ => ?_
    exact Traced.callsAll_bind (Traced.callsAll_of_calls_nil rfl) fun _ _ => Traced.callsAll_of_calls_nil rfl

theorem createCredential_fromThread {env : Env} {request : CredentialRequest}
    {revRegId tailsFile : Option String} {offer credData threadId : String} {r : Credential × Option String}
    (h : (createCredential env request revRegId tailsFile offer credData threadId).result = .ok r) :
    request.fromThread threadId = true := by
  unfold createCredential at h
  split at h
  · cases h
  · simpa using ‹¬request.fromThread threadId = false›

/-- The offer an offer-sending arm hands over carries the thread binding `bindThread` gave it. -/
theorem sendOffer_callsAll (env : Env) (sendMessage : Option SendMessage) (offerInfo : OfferInfo)
    (comment : Option String) (bindThread : CredentialOffer → CredentialOffer) :
    Traced.CallsAll (fun c => c = .createCredentialOffer offerInfo.credDefId ∨
        ∃ o, c = .send (.credentialOffer o) ∧ o.header = (bindThread (CredentialOffer.create env.freshId)).header)
      (sendOffer env sendMessage offerInfo comment bindThread) := by
  refine Traced.callsAll_bind (fun c hc => .inl (by simpa [Traced.call] using hc)) fun credOffer _ => ?_
  refine Traced.callsAll_bind (Traced.callsAll_of_calls_nil rfl) fun m₁ h₁ => ?_
  refine Traced.callsAll_bind (Traced.callsAll_of_calls_nil rfl) fun m₂ h₂ => ?_
  refine Traced.callsAll_bind (fun c hc => .inr ⟨m₂, ?_, ?_⟩) fun _ _ => Traced.callsAll_of_calls_nil rfl
  · cases sendMessage <;> simp_all [sendOrFail, Traced.call, Traced.lift]
  · have h₁ : m₁.header = _ := setOffersAttach_header h₁
    exact (appendCredentialPreview_header h₂).trans h₁

theorem sendOrFail_callsAll {P : Call → Prop} (sendMessage : Option SendMessage) (msg : A2AMessage)
    (h : P (.send msg)) : Traced.CallsAll P (sendOrFail sendMessage msg) := by
  cases sendMessage <;> simp_all [Traced.CallsAll, sendOrFail, Traced.call, Traced.lift]

theorem dispatch_threadBound (env : Env) (sm : IssuerSM) (cim : CredentialIssuanceMessage)
    (sendMessage : Option SendMessage) :
    Traced.CallsAll (ThreadBound sm (nextThreadId sm cim)) (dispatch env sm cim sendMessage) := by
  rcases sm with ⟨sourceId, threadId, state⟩
  cases state with
  | initial d =>
    cases cim
    case credentialOfferSend offerInfo comment =>
      refine Traced.callsAll_bind (Traced.callsAll_mono ?_ (sendOffer_callsAll _ _ _ _ _))
        fun _ _ => Traced.callsAll_of_calls_nil rfl
      rintro c (rfl | ⟨o, rfl, ho⟩)
      · trivial
      · exact .inl ⟨rfl, congrArg Prod.fst ho⟩
    all_goals exact Traced.callsAll_of_calls_nil rfl
  | proposalReceived d =>
    cases cim
    case credentialOfferSend offerInfo comment =>
      refine Traced.callsAll_bind (Traced.callsAll_mono ?_ (sendOffer_callsAll _ _ _ _ _))
        fun _ _ => Traced.callsAll_of_calls_nil rfl
      rintro c (rfl | ⟨o, rfl, ho⟩)
      · trivial
      · exact .inr ⟨rfl, congrArg Prod.snd ho⟩
    all_goals exact Traced.callsAll_of_calls_nil rfl
  | requestReceived d =>
    cases cim
    case credentialSend =>
      refine Traced.callsAll_bind (Traced.callsAll_mono ?_ (createCredential_callsAll _ _ _ _ _ _ _))
        fun r hr => ?_
      · rintro c ⟨⟨o, r, cd, rfl⟩, hf⟩
        exact ⟨d, rfl, hf⟩
      simp only [Traced.attempt_result, Except.ok.injEq] at hr
      rcases r with err | ⟨credential, credRevId⟩
      · exact Traced.callsAll_bind (sendOrFail_callsAll _ _ ⟨rfl, rfl⟩)
          fun _ _ => Traced.callsAll_of_calls_nil rfl
      · exact Traced.callsAll_bind (sendOrFail_callsAll _ _ ⟨rfl, d, rfl, createCredential_fromThread hr⟩)
          fun _ _ => Traced.callsAll_of_calls_nil rfl
    all_goals exact Traced.callsAll_of_calls_nil rfl
  | _ => cases cim <;> exact Traced.callsAll_of_calls_nil rfl

theorem handleMessage_threadBound (env : Env) (sm : IssuerSM) (cim : CredentialIssuanceMessage)
    (sendMessage : Option SendMessage) :
    Traced.CallsAll (ThreadBound sm (nextThreadId sm cim)) (handleMessage env sm cim sendMessage) := by
  rw [handleMessage_eq_bind]
  exact Traced.callsAll_bind (Traced.callsAll_of_calls_nil rfl) fun _ _ =>
    Traced.callsAll_bind (dispatch_threadBound _ _ _ _) fun _ _ => Traced.callsAll_of_calls_nil rfl

/-- A request not on the thread is answered with a problem report on the thread. -/
theorem credentialSend_foreign_request (env : Env) (sm : IssuerSM) (d : RequestReceivedState)
    (cb : SendMessage) (hs : sm.state = .requestReceived d)
    (hf : d.request.fromThread sm.threadId = false) :
    (handleMessage env sm .credentialSend (some cb)).sends =
      [.commonProblemReport (failureReport env (foreignRequestError d.request) sm.threadId)] := by
  rcases sm with ⟨sourceId, threadId, state⟩
  subst hs
  rcases hcb : cb (.commonProblemReport (failureReport env (foreignRequestError d.request) threadId))
    with e | u <;>
    simp [handleMessage_eq_bind, verifyThreadId, CredentialIssuanceMessage.checkedThreadRef, dispatch,
      handleRequestReceived, createCredential, hf, sendOrFail, Traced.sends, Traced.call, Traced.lift,
      Traced.attempt, hcb, Call.sent]

/-- Every message the issuer hands over is bound to the thread of the state the step returns,
and the backend issues only for a stored request on that thread; a stored request on another
thread is answered with a problem report on the thread. -/
theorem handleMessage_outbound_thread (env : Env) (sm : IssuerSM) (cim : CredentialIssuanceMessage)
    (sendMessage : Option SendMessage) :
    let t := handleMessage env sm cim sendMessage
    (∀ s', t.result = .ok s' → s'.threadId = nextThreadId sm cim) ∧
      Traced.CallsAll (ThreadBound sm (nextThreadId sm cim)) t ∧
      (∀ d cb, cim = .credentialSend → sm.state = .requestReceived d →
        d.request.fromThread (nextThreadId sm cim) = false → sendMessage = some cb →
        ∃ pr, t.sends = [.commonProblemReport pr] ∧ pr.thread = some ⟨nextThreadId sm cim⟩) := by
  refine ⟨fun s' h => handleMessage_threadId h, handleMessage_threadBound env sm cim sendMessage,
    fun d cb hc hs hf hcb => ?_⟩
  have hn : nextThreadId sm cim = sm.threadId := by simp [nextThreadId, hs, hc]
  subst hc hcb
  rw [hn] at hf ⊢
  exact ⟨_, credentialSend_foreign_request env sm d cb hs hf, rfl⟩

/-! ### What each emitting step sends -/

/-- The message an emitting step hands to the callback: a `CredentialOffer` for
`CredentialOfferSend` in `Initial` or `ProposalReceived`; for `CredentialSend` in
`RequestReceived`, the credential on the thread when `_create_credential` succeeded, else the
problem report on the thread. -/
def SentFor (env : Env) (sm : IssuerSM) (cim : CredentialIssuanceMessage) (m : A2AMessage) : Prop :=
  match sm.state, cim with
  | .initial _, .credentialOfferSend _ _ | .proposalReceived _, .credentialOfferSend _ _ =>
    ∃ o, m = .credentialOffer o
  | .requestReceived d, .credentialSend =>
    match (createCredential env d.request d.revRegId d.tailsFile d.offer d.credData sm.threadId).result with
    | .ok (credential, _) => m = .credential (credential.setThreadId sm.threadId)
    | .error err => m = .commonProblemReport (failureReport env err sm.threadId)
  | _, _ => False

theorem dispatch_sentFor (env : Env) (sm : IssuerSM) (cim : CredentialIssuanceMessage)
    (sendMessage : Option SendMessage) :
    Traced.CallsAll (fun c => ∀ m, c = .send m → SentFor env sm cim m)
      (dispatch env sm cim sendMessage) := by
  rcases sm with ⟨sourceId, threadId, state⟩
  cases state with
  | initial d | proposalReceived d =>
    cases cim
    case credentialOfferSend offerInfo comment =>
      refine Traced.callsAll_bind (Traced.callsAll_mono ?_ (sendOffer_callsAll _ _ _ _ _))
        fun _ _ => Traced.callsAll_of_calls_nil rfl
      rintro c (rfl | ⟨o, rfl, -⟩) m hm <;> cases hm
      exact ⟨o, rfl⟩
    all_goals exact Traced.callsAll_of_calls_nil rfl
  | requestReceived d =>
    cases cim
    case credentialSend =>
      refine Traced.callsAll_bind (Traced.callsAll_mono ?_ (createCredential_callsAll _ _ _ _ _ _ _))
        fun r hr => ?_
      · rintro c ⟨⟨o, r, cd, rfl⟩, -⟩ m hm
        cases hm
      simp only [Traced.attempt_result, Except.ok.injEq] at hr
      rcases r with err | ⟨credential, credRevId⟩ <;>
        refine Traced.callsAll_bind (sendOrFail_callsAll _ _ fun m hm => ?_)
          fun _ _ => Traced.callsAll_of_calls_nil rfl <;>
        cases hm <;>
        simp only [SentFor, hr]
    all_goals exact Traced.callsAll_of_calls_nil rfl
  | _ => cases cim <;> exact Traced.callsAll_of_calls_nil rfl

/-- Each message a step hands over is the one its arm sends. -/
theorem handleMessage_sentFor {env : Env} {sm : IssuerSM} {cim : CredentialIssuanceMessage}
    {sendMessage : Option SendMessage} {m : A2AMessage}
    (hm : m ∈ (handleMessage env sm cim sendMessage).sends) : SentFor env sm cim m := by
  have h : Traced.CallsAll (fun c => ∀ m, c = .send m → SentFor env sm cim m)
      (handleMessage env sm cim sendMessage) := by
    rw [handleMessage_eq_bind]
    exact Traced.callsAll_bind (Traced.callsAll_of_calls_nil rfl) fun _ _ =>
      Traced.callsAll_bind (dispatch_sentFor _ _ _ _) fun _ _ => Traced.callsAll_of_calls_nil rfl
  exact h _ (Traced.mem_sends hm) m rfl

/-- The callback is called at most once; a failed step handed over only refused messages; a
successful step handed over exactly one accepted message iff it is an emitting step; and what
is handed over is the step's own message: an offer, or the credential or the problem report
the backend's outcome calls for. -/
theorem handleMessage_send_discipline (env : Env) (sm : IssuerSM) (cim : CredentialIssuanceMessage)
    (sendMessage : Option SendMessage) :
    let t := handleMessage env sm cim sendMessage
    t.sends.length ≤ 1 ∧
      (∀ e, t.result = .error e → ∀ cb, sendMessage = some cb → ∀ m ∈ t.sends, ∃ e', cb m = .error e') ∧
      (∀ s', t.result = .ok s' →
        ((∃ cb m, sendMessage = some cb ∧ t.sends = [m] ∧ cb m = .ok ()) ↔ emits sm.getState cim = true)) ∧
      (∀ m ∈ t.sends, SentFor env sm cim m) := by
  refine ⟨?_, ?_, ?_, fun m hm => handleMessage_sentFor hm⟩ <;>
    rcases handleMessage_sends_shape env sm cim sendMessage with ⟨hem, hs⟩ | ⟨hem, hx⟩
  · simp [hs]
  · exact hx.sends_spec.1
  · simp [hs]
  · exact hx.sends_spec.2.1
  · simp [hs, hem]
  · exact fun s' hs' => ⟨fun _ => hem, fun _ => hx.sends_spec.2.2 s' hs'⟩

end CredentialIssuance
