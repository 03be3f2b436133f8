/-
The issuer as its peer sees it: on which thread what it delivers arrives, and what it
accepts but can never serve.

The peer files an offer, and what answers it, under the offer's `get_thread_id()`: the
offer's `~thread` if it joins a thread, else its own `@id`.  The issuer's thread moves when
it answers a stored proposal (`fromProposal_offer_changes_thread`), so that correlation is a
property of whole sessions, not of one call.

* `session_answers_last_offer` — over any session that starts before an offer was made,
  whatever the collaborators and callbacks answer, every credential and every problem report
  that reaches the peer is on the thread of the last offer that reached it;
* `session_offers_then_answer` — over any session the peer receives offers, then at most one
  credential or problem report, after which nothing: the issuer has finished, and a finished
  issuer stays as it is and delivers nothing;
* `handleMessage_thread_gating` — a credential, an ack or a problem report from another
  thread is rejected with no call; a proposal or a request is not checked, so an `Initial`
  issuer adopts any proposal and an `OfferSent` one stores any proposal or request, but a
  request from another thread is never issued (`foreign_request_never_issued`): its
  `CredentialSend` only tries to send a problem report and ends the interaction failed, as
  the repository's test of a request on another thread expects
  (`offerSent_foreign_request_accepted`);
* `offer_preview_rejected` — a `credential_json` the preview rejects is caught after the
  backend created the offer and before anything is handed to the callback.

Design notes: the trace property is a structural recursion over the delivered messages that
carries the last offer (`answersOffers`), read as a statement about every position by
`answersOffers_iff`; the session invariant `OnLastOffer` is kept by one call
(`handleMessage_onLastOffer`), from which the session lemma is an induction over the calls.
-/
import CredentialIssuance.Issuer.Session

namespace CredentialIssuance

open IssuerSM

/-! ### What the peer correlates -/

/-- The offer a message is, if it is one. -/
def A2AMessage.offer? : A2AMessage → Option CredentialOffer
  | .credentialOffer o => some o
  | _ => none

/-- The `~thread` of a message that concludes the exchange: a credential, or the problem
report sent in its place. -/
def A2AMessage.answerThread? : A2AMessage → Option (Option Thread)
  | .credential c => some c.thread
  | .commonProblemReport pr => some pr.thread
  | _ => none

theorem A2AMessage.offer?_eq_none {m : A2AMessage} {th : Option Thread}
    (h : m.answerThread? = some th) : m.offer? = none := by
  cases m <;> first | rfl | cases h

/-- The last offer among `ms`, `last` being the last one before them. -/
def lastOffer (last : Option CredentialOffer) (ms : List A2AMessage) : Option CredentialOffer :=
  ms.foldl (fun l m => m.offer?.or l) last

/-- `m`, if it concludes the exchange, is on the thread under which the peer filed the offer
`last`. -/
def answers (last : Option CredentialOffer) (m : A2AMessage) : Bool :=
  m.answerThread?.all fun th => last.any fun o => decide (th = some ⟨o.getThreadId⟩)

/-- Every message of `ms` that concludes the exchange answers the last offer before it,
`last` being the last one before `ms`. -/
def answersOffers : Option CredentialOffer → List A2AMessage → Bool
  | _, [] => true
  | last, m :: ms => answers last m && answersOffers (m.offer?.or last) ms

theorem answersOffers_append (last : Option CredentialOffer) (xs ys : List A2AMessage) :
    answersOffers last (xs ++ ys) =
      (answersOffers last xs && answersOffers (lastOffer last xs) ys) := by
  induction xs generalizing last with
  | nil => simp [answersOffers, lastOffer]
  | cons m xs ih => simp [answersOffers, lastOffer, ih, Bool.and_assoc]

/-- The check read position by position: each message that concludes the exchange answers
the last offer before it. -/
theorem answersOffers_iff (last : Option CredentialOffer) (ms : List A2AMessage) :
    answersOffers last ms = true ↔
      ∀ pre m post, ms = pre ++ m :: post → answers (lastOffer last pre) m = true := by
  induction ms generalizing last with
  | nil => simp [answersOffers]
  | cons x xs ih =>
    simp only [answersOffers, Bool.and_eq_true, ih]
    constructor
    · rintro ⟨hx, hxs⟩ (_ | ⟨y, pre⟩) m post h
      · obtain ⟨rfl, rfl⟩ := List.cons.inj h
        exact hx
      · obtain ⟨rfl, rfl⟩ := List.cons.inj h
        exact hxs pre m post rfl
    · intro h
      exact ⟨h [] x xs rfl, fun pre m post hp => h (x :: pre) m post (by rw [hp]; rfl)⟩

/-! ### One call -/

/-- An offer handed over is filed by the peer under thread `tid`. -/
def OfferOnThread (tid : String) : Call → Prop
  | .send (.credentialOffer o) => o.getThreadId = tid
  | _ => True

theorem dispatch_offerOnThread (env : Env) (sm : IssuerSM) (cim : CredentialIssuanceMessage)
    (sendMessage : Option SendMessage) :
    Traced.CallsAll (OfferOnThread (nextThreadId sm cim)) (dispatch env sm cim sendMessage) := by
  rcases sm with ⟨sourceId, threadId, state⟩
  cases state with
  | initial d | proposalReceived d =>
    cases cim
    case credentialOfferSend offerInfo comment =>
      refine Traced.callsAll_bind (Traced.callsAll_mono ?_ (sendOffer_callsAll _ _ _ _ _))
        fun _ _ => Traced.callsAll_of_calls_nil rfl
      rintro c (rfl | ⟨o, rfl, ho⟩)
      · trivial
      · simp only [CredentialOffer.header, Prod.mk.injEq] at ho
        simp [OfferOnThread, CredentialOffer.getThreadId, threadIdOf, ho, nextThreadId,
          CredentialOffer.setId, CredentialOffer.setThreadId, CredentialOffer.create]
    all_goals exact Traced.callsAll_of_calls_nil rfl
  | requestReceived d =>
    refine Traced.callsAll_mono (fun c hc => ?_) (dispatch_threadBound env _ cim sendMessage)
    rcases c with _ | _ | _ | _ | ⟨_ | o | _ | _ | _ | _ | _ | _⟩ <;> try trivial
    simp [ThreadBound, getState] at hc
  | _ => cases cim <;> exact Traced.callsAll_of_calls_nil rfl

theorem handleMessage_offerOnThread (env : Env) (sm : IssuerSM) (cim : CredentialIssuanceMessage)
    (sendMessage : Option SendMessage) :
    Traced.CallsAll (OfferOnThread (nextThreadId sm cim)) (handleMessage env sm cim sendMessage) := by
  rw [handleMessage_eq_bind]
  exact Traced.callsAll_bind (Traced.callsAll_of_calls_nil rfl) fun _ _ =>
    Traced.callsAll_bind (dispatch_offerOnThread _ _ _ _) fun _ _ => Traced.callsAll_of_calls_nil rfl

/-- Each message handed over is an offer filed under the thread the step gives the machine, or
an answer on the machine's thread, sent while the machine waited for one. -/
theorem handleMessage_sent {env : Env} {sm : IssuerSM} {cim : CredentialIssuanceMessage}
    {sendMessage : Option SendMessage} {m : A2AMessage}
    (hm : m ∈ (handleMessage env sm cim sendMessage).sends) :
    (∃ o, m = .credentialOffer o ∧ o.getThreadId = nextThreadId sm cim) ∨
      ((offerData sm).isSome ∧ m.answerThread? = some (some ⟨sm.threadId⟩)) := by
  have hc := Traced.mem_sends hm
  have hb := handleMessage_threadBound env sm cim sendMessage _ hc
  cases m with
  | credentialOffer o => exact .inl ⟨o, rfl, handleMessage_offerOnThread env sm cim sendMessage _ hc⟩
  | credential c =>
    obtain ⟨hth, d, hs, -⟩ := hb
    refine .inr ⟨by simp [offerData, hs], ?_⟩
    simpa [A2AMessage.answerThread?, nextThreadId, hs] using hth
  | commonProblemReport pr =>
    obtain ⟨hs, hth⟩ := hb
    rcases sm with ⟨sourceId, threadId, _ | _ | _ | d | _ | ⟨_ | _ | _, _⟩⟩ <;>
      simp only [getState, reduceCtorEq] at hs
    exact .inr ⟨rfl, by simpa [A2AMessage.answerThread?, nextThreadId] using hth⟩
  | _ => cases hb

/-- A step that leaves the machine waiting for an answer kept it waiting on its thread, or is an
emitting step from a machine that was not waiting. -/
theorem Transition.waiting {env : Env} {sm s' : IssuerSM} {cim : CredentialIssuanceMessage}
    (h : Transition env sm cim s') (hs' : (offerData s').isSome) :
    ((offerData sm).isSome ∧ s'.threadId = sm.threadId) ∨
      (emits sm.getState cim = true ∧ (offerData sm).isSome = false) := by
  rcases sm with ⟨sourceId, threadId, state⟩
  cases h with
  | drop => exact .inl ⟨hs', rfl⟩
  | offerFromInitial _ _ _ _ hs _ | offerFromProposal _ _ _ _ hs _ =>
    cases hs
    exact .inr ⟨rfl, rfl⟩
  | request _ _ hs =>
    cases hs
    exact .inl ⟨rfl, rfl⟩
  | _ => cases hs'

/-- A successful emitting step hands exactly one message over. -/
theorem handleMessage_sends_of_emits {env : Env} {sm s' : IssuerSM} {cim : CredentialIssuanceMessage}
    {sendMessage : Option SendMessage} (hem : emits sm.getState cim = true)
    (hok : (handleMessage env sm cim sendMessage).result = .ok s') :
    ∃ m, (handleMessage env sm cim sendMessage).sends = [m] := by
  rcases handleMessage_sends_shape env sm cim sendMessage with ⟨hem', -⟩ | ⟨-, hx⟩
  · rw [hem] at hem'
    cases hem'
  · obtain ⟨-, m, -, hm, -⟩ := hx.sends_spec.2.2 s' hok
    exact ⟨m, hm⟩

/-- A machine that waits for an answer is on the thread of the last offer delivered. -/
def OnLastOffer (last : Option CredentialOffer) (sm : IssuerSM) : Prop :=
  (offerData sm).isSome → ∃ o, last = some o ∧ o.getThreadId = sm.threadId

/-- One call keeps the invariant, and what it delivers answers the last offer. -/
theorem handleMessage_onLastOffer (env : Env) (sm : IssuerSM) (cim : CredentialIssuanceMessage)
    (sendMessage : Option SendMessage) {last : Option CredentialOffer} (h : OnLastOffer last sm) :
    answersOffers last (delivered (handleMessage env sm cim sendMessage)) = true ∧
      OnLastOffer (lastOffer last (delivered (handleMessage env sm cim sendMessage)))
        (kept sm (handleMessage env sm cim sendMessage)) := by
  set t := handleMessage env sm cim sendMessage with ht
  rcases hr : t.result with e | s'
  · simpa [delivered, kept, hr, answersOffers, lastOffer] using h
  have hstay : (offerData sm).isSome → s'.threadId = sm.threadId → OnLastOffer last s' :=
    fun hsm hth _ => (h hsm).imp fun o ho => ⟨ho.1, ho.2.trans hth.symm⟩
  simp only [delivered, kept, hr]
  rcases hs : t.sends with _ | ⟨m, _ | ⟨m', rest⟩⟩
  · refine ⟨rfl, fun hs' => ?_⟩
    rcases (handleMessage_transition hr).waiting hs' with ⟨hsm, hth⟩ | ⟨hem, -⟩
    · exact hstay hsm hth hs'
    · obtain ⟨m, hm⟩ := handleMessage_sends_of_emits hem hr
      rw [← ht, hs] at hm
      cases hm
  · rcases handleMessage_sent (hs ▸ List.mem_singleton_self m) with ⟨o, rfl, ho⟩ | ⟨hsm, hth⟩
    · refine ⟨by simp [answersOffers, answers, A2AMessage.answerThread?], fun _ => ⟨o, rfl, ?_⟩⟩
      rw [ho, handleMessage_threadId hr]
    · obtain ⟨o, hl, ho⟩ := h hsm
      refine ⟨by simp [answersOffers, answers, hth, hl, ho], ?_⟩
      simp only [lastOffer, List.foldl_cons, List.foldl_nil, A2AMessage.offer?_eq_none hth,
        Option.none_or]
      intro hs'
      rcases (handleMessage_transition hr).waiting hs' with ⟨-, hth'⟩ | ⟨-, hsm'⟩
      · exact hstay hsm hth' hs'
      · rw [hsm] at hsm'
        cases hsm'
  · have hlen := delivered_length_le env sm cim sendMessage
    rw [← ht] at hlen
    simp [delivered, hr, hs] at hlen

/-! ### Sessions -/

theorem session_onLastOffer (sm : IssuerSM) (calls : List HandleCall) {last : Option CredentialOffer}
    (h : OnLastOffer last sm) : answersOffers last (session sm calls).2 = true := by
  induction calls generalizing sm last with
  | nil => rfl
  | cons c calls ih =>
    obtain ⟨hd, hk⟩ := handleMessage_onLastOffer c.env sm c.cim c.sendMessage h
    simp only [session, answersOffers_append, hd, ih _ hk, Bool.and_self]

/-- Over any session that starts before an offer was made, whatever the collaborators and
callbacks answer, every credential and every problem report that reaches the peer is on the
thread under which the peer filed the last offer that reached it before. -/
theorem session_answers_last_offer (sm : IssuerSM) (calls : List HandleCall)
    (hstart : offerData sm = none) :
    ∀ pre m post, (session sm calls).2 = pre ++ m :: post → answers (lastOffer none pre) m = true :=
  (answersOffers_iff none _).1 (session_onLastOffer sm calls fun h => by simp [hstart] at h)

/-- The calls of the exhibited session: an offer, a request on its thread, then issuing. -/
def sampleCalls : List HandleCall :=
  [⟨acceptingEnv, .credentialOfferSend ⟨"[]", "cred_def", none, none⟩ none, acceptingSend⟩,
    ⟨acceptingEnv, .credentialRequest sampleRequest, acceptingSend⟩,
    ⟨acceptingEnv, .credentialSend, acceptingSend⟩]

theorem session_answers_last_offer_new :
    offerData (.new "s" "t") = none ∧
      ∀ pre m post, (session (.new "s" "t") sampleCalls).2 = pre ++ m :: post →
        answers (lastOffer none pre) m = true :=
  ⟨rfl, session_answers_last_offer _ _ rfl⟩

/-! ### What the peer receives -/

theorem mem_delivered {t : Traced IssuerSM} {m : A2AMessage} (h : m ∈ delivered t) :
    ∃ s', t.result = .ok s' ∧ m ∈ t.sends := by
  unfold delivered at h
  split at h
  · exact ⟨_, ‹_›, h⟩
  · cases h

/-- A successful call that delivers an answer finishes the interaction. -/
theorem handleMessage_answer_finishes {env : Env} {sm s' : IssuerSM}
    {cim : CredentialIssuanceMessage} {sendMessage : Option SendMessage} {m : A2AMessage}
    (hm : m ∈ (handleMessage env sm cim sendMessage).sends) (ha : m.answerThread?.isSome)
    (hok : (handleMessage env sm cim sendMessage).result = .ok s') : s'.isTerminalState = true := by
  have hem : emits sm.getState cim = true := by
    rcases handleMessage_sends_shape env sm cim sendMessage with ⟨-, hnil⟩ | ⟨h, -⟩
    · rw [hnil] at hm
      cases hm
    · exact h
  have hsm : (offerData sm).isSome := by
    rcases handleMessage_sent hm with ⟨o, rfl, -⟩ | ⟨h, -⟩
    · cases ha
    · exact h
  rcases sm with ⟨sourceId, threadId, _ | _ | d | d | _ | _⟩ <;> try cases hsm
  · cases cim <;> cases hem
  · cases cim <;> try cases hem
    cases handleMessage_transition hok with
    | drop _ hh => cases hh
    | _ => rfl

/-- A finished issuer stays as it is and delivers nothing, over any session. -/
theorem session_terminal {sm : IssuerSM} (calls : List HandleCall) (hterm : sm.isTerminalState = true) :
    session sm calls = (sm, []) := by
  induction calls with
  | nil => rfl
  | cons c calls ih =>
    obtain ⟨hnil, hsame⟩ := handleMessage_terminal c.env sm c.cim c.sendMessage hterm
    have hkept : kept sm (handleMessage c.env sm c.cim c.sendMessage) = sm := by
      unfold kept
      split
      · exact hsame _ ‹_›
      · rfl
    have hdel : delivered (handleMessage c.env sm c.cim c.sendMessage) = [] := by
      unfold delivered
      split <;> simp [Traced.sends, hnil]
    simp only [session, hkept, hdel, ih, List.nil_append]

/-- Over any session, whatever the collaborators and callbacks answer, the peer receives offers
and then at most one answer, a credential or a problem report, after which nothing: a session
that delivered an answer leaves the caller holding a finished issuer, and a finished issuer
stays as it is and delivers nothing. -/
theorem session_offers_then_answer (sm : IssuerSM) (calls : List HandleCall) :
    (∃ (offers : List CredentialOffer) (answer : Option A2AMessage),
      (session sm calls).2 = offers.map .credentialOffer ++ answer.toList ∧
        ∀ m ∈ answer, m.answerThread?.isSome ∧ (session sm calls).1.isTerminalState = true) ∧
    (sm.isTerminalState = true → session sm calls = (sm, [])) := by
  refine ⟨?_, session_terminal calls⟩
  induction calls generalizing sm with
  | nil => exact ⟨[], none, rfl, by simp⟩
  | cons c calls ih =>
    have hlen := delivered_length_le c.env sm c.cim c.sendMessage
    simp only [session]
    rcases hd : delivered (handleMessage c.env sm c.cim c.sendMessage) with _ | ⟨m, _ | ⟨m', rest⟩⟩
    · exact ih _
    · obtain ⟨s', hr, hm⟩ := mem_delivered (hd ▸ List.mem_singleton_self m)
      rcases handleMessage_sent hm with ⟨o, rfl, -⟩ | ⟨-, hth⟩
      · obtain ⟨offers, answer, hrest, hans⟩ := ih (kept sm (handleMessage c.env sm c.cim c.sendMessage))
        exact ⟨o :: offers, answer, by rw [hrest]; rfl, hans⟩
      · have hkept : kept sm (handleMessage c.env sm c.cim c.sendMessage) = s' := by simp [kept, hr]
        have hterm := handleMessage_answer_finishes hm (by simp [hth]) hr
        rw [hkept, session_terminal calls hterm]
        exact ⟨[], some m, rfl, by simp [hth, hterm]⟩
    · rw [hd] at hlen
      simp at hlen

/-! ### Thread gating -/

/-- A request from another thread passes the thread check in `OfferSent` and is stored, but it
is never issued: from the state it leads to, the only call of `CredentialSend` is the attempt
to send a problem report, and a successful call ends the interaction failed. -/
theorem foreign_request_never_issued (env : Env) (sm : IssuerSM) (d : OfferSentState)
    (r : CredentialRequest) (sendMessage : Option SendMessage) (hs : sm.state = .offerSent d)
    (hr : r.fromThread sm.threadId = false) :
    ∃ s', (handleMessage env sm (.credentialRequest r) sendMessage).result = .ok s' ∧
      s'.state = .requestReceived (.ofOfferSent d r) ∧
      ∀ env' sendMessage',
        (handleMessage env' s' .credentialSend sendMessage').calls =
          (sendOrFail sendMessage' (.commonProblemReport
            (failureReport env' (foreignRequestError r) sm.threadId))).calls ∧
        ∀ s'', (handleMessage env' s' .credentialSend sendMessage').result = .ok s'' →
          s''.getState = .failed := by
  rcases sm with ⟨sourceId, threadId, state⟩
  subst hs
  refine ⟨⟨sourceId, threadId, .requestReceived (.ofOfferSent d r)⟩, rfl, rfl, fun env' sendMessage' => ?_⟩
  have hf : (createCredential env' r d.revRegId d.tailsFile d.offer d.credData threadId) =
      .lift (.error (foreignRequestError r)) := by
    simp [createCredential, hr]
  cases sendMessage' with
  | none => simp [handleMessage_eq_bind, verifyThreadId, CredentialIssuanceMessage.checkedThreadRef, dispatch,
      handleRequestReceived, RequestReceivedState.ofOfferSent, hf, sendOrFail, Traced.lift,
      Traced.attempt]
  | some cb =>
    rcases hcb : cb (.commonProblemReport (failureReport env' (foreignRequestError r) threadId))
      with e | u <;>
      simp [handleMessage_eq_bind, verifyThreadId, CredentialIssuanceMessage.checkedThreadRef, dispatch,
        handleRequestReceived, RequestReceivedState.ofOfferSent, hf, sendOrFail, hcb, getState,
        FinishedState.ofRequestReceivedProblemReport, Traced.lift, Traced.attempt, Traced.call, step]

/-- A request without `~thread` is one from another thread. -/
example :
    let d : OfferSentState := .ofOfferInfoOffer ⟨"[]", "cred_def", none, none⟩ "offer"
    let r : CredentialRequest := ⟨"r", "request", none⟩
    let sm : IssuerSM := ⟨"s", "t", .offerSent d⟩
    ∃ s', (handleMessage acceptingEnv sm (.credentialRequest r) acceptingSend).result = .ok s' ∧
      s'.state = .requestReceived (.ofOfferSent d r) ∧
      ∀ env' sendMessage',
        (handleMessage env' s' .credentialSend sendMessage').calls =
          (sendOrFail sendMessage' (.commonProblemReport
            (failureReport env' (foreignRequestError r) sm.threadId))).calls ∧
        ∀ s'', (handleMessage env' s' .credentialSend sendMessage').result = .ok s'' →
          s''.getState = .failed :=
  foreign_request_never_issued acceptingEnv _ _ _ acceptingSend rfl rfl

/-- Thread gating as the code has it.  A credential, an ack or a problem report naming another
thread is rejected, with no call and no transition.  A proposal or a request is not checked:
in `Initial` any proposal is adopted under its own `@id`, in `OfferSent` any proposal is
stored, and any request moves the issuer to `RequestReceived`; a request from another thread
is then never issued, `CredentialSend` only trying to send a problem report and a successful
call ending the interaction failed. -/
theorem handleMessage_thread_gating (env : Env) (sm : IssuerSM) (sendMessage : Option SendMessage) :
    (∀ cim th, cim.checkedThreadRef = some th → th.thid ≠ sm.threadId →
      handleMessage env sm cim sendMessage = ⟨[], .error (threadMismatch sm.threadId)⟩) ∧
    (∀ d p, sm.state = .initial d →
      handleMessage env sm (.credentialProposal p) sendMessage =
        ⟨[], .ok ⟨sm.sourceId, p.id, .proposalReceived (.new p none)⟩⟩) ∧
    (∀ d p, sm.state = .offerSent d →
      handleMessage env sm (.credentialProposal p) sendMessage =
        ⟨[], .ok ⟨sm.sourceId, sm.threadId, .proposalReceived (.new p none)⟩⟩) ∧
    (∀ d r, sm.state = .offerSent d → r.fromThread sm.threadId = false →
      ∃ s', (handleMessage env sm (.credentialRequest r) sendMessage).result = .ok s' ∧
        s'.state = .requestReceived (.ofOfferSent d r) ∧
        ∀ env' sendMessage',
          (handleMessage env' s' .credentialSend sendMessage').calls =
            (sendOrFail sendMessage' (.commonProblemReport
              (failureReport env' (foreignRequestError r) sm.threadId))).calls ∧
          ∀ s'', (handleMessage env' s' .credentialSend sendMessage').result = .ok s'' →
            s''.getState = .failed) := by
  refine ⟨fun cim th href hne => handleMessage_of_checkedThreadRef env sm cim sendMessage th href hne,
    fun d p hs => ?_, fun d p hs => ?_,
    fun d r hs hr => foreign_request_never_issued env sm d r sendMessage hs hr⟩ <;>
  · rcases sm with ⟨sourceId, threadId, state⟩
    subst hs
    rfl

/-- The run of `test_issuer_credential_send_fails_with_incorrect_thread_id`: in `OfferSent`
on thread `testid`, a request on thread `testid_1` is accepted into `RequestReceived`,
and the `CredentialSend` that follows ends the interaction failed, with status 2. -/
theorem offerSent_foreign_request_accepted :
    let sm : IssuerSM := ⟨"source", "testid",
      .offerSent (.ofOfferInfoOffer ⟨"[]", "cred_def", none, none⟩ "offer")⟩
    let r : CredentialRequest := ⟨"request_1", "request", some ⟨"testid_1"⟩⟩
    ∃ s', (handleMessage acceptingEnv sm (.credentialRequest r) acceptingSend).result = .ok s' ∧
      s'.getState = .requestReceived ∧
      ∃ s'', (handleMessage acceptingEnv s' .credentialSend acceptingSend).result = .ok s'' ∧
        s''.getState = .failed ∧ s''.credentialStatus = 2 :=
  ⟨_, rfl, rfl, _, rfl, rfl, rfl⟩

/-! ### An offer with a rejected preview -/

/-- The offer step checks the preview after the backend created the offer and before the
callback: a rejected preview fails it with the backend call made and nothing sent. -/
theorem sendOffer_preview_rejected (env : Env) (sendMessage : Option SendMessage)
    (offerInfo : OfferInfo) (comment : Option String) (bindThread : CredentialOffer → CredentialOffer)
    {offer a : String} (hoffer : env.createCredentialOffer offerInfo.credDefId = .ok offer)
    (hattach : env.attach offer = .ok a)
    (hpreview : ¬ ∃ v, env.parseJson offerInfo.credentialJson = .ok v ∧
      ∀ xs, v = .array xs → ∀ x ∈ xs, (x.get "name").isSome ∧ (x.get "value").isSome) :
    ∃ e, sendOffer env sendMessage offerInfo comment bindThread =
        ⟨[.createCredentialOffer offerInfo.credDefId], .error e⟩ ∧
      (e.kind = .invalidJson ∨ e.kind = .invalidAttributesStructure) := by
  obtain ⟨e, he, hk⟩ := appendCredentialPreview_rejected hpreview
    (({ bindThread (CredentialOffer.create env.freshId) with offersAttach := a }).setComment comment)
  refine ⟨e, ?_, hk⟩
  simp [sendOffer, Traced.call, Traced.lift, hoffer, CredentialOffer.setOffersAttach, hattach, he]

/-- A `credential_json` the preview rejects is caught after the backend created the offer and
before anything is handed to the callback: in `Initial` and `ProposalReceived` the offer step
fails with an `InvalidJson` or `InvalidAttributesStructure` error, and its one collaborator
call is the backend's `create_credential_offer`. -/
theorem offer_preview_rejected (env : Env) (sm : IssuerSM) (offerInfo : OfferInfo)
    (comment : Option String) (sendMessage : Option SendMessage)
    (hs : sm.getState = .initial ∨ sm.getState = .proposalReceived)
    (hoffer : ∃ offer a, env.createCredentialOffer offerInfo.credDefId = .ok offer ∧ env.attach offer = .ok a)
    (hpreview : ¬ ∃ v, env.parseJson offerInfo.credentialJson = .ok v ∧
      ∀ xs, v = .array xs → ∀ x ∈ xs, (x.get "name").isSome ∧ (x.get "value").isSome) :
    let t : Traced IssuerSM := handleMessage env sm (.credentialOfferSend offerInfo comment) sendMessage
    t.calls = [.createCredentialOffer offerInfo.credDefId] ∧
      ∃ e, t.result = .error e ∧ (e.kind = .invalidJson ∨ e.kind = .invalidAttributesStructure) := by
  obtain ⟨offer, a, hoffer, hattach⟩ := hoffer
  rcases sm with ⟨sourceId, threadId, d | d | _ | _ | _ | ⟨_ | _ | _, _⟩⟩ <;>
    simp only [getState, reduceCtorEq, or_self] at hs
  · obtain ⟨e, he, hk⟩ := sendOffer_preview_rejected env sendMessage offerInfo comment
      (·.setId threadId) hoffer hattach hpreview
    simp [handleMessage_eq_bind, verifyThreadId, CredentialIssuanceMessage.checkedThreadRef, dispatch,
      handleInitial, he, Traced.lift, hk]
  · obtain ⟨e, he, hk⟩ := sendOffer_preview_rejected env sendMessage offerInfo comment
      (·.setThreadId d.credentialProposal.getThreadId) hoffer hattach hpreview
    simp [handleMessage_eq_bind, verifyThreadId, CredentialIssuanceMessage.checkedThreadRef, dispatch,
      handleProposalReceived, he, Traced.lift, hk]

/-- The accepting collaborators with a preview text that is not JSON. -/
def malformedPreviewEnv : Env := { acceptingEnv with parseJson := fun _ => .error "expected value" }

theorem offer_preview_rejected_new :
    let offerInfo : OfferInfo := ⟨"\x7b", "cred_def", none, none⟩
    ((IssuerSM.new "s" "t").getState = .initial ∨ (IssuerSM.new "s" "t").getState = .proposalReceived) ∧
      (∃ offer a, malformedPreviewEnv.createCredentialOffer offerInfo.credDefId = .ok offer ∧
        malformedPreviewEnv.attach offer = .ok a) ∧
      (¬ ∃ v, malformedPreviewEnv.parseJson offerInfo.credentialJson = .ok v ∧
        ∀ xs, v = .array xs → ∀ x ∈ xs, (x.get "name").isSome ∧ (x.get "value").isSome) ∧
    let t : Traced IssuerSM :=
      handleMessage malformedPreviewEnv (.new "s" "t") (.credentialOfferSend offerInfo none) acceptingSend
    t.calls = [.createCredentialOffer offerInfo.credDefId] ∧
      ∃ e, t.result = .error e ∧ (e.kind = .invalidJson ∨ e.kind = .invalidAttributesStructure) :=
  have hpreview : ¬ ∃ v, malformedPreviewEnv.parseJson "\x7b" = .ok v ∧
      ∀ xs, v = .array xs → ∀ x ∈ xs, (x.get "name").isSome ∧ (x.get "value").isSome :=
    fun ⟨_, h, _⟩ => by cases h
  ⟨.inl rfl, ⟨"offer", "offer", rfl, rfl⟩, hpreview,
    offer_preview_rejected malformedPreviewEnv (.new "s" "t") ⟨"\x7b", "cred_def", none, none⟩ none
      acceptingSend (.inl rfl) ⟨"offer", "offer", rfl, rfl⟩ hpreview⟩

end CredentialIssuance
