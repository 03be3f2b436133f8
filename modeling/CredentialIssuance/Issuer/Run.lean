/-
Runs of the issuer from `new()` or `from_proposal()` and the revocation data they carry
(`issuer/state_machine.rs`, lines 83–135, 222–306 and 387–401).

A caller drives the issuer by successive `handle_message` calls, each with the answers its
collaborators give at that moment; `Reachable sm last` says that `sm` is reached so, and
records the most recent offer made on the way: the offer info of the last
`CredentialOfferSend` handled in `Initial` or `ProposalReceived`, with the blob the backend
created for it.

* `reachable_revocation_bookkeeping` — every state waiting for the request or issuing holds
  the most recent offer's registry and tails file, whichever branch made the offer; issuing
  hands them to the backend and records them, with the backend's `cred_rev_id`, in the
  finished state;
* `reachable_revoke_reaches_backend_iff` — on a reachable finished or failed issuer, `revoke`
  reaches the backend iff `is_revokable` holds and the revocation info also names a
  `cred_rev_id` and a tails file (`revokable_without_tails_file`: it need not);
* `reachable_terminal_revocation` — on a reachable finished or failed issuer the revocation
  info is the most recent offer's, so both revocation queries report that offer's registry;
* `reachable_not_credentialSent` — no run reaches `CredentialSent`.

Design notes: what the offer fixes is read through `offerData`, the same for `OfferSent` and
`RequestReceived`; one lemma per invariant says what a row of `Transition` does to it
(`Transition.offerData_eq`, `Transition.storedRevocationInfo`, `Transition.recordsOffer`),
and the run lemmas are inductions over `Reachable` that cite only these.
-/
import CredentialIssuance.Issuer.Sends

namespace CredentialIssuance

open IssuerSM

/-! ### Runs -/

/-- The offer a step makes: a `CredentialOfferSend` handled in `Initial` or `ProposalReceived`
whose offer the backend created. -/
def offerMade (env : Env) (sm : IssuerSM) : CredentialIssuanceMessage → Option (OfferInfo × String)
  | .credentialOfferSend offerInfo _ =>
    match sm.state with
    | .initial _ | .proposalReceived _ =>
      (env.createCredentialOffer offerInfo.credDefId).toOption.map fun offer => (offerInfo, offer)
    | _ => none
  | _ => none

/-- `sm` is reached from `new()` or `from_proposal()` by successful `handle_message` calls,
each with its own collaborators and callback; `last` is the most recent offer made on the way. -/
inductive Reachable : IssuerSM → Option (OfferInfo × String) → Prop
  | new (sourceId freshId : String) : Reachable (.new sourceId freshId) none
  | fromProposal (sourceId : String) (p : CredentialProposal) :
    Reachable (.fromProposal sourceId p) none
  | step {sm s' : IssuerSM} {last : Option (OfferInfo × String)} (env : Env)
    (cim : CredentialIssuanceMessage) (sendMessage : Option SendMessage) :
    Reachable sm last → (handleMessage env sm cim sendMessage).result = .ok s' →
    Reachable s' ((offerMade env sm cim).or last)

/-- A dropped event makes no offer. -/
theorem offerMade_of_handles_false {env : Env} {sm : IssuerSM} {cim : CredentialIssuanceMessage}
    (h : handles sm.state cim = false) : offerMade env sm cim = none := by
  rcases sm with ⟨sourceId, threadId, state⟩
  cases cim <;> try rfl
  cases state <;> first | rfl | cases h

/-! ### What an offer fixes -/

/-- What an accepted offer fixes while the machine waits for the request and issues: the
offer blob, the credential data, the registry and the tails file. -/
def offerData (sm : IssuerSM) : Option OfferSentState :=
  match sm.state with
  | .offerSent d => some d
  | .requestReceived d => some ⟨d.offer, d.credData, d.revRegId, d.tailsFile⟩
  | _ => none

/-- The data an offer info and an offer blob fix. -/
def OfferSentState.ofOffer (o : OfferInfo × String) : OfferSentState :=
  .ofOfferInfoOffer o.1 o.2

/-- After a step, the offer data is that of the offer the step made, or it is unchanged. -/
theorem Transition.offerData_eq {env : Env} {sm s' : IssuerSM} {cim : CredentialIssuanceMessage}
    (h : Transition env sm cim s') {d : OfferSentState} (hd : offerData s' = some d) :
    (offerMade env sm cim).map OfferSentState.ofOffer = some d ∨
      (offerMade env sm cim = none ∧ offerData sm = some d) := by
  rcases sm with ⟨sourceId, threadId, state⟩
  cases h with
  | drop _ hh => exact .inr ⟨offerMade_of_handles_false hh, hd⟩
  | offerFromInitial _ _ _ _ hs ho | offerFromProposal _ _ _ _ hs ho =>
    cases hs
    cases hd
    exact .inl (by simp [offerMade, ho, Except.toOption, OfferSentState.ofOffer,
      OfferSentState.ofOfferOfferInfo_eq])
  | request _ _ hs =>
    cases hs
    cases hd
    exact .inr ⟨rfl, rfl⟩
  | _ => cases hd

/-- Along every run, the offer data is that of the most recent offer. -/
theorem Reachable.offerData_eq {sm : IssuerSM} {last : Option (OfferInfo × String)}
    (h : Reachable sm last) {d : OfferSentState} (hd : offerData sm = some d) :
    last.map OfferSentState.ofOffer = some d := by
  induction h generalizing d with
  | new => cases hd
  | fromProposal => cases hd
  | step env cim sendMessage _ hstep ih =>
    rcases (handleMessage_transition hstep).offerData_eq hd with ho | ⟨ho, hd⟩
    · rcases hm : offerMade env _ cim with _ | o <;> rw [hm] at ho
      · cases ho
      · exact ho
    · rw [ho]
      exact ih hd

/-- The revocation queries of a state waiting for the request or issuing read the offer data. -/
theorem revocationQueries_of_offerData {sm : IssuerSM} {d : OfferSentState}
    (hd : offerData sm = some d) :
    sm.getRevRegId = okOr d.revRegId noRevRegId ∧ sm.isRevokable = .ok d.revRegId.isSome := by
  rcases sm with ⟨sourceId, threadId, _ | _ | d' | d' | _ | _⟩ <;> cases hd <;>
    exact ⟨rfl, rfl⟩

theorem offerData_of_getState {sm : IssuerSM}
    (h : sm.getState = .offerSent ∨ sm.getState = .requestReceived) : (offerData sm).isSome := by
  rcases sm with ⟨sourceId, threadId, _ | _ | _ | _ | _ | ⟨_ | _ | _, _⟩⟩ <;>
    simp_all [getState, offerData]

/-! ### Issuing -/

/-- A credential was issued only after the request and the attributes were decoded and the
backend issued it, which is the one collaborator call. -/
theorem createCredential_result_ok {env : Env} {request : CredentialRequest}
    {revRegId tailsFile : Option String} {offer credData threadId : String}
    {credential : Credential} {credRevId : Option String}
    (h : (createCredential env request revRegId tailsFile offer credData threadId).result =
      .ok (credential, credRevId)) :
    ∃ requestContent encoded serCredential, env.content request.requestsAttach = .ok requestContent ∧
      env.encodeAttributes credData = .ok encoded ∧
      env.createCredential offer requestContent encoded revRegId tailsFile =
        .ok (serCredential, credRevId) ∧
      (createCredential env request revRegId tailsFile offer credData threadId).calls =
        [.createCredential offer requestContent encoded revRegId tailsFile] := by
  unfold createCredential at h ⊢
  split at h
  · cases h
  rename_i hthread
  simp only [hthread, if_false]
  rcases hc : env.content request.requestsAttach with _ | requestContent <;>
    simp only [hc, Traced.lift, Traced.mk_error_bind, Traced.mk_ok_bind] at h ⊢
  · cases h
  rcases he : env.encodeAttributes credData with _ | encoded <;>
    simp only [he, Traced.mk_error_bind, Traced.mk_ok_bind] at h ⊢
  · cases h
  rcases hb : env.createCredential offer requestContent encoded revRegId tailsFile with _ | ⟨ser, c⟩ <;>
    simp only [hb, Traced.call, Traced.mk_error_bind, Traced.mk_ok_bind] at h ⊢
  · cases h
  rcases ha : (Credential.create env.freshId).setCredential env ser with _ | cred <;>
    simp only [ha, Traced.mk_error_bind, Traced.mk_ok_bind] at h ⊢
  · cases h
  simp only [Traced.pure_result, Except.ok.injEq, Prod.mk.injEq] at h
  obtain ⟨-, rfl⟩ := h
  exact ⟨_, _, _, rfl, rfl, hb, by simp⟩

/-- `CredentialSend` in `RequestReceived` starts with the calls of `_create_credential`. -/
theorem handleMessage_credentialSend_calls (env : Env) (sm : IssuerSM) (d : RequestReceivedState)
    (sendMessage : Option SendMessage) (hs : sm.state = .requestReceived d) :
    (createCredential env d.request d.revRegId d.tailsFile d.offer d.credData sm.threadId).calls <+:
      (handleMessage env sm .credentialSend sendMessage).calls := by
  rcases sm with ⟨sourceId, threadId, state⟩
  cases hs
  rw [handleMessage_eq_bind]
  simp only [verifyThreadId, CredentialIssuanceMessage.checkedThreadRef, threadMatches_none, if_true,
    Traced.lift, Traced.mk_ok_bind, List.nil_append, Traced.bind_calls, dispatch,
    handleRequestReceived, Traced.attempt_calls, List.append_assoc]
  exact List.prefix_append _ _

/-- Issuing from `RequestReceived`: the backend is called with the stored offer blob, the
decoded request, the encoded credential data, the registry and the tails file, and the
finished state records them with the `cred_rev_id` the backend returned. -/
theorem handleMessage_credentialSend_issued {env : Env} {sm s' : IssuerSM}
    {d : RequestReceivedState} {sendMessage : Option SendMessage} (hs : sm.state = .requestReceived d)
    (hsend : (handleMessage env sm .credentialSend sendMessage).result = .ok s')
    (hfin : s'.getState = .finished) :
    ∃ request credData serCredential credRevId,
      env.content d.request.requestsAttach = .ok request ∧
      env.encodeAttributes d.credData = .ok credData ∧
      env.createCredential d.offer request credData d.revRegId d.tailsFile =
        .ok (serCredential, credRevId) ∧
      .createCredential d.offer request credData d.revRegId d.tailsFile ∈
        (handleMessage env sm .credentialSend sendMessage).calls ∧
      s'.revocationInfo = revocationInfoOf credRevId d.revRegId d.tailsFile := by
  rcases sm with ⟨sourceId, threadId, state⟩
  cases hs
  cases handleMessage_transition hsend with
  | drop _ hh => cases hh
  | issueFailed _ _ hs _ => cases hs; cases hfin
  | issue _ credential credRevId hs hc =>
    cases hs
    obtain ⟨request, credData, ser, hcontent, hencode, hbackend, hcalls⟩ := createCredential_result_ok hc
    exact ⟨request, credData, ser, credRevId, hcontent, hencode, hbackend,
      (handleMessage_credentialSend_calls env _ d sendMessage rfl).subset
        (hcalls ▸ List.mem_singleton_self _), rfl⟩

/-- Revocation bookkeeping: every reachable state waiting for the request or issuing holds the
registry and tails file of the most recent offer, and its revocation queries report them;
issuing from it calls the backend with that offer's blob, the received request, the encoded
credential data, the registry and the tails file, and the finished state records revocation
info iff the offer named a registry, with the `cred_rev_id` the backend returned. -/
theorem reachable_revocation_bookkeeping {sm : IssuerSM} {last : Option (OfferInfo × String)}
    (hreach : Reachable sm last) (hwaiting : sm.getState = .offerSent ∨ sm.getState = .requestReceived) :
    ∃ offerInfo offer, last = some (offerInfo, offer) ∧
      sm.getRevRegId = okOr offerInfo.revRegId noRevRegId ∧
      sm.isRevokable = .ok offerInfo.revRegId.isSome ∧
      ∀ d, sm.state = .requestReceived d → ∀ env sendMessage s',
        (handleMessage env sm .credentialSend sendMessage).result = .ok s' → s'.getState = .finished →
        ∃ request credData serCredential credRevId,
          env.content d.request.requestsAttach = .ok request ∧
          env.encodeAttributes offerInfo.credentialJson = .ok credData ∧
          env.createCredential offer request credData offerInfo.revRegId offerInfo.tailsFile =
            .ok (serCredential, credRevId) ∧
          .createCredential offer request credData offerInfo.revRegId offerInfo.tailsFile ∈
            (handleMessage env sm .credentialSend sendMessage).calls ∧
          s'.revocationInfo = offerInfo.revRegId.map fun r => ⟨credRevId, some r, offerInfo.tailsFile⟩ := by
  obtain ⟨od, hd⟩ := Option.isSome_iff_exists.1 (offerData_of_getState hwaiting)
  have hlast := hreach.offerData_eq hd
  rcases last with _ | ⟨offerInfo, offer⟩
  · cases hlast
  cases hlast
  obtain ⟨hrev, hrevokable⟩ := revocationQueries_of_offerData hd
  refine ⟨offerInfo, offer, rfl, hrev, hrevokable, fun d hs env sendMessage s' hsend hfin => ?_⟩
  simp only [offerData, hs, OfferSentState.ofOffer, OfferSentState.ofOfferInfoOffer,
    Option.some.injEq, OfferSentState.mk.injEq] at hd
  obtain ⟨hoffer, hcred, hreg, htails⟩ := hd
  rw [← hoffer, ← hcred, ← hreg, ← htails]
  exact handleMessage_credentialSend_issued hs hsend hfin

/-! ### Revocation on a finished run -/

/-- The revocation info a state stores: that of `CredentialSent` and of `Finished`. -/
def storedRevocationInfo (sm : IssuerSM) : Option RevocationInfoV1 :=
  match sm.state with
  | .credentialSent d => d.revocationInfoV1
  | .finished d => d.revocationInfoV1
  | _ => none

theorem revocationInfoOf_revRegId {credRevId revRegId tailsFile : Option String}
    {i : RevocationInfoV1} (h : revocationInfoOf credRevId revRegId tailsFile = some i) :
    i.revRegId.isSome := by
  rcases revRegId with _ | r <;> cases h
  rfl

/-- A step stores only revocation info that names a registry, or keeps what it had. -/
theorem Transition.storedRevocationInfo {env : Env} {sm s' : IssuerSM}
    {cim : CredentialIssuanceMessage} (h : Transition env sm cim s')
    (hsm : ∀ i, storedRevocationInfo sm = some i → i.revRegId.isSome) :
    ∀ i, storedRevocationInfo s' = some i → i.revRegId.isSome := by
  rcases sm with ⟨sourceId, threadId, state⟩
  cases h with
  | drop => exact hsm
  | offerProblemReport _ _ hs | issue _ _ _ hs _ | issueFailed _ _ hs _ =>
    exact fun i hi => revocationInfoOf_revRegId hi
  | closeProblemReport _ _ hs | closeAck _ _ hs =>
    cases hs
    exact hsm
  | _ => intro i hi; cases hi

/-- Every revocation info a reachable state stores names a registry. -/
theorem Reachable.storedRevocationInfo {sm : IssuerSM} {last : Option (OfferInfo × String)}
    (h : Reachable sm last) : ∀ i, storedRevocationInfo sm = some i → i.revRegId.isSome := by
  induction h with
  | new => intro i hi; cases hi
  | fromProposal => intro i hi; cases hi
  | step _ _ _ _ hstep ih => exact (handleMessage_transition hstep).storedRevocationInfo ih

/-- On a reachable finished or failed issuer, `revoke` reaches the backend iff `is_revokable`
holds and the revocation info names a `cred_rev_id` and a tails file as well. -/
theorem reachable_revoke_reaches_backend_iff (env : Env) {sm : IssuerSM}
    {last : Option (OfferInfo × String)} (hreach : Reachable sm last)
    (hterm : sm.isTerminalState = true) (publish : Bool) :
    (revoke env sm publish).calls ≠ [] ↔
      sm.isRevokable = .ok true ∧
        ∃ i, sm.revocationInfo = some i ∧ i.credRevId.isSome ∧ i.tailsFile.isSome := by
  have hstored := hreach.storedRevocationInfo
  rw [revoke_reaches_backend_iff]
  rcases sm with ⟨sourceId, threadId, _ | _ | _ | _ | _ | ⟨status, _ | i⟩⟩ <;>
    simp only [isTerminalState, reduceCtorEq] at hterm
  · simp [isRevokable, revocationInfo]
  · have hr := hstored i rfl
    simp [isRevokable, isTerminalState, revocationInfo, RevocationInfoV1.Complete, hr]

/-- What a concluded state (`CredentialSent` or `Finished`) records of the most recent offer:
revocation info iff the offer named a registry, with the offer's registry and tails file. -/
def RecordsOffer (last : Option (OfferInfo × String)) (sm : IssuerSM) : Prop :=
  (sm.isTerminalState = true ∨ sm.getState = .credentialSent) →
    ∃ offerInfo offer credRevId, last = some (offerInfo, offer) ∧
      storedRevocationInfo sm = revocationInfoOf credRevId offerInfo.revRegId offerInfo.tailsFile

/-- The revocation info a step that concludes from offer data `d` records. -/
theorem recordsOffer_of_offerData {last : Option (OfferInfo × String)} {d : OfferSentState}
    (hd : last.map OfferSentState.ofOffer = some d) :
    ∃ offerInfo offer, last = some (offerInfo, offer) ∧ ∀ credRevId,
      revocationInfoOf credRevId d.revRegId d.tailsFile =
        revocationInfoOf credRevId offerInfo.revRegId offerInfo.tailsFile := by
  obtain ⟨⟨offerInfo, offer⟩, hl, rfl⟩ := Option.map_eq_some'.1 hd
  exact ⟨offerInfo, offer, hl, fun _ => rfl⟩

/-- A step that concludes records the offer data it concluded from; a concluded state keeps
what it recorded. -/
theorem Transition.recordsOffer {env : Env} {sm s' : IssuerSM} {cim : CredentialIssuanceMessage}
    (h : Transition env sm cim s') {last : Option (OfferInfo × String)}
    (hdata : ∀ d, offerData sm = some d → last.map OfferSentState.ofOffer = some d)
    (hsm : RecordsOffer last sm) : RecordsOffer ((offerMade env sm cim).or last) s' := by
  rcases sm with ⟨sourceId, threadId, state⟩
  cases h with
  | drop _ hh =>
    rw [offerMade_of_handles_false hh, Option.none_or]
    exact hsm
  | offerProblemReport _ _ hs | issue _ _ _ hs _ | issueFailed _ _ hs _ =>
    cases hs
    obtain ⟨offerInfo, offer, hl, hi⟩ := recordsOffer_of_offerData (hdata _ rfl)
    exact fun _ => ⟨offerInfo, offer, _, hl, hi _⟩
  | closeProblemReport d _ hs | closeAck d _ hs =>
    cases hs
    exact fun _ => hsm (.inr rfl)
  | _ => intro h'; simp [isTerminalState, getState] at h'

/-- Along every run, a concluded state records the most recent offer. -/
theorem Reachable.recordsOffer {sm : IssuerSM} {last : Option (OfferInfo × String)}
    (h : Reachable sm last) : RecordsOffer last sm := by
  induction h with
  | new => intro h; simp [IssuerSM.new, isTerminalState, getState] at h
  | fromProposal => intro h; simp [IssuerSM.fromProposal, isTerminalState, getState] at h
  | step _ _ _ hreach hstep ih =>
    exact (handleMessage_transition hstep).recordsOffer (fun _ hd => hreach.offerData_eq hd) ih

/-- On every reachable finished or failed issuer, the revocation info is that of the most recent
offer: it exists iff the offer named a registry, and names the offer's registry and tails file.
So `is_revokable` reports whether the offer named a registry and `get_rev_reg_id` returns it;
with no registry, `get_rev_reg_id` fails with "No revocation info found". -/
theorem reachable_terminal_revocation {sm : IssuerSM} {last : Option (OfferInfo × String)}
    (hreach : Reachable sm last) (hterm : sm.isTerminalState = true) :
    ∃ offerInfo offer credRevId, last = some (offerInfo, offer) ∧
      sm.revocationInfo = revocationInfoOf credRevId offerInfo.revRegId offerInfo.tailsFile ∧
      sm.isRevokable = .ok offerInfo.revRegId.isSome ∧
      sm.getRevRegId = okOr offerInfo.revRegId noRevocationInfo := by
  obtain ⟨offerInfo, offer, credRevId, hl, hi⟩ := hreach.recordsOffer (.inl hterm)
  refine ⟨offerInfo, offer, credRevId, hl, ?_⟩
  rcases sm with ⟨sourceId, threadId, _ | _ | _ | _ | _ | d⟩ <;>
    simp only [isTerminalState, Bool.false_eq_true] at hterm
  simp only [storedRevocationInfo] at hi
  rcases hr : offerInfo.revRegId with _ | r <;>
    simp [revocationInfo, isRevokable, getRevRegId, hi, revocationInfoOf, hr, okOr]

/-! ### `CredentialSent` is never reached -/

/-- Only a state in `CredentialSent` steps to one: no row of the table enters it. -/
theorem Transition.getState_credentialSent {env : Env} {sm s' : IssuerSM}
    {cim : CredentialIssuanceMessage} (h : Transition env sm cim s')
    (hs' : s'.getState = .credentialSent) : sm.getState = .credentialSent := by
  cases h with
  | drop => exact hs'
  | _ => simp [getState, FinishedState.ofOfferSentProblemReport, FinishedState.ofRequestReceivedCredRevId,
      FinishedState.ofRequestReceivedProblemReport, FinishedState.ofCredentialSent] at hs'

/-- No run from `new()` or `from_proposal()` reaches `CredentialSent`: the `CredentialSent`
arm of `handle_message` only ever sees a state built otherwise (deserialised). -/
theorem reachable_not_credentialSent {sm : IssuerSM} {last : Option (OfferInfo × String)}
    (h : Reachable sm last) : sm.getState ≠ .credentialSent := by
  induction h with
  | new => simp [IssuerSM.new, getState]
  | fromProposal => simp [IssuerSM.fromProposal, getState]
  | step _ _ _ _ hstep ih => exact fun hs => ih ((handleMessage_transition hstep).getState_credentialSent hs)

/-! ### Exhibited runs -/

/-- The request of the exhibited runs, on their thread `t`. -/
def sampleRequest : CredentialRequest := ⟨"r", "request", some ⟨"t"⟩⟩

/-- A run from `new()` with the accepting collaborators: an offer, then a request on the
thread. -/
theorem reachable_requestReceived (offerInfo : OfferInfo) :
    Reachable ⟨"s", "t", .requestReceived
      ⟨"offer", offerInfo.credentialJson, offerInfo.revRegId, offerInfo.tailsFile, sampleRequest⟩⟩
      (some (offerInfo, "offer")) :=
  have hoffered : Reachable ⟨"s", "t", .offerSent (.ofOfferInfoOffer offerInfo "offer")⟩
      (some (offerInfo, "offer")) :=
    .step acceptingEnv (.credentialOfferSend offerInfo none) acceptingSend (.new "s" "t") rfl
  .step acceptingEnv (.credentialRequest sampleRequest) acceptingSend hoffered rfl

/-- The same run, completed by issuing. -/
theorem reachable_issued (offerInfo : OfferInfo) :
    Reachable ⟨"s", "t", .finished
      ⟨.success, revocationInfoOf (some "1") offerInfo.revRegId offerInfo.tailsFile⟩⟩
      (some (offerInfo, "offer")) :=
  .step acceptingEnv .credentialSend acceptingSend (reachable_requestReceived offerInfo) rfl

theorem reachable_revocation_bookkeeping_revocable :
    let offerInfo : OfferInfo := ⟨"[]", "cred_def", some "rev_reg", some "tails"⟩
    let sm : IssuerSM := ⟨"s", "t", .requestReceived
      ⟨"offer", offerInfo.credentialJson, offerInfo.revRegId, offerInfo.tailsFile, sampleRequest⟩⟩
    (Reachable sm (some (offerInfo, "offer")) ∧
      (sm.getState = .offerSent ∨ sm.getState = .requestReceived)) ∧
    ∃ offerInfo' offer, some (offerInfo, "offer") = some (offerInfo', offer) ∧
      sm.getRevRegId = okOr offerInfo'.revRegId noRevRegId ∧
      sm.isRevokable = .ok offerInfo'.revRegId.isSome ∧
      ∀ d, sm.state = .requestReceived d → ∀ env sendMessage s',
        (handleMessage env sm .credentialSend sendMessage).result = .ok s' → s'.getState = .finished →
        ∃ request credData serCredential credRevId,
          env.content d.request.requestsAttach = .ok request ∧
          env.encodeAttributes offerInfo'.credentialJson = .ok credData ∧
          env.createCredential offer request credData offerInfo'.revRegId offerInfo'.tailsFile =
            .ok (serCredential, credRevId) ∧
          .createCredential offer request credData offerInfo'.revRegId offerInfo'.tailsFile ∈
            (handleMessage env sm .credentialSend sendMessage).calls ∧
          s'.revocationInfo = offerInfo'.revRegId.map fun r => ⟨credRevId, some r, offerInfo'.tailsFile⟩ :=
  ⟨⟨reachable_requestReceived _, .inr rfl⟩,
    reachable_revocation_bookkeeping (reachable_requestReceived _) (.inr rfl)⟩

/-- A reachable finished issuer whose offer named a registry but no tails file: it reports
itself revokable, and `revoke` fails its own check without calling the backend. -/
theorem revokable_without_tails_file :
    let offerInfo : OfferInfo := ⟨"[]", "cred_def", some "rev_reg", none⟩
    let sm : IssuerSM := ⟨"s", "t", .finished
      ⟨.success, revocationInfoOf (some "1") offerInfo.revRegId offerInfo.tailsFile⟩⟩
    Reachable sm (some (offerInfo, "offer")) ∧ sm.getState = .finished ∧
      sm.isRevokable = .ok true ∧
      ∀ publish, revoke acceptingEnv sm publish =
        ⟨[], .error (.fromMsg .invalidRevocationDetails "Missing data to perform revocation.")⟩ :=
  ⟨reachable_issued _, rfl, rfl, fun _ => rfl⟩

theorem reachable_revoke_reaches_backend_iff_issued :
    let offerInfo : OfferInfo := ⟨"[]", "cred_def", some "rev_reg", some "tails"⟩
    let sm : IssuerSM := ⟨"s", "t", .finished
      ⟨.success, revocationInfoOf (some "1") offerInfo.revRegId offerInfo.tailsFile⟩⟩
    (Reachable sm (some (offerInfo, "offer")) ∧ sm.isTerminalState = true) ∧
      ((revoke acceptingEnv sm true).calls ≠ [] ↔
        sm.isRevokable = .ok true ∧
          ∃ i, sm.revocationInfo = some i ∧ i.credRevId.isSome ∧ i.tailsFile.isSome) :=
  ⟨⟨reachable_issued _, rfl⟩, reachable_revoke_reaches_backend_iff acceptingEnv (reachable_issued _) rfl true⟩

theorem reachable_not_credentialSent_issued :
    let offerInfo : OfferInfo := ⟨"[]", "cred_def", some "rev_reg", some "tails"⟩
    let sm : IssuerSM := ⟨"s", "t", .finished
      ⟨.success, revocationInfoOf (some "1") offerInfo.revRegId offerInfo.tailsFile⟩⟩
    Reachable sm (some (offerInfo, "offer")) ∧ sm.getState ≠ .credentialSent :=
  ⟨reachable_issued _, reachable_not_credentialSent (reachable_issued _)⟩

theorem reachable_terminal_revocation_issued :
    let offerInfo : OfferInfo := ⟨"[]", "cred_def", some "rev_reg", some "tails"⟩
    let sm : IssuerSM := ⟨"s", "t", .finished
      ⟨.success, revocationInfoOf (some "1") offerInfo.revRegId offerInfo.tailsFile⟩⟩
    (Reachable sm (some (offerInfo, "offer")) ∧ sm.isTerminalState = true) ∧
      ∃ offerInfo' offer credRevId, some (offerInfo, "offer") = some (offerInfo', offer) ∧
        sm.revocationInfo = revocationInfoOf credRevId offerInfo'.revRegId offerInfo'.tailsFile ∧
        sm.isRevokable = .ok offerInfo'.revRegId.isSome ∧
        sm.getRevRegId = okOr offerInfo'.revRegId noRevocationInfo :=
  ⟨⟨reachable_issued _, rfl⟩, reachable_terminal_revocation (reachable_issued _) rfl⟩

end CredentialIssuance
