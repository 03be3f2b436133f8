/-
The issuer's selector (`IssuerSM::find_message_to_handle`, `issuer/state_machine.rs`,
lines 137–192) and how it agrees with `handleMessage`.

The source loops over the bag and returns the first entry the current state accepts:
`selectMessage` is the body of the loop, `findMessageToHandle` the loop.

* `selector_agrees_with_handler` — a selected entry is in the bag (an `Ack` re-tagged as a
  `CredentialAck`), and `handleMessage` moves the state on it, with any callback and without
  calling anyone (`findMessageToHandle_sound`); an entry on the machine's thread (in
  `Initial`, any proposal) on which `handleMessage` would move the state is found
  (`findMessageToHandle_complete`).

Design notes: both directions go through `handles`, the events each arm names: the selector
accepts only such events (`selectMessage_spec`), an event that moves the state is one
(`handles_of_getState_ne`), and an inbound one that passes the thread check always moves it
(`handleMessage_of_handles`).  What the selector takes always passes that check: it is on
the machine's thread, or a proposal in `Initial`, which the check lets through.
-/
import CredentialIssuance.Issuer.Sends

namespace CredentialIssuance

namespace IssuerSM

/-- The body of the selector's loop: the message the state accepts for one entry, if any. -/
def selectMessage (sm : IssuerSM) (message : A2AMessage) : Option A2AMessage :=
  match sm.state, message with
  | .initial _, .credentialProposal credentialProposal => some (.credentialProposal credentialProposal)
  | .offerSent _, .credentialRequest credential =>
    if credential.fromThread sm.threadId then some (.credentialRequest credential) else none
  | .offerSent _, .credentialProposal credentialProposal =>
    match credentialProposal.thread with
    | some thread =>
      if thread.isReply sm.threadId then some (.credentialProposal credentialProposal) else none
    | none => none
  | .offerSent _, .commonProblemReport problemReport =>
    if problemReport.fromThread sm.threadId then some (.commonProblemReport problemReport) else none
  | .credentialSent _, .ack ack | .credentialSent _, .credentialAck ack =>
    if ack.fromThread sm.threadId then some (.credentialAck ack) else none
  | .credentialSent _, .commonProblemReport problemReport =>
    if problemReport.fromThread sm.threadId then some (.commonProblemReport problemReport) else none
  | _, _ => none

/-- `IssuerSM::find_message_to_handle`: the first entry, in the bag's order, the state
accepts. -/
def findMessageToHandle (sm : IssuerSM) (messages : MessageBag) : Option (String × A2AMessage) :=
  messages.entries.findSome? fun (uid, message) => (sm.selectMessage message).map fun m => (uid, m)

end IssuerSM

open IssuerSM

/-! ### The selector -/

/-- What the selector accepts: an event its state's arm names, the entry's own message or an
ack re-tagged, on the machine's thread unless it is a proposal in `Initial`. -/
theorem selectMessage_spec {sm : IssuerSM} {message m : A2AMessage}
    (h : sm.selectMessage message = some m) :
    (m = message ∨ ∃ a, message = .ack a ∧ m = .credentialAck a) ∧
      handles sm.state (.ofA2AMessage m) = true ∧
      (fromThread (CredentialIssuanceMessage.ofA2AMessage m).threadRef sm.threadId = true ∨
        ∃ d p, sm.state = .initial d ∧ m = .credentialProposal p) := by
  rcases sm with ⟨sourceId, threadId, state⟩
  cases state <;> cases message <;> simp only [selectMessage, reduceCtorEq] at h
  case initial.credentialProposal d p =>
    cases h
    exact ⟨.inl rfl, rfl, .inr ⟨d, p, rfl, rfl⟩⟩
  case offerSent.credentialProposal p =>
    rcases hth : p.thread with _ | th <;> simp only [hth, reduceCtorEq] at h
    split at h
    · cases h
      rename_i hr
      exact ⟨.inl rfl, rfl, .inl (by simpa [CredentialIssuanceMessage.ofA2AMessage,
        CredentialIssuanceMessage.threadRef, hth, Thread.isReply] using hr)⟩
    · cases h
  all_goals
    split at h <;> cases h
    exact ⟨by simp, rfl, .inl ‹_›⟩

/-- An event the state's arm names, on the machine's thread or not, is accepted. -/
theorem selectMessage_isSome {sm : IssuerSM} {message : A2AMessage}
    (hh : handles sm.state (.ofA2AMessage message) = true)
    (ht : fromThread (CredentialIssuanceMessage.ofA2AMessage message).threadRef sm.threadId = true ∨
      ∃ d p, sm.state = .initial d ∧ message = .credentialProposal p) :
    (sm.selectMessage message).isSome := by
  rcases sm with ⟨sourceId, threadId, state⟩
  rcases ht with ht | ⟨d, p, hs, rfl⟩
  · cases state <;> cases message <;>
      simp only [handles, CredentialIssuanceMessage.ofA2AMessage, reduceCtorEq] at hh
    case offerSent.credentialProposal p =>
      rcases hth : p.thread with _ | th <;>
        simp_all [selectMessage, CredentialIssuanceMessage.ofA2AMessage,
          CredentialIssuanceMessage.threadRef, Thread.isReply]
    all_goals simp_all [selectMessage, CredentialIssuanceMessage.ofA2AMessage,
      CredentialIssuanceMessage.threadRef, CredentialRequest.fromThread, ProblemReport.fromThread,
      Ack.fromThread]
  · cases hs
    rfl

theorem findMessageToHandle_eq_some {sm : IssuerSM} {messages : MessageBag} {uid : String}
    {m : A2AMessage} (h : sm.findMessageToHandle messages = some (uid, m)) :
    ∃ message, messages.get? uid = some message ∧ sm.selectMessage message = some m := by
  obtain ⟨⟨uid', message⟩, hmem, hsel⟩ := List.exists_of_findSome?_eq_some h
  rcases hm : sm.selectMessage message with _ | m' <;> simp only [hm, Option.map_none',
    Option.map_some', Option.some.injEq, Prod.mk.injEq, reduceCtorEq] at hsel
  obtain ⟨rfl, rfl⟩ := hsel
  exact ⟨message, MessageBag.get?_of_mem hmem, hm⟩

/-! ### Agreement with the handler -/

/-- An event that moves the state is one its arm names. -/
theorem handles_of_getState_ne {env : Env} {sm s' : IssuerSM} {cim : CredentialIssuanceMessage}
    {sendMessage : Option SendMessage} (h : (handleMessage env sm cim sendMessage).result = .ok s')
    (hne : s'.getState ≠ sm.getState) : handles sm.state cim = true := by
  cases handleMessage_transition h
  case drop => exact absurd rfl hne
  all_goals simp_all [handles]

/-- An inbound event the state's arm names that passes the thread check moves the state and
calls nobody. -/
theorem handleMessage_of_handles (env : Env) (sm : IssuerSM) (m : A2AMessage)
    (sendMessage : Option SendMessage) (hh : handles sm.state (.ofA2AMessage m) = true)
    (ht : verifyThreadId sm.threadId (.ofA2AMessage m) = .ok ()) :
    ∃ s', handleMessage env sm (.ofA2AMessage m) sendMessage = ⟨[], .ok s'⟩ ∧
      s'.getState ≠ sm.getState := by
  rw [handleMessage_eq_bind, ht]
  rcases sm with ⟨sourceId, threadId, state⟩
  cases state <;> cases m <;>
    simp only [handles, CredentialIssuanceMessage.ofA2AMessage, reduceCtorEq] at hh <;>
    exact ⟨_, rfl, by simp [step, getState, FinishedState.ofOfferSentProblemReport,
      FinishedState.ofCredentialSent]⟩

/-- A selected entry is in the bag, an ack re-tagged; on it `handleMessage` moves the state
without calling anyone. -/
theorem findMessageToHandle_sound (env : Env) (sm : IssuerSM) (messages : MessageBag)
    (uid : String) (m : A2AMessage) (sendMessage : Option SendMessage)
    (h : sm.findMessageToHandle messages = some (uid, m)) :
    (∃ message, messages.get? uid = some message ∧
      (m = message ∨ ∃ a, message = .ack a ∧ m = .credentialAck a)) ∧
    ∃ s', handleMessage env sm (.ofA2AMessage m) sendMessage = ⟨[], .ok s'⟩ ∧
      s'.getState ≠ sm.getState := by
  obtain ⟨message, hget, hsel⟩ := findMessageToHandle_eq_some h
  obtain ⟨hm, hh, ht⟩ := selectMessage_spec hsel
  refine ⟨⟨message, hget, hm⟩, handleMessage_of_handles env sm m sendMessage hh ?_⟩
  rcases ht with ht | ⟨d, p, -, rfl⟩
  · exact verifyThreadId_of_threadMatches (threadMatches_of_fromThread ht)
  · rfl

/-- An entry on the machine's thread (in `Initial`, any proposal) on which `handleMessage`
would move the state is found. -/
theorem findMessageToHandle_isSome_of_moves {env : Env} {sm : IssuerSM} {messages : MessageBag}
    {uid : String} {message : A2AMessage} {sendMessage : Option SendMessage}
    (hmem : (uid, message) ∈ messages.entries)
    (hthread : fromThread (CredentialIssuanceMessage.ofA2AMessage message).threadRef sm.threadId = true ∨
      ∃ d p, sm.state = .initial d ∧ message = .credentialProposal p)
    (hmoves : ∃ s', (handleMessage env sm (.ofA2AMessage message) sendMessage).result = .ok s' ∧
      s'.getState ≠ sm.getState) :
    (sm.findMessageToHandle messages).isSome := by
  obtain ⟨s', hs', hne⟩ := hmoves
  have hsel := selectMessage_isSome (handles_of_getState_ne hs' hne) hthread
  refine List.findSome?_isSome_iff.2 ⟨(uid, message), hmem, ?_⟩
  simpa using hsel

/-- The selector and the handler agree: a selected entry is in the bag (an ack re-tagged), and
`handleMessage` moves the state on it with any callback, calling no one; and an entry on the
machine's thread (in `Initial`, any proposal) on which `handleMessage` would move the state
is found. -/
theorem selector_agrees_with_handler (env : Env) (sm : IssuerSM) (messages : MessageBag)
    (sendMessage : Option SendMessage) :
    (∀ uid m, sm.findMessageToHandle messages = some (uid, m) →
      (∃ message, messages.get? uid = some message ∧
        (m = message ∨ ∃ a, message = .ack a ∧ m = .credentialAck a)) ∧
      ∃ s', handleMessage env sm (.ofA2AMessage m) sendMessage = ⟨[], .ok s'⟩ ∧
        s'.getState ≠ sm.getState) ∧
    (∀ uid message, (uid, message) ∈ messages.entries →
      (fromThread (CredentialIssuanceMessage.ofA2AMessage message).threadRef sm.threadId = true ∨
        ∃ d p, sm.state = .initial d ∧ message = .credentialProposal p) →
      (∃ s', (handleMessage env sm (.ofA2AMessage message) sendMessage).result = .ok s' ∧
        s'.getState ≠ sm.getState) →
      (sm.findMessageToHandle messages).isSome) :=
  ⟨fun uid m h => findMessageToHandle_sound env sm messages uid m sendMessage h,
    fun _ _ hmem hthread hmoves => findMessageToHandle_isSome_of_moves hmem hthread hmoves⟩

/-- An entry on the machine's thread (in `Initial`, any proposal) on which `handleMessage`
would move the state is found: the selector returns some entry. -/
theorem findMessageToHandle_complete (env : Env) (sm : IssuerSM) (messages : MessageBag)
    (uid : String) (message : A2AMessage) (sendMessage : Option SendMessage)
    (hmem : (uid, message) ∈ messages.entries)
    (hthread : fromThread (CredentialIssuanceMessage.ofA2AMessage message).threadRef sm.threadId = true ∨
      ∃ d p, sm.state = .initial d ∧ message = .credentialProposal p)
    (hmoves : ∃ s', (handleMessage env sm (.ofA2AMessage message) sendMessage).result = .ok s' ∧
      s'.getState ≠ sm.getState) :
    (sm.findMessageToHandle messages).isSome :=
  findMessageToHandle_isSome_of_moves hmem hthread hmoves

theorem findMessageToHandle_complete_ack :
    let sm : IssuerSM := ⟨"s", "t", .credentialSent ⟨none⟩⟩
    let ack : A2AMessage := .ack ⟨"a", some ⟨"t"⟩⟩
    let messages : MessageBag := ⟨[("k", ack)], by decide⟩
    (("k", ack) ∈ messages.entries ∧
      (fromThread (CredentialIssuanceMessage.ofA2AMessage ack).threadRef sm.threadId = true ∨
        ∃ d p, sm.state = .initial d ∧ ack = .credentialProposal p) ∧
      ∃ s', (handleMessage acceptingEnv sm (.ofA2AMessage ack) acceptingSend).result = .ok s' ∧
        s'.getState ≠ sm.getState) ∧
    (sm.findMessageToHandle messages).isSome :=
  ⟨⟨List.mem_singleton_self _, .inl rfl, _, rfl, by decide⟩,
    findMessageToHandle_complete acceptingEnv _ _ "k" _ acceptingSend (List.mem_singleton_self _)
      (.inl rfl) ⟨_, rfl, by decide⟩⟩

end CredentialIssuance
