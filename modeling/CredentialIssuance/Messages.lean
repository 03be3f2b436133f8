/-
The message taxonomy of the issue-credential protocol and its thread correlation.

The Rust types live in `messages/` and `handlers/issuance/messages.rs`, which are not
part of the files at hand: the message structures, `A2AMessage`, `CredentialIssuanceMessage`
and `verify_thread_id` are modelled from the spec (§3, §4.1) and, where the spec and the
repository's tests disagree, from the tests; only the fields the state machines read or
write are kept.

* `fromThread` / `Thread.isReply` — the spec's `from_thread(tid)` and `is_reply(tid)`: the
  thread reference names `tid`;
* `threadIdOf` — `get_thread_id()`: the thread named by `~thread`, or the message's own
  `@id` when it carries none (it starts a thread);
* `verifyThreadId` — the verifier run before every transition: a credential, an ack or a
  problem report that carries a thread reference must name the interaction's thread; a
  proposal, an offer and a request pass (`checkedThreadRef`).

Design notes: the six message structures share their thread handling, so the three
predicates are defined once on a `(@id, ~thread)` pair and each message applies them to its
own fields (`CredentialRequest.fromThread` and so on).
-/
import Mathlib.Data.List.Basic

namespace CredentialIssuance

/-- The error kinds the modelled code raises; `other` stands for the opaque kinds the
anoncreds backend and the message codec propagate. -/
inductive VcxErrorKind
  | invalidState
  | invalidJson
  | invalidAttributesStructure
  | invalidRevocationDetails
  | notReady
  | threadIdMismatch
  | other (name : String)
  deriving DecidableEq, Repr

/-- `VcxError`: a kind and the message it was raised with. -/
structure VcxError where
  kind : VcxErrorKind
  msg : String
  deriving DecidableEq, Repr

/-- `VcxError::from_msg(kind, msg)`. -/
def VcxError.fromMsg (kind : VcxErrorKind) (msg : String) : VcxError := ⟨kind, msg⟩

/-- `VcxError::from(kind)`: the kind alone (its default text is in `error.rs`, not modelled). -/
def VcxError.ofKind (kind : VcxErrorKind) : VcxError := ⟨kind, ""⟩

/-! ### Thread references -/

/-- The `~thread` decorator: the thread (`thid`) a message belongs to. -/
structure Thread where
  thid : String
  deriving DecidableEq, Repr

/-- `Thread::is_reply`. Modelled from the spec: the message declares itself a reply in
thread `id`. -/
def Thread.isReply (th : Thread) (id : String) : Bool := th.thid == id

/-- `from_thread(tid)` of a message whose `~thread` is `thread`. Modelled from the spec:
true iff the thread reference names `tid`. -/
def fromThread (thread : Option Thread) (tid : String) : Bool := thread.any (·.isReply tid)

/-- `get_thread_id()` of a message with `@id` `id`. Modelled from the spec: the thread
its reference names, else the thread the message starts. -/
def threadIdOf (id : String) (thread : Option Thread) : String := (thread.map (·.thid)).getD id

/-- The verifier's test on one message. Modelled from the spec: a message with no thread
reference passes, one with a reference passes iff it names `tid`. -/
def threadMatches (thread : Option Thread) (tid : String) : Bool := thread.all (·.isReply tid)

@[simp] theorem fromThread_none (tid : String) : fromThread none tid = false := rfl

@[simp] theorem fromThread_some (th : Thread) (tid : String) :
    fromThread (some th) tid = (th.thid == tid) := rfl

@[simp] theorem threadMatches_none (tid : String) : threadMatches none tid = true := rfl

@[simp] theorem threadMatches_some (th : Thread) (tid : String) :
    threadMatches (some th) tid = (th.thid == tid) := rfl

/-- A message that names a thread matches it iff it is from that thread. -/
theorem threadMatches_of_fromThread {thread : Option Thread} {tid : String}
    (h : fromThread thread tid = true) : threadMatches thread tid = true := by
  cases thread <;> simp_all

/-! ### Messages -/

/-- `MimeType`: the preview attributes of this protocol are all `text/plain`. -/
inductive MimeType
  | plain
  deriving DecidableEq, Repr

/-- One attribute of a credential preview. -/
structure CredentialPreviewData where
  name : String
  value : String
  mimeType : MimeType
  deriving DecidableEq, Repr

/-- `CredentialProposal` (its preview and definition ids are left out: nothing modelled reads them). -/
structure CredentialProposal where
  id : String
  thread : Option Thread
  deriving DecidableEq, Repr

/-- `CredentialOffer`; `offersAttach` is the encoded offer attachment. -/
structure CredentialOffer where
  id : String
  thread : Option Thread
  comment : Option String
  offersAttach : String
  credentialPreview : List CredentialPreviewData
  deriving DecidableEq, Repr

/-- `CredentialRequest`; `requestsAttach` is the encoded request attachment. -/
structure CredentialRequest where
  id : String
  requestsAttach : String
  thread : Option Thread
  deriving DecidableEq, Repr

/-- `Credential`; `credentialsAttach` is the encoded credential attachment. -/
structure Credential where
  id : String
  credentialsAttach : String
  thread : Option Thread
  deriving DecidableEq, Repr

/-- `Ack`. -/
structure Ack where
  id : String
  thread : Option Thread
  deriving DecidableEq, Repr

/-- `ProblemReport`. -/
structure ProblemReport where
  id : String
  comment : Option String
  thread : Option Thread
  deriving DecidableEq, Repr

/-- `CredentialProposal::from_thread`. -/
def CredentialProposal.fromThread (p : CredentialProposal) (tid : String) : Bool :=
  CredentialIssuance.fromThread p.thread tid

/-- `CredentialProposal::get_thread_id`. -/
def CredentialProposal.getThreadId (p : CredentialProposal) : String := threadIdOf p.id p.thread

/-- `CredentialOffer::get_thread_id`: the thread the peer files the offer, and what answers
it, under. -/
def CredentialOffer.getThreadId (o : CredentialOffer) : String := threadIdOf o.id o.thread

/-- `CredentialRequest::from_thread`. -/
def CredentialRequest.fromThread (r : CredentialRequest) (tid : String) : Bool :=
  CredentialIssuance.fromThread r.thread tid

/-- `Ack::from_thread`. -/
def Ack.fromThread (a : Ack) (tid : String) : Bool := CredentialIssuance.fromThread a.thread tid

/-- `ProblemReport::from_thread`. -/
def ProblemReport.fromThread (pr : ProblemReport) (tid : String) : Bool :=
  CredentialIssuance.fromThread pr.thread tid

/-- The message kinds an agent receives; `other` is any message of another protocol. -/
inductive A2AMessage
  | credentialProposal (p : CredentialProposal)
  | credentialOffer (o : CredentialOffer)
  | credentialRequest (r : CredentialRequest)
  | credential (c : Credential)
  | ack (a : Ack)
  | credentialAck (a : Ack)
  | commonProblemReport (pr : ProblemReport)
  | other (typ : String)
  deriving DecidableEq, Repr

/-- The bag of pending messages a connection hands over (`HashMap<String, A2AMessage>`):
its entries in iteration order, which is unspecified, with distinct keys. -/
structure MessageBag where
  entries : List (String × A2AMessage)
  nodup : (entries.map Prod.fst).Nodup

/-- `messages.get(uid)`. -/
def MessageBag.get? (bag : MessageBag) (uid : String) : Option A2AMessage := bag.entries.lookup uid

/-- An entry of the bag is what the bag holds under its key. -/
theorem MessageBag.get?_of_mem {bag : MessageBag} {uid : String} {m : A2AMessage}
    (h : (uid, m) ∈ bag.entries) : bag.get? uid = some m := by
  rcases bag with ⟨entries, nodup⟩
  simp only [get?]
  induction entries with
  | nil => simp at h
  | cons e rest ih =>
    obtain ⟨k, b⟩ := e
    simp only [List.map_cons, List.nodup_cons, List.mem_map] at nodup
    rcases List.mem_cons.1 h with h | h
    · cases h
      simp [List.lookup_cons]
    · have hne : uid ≠ k := fun hk => nodup.1 ⟨(uid, m), h, hk⟩
      simp [List.lookup_cons, beq_false_of_ne hne, ih nodup.2 h]

/-- `OfferInfo`, the issuer's input to `CredentialOfferSend`. -/
structure OfferInfo where
  credentialJson : String
  credDefId : String
  revRegId : Option String
  tailsFile : Option String
  deriving DecidableEq, Repr

/-- `CredentialIssuanceMessage`: the events both machines handle, inbound messages and
caller commands. The holder's `CredentialProposalSend` payload is left out. -/
inductive CredentialIssuanceMessage
  | credentialSend
  | credentialProposalSend
  | credentialProposal (p : CredentialProposal)
  | credentialOfferSend (offerInfo : OfferInfo) (comment : Option String)
  | credentialOffer (o : CredentialOffer)
  | credentialOfferReject (comment : Option String)
  | credentialRequestSend (myPwDid : String)
  | credentialRequest (r : CredentialRequest)
  | credential (c : Credential)
  | credentialAck (a : Ack)
  | problemReport (pr : ProblemReport)
  | unknown
  deriving DecidableEq, Repr

namespace CredentialIssuanceMessage

/-- `From<A2AMessage>`. Modelled from the spec: an `Ack` and a `CredentialAck` are both the
ack event; a message of another protocol is `Unknown`. -/
def ofA2AMessage : A2AMessage → CredentialIssuanceMessage
  | .credentialProposal p => .credentialProposal p
  | .credentialOffer o => .credentialOffer o
  | .credentialRequest r => .credentialRequest r
  | .credential c => .credential c
  | .ack a | .credentialAck a => .credentialAck a
  | .commonProblemReport pr => .problemReport pr
  | .other _ => .unknown

/-- The thread reference of an inbound message; commands carry none. -/
def threadRef : CredentialIssuanceMessage → Option Thread
  | .credentialProposal p => p.thread
  | .credentialOffer o => o.thread
  | .credentialRequest r => r.thread
  | .credential c => c.thread
  | .credentialAck a => a.thread
  | .problemReport pr => pr.thread
  | _ => none

/-- The thread reference `verify_thread_id` checks: that of a credential, an ack or a problem
report.  A proposal and an offer, the messages a responder adopts its thread from, bypass
the check (spec §4.1; §4.4: "no thread check — adopts"), and so does a request (see
`verifyThreadId`); commands carry none. -/
def checkedThreadRef : CredentialIssuanceMessage → Option Thread
  | .credential c => c.thread
  | .credentialAck a => a.thread
  | .problemReport pr => pr.thread
  | _ => none

/-- The checked reference is the message's reference, or none. -/
theorem checkedThreadRef_eq (cim : CredentialIssuanceMessage) :
    cim.checkedThreadRef = cim.threadRef ∨ cim.checkedThreadRef = none := by
  cases cim <;> simp [checkedThreadRef, threadRef]

end CredentialIssuanceMessage

/-- `verify_thread_id`, whose code (`handlers/issuance/mod.rs`) is not among the files at
hand.  Modelled from the spec (§4.1) and the repository's own tests: an inbound message
carrying a thread reference must name the interaction's thread, otherwise the handler fails
with a thread id mismatch; commands pass, and so do the initial-adoption messages (a
proposal, an offer), as §4.1 and §4.4 say.  A request passes too: the test
`test_issuer_credential_send_fails_with_incorrect_thread_id` (`state_machine.rs`, lines
644–655) hands `handle_message` a request from another thread in `OfferSent` and unwraps the
result, and `_create_credential` checks the request's thread itself (lines 389–391). -/
def verifyThreadId (threadId : String) (cim : CredentialIssuanceMessage) : Except VcxError Unit :=
  if threadMatches cim.checkedThreadRef threadId then .ok ()
  else .error (VcxError.fromMsg .threadIdMismatch s!"Thread id does not match, expected {threadId}")

theorem verifyThreadId_eq_ok {threadId : String} {cim : CredentialIssuanceMessage} :
    verifyThreadId threadId cim = .ok () ↔ threadMatches cim.checkedThreadRef threadId = true := by
  unfold verifyThreadId
  split <;> simp_all

theorem verifyThreadId_error {threadId : String} {cim : CredentialIssuanceMessage}
    (h : threadMatches cim.checkedThreadRef threadId = false) :
    verifyThreadId threadId cim =
      .error (VcxError.fromMsg .threadIdMismatch s!"Thread id does not match, expected {threadId}") := by
  simp [verifyThreadId, h]

/-- A message whose own reference matches passes the verifier. -/
theorem verifyThreadId_of_threadMatches {threadId : String} {cim : CredentialIssuanceMessage}
    (h : threadMatches cim.threadRef threadId = true) : verifyThreadId threadId cim = .ok () := by
  refine verifyThreadId_eq_ok.2 ?_
  rcases cim.checkedThreadRef_eq with he | he <;> rw [he]
  · exact h
  · rfl

end CredentialIssuance
