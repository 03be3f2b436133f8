/-
The holder's polling step (`Holder::update_state` and `Holder::step`, `holder/holder.rs`,
lines 111–127).

`update_state` takes the send closure and the pending messages from the connection, asks
the machine for one message to handle, hands it to `step` and then marks it read; every `?`
returns early, so what the call leaves depends on where it stopped.

`HolderSM` (`holder/state_machine.rs`) and `Connection` are not among the files at hand.
The machine is a parameter, `HolderMachine`, with the four methods `Holder` calls; its
selector picks an entry of the bag it is given, a law carried as a field.  The connection is
modelled from the spec (§2): the messages received on it, the uids marked read, and the
answers of its fallible calls; `get_messages` hands over the messages not yet marked read.

* `updateState_outcome` — one call applies at most one step, to the entry the selector picks
  from the unread messages; a failed step leaves the holder and the connection as they were,
  the entry unread; a successful one advances the holder, and the entry is marked read only
  if `update_message_status` then succeeds, otherwise the call fails with the holder advanced;
* `pollSteps_not_mem_of_read` — over any sequence of calls, an entry marked read is never
  handed to `step` again;
* `pollSteps_of_step_error` — an entry whose step fails is handed to `step` again on every
  later call (`rejected_message_redelivered`).
-/
import CredentialIssuance.Effects

namespace CredentialIssuance

/-- `HolderState`. -/
inductive HolderState
  | initial
  | proposalSent
  | offerReceived
  | requestSent
  | finished
  | failed
  deriving DecidableEq, Repr

/-- The keys of a bag. -/
def MessageBag.uids (bag : MessageBag) : List String := bag.entries.map Prod.fst

/-- The methods of `HolderSM` that `Holder` calls, over the machine's states `H`. -/
structure HolderMachine (H : Type) where
  isTerminalState : H → Bool
  getState : H → HolderState
  findMessageToHandle : H → MessageBag → Option (String × A2AMessage)
  handleMessage : H → CredentialIssuanceMessage → Option SendMessage → Except VcxError H
  /-- The selector picks an entry of the bag it is given. -/
  findMessageToHandle_mem : ∀ h messages uid m,
    findMessageToHandle h messages = some (uid, m) → uid ∈ messages.uids

/-- `Holder`: the machine's state. -/
structure Holder (H : Type) where
  holderSm : H

/-- The bag of the entries whose uid is not in `read`. -/
def MessageBag.unread (bag : MessageBag) (read : List String) : MessageBag :=
  ⟨bag.entries.filter fun e => !read.contains e.1,
    bag.nodup.sublist ((List.filter_sublist _).map Prod.fst)⟩

/-- The unread bag holds no uid marked read. -/
theorem MessageBag.not_mem_of_mem_unread {bag : MessageBag} {read : List String} {uid : String}
    (h : uid ∈ (bag.unread read).uids) : uid ∉ read := by
  simp only [uids, unread, List.mem_map, List.mem_filter] at h
  obtain ⟨⟨uid', m⟩, ⟨-, hunread⟩, rfl⟩ := h
  simpa using hunread

/-- A connection as `update_state` uses it. Modelled from the spec: the messages received on
it, the uids marked read, and the answers of its fallible calls. -/
structure Connection where
  received : MessageBag
  read : List String
  sendMessageClosure : Except VcxError SendMessage
  getMessagesError : Option VcxError
  updateMessageStatusError : String → Option VcxError

namespace Connection

/-- `Connection::get_messages`: the received messages not yet marked read. -/
def getMessages (connection : Connection) : Except VcxError MessageBag :=
  match connection.getMessagesError with
  | some e => .error e
  | none => .ok (connection.received.unread connection.read)

/-- `Connection::update_message_status(uid)`: marks `uid` read. -/
def updateMessageStatus (connection : Connection) (uid : String) : Except VcxError Connection :=
  match connection.updateMessageStatusError uid with
  | some e => .error e
  | none => .ok { connection with read := uid :: connection.read }

theorem getMessages_eq_ok {connection : Connection} {messages : MessageBag}
    (h : connection.getMessages = .ok messages) :
    messages = connection.received.unread connection.read := by
  unfold getMessages at h
  split at h <;> cases h
  rfl

theorem updateMessageStatus_eq_ok {connection connection' : Connection} {uid : String}
    (h : connection.updateMessageStatus uid = .ok connection') :
    connection' = { connection with read := uid :: connection.read } := by
  unfold updateMessageStatus at h
  split at h <;> cases h
  rfl

end Connection

/-- What one `update_state` call leaves: the holder (`self`), the connection, the entry it
handed to `step` if any, and its result. -/
structure Polled (H : Type) where
  holder : Holder H
  connection : Connection
  stepped : Option (String × A2AMessage)
  result : Except VcxError HolderState

namespace Holder

variable {H : Type} (sm : HolderMachine H)

/-- `Holder::is_terminal_state`. -/
def isTerminalState (holder : Holder H) : Bool := sm.isTerminalState holder.holderSm

/-- `Holder::get_state`. -/
def getState (holder : Holder H) : HolderState := sm.getState holder.holderSm

/-- `Holder::find_message_to_handle`. -/
def findMessageToHandle (holder : Holder H) (messages : MessageBag) : Option (String × A2AMessage) :=
  sm.findMessageToHandle holder.holderSm messages

/-- `Holder::step`: the new holder, or the error with `self` left as it was. -/
def step (holder : Holder H) (message : CredentialIssuanceMessage)
    (sendMessage : Option SendMessage) : Except VcxError (Holder H) :=
  Holder.mk <$> sm.handleMessage holder.holderSm message sendMessage

/-- `Holder::send_proposal`: a step on the proposal command with the callback supplied (the
proposal data is read only by the absent machine and is left out). -/
def sendProposal (holder : Holder H) (sendMessage : SendMessage) : Except VcxError (Holder H) :=
  holder.step sm .credentialProposalSend (some sendMessage)

/-- `Holder::send_request`. -/
def sendRequest (holder : Holder H) (myPwDid : String) (sendMessage : SendMessage) :
    Except VcxError (Holder H) :=
  holder.step sm (.credentialRequestSend myPwDid) (some sendMessage)

/-- `Holder::reject_offer`. -/
def rejectOffer (holder : Holder H) (comment : Option String) (sendMessage : SendMessage) :
    Except VcxError (Holder H) :=
  holder.step sm (.credentialOfferReject comment) (some sendMessage)

/-- `Holder::update_state`. -/
def updateState (holder : Holder H) (connection : Connection) : Polled H :=
  if holder.isTerminalState sm then ⟨holder, connection, none, .ok (holder.getState sm)⟩ else
  match connection.sendMessageClosure with
  | .error e => ⟨holder, connection, none, .error e⟩
  | .ok sendMessage =>
    match connection.getMessages with
    | .error e => ⟨holder, connection, none, .error e⟩
    | .ok messages =>
      match holder.findMessageToHandle sm messages with
      | none => ⟨holder, connection, none, .ok (holder.getState sm)⟩
      | some (uid, msg) =>
        match holder.step sm (.ofA2AMessage msg) (some sendMessage) with
        | .error e => ⟨holder, connection, some (uid, msg), .error e⟩
        | .ok holder' =>
          match connection.updateMessageStatus uid with
          | .error e => ⟨holder', connection, some (uid, msg), .error e⟩
          | .ok connection' => ⟨holder', connection', some (uid, msg), .ok (holder'.getState sm)⟩

end Holder

/-! ### One call -/

section OneCall

variable {H : Type} (sm : HolderMachine H)

/-- Where a call that handed an entry to `step` can end. -/
def SteppedOutcome (holder : Holder H) (connection : Connection) (cb : SendMessage) (uid : String)
    (m : A2AMessage) (p : Polled H) : Prop :=
  (∃ e, holder.step sm (.ofA2AMessage m) (some cb) = .error e ∧
    p = ⟨holder, connection, some (uid, m), .error e⟩) ∨
  ∃ holder', holder.step sm (.ofA2AMessage m) (some cb) = .ok holder' ∧ p.holder = holder' ∧
    p.stepped = some (uid, m) ∧
    ((∃ e, connection.updateMessageStatus uid = .error e ∧ p.connection = connection ∧
        p.result = .error e) ∨
      ∃ connection', connection.updateMessageStatus uid = .ok connection' ∧
        p.connection = connection' ∧ p.result = .ok (holder'.getState sm))

/-- One call hands at most one entry to `step`: the one the selector picks from the unread
messages of a non-terminal holder. A failed step leaves the holder and the connection as
they were; a successful one advances the holder, and the entry is marked read only if
`update_message_status` succeeds, the call failing with the holder advanced otherwise. A
call that hands nothing to `step` changes nothing. -/
theorem updateState_outcome (holder : Holder H) (connection : Connection) :
    let p := holder.updateState sm connection
    (p.stepped = none → p.holder = holder ∧ p.connection = connection) ∧
    ∀ uid m, p.stepped = some (uid, m) →
      ∃ messages cb, holder.isTerminalState sm = false ∧
        connection.sendMessageClosure = .ok cb ∧ connection.getMessages = .ok messages ∧
        holder.findMessageToHandle sm messages = some (uid, m) ∧
        SteppedOutcome sm holder connection cb uid m p := by
  intro p
  cases hterm : holder.isTerminalState sm
  case true => simp [p, Holder.updateState, hterm]
  rcases hcb : connection.sendMessageClosure with e | cb
  · simp [p, Holder.updateState, hterm, hcb]
  rcases hget : connection.getMessages with e | messages
  · simp [p, Holder.updateState, hterm, hcb, hget]
  rcases hpick : holder.findMessageToHandle sm messages with _ | ⟨uid, m⟩
  · simp [p, Holder.updateState, hterm, hcb, hget, hpick]
  have hout : SteppedOutcome sm holder connection cb uid m p := by
    rcases hstep : holder.step sm (.ofA2AMessage m) (some cb) with e | holder'
    · exact .inl ⟨e, hstep, by simp [p, Holder.updateState, hterm, hcb, hget, hpick, hstep]⟩
    rcases hmark : connection.updateMessageStatus uid with e | connection' <;>
      simp only [p, Holder.updateState, hterm, hcb, hget, hpick, hstep, hmark, Bool.false_eq_true,
        if_false]
    · exact .inr ⟨holder', hstep, rfl, rfl, .inl ⟨e, hmark, rfl, rfl⟩⟩
    · exact .inr ⟨holder', hstep, rfl, rfl, .inr ⟨connection', hmark, rfl, rfl⟩⟩
  have hst : p.stepped = some (uid, m) := by
    rcases hout with ⟨e, -, hp⟩ | ⟨-, -, -, hst, -⟩
    · rw [hp]
    · exact hst
  refine ⟨fun h => by simp [hst] at h, fun uid' m' h => ?_⟩
  rw [hst, Option.some.injEq, Prod.mk.injEq] at h
  obtain ⟨rfl, rfl⟩ := h
  exact ⟨messages, cb, rfl, rfl, rfl, hpick, hout⟩

/-- A call keeps the received messages and only adds to the read ones. -/
theorem updateState_read (holder : Holder H) (connection : Connection) :
    (holder.updateState sm connection).connection.received = connection.received ∧
      connection.read <:+ (holder.updateState sm connection).connection.read := by
  obtain ⟨hnone, hsome⟩ := updateState_outcome sm holder connection
  rcases hst : (holder.updateState sm connection).stepped with _ | ⟨uid, m⟩
  · rw [(hnone hst).2]
    exact ⟨rfl, List.suffix_refl _⟩
  obtain ⟨messages, cb, -, -, -, -, hout⟩ := hsome uid m hst
  rcases hout with ⟨e, -, hp⟩ | ⟨holder', -, -, -, ⟨e, -, hc, -⟩ | ⟨connection', hmark, hc, -⟩⟩
  · rw [hp]
    exact ⟨rfl, List.suffix_refl _⟩
  · rw [hc]
    exact ⟨rfl, List.suffix_refl _⟩
  · rw [hc, Connection.updateMessageStatus_eq_ok hmark]
    exact ⟨rfl, List.suffix_cons _ _⟩

/-- An entry handed to `step` was not marked read. -/
theorem updateState_stepped_unread (holder : Holder H) (connection : Connection) {uid : String}
    {m : A2AMessage} (h : (holder.updateState sm connection).stepped = some (uid, m)) :
    uid ∉ connection.read := by
  obtain ⟨messages, cb, -, -, hget, hpick, -⟩ := (updateState_outcome sm holder connection).2 uid m h
  rw [Connection.getMessages_eq_ok hget] at hpick
  exact MessageBag.not_mem_of_mem_unread (sm.findMessageToHandle_mem _ _ _ _ hpick)

end OneCall

/-! ### Successive calls -/

section Polling

variable {H : Type} (sm : HolderMachine H)

/-- The entries `update_state` hands to `step` over `n` successive calls, each on the holder
and the connection the previous one left, whatever it returned. -/
def pollSteps : Nat → Holder H → Connection → List (String × A2AMessage)
  | 0, _, _ => []
  | n + 1, holder, connection =>
    let p := holder.updateState sm connection
    p.stepped.toList ++ pollSteps n p.holder p.connection

/-- An entry marked read is never handed to `step` again, over any number of calls. -/
theorem pollSteps_not_mem_of_read (n : Nat) (holder : Holder H) (connection : Connection)
    (uid : String) (hread : uid ∈ connection.read) : uid ∉ (pollSteps sm n holder connection).map Prod.fst := by
  induction n generalizing holder connection with
  | zero => simp [pollSteps]
  | succ n ih =>
    have hsuffix := (updateState_read sm holder connection).2
    have hnext := ih (holder.updateState sm connection).holder _ (hsuffix.subset hread)
    simp only [pollSteps, List.map_append, List.mem_append, not_or]
    refine ⟨fun hmem => ?_, hnext⟩
    rcases hst : (holder.updateState sm connection).stepped with _ | ⟨uid', m⟩ <;>
      rw [hst] at hmem <;> simp only [Option.toList, List.map_nil, List.not_mem_nil,
        List.map_cons, List.mem_singleton] at hmem
    subst hmem
    exact updateState_stepped_unread sm holder connection hst hread

/-- An entry whose step fails is handed to `step` on every call: the call leaves the holder
and the connection as they were, so the next one picks it again. -/
theorem pollSteps_of_step_error (n : Nat) (holder : Holder H) (connection : Connection)
    (uid : String) (m : A2AMessage) (e : VcxError)
    (h : holder.updateState sm connection = ⟨holder, connection, some (uid, m), .error e⟩) :
    pollSteps sm n holder connection = List.replicate n (uid, m) := by
  induction n with
  | zero => rfl
  | succ n ih => simp [pollSteps, h, ih, List.replicate_succ]

end Polling

/-- A holder machine whose selector takes the first entry and whose step accepts an offer
and rejects any other message, as a step rejects a malformed one. Its state counts the steps. -/
def offerOnlyMachine : HolderMachine Nat where
  isTerminalState _ := false
  getState n := if n = 0 then .initial else .offerReceived
  findMessageToHandle _ messages := messages.entries.head?
  handleMessage n cim _ :=
    match cim with
    | .credentialOffer _ => .ok (n + 1)
    | _ => .error (.fromMsg .invalidState "unexpected message")
  findMessageToHandle_mem _ _ _ _ h := List.mem_map_of_mem Prod.fst (List.mem_of_mem_head? h)

/-- A connection holding one message under the uid `k`, whose calls all succeed unless
marking fails. -/
def oneMessageConnection (message : A2AMessage) (markFails : Bool) : Connection where
  received := ⟨[("k", message)], List.nodup_cons.2 ⟨List.not_mem_nil _, List.nodup_nil⟩⟩
  read := []
  sendMessageClosure := .ok fun _ => .ok ()
  getMessagesError := none
  updateMessageStatusError _ := if markFails then some (.ofKind (.other "agency")) else none

end CredentialIssuance
