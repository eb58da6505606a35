/-
  File:      Matternode/Protocols/InteractionModel.lean
  Subject:   InteractionModel: the datagrams whose handlers run, and the sessions they run on.

  A protocol's listener is found by the protocol id of a message alone. ExchangeManager listens to
  `message` and `message_unsecured` alike, so what SessionManager tells apart is one again where a
  handler is chosen.

  * `ImHandler`, `onProtocolMessage` -- the handler of an opcode;
  * `handled` -- a datagram, down to the handler that runs and the session of its exchange;
  * `OnlySecure` -- a handler runs on a secure session only, with an attestation challenge;
  * `ReachesHandler` -- the unencrypted datagrams that run one;
  * `onlySecure_iff` -- **in every run, a datagram's handler runs on a secure session only exactly
    when** it is not such a datagram.
-/
import Matternode.Messaging.Dispatch
import Matternode.Messaging.Exchange

namespace Matternode.Protocols

open Base Js Messaging

/-! ## 1. Handlers -/

inductive ImHandler where
  | onStatusResponse | onReadRequest | onSubscribeRequest | onSubscribeResponse | onReportData
  | onWriteRequest | onWriteResponse | onInvokeCommandRequest | onInvokeCommandResponse
  | onTimedRequest
  deriving DecidableEq, Repr

namespace InteractionModel

/-- InteractionModel.PROTOCOL_ID. -/
def protocolId : Nat := 0x0001

/-- The handler of an opcode, by ImConst.Command. -/
def handlerOf : Nat → Option ImHandler
  | 1 => some .onStatusResponse
  | 2 => some .onReadRequest
  | 3 => some .onSubscribeRequest
  | 4 => some .onSubscribeResponse
  | 5 => some .onReportData
  | 6 => some .onWriteRequest
  | 7 => some .onWriteResponse
  | 8 => some .onInvokeCommandRequest
  | 9 => some .onInvokeCommandResponse
  | 10 => some .onTimedRequest
  | _ => none

/-- `onProtocolMessage(msg, exchange)`: the handler it runs. -/
def onProtocolMessage (msg : Message) : Except JsError (Option ImHandler) := do
  let opcode ← msg.protocolOpcode
  let _ ← msg.exchangeId
  return handlerOf opcode

/-- A datagram, down to the handler that runs and the session of its exchange. -/
def handled (A : Aead) (buf : Bytes) (peerInfo : PeerInfo) :
    NodeM (Option (ImHandler × SessionRef)) := do
  match ← Node.onDatagram A buf peerInfo with
  | .protocol id msg i =>
    if id = protocolId then
      let handler ← lift (onProtocolMessage msg)
      let n ← get
      return do
        let handler ← handler
        let exchange ← n.exchanges[i]?
        return (handler, exchange.session)
    else return none
  | _ => return none

theorem handlerOf_isSome_iff (opcode : Nat) : (handlerOf opcode).isSome ↔ 1 ≤ opcode ∧ opcode ≤ 10 := by
  constructor
  · intro h
    unfold handlerOf at h
    split at h <;> first | omega | cases h
  · rintro ⟨hlow, hhigh⟩
    have hall : ∀ opcode < 11, 1 ≤ opcode → (handlerOf opcode).isSome := by decide
    exact hall opcode (by omega) hlow

/-! ## 2. Sessions -/

/-- A datagram runs no handler but on a secure session, which has an attestation challenge. -/
def OnlySecure (A : Aead) (n : Node) (buf : Bytes) (peerInfo : PeerInfo) : Prop :=
  ∀ handler ref n', (handled A buf peerInfo).run n = .ok (some (handler, ref)) n' →
    (rawMessage buf peerInfo).isUnencrypted = .ok false ∧
      ∃ s challenge, n'.sessions.session? ref = some s ∧ s.secure = true ∧
        s.attestationChallenge = .ok challenge

/-- The message begins an exchange with a handler's opcode, on the session with this place in the
    unsecured table: its sender began no exchange with its id there. -/
structure BeginsExchange (n : Node) (msg : Message) (k : Nat) : Prop where
  iflag : msg.iflag = .ok true
  protocolId : msg.protocolId = .ok InteractionModel.protocolId
  opcode : ∃ opcode, msg.protocolOpcode = .ok opcode ∧ 1 ≤ opcode ∧ opcode ≤ 10
  unmatched : ∃ id, msg.exchangeId = .ok id ∧ ∀ ex ∈ n.exchanges,
    ex.session = .unsecured k → ex.exchangeId = id → ex.isInitiator = true

/-- **The unencrypted datagrams that run a handler**: the look-up of their session answers, and they
    begin an exchange on it. -/
def ReachesHandler (n : Node) (buf : Bytes) (peerInfo : PeerInfo) : Prop :=
  ∃ source found, (rawMessage buf peerInfo).sourceNodeId = .ok source ∧
    n.sessions.getUnsecureSession peerInfo source = .ok found ∧
    BeginsExchange n (rawMessage buf peerInfo)
      (found.getD n.sessions.sessionsUnsecured.length)

/-! ## 3. Which datagrams run a handler -/

section Handled

variable {A : Aead} {n n' : Node} {buf : Bytes} {peerInfo : PeerInfo}

/-- An exchange of an unsecured session matches by the exchange id and the role. -/
theorem getExchange_unsecured_eq_none_iff {h : SessionManager} {k exchangeId : Nat} {s : Session}
    (hs : h.session? (.unsecured k) = some s) (hid : s.localSessionId = .nat unsecuredSessionId) :
    ({ n with sessions := h } : Node).getExchange (.unsecured k) exchangeId unsecuredSessionId true =
        none ↔
      ∀ ex ∈ n.exchanges, ex.session = .unsecured k → ex.exchangeId = exchangeId →
        ex.isInitiator = true := by
  unfold Node.getExchange
  rw [List.findIdx?_eq_none_iff]
  refine forall₂_congr fun ex _ => ?_
  unfold Exchange.matchMessage
  constructor
  · intro hno hses hx
    rw [hses, hs, hx] at hno
    simpa [hid] using hno
  · intro hyes
    by_cases hses : ex.session = .unsecured k
    · by_cases hx : ex.exchangeId = exchangeId
      · simp [hyes hses hx]
      · simp [Ne.symm hx]
    · simp [Ne.symm hses]

/-- The message is the first of an exchange, with the protocol id and an opcode of a handler. -/
structure BeginsAt (n : Node) (msg : Message) (ref : SessionRef) : Prop where
  iflag : msg.iflag = .ok true
  protocolId : msg.protocolId = .ok InteractionModel.protocolId
  opcode : ∃ opcode, msg.protocolOpcode = .ok opcode ∧ (handlerOf opcode).isSome
  unmatched : ∃ sessionId exchangeId, msg.sessionId = .ok sessionId ∧
    msg.exchangeId = .ok exchangeId ∧ n.getExchange ref exchangeId sessionId true = none

/-- **A handler that runs** runs for the first message of an exchange, on the session the message
    came on. -/
theorem handled_eq_some {handler : ImHandler} {ref : SessionRef}
    (hrun : (handled A buf peerInfo).run n = .ok (some (handler, ref)) n') :
    ∃ e, (SessionManager.onMessage A buf peerInfo).run n.sessions = .ok e n'.sessions ∧
      ref = e.session ∧ BeginsAt { n with sessions := n'.sessions } e.msg e.session := by
  obtain ⟨d, n2, hd, hrest⟩ := run_bind_eq_ok hrun
  obtain ⟨e, n1, he, hmsg⟩ := run_bind_eq_ok hd
  obtain ⟨h', hon, rfl⟩ := run_zoom_eq_ok he
  cases d with
  | exchange i msg => cases hrest
  | dropped => cases hrest
  | protocol id msg i =>
    obtain ⟨rfl, hi, hp, ⟨sessionId, exchangeId, hs, hx, hnone⟩, hses, ex, hex, hexs, -⟩ :=
      Node.onSessionMessage_protocol hmsg
    dsimp only at hrest
    split at hrest
    · rename_i hid
      obtain ⟨handler?, n3, hl, hret⟩ := run_bind_eq_ok hrest
      obtain ⟨hon', hn3⟩ := run_lift_eq_ok hl
      rw [hn3, run_bind_ok (run_get n2)] at hret
      obtain ⟨opcode, hop, hrest'⟩ := bind_eq_ok hon'
      obtain ⟨_, -, hret'⟩ := bind_eq_ok hrest'
      cases hret'
      rw [hex] at hret
      cases hh : handlerOf opcode with
      | none =>
        rw [hh] at hret
        cases hret
      | some handler' =>
        rw [hh] at hret
        cases hret
        refine ⟨e, ?_, hexs, hi, hid ▸ hp, ⟨opcode, hop, by rw [hh]; rfl⟩, ?_⟩
        · rw [hses]
          exact hon
        · rw [hses]
          exact ⟨sessionId, exchangeId, hs, hx, hnone⟩
    · cases hrest

/-- The first message of an exchange, with the protocol id and an opcode of a handler, runs it. -/
theorem handled_of_begins {e : SessionManager.Emission} {h' : SessionManager}
    (hon : (SessionManager.onMessage A buf peerInfo).run n.sessions = .ok e h')
    (hb : BeginsAt { n with sessions := h' } e.msg e.session) :
    ∃ handler n', (handled A buf peerInfo).run n = .ok (some (handler, e.session)) n' := by
  obtain ⟨sessionId, exchangeId, hs, hx, hnone⟩ := hb.unmatched
  obtain ⟨opcode, hop, hsome⟩ := hb.opcode
  obtain ⟨handler, hhandler⟩ := Option.isSome_iff_exists.mp hsome
  obtain ⟨-, ⟨flags, hflags⟩, -, hlen, -⟩ := Message.protocolId_eq_ok hb.protocolId
  obtain ⟨counter, hcounter⟩ := Message.messageCounter_of_le hlen
  have hr : e.msg.rflag = .ok (flags &&& 0x04 ≠ 0) := by
    unfold Message.rflag Message.exchangeFlag
    rw [hflags]
    rfl
  obtain ⟨n', hmsg⟩ := Node.onSessionMessage_new hs hx hb.iflag hnone hb.protocolId hr hcounter
  obtain ⟨-, -, -, -, hses, ex, hex, hexs, -⟩ := Node.onSessionMessage_protocol hmsg
  have hd : (Node.onDatagram A buf peerInfo).run n = _ :=
    (run_bind_ok (run_zoom_ok hon)).trans hmsg
  refine ⟨handler, n', (run_bind_ok hd).trans ?_⟩
  dsimp only
  rw [if_pos rfl]
  have hmodel : onProtocolMessage e.msg = .ok (some handler) := by
    unfold onProtocolMessage
    rw [hop, hx, ← hhandler]
    rfl
  rw [hmodel, run_bind_ok (run_lift_ok _ n'), run_bind_ok (run_get n'), hex, ← hexs]
  rfl

/-- On an unsecured session, whose id is 0, that is what `BeginsExchange` says. -/
theorem beginsAt_unsecured_iff {h : SessionManager} {msg : Message} {k : Nat} {s : Session}
    (hs : h.session? (.unsecured k) = some s) (hid : s.localSessionId = .nat unsecuredSessionId)
    (hm : msg.isUnencrypted = .ok true) :
    BeginsAt { n with sessions := h } msg (.unsecured k) ↔ BeginsExchange n msg k := by
  have hzero := Message.sessionId_of_unencrypted hm
  constructor
  · rintro ⟨hi, hp, ⟨opcode, hop, hsome⟩, sessionId, exchangeId, hsid, hx, hnone⟩
    cases hzero.symm.trans hsid
    rw [handlerOf_isSome_iff] at hsome
    exact ⟨hi, hp, ⟨opcode, hop, hsome⟩, exchangeId, hx,
      (getExchange_unsecured_eq_none_iff hs hid).mp hnone⟩
  · rintro ⟨hi, hp, ⟨opcode, hop, hrange⟩, exchangeId, hx, hfree⟩
    rw [← handlerOf_isSome_iff] at hrange
    exact ⟨hi, hp, ⟨opcode, hop, hrange⟩, unsecuredSessionId, exchangeId, hzero, hx,
      (getExchange_unsecured_eq_none_iff hs hid).mpr hfree⟩

/-- A message of an initiator is looked up by its source. -/
theorem unsecuredPeer_initiator {msg : Message} (hi : msg.iflag = .ok true) :
    SessionManager.unsecuredPeer msg = msg.sourceNodeId := by
  unfold SessionManager.unsecuredPeer
  rw [hi]
  rfl

/-- One datagram. -/
theorem onlySecure_step_iff (hn : n.WellFormed) :
    OnlySecure A n buf peerInfo ↔
      ¬ ((rawMessage buf peerInfo).isUnencrypted = .ok true ∧ ReachesHandler n buf peerInfo) := by
  have hkeeps := SessionManager.keeps_onMessage SessionManager.stable_wellFormed A buf peerInfo
  constructor
  · rintro hsec ⟨hm, source, found, hsrc, hfound, hb⟩
    obtain ⟨-, -, -, hlen, -⟩ := Message.protocolId_eq_ok hb.protocolId
    obtain ⟨counter, hcounter⟩ := Message.messageCounter_of_le hlen
    have hpeer := (unsecuredPeer_initiator hb.iflag).trans hsrc
    obtain ⟨h', hon⟩ :=
      SessionManager.onMessage_unsecured_ok (A := A) hm hpeer hfound hsrc hcounter
    obtain ⟨-, -, -, -, -, -, s, hs⟩ := SessionManager.onMessage_unsecured_eq_ok hm hon
    have hid := ((Triple.ok hkeeps hn hon).unsecured s (List.mem_of_getElem? hs)).2
    obtain ⟨handler, n', hrun⟩ := handled_of_begins hon ((beginsAt_unsecured_iff hs hid hm).mpr hb)
    obtain ⟨hfalse, -⟩ := hsec handler _ n' hrun
    cases hm.symm.trans hfalse
  · intro hno handler ref n' hrun
    obtain ⟨e, hon, rfl, hb⟩ := handled_eq_some hrun
    have hw : n'.sessions.WellFormed := Triple.ok hkeeps hn hon
    obtain ⟨b, _, hl, _⟩ := run_bind_eq_ok hon
    have hm : (rawMessage buf peerInfo).isUnencrypted = .ok b := (run_lift_eq_ok hl).1
    cases b with
    | false =>
      obtain ⟨k, s, href, hs⟩ := SessionManager.onMessage_secure_eq_ok hn hm hon
      obtain ⟨c, hc⟩ := hw.cryptoContext hs
      refine ⟨hm, s, c.attestationChallenge, href ▸ hs, hw.secured s (List.mem_of_getElem? hs), ?_⟩
      unfold Session.attestationChallenge
      rw [hc]
      rfl
    | true =>
      obtain ⟨hmsg, source, found, hpeer, hfound, href, s, hs⟩ :=
        SessionManager.onMessage_unsecured_eq_ok hm hon
      rw [hmsg] at hb
      rw [href] at hb hs
      have hid := (hw.unsecured s (List.mem_of_getElem? hs)).2
      have hsrc := (unsecuredPeer_initiator hb.iflag).symm.trans hpeer
      exact absurd ⟨hm, source, found, hsrc, hfound, (beginsAt_unsecured_iff hs hid hm).mp hb⟩ hno

end Handled

/-- **In every run, a datagram's handler runs on a secure session only exactly when** it is not an
    unencrypted one that begins an exchange of this protocol. -/
theorem onlySecure_iff (A : Aead) (hkdf : SessionCryptoContext.Hkdf) (entropy : Nat → UInt8)
    (es : List NodeEvent) :
    Along (Node.step A hkdf) (fun n e => ∀ buf peerInfo, e = .datagram buf peerInfo →
        (OnlySecure A n buf peerInfo ↔
          ¬ ((rawMessage buf peerInfo).isUnencrypted = .ok true ∧ ReachesHandler n buf peerInfo)))
      (.init entropy) es := by
  refine along_of_invariant (Node.step A hkdf) (Node.wellFormed_step A hkdf) ?_
    (Node.wellFormed_init entropy) es
  rintro n e hn buf peerInfo -
  exact onlySecure_step_iff hn

/-! ## 4. A request in the clear -/

/-- An InvokeCommandRequest of exchange 1, not encrypted. -/
def clearRequest : Bytes := stampedHeader 0 5 ++ [1, 8, 1, 0, 1, 0]

/-- **A handler that runs for a datagram in the clear**: on a new node, the command handler runs on
    an unsecured session, and to ask that session for its attestation challenge throws. -/
theorem clearRequest_handled :
    (rawMessage clearRequest samplePeer).isUnencrypted = .ok true ∧
      ∃ n', (handled Aead.keyTag clearRequest samplePeer).run (.init fun _ => 0) =
          .ok (some (.onInvokeCommandRequest, .unsecured 0)) n' ∧
        ∃ s, n'.sessions.session? (.unsecured 0) = some s ∧ s.secure = false ∧
          s.attestationChallenge = .error .typeError :=
  ⟨rfl, _, rfl, _, rfl, rfl, rfl⟩

end InteractionModel

end Matternode.Protocols
