/-
  File:      Matternode/Messaging/Exchange.lean
  Subject:   Exchange and ExchangeManager: a node's exchanges over its sessions.

  * `Exchange.address` -- the fields `Exchange.sendMessage` writes before its session sends;
  * `Node` -- the tables of sessions and exchanges;
  * `newExchange`, `onSessionMessage`, `onDatagram` -- from a datagram to the listeners it is emitted
    to: those of an exchange, or those of a protocol id;
  * `onSessionMessage_new`, `onSessionMessage_protocol` -- when a message begins an exchange;
  * `NodeEvent`, `Node.step` -- datagrams, and what protocols do in between: exchanges begun,
    messages sent, sessions made by a handshake.
-/
import Matternode.Messaging.SessionManager

namespace Matternode.Messaging

open Base Js

/-! ## 1. Exchanges -/

structure Exchange where
  exchangeId : Nat
  session : SessionRef
  isInitiator : Bool := true
  isReliable : Bool := false
  isAck : Bool := false
  ackCounter : Nat := 0
  deriving DecidableEq, Repr

namespace Exchange

/-- `match(session, msg)`, from the fields of the message. -/
def matchMessage (ex : Exchange) (h : SessionManager) (ref : SessionRef)
    (exchangeId sessionId : Nat) (iflag : Bool) : Bool :=
  exchangeId = ex.exchangeId &&
    (h.session? ex.session).any (·.localSessionId.strictEqNat sessionId) &&
    iflag != ex.isInitiator &&
    ref = ex.session

/-- The fields `sendMessage` writes. -/
def address (ex : Exchange) (msg : Message) : Except JsError Message := do
  let msg ← msg.setExchangeId (.nat ex.exchangeId)
  let msg ← msg.setExchangeFlags (.nat 0)
  let msg ← msg.setIflag ex.isInitiator
  let msg ← msg.setRflag ex.isReliable
  if ex.isAck then
    let msg ← msg.setAflag true
    msg.setAckCounter (.nat ex.ackCounter)
  else return msg

end Exchange

/-! ## 2. The exchanges of a node -/

structure Node where
  sessions : SessionManager
  exchanges : List Exchange := []
  nextExchangeId : Nat := 0

abbrev NodeM := EStateM JsError Node

/-- The listeners a message is emitted to. -/
inductive Delivery where
  | exchange (i : Nat) (msg : Message)
  | protocol (protocolId : Nat) (msg : Message) (i : Nat)
  | dropped

namespace Node

/-- A script over the session tables. -/
def onSessions {α : Type} (m : ManagerM α) : NodeM α :=
  zoom Node.sessions (fun h n => { n with sessions := h }) m

def modifyExchange (n : Node) (i : Nat) (f : Exchange → Exchange) : Node :=
  { n with exchanges := n.exchanges.modify i f }

def getExchange (n : Node) (ref : SessionRef) (exchangeId sessionId : Nat) (iflag : Bool) :
    Option Nat :=
  n.exchanges.findIdx? fun ex => ex.matchMessage n.sessions ref exchangeId sessionId iflag

/-- The id of a new exchange: that of the message, or the next. -/
def takeExchangeId : Option Message → NodeM Nat
  | some msg => lift msg.exchangeId
  | none => modifyGet fun n => (n.nextExchangeId, { n with nextExchangeId := n.nextExchangeId + 1 })

/-- A new exchange, and its place in the table. -/
def pushExchange (ex : Exchange) : NodeM Nat :=
  modifyGet fun n => (n.exchanges.length, { n with exchanges := n.exchanges ++ [ex] })

/-- `newExchange(session, msg, isInitiator)`. -/
def newExchange (session : Option SessionRef := none) (msg : Option Message := none)
    (isInitiator : Bool := true) : NodeM Nat := do
  let ref ← match session with
    | some ref => pure ref
    | none => onSessions SessionManager.newUnsecuredSession
  let exchangeId ← takeExchangeId msg
  pushExchange { exchangeId, session := ref, isInitiator }

/-- `onSessionMessage(msg, session)`: the listeners it emits to. The getters that `match` asks again
    answer what they answered. -/
def onSessionMessage (msg : Message) (ref : SessionRef) : NodeM Delivery := do
  let sessionId ← lift msg.sessionId
  let exchangeId ← lift msg.exchangeId
  let iflag ← lift msg.iflag
  match (← get).getExchange ref exchangeId sessionId iflag with
  | some i =>
    let counter ← lift msg.messageCounter
    modify fun n => n.modifyExchange i fun ex => { ex with ackCounter := counter }
    return .exchange i msg
  | none =>
    if iflag then
      let protocolId ← lift msg.protocolId
      let i ← newExchange (some ref) (some msg)
      let rflag ← lift msg.rflag
      let counter ← lift msg.messageCounter
      modify fun n => n.modifyExchange i fun ex =>
        { ex with
          isInitiator := !iflag
          isReliable := rflag
          isAck := rflag
          ackCounter := counter }
      return .protocol protocolId msg i
    else return .dropped

/-- A datagram, from SessionManager through ExchangeManager: the listeners of `message` and of
    `message_unsecured` do the same. -/
def onDatagram (A : Aead) (buf : Bytes) (peerInfo : PeerInfo) : NodeM Delivery := do
  let e ← onSessions (SessionManager.onMessage A buf peerInfo)
  onSessionMessage e.msg e.session

/-- `exchange.sendMessage(msg)`. -/
def sendMessage (A : Aead) (i : Nat) (msg : Message) : NodeM Message := do
  match (← get).exchanges[i]? with
  | none => throw .typeError
  | some ex =>
    let msg ← lift (ex.address msg)
    let _ ← lift msg.sessionId
    onSessions (SessionManager.sendOn A ex.session msg)

/-- An exchange on a new unsecured session to an address. -/
def newExchangeTo (transport : Transport) (peerInfo : PeerInfo) : NodeM Nat := do
  let i ← newExchange
  match (← get).exchanges[i]? with
  | none => throw .typeError
  | some ex =>
    modify fun n => { n with
      sessions := n.sessions.modifySession
        (fun s => { s with transport := transport, peerInfo := some peerInfo }) ex.session }
    return i

section Deliveries

variable {n n' : Node} {msg : Message} {ref : SessionRef} {sessionId exchangeId protocolId : Nat}

/-- A message of an initiator that no exchange matches begins one, and goes to its protocol. -/
theorem onSessionMessage_new {rflag : Bool} {counter : Nat} (hs : msg.sessionId = .ok sessionId)
    (hx : msg.exchangeId = .ok exchangeId) (hi : msg.iflag = .ok true)
    (hnone : n.getExchange ref exchangeId sessionId true = none)
    (hp : msg.protocolId = .ok protocolId) (hr : msg.rflag = .ok rflag)
    (hc : msg.messageCounter = .ok counter) :
    ∃ n', (onSessionMessage msg ref).run n = .ok (.protocol protocolId msg n.exchanges.length) n' := by
  have hnew : (newExchange (some ref) (some msg)).run n = .ok n.exchanges.length
      { n with exchanges := n.exchanges ++ [{ exchangeId, session := ref }] } := by
    simp only [newExchange, takeExchangeId, hx]
    rfl
  unfold onSessionMessage
  rw [hs, run_bind_ok (run_lift_ok sessionId n), hx, run_bind_ok (run_lift_ok exchangeId n), hi,
    run_bind_ok (run_lift_ok true n), run_bind_ok (run_get n), hnone, hp, hr, hc]
  exact ⟨_, (run_bind_ok (run_lift_ok protocolId n)).trans (run_bind_ok hnew)⟩

/-- **A message goes to a protocol only** as the first of an exchange its sender began; the exchange
    answers on the session the message came on, with the id and the counter of the message. -/
theorem onSessionMessage_protocol {msg' : Message} {i : Nat}
    (hrun : (onSessionMessage msg ref).run n = .ok (.protocol protocolId msg' i) n') :
    msg' = msg ∧ msg.iflag = .ok true ∧ msg.protocolId = .ok protocolId ∧
      (∃ sessionId exchangeId, msg.sessionId = .ok sessionId ∧ msg.exchangeId = .ok exchangeId ∧
        n.getExchange ref exchangeId sessionId true = none) ∧
      n'.sessions = n.sessions ∧ ∃ ex, n'.exchanges[i]? = some ex ∧ ex.session = ref ∧
        ex.isInitiator = false ∧ msg.exchangeId = .ok ex.exchangeId ∧
        msg.messageCounter = .ok ex.ackCounter := by
  obtain ⟨sessionId, t1, h1, r1⟩ := run_bind_eq_ok hrun
  obtain ⟨hs, ht1⟩ := run_lift_eq_ok h1
  rw [ht1] at r1
  obtain ⟨exchangeId, t2, h2, r2⟩ := run_bind_eq_ok r1
  obtain ⟨hx, ht2⟩ := run_lift_eq_ok h2
  rw [ht2] at r2
  obtain ⟨iflag, t3, h3, r3⟩ := run_bind_eq_ok r2
  obtain ⟨hi, ht3⟩ := run_lift_eq_ok h3
  rw [ht3, run_bind_ok (run_get n)] at r3
  cases hfound : n.getExchange ref exchangeId sessionId iflag with
  | some j =>
    rw [hfound] at r3
    obtain ⟨counter, t4, -, r4⟩ := run_bind_eq_ok r3
    cases r4
  | none =>
    rw [hfound] at r3
    cases iflag with
    | false => cases r3
    | true =>
      obtain ⟨p, t4, h4, r4⟩ := run_bind_eq_ok r3
      obtain ⟨hp, ht4⟩ := run_lift_eq_ok h4
      have hnew : (newExchange (some ref) (some msg)).run t4 = .ok n.exchanges.length
          { n with exchanges := n.exchanges ++ [{ exchangeId, session := ref }] } := by
        rw [ht4]
        simp only [newExchange, takeExchangeId, hx]
        rfl
      rw [run_bind_ok hnew] at r4
      obtain ⟨rflag, t5, h5, r5⟩ := run_bind_eq_ok r4
      obtain ⟨-, ht5⟩ := run_lift_eq_ok h5
      obtain ⟨counter, t6, h6, r6⟩ := run_bind_eq_ok r5
      obtain ⟨hc, ht6⟩ := run_lift_eq_ok h6
      rw [ht6, ht5] at r6
      cases r6
      refine ⟨rfl, hi, hp, ⟨sessionId, exchangeId, hs, hx, hfound⟩, rfl, ?_⟩
      simp [modifyExchange, hx, hc]

end Deliveries

end Node

/-! ## 3. The machine -/

inductive NodeEvent where
  | datagram (buf : Bytes) (peerInfo : PeerInfo)
  | handshake (localSessionId peerSessionId : JsValue) (secret : Bytes)
  | begin (transport : Transport) (peerInfo : PeerInfo)
  | beginOn (ref : SessionRef)
  | setFlags (i : Nat) (isReliable isAck : Bool)
  | send (i : Nat) (msg : Message)

namespace Node

/-- One event; what threw leaves what it changed. -/
def step (A : Aead) (hkdf : SessionCryptoContext.Hkdf) (n : Node) : NodeEvent → Node
  | .datagram buf peerInfo => final ((onDatagram A buf peerInfo).run n)
  | .handshake l p secret =>
    final ((onSessions (SessionManager.createSecureSession hkdf l p secret)).run n)
  | .begin transport peerInfo => final ((newExchangeTo transport peerInfo).run n)
  | .beginOn ref => final ((newExchange (some ref)).run n)
  | .setFlags i isReliable isAck =>
    n.modifyExchange i fun ex => { ex with isReliable := isReliable, isAck := isAck }
  | .send i msg => final ((sendMessage A i msg).run n)

/-- `new Node()`. -/
def init (entropy : Nat → UInt8) : Node := { sessions := .init entropy }

/-! ## 4. What every run keeps -/

section Stability

variable {R : SessionManager → Prop} (hR : SessionManager.Stable R)

theorem keeps_onSessions {α : Type} {m : ManagerM α} (hm : Keeps R m) :
    Keeps (fun n => R n.sessions) (onSessions m) :=
  Keeps.zoom_of hm (fun _ hn => hn) fun _ _ _ hh => hh

theorem keeps_modifyExchange (i : Nat) (f : Exchange → Exchange) :
    Keeps (fun n => R n.sessions) (modify fun n => n.modifyExchange i f : NodeM PUnit) :=
  Keeps.modify fun _ hn => hn

include hR

theorem keeps_newExchange (session : Option SessionRef) (msg : Option Message)
    (isInitiator : Bool) : Keeps (fun n => R n.sessions) (newExchange session msg isInitiator) := by
  have hpush (ref : SessionRef) : Keeps (fun n => R n.sessions) (do
      let exchangeId ← takeExchangeId msg
      pushExchange { exchangeId, session := ref, isInitiator } : NodeM Nat) := by
    refine Keeps.bind ?_ fun id _ hn => hn
    cases msg with
    | some msg => exact Keeps.lift _
    | none => exact fun _ hn => hn
  cases session with
  | some ref => exact hpush ref
  | none =>
    exact Keeps.bind (keeps_onSessions (SessionManager.keeps_newUnsecuredSession hR.settled)) hpush

theorem keeps_onSessionMessage (msg : Message) (ref : SessionRef) :
    Keeps (fun n => R n.sessions) (onSessionMessage msg ref) := by
  refine Keeps.bind (Keeps.lift _) fun sessionId => Keeps.bind (Keeps.lift _) fun exchangeId =>
    Keeps.bind (Keeps.lift _) fun iflag => Keeps.bind Keeps.get fun n => ?_
  cases n.getExchange ref exchangeId sessionId iflag with
  | some i =>
    exact Keeps.bind (Keeps.lift _) fun counter =>
      Keeps.bind (keeps_modifyExchange i _) fun _ => Keeps.pure _
  | none =>
    cases iflag with
    | false => exact Keeps.pure _
    | true =>
      exact Keeps.bind (Keeps.lift _) fun protocolId =>
        Keeps.bind (keeps_newExchange hR _ _ _) fun i => Keeps.bind (Keeps.lift _) fun rflag =>
        Keeps.bind (Keeps.lift _) fun counter =>
        Keeps.bind (keeps_modifyExchange i _) fun _ => Keeps.pure _

theorem keeps_onDatagram (A : Aead) (buf : Bytes) (peerInfo : PeerInfo) :
    Keeps (fun n => R n.sessions) (onDatagram A buf peerInfo) :=
  Keeps.bind (keeps_onSessions (SessionManager.keeps_onMessage hR A buf peerInfo)) fun e =>
    keeps_onSessionMessage hR e.msg e.session

theorem keeps_sendMessage (A : Aead) (i : Nat) (msg : Message) :
    Keeps (fun n => R n.sessions) (sendMessage A i msg) := by
  refine Keeps.bind Keeps.get fun n => ?_
  cases n.exchanges[i]? with
  | none => exact Keeps.throw _
  | some ex =>
    exact Keeps.bind (Keeps.lift _) fun msg => Keeps.bind (Keeps.lift _) fun _ =>
      keeps_onSessions (SessionManager.keeps_sendOn hR.settled A ex.session msg)

theorem keeps_newExchangeTo (transport : Transport) (peerInfo : PeerInfo) :
    Keeps (fun n => R n.sessions) (newExchangeTo transport peerInfo) := by
  refine Keeps.bind (keeps_newExchange hR _ _ _) fun i => Keeps.bind Keeps.get fun n => ?_
  cases n.exchanges[i]? with
  | none => exact Keeps.throw _
  | some ex =>
    exact Keeps.bind (Keeps.modify fun n hn =>
      hR.modifySession _ (fun s _ => ⟨rfl, rfl, rfl⟩) hn) fun _ => Keeps.pure _

/-- **What is stable of the session tables is kept by every event of a node.** -/
theorem stable_step (A : Aead) (hkdf : SessionCryptoContext.Hkdf) (n : Node) (e : NodeEvent)
    (hn : R n.sessions) : R (step A hkdf n e).sessions := by
  cases e with
  | datagram buf peerInfo => exact (keeps_onDatagram hR A buf peerInfo).final hn
  | handshake l p secret =>
    exact (keeps_onSessions (SessionManager.keeps_createSecureSession hR hkdf l p secret)).final hn
  | begin transport peerInfo => exact (keeps_newExchangeTo hR transport peerInfo).final hn
  | beginOn ref => exact (keeps_newExchange hR (some ref) none true).final hn
  | setFlags i isReliable isAck => exact hn
  | send i msg => exact (keeps_sendMessage hR A i msg).final hn

end Stability

/-- The session tables are well formed. -/
def WellFormed (n : Node) : Prop := n.sessions.WellFormed

theorem wellFormed_step (A : Aead) (hkdf : SessionCryptoContext.Hkdf) (n : Node) (e : NodeEvent)
    (hn : n.WellFormed) : (step A hkdf n e).WellFormed :=
  stable_step SessionManager.stable_wellFormed A hkdf n e hn

theorem wellFormed_init (entropy : Nat → UInt8) : (init entropy).WellFormed :=
  SessionManager.wellFormed_init entropy

end Node

end Matternode.Messaging
