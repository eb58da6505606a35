/-
  File:      Matternode/Messaging/Conversation.lean
  Subject:   An exchange in the clear with room for a number of messages.

  A session that does not know its peer's node id draws one for the first message of an initiator,
  and cannot send for a responder. Every message takes a counter, up to 2^32.

  * `Conversation` -- an exchange and its unsecured session, with counters left;
  * `Content.CarriedBy` -- what the other side reads of a frame;
  * `Node.Speaks`, `Node.Speaks.sendMessage` -- **a message goes out as one frame that carries it**, and
    one message less may follow.
-/
import Matternode.Messaging.Transmission

namespace Matternode.Messaging

open Base Js

/-! ## 1. Room -/

/-- The exchange and its session can send `k` messages in the clear. -/
structure Conversation (ex : Exchange) (s : Session) (k : Nat) : Prop where
  peerSessionId : s.peerSessionId = .nat unsecuredSessionId
  peerInfo : ∃ peer, s.peerInfo = some peer
  nodeId_fits : Session.NodeIdFits s.peerNodeId
  /-- A responder knows whom it answers. -/
  responds : ex.isInitiator = false → s.hasPeerNodeId = true
  counter_le : s.messageCounter + k ≤ 2 ^ 32
  exchangeId_lt : ex.exchangeId < 65536
  ackCounter_lt : ex.ackCounter < 2 ^ 32

/-- A change of the flags that a message is sent with, and of the ack counter. -/
structure Exchange.Stays (f : Exchange → Exchange) : Prop where
  session : ∀ ex, (f ex).session = ex.session
  isInitiator : ∀ ex, (f ex).isInitiator = ex.isInitiator
  exchangeId : ∀ ex, (f ex).exchangeId = ex.exchangeId
  ackCounter : ∀ ex, ex.ackCounter < 2 ^ 32 → (f ex).ackCounter < 2 ^ 32

theorem Exchange.stays_ackCounter {counter : Nat} (h : counter < 2 ^ 32) :
    Exchange.Stays fun ex => { ex with ackCounter := counter } :=
  ⟨fun _ => rfl, fun _ => rfl, fun _ => rfl, fun _ _ => h⟩

theorem Exchange.stays_isAck : Exchange.Stays fun ex => { ex with isAck := true } :=
  ⟨fun _ => rfl, fun _ => rfl, fun _ => rfl, fun _ h => h⟩

theorem Exchange.stays_isReliable : Exchange.Stays fun ex => { ex with isReliable := true } :=
  ⟨fun _ => rfl, fun _ => rfl, fun _ => rfl, fun _ h => h⟩

theorem Conversation.modify {ex : Exchange} {s : Session} {k : Nat} (h : Conversation ex s k)
    {f : Exchange → Exchange} (hf : Exchange.Stays f) : Conversation (f ex) s k where
  peerSessionId := h.peerSessionId
  peerInfo := h.peerInfo
  nodeId_fits := h.nodeId_fits
  responds hrole := h.responds ((hf.isInitiator ex).symm.trans hrole)
  counter_le := h.counter_le
  exchangeId_lt := (hf.exchangeId ex).trans_lt h.exchangeId_lt
  ackCounter_lt := hf.ackCounter ex h.ackCounter_lt

/-- What a new message made of the frame is read as. -/
structure Content.CarriedBy (c : Content) (m : Message) : Prop where
  protocolOpcode : m.protocolOpcode = .ok c.opcode
  exchangeId : ∃ id, m.exchangeId = .ok id
  messageCounter : ∃ counter, m.messageCounter = .ok counter ∧ counter < 2 ^ 32
  appPayload : m.appPayload = .ok c.body

theorem carriedBy_clearFrame {ex : Exchange} {nodeId counter : Nat} {c : Content} (hc : c.InRange)
    (hx : ex.exchangeId < 65536) (hnode : nodeId < 2 ^ 64) (hcounter : counter < 2 ^ 32) :
    c.CarriedBy { buffer := clearFrame ex nodeId counter c } := by
  have hreads : ReadsBack ex nodeId c { buffer := clearFrame ex nodeId counter c } :=
    readsBack_clearFrame hc hx hnode
  exact ⟨hreads.protocolOpcode, ⟨_, hreads.exchangeId⟩,
    ⟨counter, headed_messageCounter rfl hcounter, hcounter⟩, hreads.appPayload⟩

namespace Session

variable {st : SendState} {m : Message} {counter : Nat} {rest : Bytes}

/-! ## 2. The node id -/

theorem peerNodeId_of_has {s : Session} (hhas : s.hasPeerNodeId = true) :
    ∃ id, s.peerNodeId = some id := by
  cases hid : s.peerNodeId with
  | none =>
    unfold hasPeerNodeId at hhas
    rw [hid] at hhas
    cases hhas
  | some id => exact ⟨id, rfl⟩

/-- The session knows a node id once it was allocated; nothing is sent. -/
theorem run_allocatePeerNodeId_known (hfits : NodeIdFits st.session.peerNodeId) :
    ∃ id o, id < 2 ^ 64 ∧ o.transmitted = st.outside.transmitted ∧
      (st.session.hasPeerNodeId = true →
        st.session.peerNodeId = some id ∧ o.entropy = st.outside.entropy) ∧
      allocatePeerNodeId.run st = .ok () ⟨{ st.session with peerNodeId := some id }, o⟩ := by
  by_cases hhas : st.session.hasPeerNodeId = true
  · obtain ⟨id, hid⟩ := peerNodeId_of_has hhas
    refine ⟨id, st.outside, hfits id hid, rfl, fun _ => ⟨hid, rfl⟩, ?_⟩
    unfold allocatePeerNodeId
    rw [run_bind_ok (run_get st), hhas, ← hid]
    rfl
  · have hlt := ofBE_lt ((List.range 8).map st.outside.entropy)
    rw [List.length_map, List.length_range] at hlt
    refine ⟨_, { st.outside with entropy := fun i => st.outside.entropy (8 + i) },
      hlt.trans_eq (by decide), rfl, fun h => absurd h hhas, ?_⟩
    unfold allocatePeerNodeId
    rw [run_bind_ok (run_get st), if_neg hhas]
    rfl

/-- **A message in the clear is addressed**, by an initiator always. -/
theorem run_addressUnencrypted_known (st : SendState) {iflag : Bool} (hi : m.iflag = .ok iflag)
    (hm : m.buffer = stampedHeader 0 counter ++ rest) (hsource : m.hasSource = false)
    (hdest : m.hasDestination = false) (hfits : NodeIdFits st.session.peerNodeId)
    (hrole : iflag = false → st.session.hasPeerNodeId = true) :
    ∃ sent id o, id < 2 ^ 64 ∧ o.transmitted = st.outside.transmitted ∧
      (st.session.hasPeerNodeId = true →
        st.session.peerNodeId = some id ∧ o.entropy = st.outside.entropy) ∧
      sent.buffer = header (if iflag then 4 else 1) 0 counter ++ (toLE 8 id ++ rest) ∧
      (addressUnencrypted m).run st =
        .ok (sent, sent.buffer) ⟨{ st.session with peerNodeId := some id }, o⟩ := by
  unfold addressUnencrypted
  rw [hi, run_bind_ok (run_lift_ok iflag st)]
  cases iflag with
  | true =>
    obtain ⟨id, o, hlt, ho, hkept, halloc⟩ := run_allocatePeerNodeId_known hfits
    obtain ⟨sent, hfrom, hsent⟩ : ∃ sent, fromNode id m = .ok sent ∧
        sent.buffer = header 4 0 counter ++ (toLE 8 id ++ rest) :=
      ⟨_, fromNode_stamped hm hsource hlt, rfl⟩
    refine ⟨sent, id, o, hlt, ho, hkept, hsent, ?_⟩
    rw [if_pos rfl, run_bind_ok halloc, run_bind_ok (run_get _)]
    exact run_bind_ok (run_lift_of hfrom _)
  | false =>
    obtain ⟨id, hid⟩ := peerNodeId_of_has (hrole rfl)
    have hlt := hfits id hid
    obtain ⟨sent, hto, hsent⟩ : ∃ sent, toNode id m = .ok sent ∧
        sent.buffer = header 1 0 counter ++ (toLE 8 id ++ rest) :=
      ⟨_, toNode_stamped hm hdest hlt, rfl⟩
    refine ⟨sent, id, st.outside, hlt, rfl, fun _ => ⟨hid, rfl⟩, hsent, ?_⟩
    have hget : st.session.peerNodeId.getD 0 = id := by rw [hid, Option.getD_some]
    rw [if_neg (by decide), run_bind_ok (run_get st), if_pos (hrole rfl), run_bind_ok (run_get st),
      hget, ← hid]
    exact run_bind_ok (run_lift_of hto _)

/-! ## 3. Sending -/

/-- **What a session does with a message that its exchange has addressed**, whether or not it knew
    its peer. -/
theorem run_sendMessage_open (A : Aead) (ex : Exchange) (c : Content) (st : SendState) {k : Nat}
    (h : Conversation ex st.session (k + 1)) :
    ∃ sent id o peer, id < 2 ^ 64 ∧ st.session.peerInfo = some peer ∧
      o.transmitted = st.outside.transmitted ++
        [⟨st.session.transport, peer, clearFrame ex id st.session.messageCounter c⟩] ∧
      (st.session.hasPeerNodeId = true →
        st.session.peerNodeId = some id ∧ o.entropy = st.outside.entropy) ∧
      (sendMessage A (newMessage ex.flags c.opcode ex.exchangeId c.protocolId
        (ex.ackBytes ++ c.body))).run st =
        .ok sent ⟨{ st.session.afterSend with peerNodeId := some id }, o⟩ := by
  obtain ⟨peer, hpeer⟩ := h.peerInfo
  have hcounter : st.session.messageCounter < 2 ^ 32 := by
    have := h.counter_le
    omega
  let rest := exchangeHeader ex.flags c.opcode ex.exchangeId c.protocolId ++ (ex.ackBytes ++ c.body)
  let m : Message := { newMessage ex.flags c.opcode ex.exchangeId c.protocolId
    (ex.ackBytes ++ c.body) with buffer := stampedHeader 0 st.session.messageCounter ++ rest }
  have hbuf : m.buffer = stampedHeader 0 st.session.messageCounter ++ rest := rfl
  have hstamp : st.session.stamp (newMessage ex.flags c.opcode ex.exchangeId c.protocolId
      (ex.ackBytes ++ c.body)) = .ok m := by
    have hlen : 8 ≤ (stampedHeader 0 0 ++ rest).length := by
      rw [List.length_append, length_header]
      omega
    have hdrop : (stampedHeader 0 0 ++ rest).drop 8 = rest :=
      List.drop_left' (length_header 0 0 0)
    refine (stamp_ok h.peerSessionId (by decide) hcounter hlen).trans ?_
    exact congrArg (fun tail => Except.ok ({ newMessage ex.flags c.opcode ex.exchangeId c.protocolId
      (ex.ackBytes ++ c.body) with
        buffer := stampedHeader 0 st.session.messageCounter ++ tail } : Message)) hdrop
  have hiflag : m.iflag = .ok ex.isInitiator := by
    unfold Message.iflag Message.exchangeFlag
    rw [exchangeFlags_eq hbuf (stamped_payloadOffset hbuf) (flagBits_lt _ _ _), Exchange.flags]
    cases ex.isInitiator <;> cases ex.isAck <;> cases ex.isReliable <;> rfl
  obtain ⟨sent, id, o, hlt, ho, hkept, hframe, haddr⟩ := run_addressUnencrypted_known
    (countTx (takeCounter st)) hiflag hbuf rfl rfl h.nodeId_fits h.responds
  let t : Transmission := ⟨st.session.transport, peer, sent.buffer⟩
  have htx : o.transmitted ++ [t] = st.outside.transmitted ++
      [⟨st.session.transport, peer, clearFrame ex id st.session.messageCounter c⟩] := by
    have hbytes : sent.buffer = clearFrame ex id st.session.messageCounter c := hframe
    rw [ho, ← hbytes]
    rfl
  refine ⟨sent, id, { o with transmitted := o.transmitted ++ [t] }, peer, hlt, hpeer, htx, hkept,
    ?_⟩
  rw [sendMessage_stamped hstamp, sendStamped_unencrypted (headed_isEncrypted hbuf),
    run_bind_ok haddr, run_bind_ok (transmit_some (by exact hpeer) _)]
  rfl

end Session

theorem Conversation.weaken {ex : Exchange} {s : Session} {k : Nat}
    (h : Conversation ex s (k + 1)) : Conversation ex s k :=
  { h with counter_le := by have := h.counter_le; omega }

/-- A message less. -/
theorem Conversation.afterSend {ex : Exchange} {s : Session} {k id : Nat}
    (h : Conversation ex s (k + 1)) (hid : id < 2 ^ 64)
    (hkept : s.hasPeerNodeId = true → s.peerNodeId = some id) :
    Conversation ex { s.afterSend with peerNodeId := some id } k where
  peerSessionId := h.peerSessionId
  peerInfo := h.peerInfo
  nodeId_fits := by
    intro id' hid'
    rw [← Option.some.inj hid']
    exact hid
  responds := by
    intro hrole
    have hhas := h.responds hrole
    unfold Session.hasPeerNodeId at hhas
    rw [hkept (h.responds hrole)] at hhas
    exact hhas
  counter_le := by
    have := h.counter_le
    show s.messageCounter + 1 + k ≤ 2 ^ 32
    omega
  exchangeId_lt := h.exchangeId_lt
  ackCounter_lt := h.ackCounter_lt

/-! ## 4. The exchange of a node -/

namespace Node

/-- The exchange at this place can send `k` messages on an unsecured session. -/
def Speaks (n : Node) (i k : Nat) : Prop :=
  ∃ ex j s, n.exchanges[i]? = some ex ∧ ex.session = .unsecured j ∧
    n.sessions.sessionsUnsecured[j]? = some s ∧ Conversation ex s k

variable {n : Node} {i k : Nat}

/-- **What a node does with a message of such an exchange.** -/
theorem run_sendMessage_open (A : Aead) {ex : Exchange} {j : Nat} {s : Session}
    (hex : n.exchanges[i]? = some ex) (href : ex.session = .unsecured j)
    (hs : n.sessions.sessionsUnsecured[j]? = some s) (hconv : Conversation ex s (k + 1))
    (c : Content) :
    ∃ sent id o peer, id < 2 ^ 64 ∧ s.peerInfo = some peer ∧
      o.transmitted = n.sessions.outside.transmitted ++
        [⟨s.transport, peer, clearFrame ex id s.messageCounter c⟩] ∧
      (s.hasPeerNodeId = true →
        s.peerNodeId = some id ∧ o.entropy = n.sessions.outside.entropy) ∧
      (sendMessage A i c.message).run n = .ok sent { n with
        sessions := { n.sessions with
          sessionsUnsecured := n.sessions.sessionsUnsecured.modify j fun _ =>
            { s.afterSend with peerNodeId := some id }
          outside := o } } := by
  have hsession : n.sessions.session? ex.session = some s := by
    rw [href]
    exact hs
  obtain ⟨sent, id, o, peer, hlt, hpeer, ho, hkept, hsend⟩ :=
    Session.run_sendMessage_open A ex c ⟨s, n.sessions.outside⟩ hconv
  have hrun := (run_sendMessage_content hex hconv.exchangeId_lt hconv.ackCounter_lt c).trans
    (run_zoom_ok (SessionManager.run_sendOn_ok (A := A) hsession hsend))
  rw [href] at hrun
  exact ⟨sent, id, o, peer, hlt, hpeer, ho, hkept, hrun⟩

namespace Speaks

theorem modifyExchange (h : n.Speaks i k) {f : Exchange → Exchange} (hf : Exchange.Stays f) :
    (n.modifyExchange i f).Speaks i k := by
  obtain ⟨ex, j, s, hex, href, hs, hc⟩ := h
  refine ⟨f ex, j, s, ?_, (hf.session ex).trans href, hs, hc.modify hf⟩
  show (n.exchanges.modify i f)[i]? = _
  rw [List.getElem?_modify_eq, hex]
  rfl

/-- **A message goes out as one frame that carries it.** -/
theorem sendMessage (A : Aead) (h : n.Speaks i (k + 1)) {c : Content} (hc : c.InRange) :
    ∃ sent n' t, (Node.sendMessage A i c.message).run n = .ok sent n' ∧
      n'.sessions.outside.transmitted = n.sessions.outside.transmitted ++ [t] ∧
      c.CarriedBy { buffer := t.frame } ∧ n'.Speaks i k ∧
      n'.sessions.sessionsSecured = n.sessions.sessionsSecured := by
  obtain ⟨ex, j, s, hex, href, hs, hconv⟩ := h
  obtain ⟨sent, id, o, peer, hlt, -, ho, hkept, hrun⟩ :=
    run_sendMessage_open A hex href hs hconv c
  have hcounter : s.messageCounter < 2 ^ 32 := by
    have := hconv.counter_le
    omega
  refine ⟨sent, _, _, hrun, ho, ?_, ⟨ex, j, _, hex, href, ?_,
    hconv.afterSend hlt fun hhas => (hkept hhas).1⟩, rfl⟩
  · exact carriedBy_clearFrame hc hconv.exchangeId_lt hlt hcounter
  · show (n.sessions.sessionsUnsecured.modify j _)[j]? = _
    rw [List.getElem?_modify_eq, hs]
    rfl

end Speaks

end Node

end Matternode.Messaging
