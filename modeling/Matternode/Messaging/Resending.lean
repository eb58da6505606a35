/-
  File:      Matternode/Messaging/Resending.lean
  Subject:   One message object sent twice on an unsecured exchange.

  What the first call inserts is there when the second one starts. The second call finds the exchange
  header behind the node id, then clears the message flags, and asks for the I flag where the node id
  stands; and the ack counter is inserted once more.

  * `Exchange.Heads` -- bytes that begin with the flags and the id of an exchange;
  * `drop_put_named` -- what the second call finds;
  * `Resendable`, `wire_twice_iff` -- **when two calls make one frame but for the counter**;
  * `resendable_fresh_iff` -- the same for a message that announces nothing;
  * `SentTwice`, `sentTwice_iff` -- **when they transmit it**.
-/
import Matternode.Messaging.Wire

namespace Matternode.Messaging

open Base Js

/-! ## 1. The header, where it stands already -/

/-- The bytes begin with the flags and the id of an exchange, as its header has them. -/
def Exchange.Heads (ex : Exchange) (bs : Bytes) : Prop :=
  bs.take 1 = toLE 1 ex.flags ∧ (bs.drop 2).take 2 = toLE 2 ex.exchangeId

section Heads

variable {ex : Exchange} {bs : Bytes}

/-- **The header is written anew exactly where it stands already.** -/
theorem Exchange.put_zero_eq_iff (h : 4 ≤ bs.length) : ex.put 0 bs = bs ↔ ex.Heads bs := by
  obtain ⟨f, o, x, rest, hf, ho, hx, rfl⟩ := exchange_parts h
  have hdrop : (f ++ (o ++ (x ++ rest))).drop 2 = x ++ rest := by
    rw [← List.append_assoc f]
    exact List.drop_left' (by rw [List.length_append, hf, ho])
  rw [ex.put_parts hf ho hx]
  unfold Exchange.Heads
  rw [List.take_left' hf, hdrop, List.take_left' hx]
  constructor
  · intro heq
    obtain ⟨h1, heq⟩ := List.append_inj heq (by rw [length_toLE, hf])
    obtain ⟨-, heq⟩ := List.append_inj heq rfl
    obtain ⟨h2, -⟩ := List.append_inj heq (by rw [length_toLE, hx])
    exact ⟨h1.symm, h2.symm⟩
  · rintro ⟨h1, h2⟩
    rw [← h1, ← h2]

theorem Exchange.Heads.length (h : ex.Heads bs) : 4 ≤ bs.length := by
  have hlen := congrArg List.length h.2
  rw [List.length_take, List.length_drop, length_toLE] at hlen
  omega

end Heads

/-! ## 2. The second call -/

/-- The frames differ at most in the counter. -/
def SameButCounter (f g : Bytes) : Prop :=
  f.length = g.length ∧ f.take 4 = g.take 4 ∧ f.drop 8 = g.drop 8

section Named

variable {ex : Exchange} {m : Message} {source : Bool} {nodeId counter : Nat} {rest : Bytes}

theorem named_payloadOffset : (m.named source nodeId counter rest).payloadOffset = .ok 16 := by
  have hs := headed_sflag (m := m.named source nodeId counter rest) rfl
  have hz := headed_dsiz (m := m.named source nodeId counter rest) rfl
  rw [(offsets_of_flags hs hz).2]
  cases source <;> rfl

/-- **The second call finds the exchange header behind the node id.** -/
theorem drop_put_named : (ex.put 16 (m.named source nodeId counter rest).buffer).drop 8 =
    toLE 8 nodeId ++ ex.put 0 (afterField (m.remembers source) rest) := by
  have hput := ex.put_append (header (if source then 4 else 1) 0 counter ++ toLE 8 nodeId)
    (afterField (m.remembers source) rest)
  rw [List.length_append, length_header, length_toLE, List.append_assoc, List.append_assoc] at hput
  show (ex.put 16 (header _ _ _ ++ (toLE 8 nodeId ++ afterField (m.remembers source) rest))).drop 8 = _
  rw [hput]
  exact List.drop_left' (length_header ..)

theorem length_named : (m.named source nodeId counter rest).buffer.length =
    16 + (afterField (m.remembers source) rest).length := by
  show (header _ _ _ ++ (toLE 8 nodeId ++ afterField (m.remembers source) rest)).length = _
  rw [List.length_append, List.length_append, length_header, length_toLE]
  omega

/-- A field that was written is remembered. -/
theorem remembers_named : (m.named source nodeId counter rest).remembers source = true := by
  cases source with
  | false => exact Bool.or_true _
  | true => exact Bool.or_true _

/-- Two frames with one field each differ at most in the counter exactly if it is the same field, and
    the same bytes follow. -/
theorem sameButCounter_named_iff {m' : Message} {source' : Bool} {counter' : Nat} {rest' : Bytes} :
    SameButCounter (m.named source nodeId counter rest).buffer
        (m'.named source' nodeId counter' rest').buffer ↔
      source = source' ∧ afterField (m.remembers source) rest =
        afterField (m'.remembers source') rest' := by
  have htake (flags : UInt8) (c : Nat) (bs : Bytes) :
      (header flags 0 c ++ bs).take 4 = [flags, 0, 0, 0] := by
    simp [header, toLE]
  have hdrop (flags : UInt8) (c : Nat) (bs : Bytes) : (header flags 0 c ++ bs).drop 8 = bs :=
    List.drop_left' (length_header ..)
  constructor
  · rintro ⟨-, h4, h8⟩
    unfold Message.named at h4 h8
    dsimp only at h4 h8
    rw [htake, htake] at h4
    rw [hdrop, hdrop] at h8
    refine ⟨?_, List.append_cancel_left h8⟩
    have hflags := (List.cons.inj h4).1
    revert hflags
    cases source <;> cases source' <;> decide
  · rintro ⟨rfl, hrest⟩
    refine ⟨by rw [length_named, length_named, hrest], ?_, ?_⟩
    · unfold Message.named
      dsimp only
      rw [htake, htake]
    · unfold Message.named
      dsimp only
      rw [hdrop, hdrop, hrest]

end Named

/-- **A call on an exchange that acknowledges makes the message longer**, each time. -/
theorem length_wire {ex : Exchange} {s : Session} {nodeId : Nat} {msg sent : Message}
    (hid : s.peerSessionId = .nat unsecuredSessionId) (hack : ex.isAck = true)
    (h : ex.wire s nodeId msg = .ok sent) : msg.buffer.length < sent.buffer.length := by
  obtain ⟨-, -, -, off, -, hlen, -, rest, hrest, -, rfl⟩ := (wire_eq_ok_iff hid).mp h
  have hlong : rest.length = msg.buffer.length + 4 - 8 := by
    rw [hrest, List.length_drop, ex.length_acked, Exchange.length_put hlen, hack]
    rfl
  rw [length_named]
  unfold afterField
  rw [List.length_drop, hlong]
  split <;> omega

/-- **What a message must be for a second call to send the same**: the exchange does not acknowledge,
    its numbers fit their fields, and with its flags and id in place the byte behind the message
    header is odd exactly if the node id is, and the flags and the id stand behind the field that is
    written. -/
structure Resendable (ex : Exchange) (nodeId counter : Nat) (msg : Message) : Prop where
  isAck : ex.isAck = false
  exchangeId_lt : ex.exchangeId < 65536
  nodeId_lt : nodeId < 2 ^ 64
  counter_lt : counter + 1 < 2 ^ 32
  stands : ∃ off rest, msg.payloadOffset = .ok off ∧ off + 4 ≤ msg.buffer.length ∧
    rest = (ex.put off msg.buffer).drop 8 ∧ beginsOdd rest = decide (nodeId % 2 = 1) ∧
    ex.Heads (afterField (msg.remembers (beginsOdd rest)) rest)

/-- **Two calls make frames that differ in the counter exactly when the message is resendable.** -/
theorem wire_twice_iff {ex : Exchange} {s : Session} {nodeId : Nat} {msg : Message}
    (hid : s.peerSessionId = .nat unsecuredSessionId) :
    (∃ sent again, ex.wire s nodeId msg = .ok sent ∧ ex.wire s.afterSend nodeId sent = .ok again ∧
      SameButCounter sent.buffer again.buffer) ↔ Resendable ex nodeId s.messageCounter msg := by
  have hid' : s.afterSend.peerSessionId = .nat unsecuredSessionId := hid
  constructor
  · rintro ⟨sent, again, h1, h2, hsame⟩
    cases hack : ex.isAck with
    | true =>
      have hlt := length_wire hid' hack h2
      have heq := hsame.1
      omega
    | false =>
      obtain ⟨hx, -, hnode, off, hoff, hlen, -, rest, hrest, -, rfl⟩ := (wire_eq_ok_iff hid).mp h1
      obtain ⟨-, hcounter, -, off', hoff', hlen', -, rest', hrest', -, rfl⟩ :=
        (wire_eq_ok_iff hid').mp h2
      rw [Exchange.acked_of_not hack] at hrest hrest'
      obtain rfl := Except.ok.inj (named_payloadOffset.symm.trans hoff')
      rw [drop_put_named] at hrest'
      rw [length_named] at hlen'
      obtain ⟨hfield, hbytes⟩ := sameButCounter_named_iff.mp hsame
      rw [← hfield, remembers_named] at hbytes
      have hodd : beginsOdd rest' = decide (nodeId % 2 = 1) := by
        rw [hrest', beginsOdd_toLE]
      have hafter : afterField true rest' =
          ex.put 0 (afterField (msg.remembers (beginsOdd rest)) rest) := by
        rw [hrest']
        exact List.drop_left' (length_toLE ..)
      refine ⟨hack, hx, hnode, hcounter, off, rest, hoff, hlen, hrest, hfield.trans hodd, ?_⟩
      exact (Exchange.put_zero_eq_iff (by omega)).mp (hbytes.trans hafter).symm
  · rintro ⟨hack, hx, hnode, hcounter, off, rest, hoff, hlen, hrest, hodd, hheads⟩
    have hlen' := hheads.length
    have hput := (Exchange.put_zero_eq_iff hlen').mpr hheads
    refine ⟨msg.named (beginsOdd rest) nodeId s.messageCounter rest,
      (msg.named (beginsOdd rest) nodeId s.messageCounter rest).named (beginsOdd rest) nodeId
        (s.messageCounter + 1) (toLE 8 nodeId ++ afterField (msg.remembers (beginsOdd rest)) rest),
      ?_, ?_, ?_⟩
    · refine (wire_eq_ok_iff hid).mpr ⟨hx, by omega, hnode, off, hoff, hlen, fun htrue => ?_, rest, ?_,
        fun hrem => ?_, rfl⟩
      · rw [hack] at htrue
        cases htrue
      · rw [Exchange.acked_of_not hack, hrest]
      · rw [hrem] at hlen'
        unfold afterField at hlen'
        rw [if_pos rfl, List.length_drop] at hlen'
        omega
    · have hfound : (ex.put 16 (msg.named (beginsOdd rest) nodeId s.messageCounter rest).buffer).drop 8 =
          toLE 8 nodeId ++ afterField (msg.remembers (beginsOdd rest)) rest := by
        rw [drop_put_named, hput]
      refine (wire_eq_ok_iff hid').mpr ⟨hx, hcounter, hnode, 16, named_payloadOffset,
        by rw [length_named]; omega, fun htrue => ?_,
        toLE 8 nodeId ++ afterField (msg.remembers (beginsOdd rest)) rest, ?_, fun _ => ?_, ?_⟩
      · rw [hack] at htrue
        cases htrue
      · rw [Exchange.acked_of_not hack, hfound]
      · rw [List.length_append, length_toLE]
        omega
      · rw [beginsOdd_toLE, hodd]
        rfl
    · refine sameButCounter_named_iff.mpr ⟨rfl, ?_⟩
      rw [remembers_named]
      exact (List.drop_left' (length_toLE ..)).symm

/-- **A message that announces and remembers nothing** is resendable exactly when the parity of the
    node id is the role of the exchange. -/
theorem resendable_fresh_iff {ex : Exchange} {nodeId counter : Nat} {msg : Message}
    (hoff : msg.payloadOffset = .ok 8) (hsource : msg.hasSource = false)
    (hdest : msg.hasDestination = false) (hlen : 12 ≤ msg.buffer.length) :
    Resendable ex nodeId counter msg ↔ ex.isAck = false ∧ ex.exchangeId < 65536 ∧
      nodeId < 2 ^ 64 ∧ counter + 1 < 2 ^ 32 ∧ ex.isInitiator = decide (nodeId % 2 = 1) := by
  have hrem (source : Bool) : msg.remembers source = false := by
    cases source with
    | false => exact hdest
    | true => exact hsource
  have htake : (msg.buffer.take 8).length = 8 := by
    rw [List.length_take]
    omega
  have hput : (ex.put 8 msg.buffer).drop 8 = ex.put 0 (msg.buffer.drop 8) := by
    have happ := ex.put_append (msg.buffer.take 8) (msg.buffer.drop 8)
    rw [List.take_append_drop, htake] at happ
    rw [happ]
    exact List.drop_left' htake
  obtain ⟨f, o, x, rest, hf, ho, hx, hdrop⟩ :=
    exchange_parts (show 4 ≤ (msg.buffer.drop 8).length by rw [List.length_drop]; omega)
  have hparts : (ex.put 8 msg.buffer).drop 8 =
      toLE 1 ex.flags ++ (o ++ (toLE 2 ex.exchangeId ++ rest)) := by
    rw [hput, hdrop, ex.put_parts hf ho hx]
  have hodd := ex.beginsOdd_put (show 8 ≤ msg.buffer.length by omega)
  have hheads : ex.Heads ((ex.put 8 msg.buffer).drop 8) := by
    refine (Exchange.put_zero_eq_iff ?_).mp ?_
    · rw [List.length_drop, Exchange.length_put (by omega)]
      omega
    · rw [hparts, ex.put_parts (length_toLE ..) ho (length_toLE ..)]
  constructor
  · rintro ⟨hack, hid, hnode, hcounter, off, rest, hoff', -, rfl, hparity, -⟩
    obtain rfl := Except.ok.inj (hoff.symm.trans hoff')
    exact ⟨hack, hid, hnode, hcounter, hodd.symm.trans hparity⟩
  · rintro ⟨hack, hid, hnode, hcounter, hparity⟩
    refine ⟨hack, hid, hnode, hcounter, 8, _, hoff, hlen, rfl, hodd.trans hparity, ?_⟩
    rw [hrem]
    exact hheads

/-- A call leaves the exchange as it is, and its session with the next counter. -/
theorem PeeredExchange.afterSend {n : Node} {i : Nat} {ex : Exchange} {s : Session}
    {peer : PeerInfo} {nodeId : Nat} (h : PeeredExchange n i ex s peer nodeId) (frame : Bytes) :
    PeeredExchange { n with sessions := n.sessions.transmitOn ex.session s peer frame } i ex
      s.afterSend peer nodeId where
  exchange := h.exchange
  session := by
    have hget := SessionManager.session?_modifySession n.sessions (fun _ => s.afterSend) ex.session
      ex.session
    rw [if_pos rfl, h.session] at hget
    exact hget
  peerSessionId := h.peerSessionId
  peerInfo := h.peerInfo
  peerNodeId := h.peerNodeId
  nodeId_pos := h.nodeId_pos

namespace Node

variable {n : Node} {i : Nat} {ex : Exchange} {s : Session} {peer : PeerInfo} {nodeId : Nat}

/-- **Two calls on one message object transmit two frames that differ at most in the counter.** -/
def SentTwice (A : Aead) (n : Node) (i : Nat) (msg : Message) : Prop :=
  ∃ sent n₁ again n₂ t₁ t₂, (sendMessage A i msg).run n = .ok sent n₁ ∧
    (sendMessage A i sent).run n₁ = .ok again n₂ ∧
    n₂.sessions.outside.transmitted = n.sessions.outside.transmitted ++ [t₁, t₂] ∧
    SameButCounter t₁.frame t₂.frame

/-- What two calls send is what is made of the message twice. -/
theorem sentTwice_iff_wire (A : Aead) (h : PeeredExchange n i ex s peer nodeId) (msg : Message) :
    SentTwice A n i msg ↔ ∃ sent again, ex.wire s nodeId msg = .ok sent ∧
      ex.wire s.afterSend nodeId sent = .ok again ∧ SameButCounter sent.buffer again.buffer := by
  constructor
  · rintro ⟨sent, n₁, again, n₂, t₁, t₂, hrun1, hrun2, htx, hsame⟩
    have hw1 := wire_of_sendMessage h hrun1
    have hto1 := sendMessage_of_wire A h hw1
    rw [hrun1] at hto1
    cases hto1
    have hw2 := wire_of_sendMessage (h.afterSend sent.buffer) hrun2
    have hto2 := sendMessage_of_wire A (h.afterSend sent.buffer) hw2
    rw [hrun2] at hto2
    cases hto2
    refine ⟨sent, again, hw1, hw2, ?_⟩
    have htwo : n.sessions.outside.transmitted ++ [⟨s.transport, peer, sent.buffer⟩] ++
        [⟨s.transport, peer, again.buffer⟩] = n.sessions.outside.transmitted ++ [t₁, t₂] := htx
    rw [List.append_assoc] at htwo
    cases List.append_cancel_left htwo
    exact hsame
  · rintro ⟨sent, again, hw1, hw2, hsame⟩
    refine ⟨sent, _, again, _, ⟨s.transport, peer, sent.buffer⟩, ⟨s.transport, peer, again.buffer⟩,
      sendMessage_of_wire A h hw1, sendMessage_of_wire A (h.afterSend sent.buffer) hw2, ?_, hsame⟩
    exact List.append_assoc ..

/-- **Two calls transmit one frame but for the counter exactly when the message is resendable**, on
    every unsecured exchange that knows its peer. -/
theorem sentTwice_iff (A : Aead) (h : PeeredExchange n i ex s peer nodeId) (msg : Message) :
    SentTwice A n i msg ↔ Resendable ex nodeId s.messageCounter msg :=
  (sentTwice_iff_wire A h msg).trans (wire_twice_iff h.peerSessionId)

/-- A node with one exchange, begun here on an unsecured session. -/
def resending (nodeId : Nat) : Node where
  sessions := {
    sessionsUnsecured := [{
      localSessionId := .nat 0, peerSessionId := .nat 0, secure := false, messageCounter := 9
      peerInfo := some ⟨"fe80::1", 5540⟩, peerNodeId := some nodeId, cryptoContext := none
      context := Option.isSome_none }]
    outside := { entropy := fun _ => 0 } }
  exchanges := [{ exchangeId := 258, session := .unsecured 0 }]

theorem resending_peered {nodeId : Nat} (hpos : 0 < nodeId) : PeeredExchange (resending nodeId) 0
    { exchangeId := 258, session := .unsecured 0 }
    { localSessionId := .nat 0, peerSessionId := .nat 0, secure := false, messageCounter := 9
      peerInfo := some ⟨"fe80::1", 5540⟩, peerNodeId := some nodeId, cryptoContext := none
      context := rfl } ⟨"fe80::1", 5540⟩ nodeId :=
  ⟨rfl, rfl, rfl, rfl, rfl, hpos⟩

theorem sentTwice_iff_sample : SentTwice Aead.keyTag (resending 5) 0 {} ↔
    Resendable { exchangeId := 258, session := .unsecured 0 } 5 9 {} :=
  sentTwice_iff Aead.keyTag (resending_peered (by decide)) {}

/-- **An initiator with an even node id** sends its message again to that node, not from it. -/
theorem destination_sent_again : ¬ SentTwice Aead.keyTag (resending 4) 0 {} := by
  intro h
  have hwire := (sentTwice_iff_wire Aead.keyTag (resending_peered (by decide)) {}).mp h
  have hresend := (wire_twice_iff rfl).mp hwire
  have hfresh := (resendable_fresh_iff (by decide) rfl rfl (by decide)).mp hresend
  exact absurd hfresh.2.2.2.2 (by decide)

end Node

end Matternode.Messaging