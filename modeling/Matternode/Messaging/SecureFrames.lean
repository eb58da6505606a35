/-
  File:      Matternode/Messaging/SecureFrames.lean
  Subject:   The frame that an exchange on a secure session transmits.

  * `SecureExchange` -- an exchange on a secure session that a datagram came on;
  * `secureExchange_onDatagram` -- **the first message of an exchange** on a secure session makes one;
  * `Ciphered.Taken`, `Outside.Took` -- the texts that the cipher takes: AES-CCM with a nonce of 13
    bytes throws for more than 65535 bytes;
  * `SecureExchange.send`, `SecureExchange.send_full` -- what is sent there: one encrypted frame, as
    long as the counter fits its field.
-/
import Matternode.Messaging.ClearFrames
import Matternode.Messaging.Dispatch

namespace Matternode.Messaging

open Base Js

/-! ## 1. Sessions that datagrams come on -/

/-- An exchange on a secure session that has its peer's address, and an id that datagrams carry. -/
structure SecureExchange (n : Node) (i : Nat) (ex : Exchange) (s : Session) (peer : PeerInfo)
    (id : Nat) : Prop where
  exchange : n.exchanges[i]? = some ex
  session : n.sessions.session? ex.session = some s
  secure : s.secure = true
  peerInfo : s.peerInfo = some peer
  peerSessionId : s.peerSessionId.strictEqNat id = true
  id_pos : 0 < id
  id_lt : id < 65536
  exchangeId_lt : ex.exchangeId < 65536
  ackCounter_lt : ex.ackCounter < 2 ^ 32

namespace SessionManager

variable {A : Aead} {h h' : SessionManager} {buf : Bytes} {peerInfo : PeerInfo} {id : Nat}

/-- A session of the secure table, with the peer's address and id. -/
def HeardFrom (h : SessionManager) (ref : SessionRef) (peerInfo : PeerInfo) (id : Nat) : Prop :=
  ∃ s, h.session? ref = some s ∧ s.secure = true ∧ s.peerInfo = some peerInfo ∧
    s.peerSessionId.strictEqNat id = true

/-- What is dispatched leaves the session with the message's sender. -/
theorem heardFrom_dispatch (ref : SessionRef) {s : Session} {msg : Message} {e : Emission}
    (hs : h.session? ref = some s) (hsecure : s.secure = true)
    (hid : s.peerSessionId.strictEqNat id = true) (hpeer : msg.peerInfo = some peerInfo)
    (hrun : (dispatch ref msg).run h = .ok e h') : h'.HeardFrom e.session peerInfo id := by
  cases hcounter : msg.messageCounter with
  | error e' =>
    rw [dispatch_error hcounter] at hrun
    cases hrun
  | ok counter =>
    rw [dispatch_ok hcounter] at hrun
    cases hrun
    refine ⟨hear msg counter s, ?_, hsecure, hpeer, hid⟩
    rw [session?_modifySession, hs, if_pos rfl]
    rfl

/-- **A secure datagram is dispatched** with a session that has its sender's address and its id. -/
theorem heardFrom_onMessage (hw : h.WellFormed)
    (hm : (received buf peerInfo).isUnencrypted = .ok false)
    (hid : (received buf peerInfo).sessionId = .ok id) {e : Emission}
    (hrun : (onMessage A buf peerInfo).run h = .ok e h') :
    h'.HeardFrom e.session peerInfo id := by
  cases hfound : h.getSecureSession id with
  | some i =>
    obtain ⟨⟨s, hs, hpeerId⟩, -⟩ := getSecureSession_eq_some.mp hfound
    obtain ⟨c, hc⟩ := hw.cryptoContext hs
    rw [onSecureMessage_found hm hid hfound hs hc] at hrun
    exact heardFrom_dispatch (.secured i) hs (hw.secured s (List.mem_of_getElem? hs))
      hpeerId rfl hrun
  | none =>
    cases hsrc : (received buf peerInfo).sourceNodeId with
    | error e' =>
      obtain ⟨s, o, hnew⟩ := onSecureMessage_new_error (A := A) hm hid hfound hsrc
      rw [hnew] at hrun
      cases hrun
    | ok source =>
      obtain ⟨s, o, hs, hnew⟩ := onSecureMessage_new (A := A) hm hid hfound hsrc
      rw [hnew] at hrun
      have hpeerId : s.peerSessionId.strictEqNat id = true := by
        rw [hs.peerSessionId, JsValue.strictEqNat_nat, decide_eq_true_eq]
      exact heardFrom_dispatch _ (pushSecured_session? h s o) hs.secure hpeerId rfl hrun

end SessionManager

/-- **A message of a secure datagram that begins an exchange** begins it on the session it came on. -/
theorem secureExchange_onDatagram {A : Aead} {n n' : Node} {buf : Bytes} {peerInfo : PeerInfo}
    {id protocolId i : Nat} {msg : Message} (hw : n.WellFormed)
    (hm : (rawMessage buf peerInfo).isUnencrypted = .ok false)
    (hid : (rawMessage buf peerInfo).sessionId = .ok id) (hpos : 0 < id)
    (hrun : (Node.onDatagram A buf peerInfo).run n = .ok (.protocol protocolId msg i) n') :
    ∃ ex s, SecureExchange n' i ex s peerInfo id := by
  obtain ⟨e, n1, he, hmsg⟩ := run_bind_eq_ok hrun
  obtain ⟨h', hon, rfl⟩ := run_zoom_eq_ok he
  obtain ⟨s, hs, hsecure, hpeer, hpeerId⟩ := SessionManager.heardFrom_onMessage hw hm hid hon
  obtain ⟨rfl, -, -, -, hses, ex, hex, hexs, -, hx, hcounter⟩ :=
    Node.onSessionMessage_protocol hmsg
  obtain ⟨payload, -, hread⟩ := bind_eq_ok hx
  refine ⟨ex, s, hex, ?_, hsecure, hpeer, hpeerId, hpos, readUIntLE_lt hid, readUIntLE_lt hread,
    readUIntLE_lt hcounter⟩
  rw [hses, hexs]
  exact hs

namespace Session

variable {A : Aead} {s : Session} {id : Nat} {msg : Message}

/-- The bytes of a message for an encrypted frame. -/
def plainFrame (ex : Exchange) (id counter : Nat) (c : Content) : Bytes :=
  stampedHeader id counter ++
    (exchangeHeader ex.flags c.opcode ex.exchangeId c.protocolId ++ (ex.ackBytes ++ c.body))

/-- What is handed to the transport for it. -/
def secureFrame (A : Aead) (s : Session) (ex : Exchange) (peer : PeerInfo) (id : Nat)
    (keys : SessionCryptoContext) (c : Content) : Transmission :=
  ⟨s.transport, peer, MsgCodec.encrypt A (plainFrame ex id s.messageCounter c)
    (keys.keys (keyIndex ex.isInitiator))⟩

/-- The message a session stamps for an exchange. -/
def plainMessage (ex : Exchange) (id counter : Nat) (c : Content) : Message :=
  { newMessage ex.flags c.opcode ex.exchangeId c.protocolId (ex.ackBytes ++ c.body) with
    buffer := plainFrame ex id counter c }

/-- The call of the cipher for it. -/
def secureCall (s : Session) (ex : Exchange) (id : Nat) (keys : SessionCryptoContext)
    (c : Content) : Ciphered :=
  cipherCallOf keys (plainMessage ex id s.messageCounter c) ex.isInitiator

/-- The frames of messages that are sent one after the other. -/
def secureFrames (A : Aead) (ex : Exchange) (peer : PeerInfo) (id : Nat)
    (keys : SessionCryptoContext) : Session → List Content → List Transmission
  | _, [] => []
  | s, c :: cs => s.secureFrame A ex peer id keys c :: secureFrames A ex peer id keys s.afterSend cs

def secureCalls (ex : Exchange) (id : Nat) (keys : SessionCryptoContext) :
    Session → List Content → List Ciphered
  | _, [] => []
  | s, c :: cs => s.secureCall ex id keys c :: secureCalls ex id keys s.afterSend cs

theorem stamp_secure (ex : Exchange) (c : Content) (hid : s.peerSessionId.strictEqNat id = true)
    (hlt : id < 65536) (hcounter : s.messageCounter < 2 ^ 32) :
    s.stamp (newMessage ex.flags c.opcode ex.exchangeId c.protocolId (ex.ackBytes ++ c.body)) =
      .ok (plainMessage ex id s.messageCounter c) := by
  generalize hmsg : newMessage ex.flags c.opcode ex.exchangeId c.protocolId
    (ex.ackBytes ++ c.body) = msg
  have hbuf : msg.buffer = stampedHeader 0 0 ++
      (exchangeHeader ex.flags c.opcode ex.exchangeId c.protocolId ++ (ex.ackBytes ++ c.body)) := by
    rw [← hmsg]
    rfl
  have hlength : 8 ≤ msg.buffer.length := by
    rw [hbuf, List.length_append, length_header]
    omega
  have hdrop : msg.buffer.drop 8 =
      exchangeHeader ex.flags c.opcode ex.exchangeId c.protocolId ++ (ex.ackBytes ++ c.body) := by
    rw [hbuf, ← length_header 0 0 0, List.drop_left]
  refine stamp_eq_ok_iff.mpr
    ⟨id, headerId_of_strictEqNat hid hlt, hcounter, hlength, ?_⟩
  unfold plainMessage plainFrame
  rw [hmsg, hdrop]

/-- A counter that does not fit its field is not written. -/
theorem setMessageCounter_full {m : Message} {counter : Nat} (h : 2 ^ 32 ≤ counter) :
    m.setMessageCounter (.nat counter) = .error .rangeError := by
  have hwrite : writeUInt32LE m.buffer (.nat counter) 4 = .error .rangeError := by
    have hgt : (Number.int (counter : Int)).gt ((256 ^ 4 - 1 : Nat) : Int) = true := by
      rw [Number.int_gt, decide_eq_true_eq]
      omega
    unfold writeUInt32LE writeUIntLE
    simp only [JsValue.toNumber, bind, Except.bind, hgt, Bool.true_or, if_true]
  unfold Message.setMessageCounter Message.write
  simp only [hwrite]
  rfl

/-- The message and frame of an exchange's content, where its bytes may be stamped. -/
theorem run_sendMessage_secure (A : Aead) (st : SendState) (ex : Exchange) (c : Content)
    {keys : SessionCryptoContext} {peer : PeerInfo}
    (hid : st.session.peerSessionId.strictEqNat id = true) (hpos : 0 < id) (hlt : id < 65536)
    (hcounter : st.session.messageCounter < 2 ^ 32) (hkeys : st.session.cryptoContext = some keys)
    (hpeer : st.session.peerInfo = some peer) :
    ∃ sent, (sendMessage A (newMessage ex.flags c.opcode ex.exchangeId c.protocolId
        (ex.ackBytes ++ c.body))).run st =
      .ok sent (handOver (callCipher (countTx (takeCounter st))
          (st.session.secureCall ex id keys c)) peer
        (MsgCodec.encrypt A (plainFrame ex id st.session.messageCounter c)
          (keys.keys (keyIndex ex.isInitiator)))) := by
  have hstamp := stamp_secure ex c hid hlt hcounter
  generalize hm : plainMessage ex id st.session.messageCounter c = m at hstamp
  have hbuf : m.buffer = plainFrame ex id st.session.messageCounter c := by
    rw [← hm]
    rfl
  have hencrypted : m.isEncrypted = .ok true := by
    rw [headed_isEncrypted hbuf, Nat.mod_eq_of_lt hlt]
    simp only [ne_eq, show id ≠ 0 by omega, not_false_eq_true, decide_true]
  have hiflag : m.iflag = .ok ex.isInitiator := by
    unfold Message.iflag Message.exchangeFlag
    rw [exchangeFlags_eq hbuf (stamped_payloadOffset hbuf) (flagBits_lt _ _ _), Exchange.flags]
    cases ex.isInitiator <;> cases ex.isAck <;> cases ex.isReliable <;> rfl
  have hkeys' : (countTx (takeCounter st)).session.cryptoContext = some keys := hkeys
  have hpeer' (call : Ciphered) :
      (callCipher (countTx (takeCounter st)) call).session.peerInfo = some peer := hpeer
  rw [sendMessage_stamped hstamp, sendStamped_encrypted hencrypted,
    run_bind_ok (encryptMessage_some hiflag hkeys'), hbuf, ← hm]
  exact ⟨_, run_bind_ok (transmit_some (hpeer' _) _)⟩

/-- A session whose counter is used up sends nothing. -/
theorem run_sendMessage_full (A : Aead) (st : SendState) (ex : Exchange) (c : Content)
    (hid : st.session.peerSessionId.strictEqNat id = true) (hlt : id < 65536)
    (hcounter : 2 ^ 32 ≤ st.session.messageCounter) :
    ∃ e st', (sendMessage A (newMessage ex.flags c.opcode ex.exchangeId c.protocolId
        (ex.ackBytes ++ c.body))).run st = .error e st' := by
  -- the fields before the counter are written as on a session that begins to count
  obtain ⟨m, haddress, -⟩ := bind_eq_ok (stamp_secure (s := { st.session with messageCounter := 0 })
    ex c hid hlt (show 0 < 2 ^ 32 by decide))
  exact ⟨_, _, sendMessage_stamp_error haddress (setMessageCounter_full hcounter)⟩

end Session

/-! ## 2. What the cipher takes -/

/-- The text behind the header is no longer than 65535 bytes. For a longer one the cipher of
    `MsgCodec.encrypt` throws: with a nonce of 13 bytes, two bytes are left for the length. -/
def Ciphered.Taken (call : Ciphered) : Prop :=
  (subarrayFrom call.frame (MsgCodec.headerSize call.frame)).length < 2 ^ 16

/-- The cipher took every text it was called with, from one moment to another. -/
def Outside.Took (o o' : Outside) : Prop :=
  ∃ calls, o'.ciphered = o.ciphered ++ calls ∧ ∀ call ∈ calls, call.Taken

theorem Outside.took_iff {o o' : Outside} {calls : List Ciphered}
    (h : o'.ciphered = o.ciphered ++ calls) : o.Took o' ↔ ∀ call ∈ calls, call.Taken := by
  constructor
  · rintro ⟨calls', h', htaken⟩
    cases List.append_cancel_left (h.symm.trans h')
    exact htaken
  · intro htaken
    exact ⟨calls, h, htaken⟩

/-- How long a payload may be for the cipher to take it, with the exchange header before it. -/
def Exchange.room (ex : Exchange) : Nat := 65529 - ex.ackBytes.length

theorem Exchange.room_le (ex : Exchange) : 65525 ≤ ex.room := by
  unfold room ackBytes
  split
  · rw [length_toLE]
  · exact (by decide : 65525 ≤ 65529 - 0)

namespace Session

variable {s : Session} {ex : Exchange} {id : Nat} {keys : SessionCryptoContext}

/-- **The texts that the cipher takes** are those with a payload that there is room for. -/
theorem taken_secureCall_iff {c : Content} :
    (s.secureCall ex id keys c).Taken ↔ c.body.length ≤ ex.room := by
  have hframe : (plainMessage ex id s.messageCounter c).buffer =
      stampedHeader id s.messageCounter ++
        (exchangeHeader ex.flags c.opcode ex.exchangeId c.protocolId ++ (ex.ackBytes ++ c.body)) :=
    rfl
  have hsize := stamped_headerSize hframe
  have hroom := ex.room_le
  unfold secureCall cipherCallOf Ciphered.Taken
  dsimp only
  rw [hsize, subarrayFrom_nat, hframe, ← length_header 0 id s.messageCounter, List.drop_left]
  simp only [List.length_append, length_exchangeHeader]
  unfold Exchange.room at hroom ⊢
  omega

theorem taken_secureCalls_iff {cs : List Content} :
    (∀ call ∈ secureCalls ex id keys s cs, call.Taken) ↔ ∀ c ∈ cs, c.body.length ≤ ex.room := by
  induction cs generalizing s with
  | nil => exact iff_of_true (List.forall_mem_nil _) (List.forall_mem_nil _)
  | cons c cs ih =>
    rw [secureCalls, List.forall_mem_cons, List.forall_mem_cons, taken_secureCall_iff, ih]

end Session

/-! ## 3. Sending -/

namespace SecureExchange

variable {n : Node} {i : Nat} {ex : Exchange} {s : Session} {peer : PeerInfo} {id : Nat}

/-- The tables after the exchange sent. -/
theorem afterSend (h : SecureExchange n i ex s peer id) (o : Outside) :
    SecureExchange { n with sessions :=
      { n.sessions.modifySession (fun _ => s.afterSend) ex.session with outside := o } }
      i ex s.afterSend peer id := by
  have hget := SessionManager.session?_modifySession n.sessions (fun _ => s.afterSend) ex.session
    ex.session
  rw [h.session, if_pos rfl] at hget
  exact ⟨h.exchange, hget, h.secure, h.peerInfo, h.peerSessionId, h.id_pos, h.id_lt,
    h.exchangeId_lt, h.ackCounter_lt⟩

/-- **What the exchange sends while its session's counter fits**: one encrypted frame. -/
theorem send (A : Aead) (h : SecureExchange n i ex s peer id) (hcounter : s.messageCounter < 2 ^ 32)
    (c : Content) :
    ∃ sent keys n', s.cryptoContext = some keys ∧
      (Node.sendMessage A i c.message).run n = .ok sent n' ∧
      SecureExchange n' i ex s.afterSend peer id ∧
      n'.sessions.outside.transmitted = n.sessions.outside.transmitted ++
        [s.secureFrame A ex peer id keys c] ∧
      n'.sessions.outside.ciphered = n.sessions.outside.ciphered ++
        [s.secureCall ex id keys c] := by
  obtain ⟨keys, hkeys⟩ := Option.isSome_iff_exists.mp (s.context.trans h.secure)
  obtain ⟨sent, hsend⟩ := Session.run_sendMessage_secure A ⟨s, n.sessions.outside⟩ ex
    c h.peerSessionId h.id_pos h.id_lt hcounter hkeys h.peerInfo
  rw [Node.run_sendMessage_content h.exchange h.exchangeId_lt h.ackCounter_lt]
  exact ⟨sent, keys, _, hkeys, run_zoom_ok (SessionManager.run_sendOn_ok h.session hsend),
    h.afterSend _, rfl, rfl⟩

/-- **A session whose counter is used up makes the exchange throw.** -/
theorem send_full (A : Aead) (h : SecureExchange n i ex s peer id)
    (hcounter : 2 ^ 32 ≤ s.messageCounter) (c : Content) :
    ∃ e n', (Node.sendMessage A i c.message).run n = .error e n' := by
  obtain ⟨e, st', hsend⟩ := Session.run_sendMessage_full A ⟨s, n.sessions.outside⟩ ex c
    h.peerSessionId h.id_lt hcounter
  rw [Node.run_sendMessage_content h.exchange h.exchangeId_lt h.ackCounter_lt]
  exact ⟨e, _, run_zoom_error (SessionManager.run_sendOn_error h.session hsend)⟩

end SecureExchange

end Matternode.Messaging
