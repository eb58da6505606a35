/-
  File:      Matternode/Messaging/KeyAgreement.lean
  Subject:   Which frames of one endpoint of a secure session the other endpoint decrypts.

  The sender picks its key by the I flag of the message, the receiver by `_initiator` of its
  session. The two agree on the key exactly when the flag and the field differ; nothing in the code
  sets the field, so a session decrypts what initiators of exchanges send and no reply.

  * `addressUnencrypted_header` -- a frame sent in the clear keeps the session id it was stamped
    with;
  * `decryptsTo_sent_iff` -- when a frame is decrypted to what was sent.
-/
import Matternode.Messaging.Frames

namespace Matternode.Messaging

open Base Js

/-! ## 1. Frames in the clear keep their header -/

/-- The message starts with the header, whatever its flags. -/
def HasHeader (id counter : Nat) (m : Message) : Prop :=
  ∃ flags rest, m.buffer = header flags id counter ++ rest

section HasHeader

variable {id counter : Nat} {m m' : Message}

theorem HasHeader.setMessageFlags (hm : HasHeader id counter m) {v : JsValue}
    (h : m.setMessageFlags v = .ok m') : HasHeader id counter m' := by
  obtain ⟨flags, rest, hbuf⟩ := hm
  obtain ⟨buf, hw, rfl⟩ := write_ok h
  obtain ⟨x, -, -, rfl⟩ := writeUIntLE_ok hw
  exact ⟨UInt8.ofNat x.toInteger.toNat, rest, by simp [hbuf, overwrite, toLE, header]⟩

/-- Bytes from 8 on may change. -/
theorem HasHeader.of_take {bs' : Bytes} (hm : HasHeader id counter m)
    (h : bs'.take 8 = m.buffer.take 8) : ∃ flags rest, bs' = header flags id counter ++ rest := by
  obtain ⟨flags, rest, hbuf⟩ := hm
  refine ⟨flags, bs'.drop 8, ?_⟩
  rw [hbuf, List.take_left' (length_header flags id counter)] at h
  rw [← h, List.take_append_drop]

theorem take_overwrite {bs v : Bytes} {off : Nat} (h : 8 ≤ off) (hlen : off ≤ bs.length) :
    (overwrite bs off v).take 8 = bs.take 8 := by
  unfold overwrite
  rw [List.append_assoc, List.take_append_of_le_length (by rw [List.length_take]; omega),
    List.take_take, Nat.min_eq_left h]

theorem HasHeader.length (hm : HasHeader id counter m) : 8 ≤ m.buffer.length := by
  obtain ⟨flags, rest, hbuf⟩ := hm
  rw [hbuf, List.length_append, length_header]
  omega

/-- New bytes from 8 on leave the first eight. -/
theorem take_insert (hlen : 8 ≤ m.buffer.length) {offset : Nat} (h : 8 ≤ offset) (size : Nat) :
    (m.insert offset size).buffer.take 8 = m.buffer.take 8 := by
  show (subarray m.buffer ((0 : Nat) : Int) offset ++ bufferAlloc size ++ _).take 8 = _
  rw [subarray_nat, List.drop_zero, List.append_assoc,
    List.take_append_of_le_length (by rw [List.length_take]; omega), List.take_take,
    Nat.min_eq_left h]

/-- What is written from 8 on leaves the first eight bytes. -/
theorem take_write {written : Bytes → Except JsError Bytes}
    (hw : ∀ buf, written m.buffer = .ok buf → ∃ off v, 8 ≤ off ∧ off ≤ m.buffer.length ∧
      buf = overwrite m.buffer off v) (h : m.write written = .ok m') :
    m'.buffer.take 8 = m.buffer.take 8 := by
  obtain ⟨buf, hbuf, rfl⟩ := write_ok h
  obtain ⟨off, v, hoff, hlen, rfl⟩ := hw buf hbuf
  exact take_overwrite hoff hlen

theorem writeBigUInt64LE_ok {bs buf : Bytes} {n : Int} {off : Nat}
    (h : writeBigUInt64LE bs n off = .ok buf) : ∃ v, off ≤ bs.length ∧ buf = overwrite bs off v := by
  unfold writeBigUInt64LE writeBytes at h
  split at h
  · cases h
  · split at h
    · rename_i hle
      cases h
      exact ⟨_, by omega, rfl⟩
    · cases h

theorem take_setSourceNodeId (hlen : 8 ≤ m.buffer.length) {v : JsValue}
    (h : m.setSourceNodeId v = .ok m') : m'.buffer.take 8 = m.buffer.take 8 := by
  obtain ⟨sflag, -, h⟩ := bind_eq_ok h
  cases sflag with
  | false =>
    cases h
    rfl
  | true =>
    obtain ⟨node, -, h⟩ := bind_eq_ok h
    have hins : (if m.hasSource then m else
        { m.insert messageHeaderMinSize messageNodeIdSize with hasSource := true }).buffer.take 8 =
          m.buffer.take 8 := by
      split
      · rfl
      · exact take_insert hlen (Nat.le_refl 8) _
    refine (take_write (fun buf hbuf => ?_) h).trans hins
    obtain ⟨v, hle, rfl⟩ := writeBigUInt64LE_ok hbuf
    exact ⟨8, v, Nat.le_refl 8, hle, rfl⟩

theorem take_insertDestination (hlen : 8 ≤ m.buffer.length) {offset dsiz : Nat} (hge : 8 ≤ offset)
    (h : m.insertDestination offset dsiz = .ok m') : m'.buffer.take 8 = m.buffer.take 8 := by
  unfold Message.insertDestination at h
  split at h
  · cases h
    rfl
  · split at h
    · cases h
      exact take_insert hlen hge _
    · split at h
      · cases h
        exact take_insert hlen hge _
      · cases h

theorem take_setDestinationNodeId (hlen : 8 ≤ m.buffer.length) {v : JsValue}
    (h : m.setDestinationNodeId v = .ok m') : m'.buffer.take 8 = m.buffer.take 8 := by
  obtain ⟨offset, hoffset, h⟩ := bind_eq_ok h
  obtain ⟨dsiz, -, h⟩ := bind_eq_ok h
  have hge : 8 ≤ offset := by
    obtain ⟨sflag, -, hoffset⟩ := bind_eq_ok hoffset
    cases hoffset
    exact Nat.le_add_right _ _
  split at h
  · cases h
    rfl
  · obtain ⟨m1, hm1, h⟩ := bind_eq_ok h
    have hins := take_insertDestination hlen hge hm1
    split at h
    · obtain ⟨node, -, h⟩ := bind_eq_ok h
      refine (take_write (fun buf hbuf => ?_) h).trans hins
      obtain ⟨v, hle, rfl⟩ := writeBigUInt64LE_ok hbuf
      exact ⟨offset, v, hge, hle, rfl⟩
    · split at h
      · refine (take_write (fun buf hbuf => ?_) h).trans hins
        obtain ⟨x, -, hle, rfl⟩ := writeUIntLE_ok hbuf
        exact ⟨offset, _, hge, by omega, rfl⟩
      · cases h
        exact hins

theorem HasHeader.setSourceNodeId (hm : HasHeader id counter m) {v : JsValue}
    (h : m.setSourceNodeId v = .ok m') : HasHeader id counter m' :=
  hm.of_take (take_setSourceNodeId hm.length h)

theorem HasHeader.setDestinationNodeId (hm : HasHeader id counter m) {v : JsValue}
    (h : m.setDestinationNodeId v = .ok m') : HasHeader id counter m' :=
  hm.of_take (take_setDestinationNodeId hm.length h)

theorem HasHeader.setSflag (hm : HasHeader id counter m) {v : Nat} (h : m.setSflag v = .ok m') :
    HasHeader id counter m' := by
  obtain ⟨flags, -, h⟩ := bind_eq_ok h
  obtain ⟨m1, h1, h⟩ := bind_eq_ok h
  obtain ⟨flags', -, h⟩ := bind_eq_ok h
  exact (hm.setMessageFlags h1).setMessageFlags h

theorem HasHeader.setDsiz (hm : HasHeader id counter m) {v : Nat} (h : m.setDsiz v = .ok m') :
    HasHeader id counter m' := by
  obtain ⟨flags, -, h⟩ := bind_eq_ok h
  obtain ⟨m1, h1, h⟩ := bind_eq_ok h
  obtain ⟨flags', -, h⟩ := bind_eq_ok h
  exact (hm.setMessageFlags h1).setMessageFlags h

end HasHeader

theorem HasHeader.fromNode {id counter : Nat} {m m' : Message} (hm : HasHeader id counter m)
    {node : Nat} (h : Session.fromNode node m = .ok m') : HasHeader id counter m' := by
  obtain ⟨m1, h1, h⟩ := bind_eq_ok h
  obtain ⟨m2, h2, h⟩ := bind_eq_ok h
  exact ((hm.setDsiz h1).setSflag h2).setSourceNodeId h

theorem HasHeader.toNode {id counter : Nat} {m m' : Message} (hm : HasHeader id counter m)
    {node : Nat} (h : Session.toNode node m = .ok m') : HasHeader id counter m' := by
  obtain ⟨m1, h1, h⟩ := bind_eq_ok h
  obtain ⟨m2, h2, h⟩ := bind_eq_ok h
  exact ((hm.setSflag h1).setDsiz h2).setDestinationNodeId h

/-- **A frame sent in the clear keeps the session id and counter it was stamped with.** -/
theorem addressUnencrypted_header {id counter : Nat} {m : Message} (hm : HasHeader id counter m)
    {st st' : SendState} {r : Message × Bytes}
    (h : (Session.addressUnencrypted m).run st = .ok r st') :
    ∃ m', r = (m', m'.buffer) ∧ HasHeader id counter m' := by
  obtain ⟨iflag, t, -, h⟩ := run_bind_eq_ok h
  cases iflag with
  | true =>
    obtain ⟨-, t1, -, h⟩ := run_bind_eq_ok h
    obtain ⟨s2, t2, -, h⟩ := run_bind_eq_ok h
    obtain ⟨m', t3, hl, h⟩ := run_bind_eq_ok h
    cases h
    exact ⟨m', rfl, hm.fromNode (run_lift_eq_ok hl).1⟩
  | false =>
    obtain ⟨s1, t1, -, h⟩ := run_bind_eq_ok h
    split at h
    · obtain ⟨s2, t2, -, h⟩ := run_bind_eq_ok h
      obtain ⟨m', t3, hl, h⟩ := run_bind_eq_ok h
      cases h
      exact ⟨m', rfl, hm.toNode (run_lift_eq_ok hl).1⟩
    · cases h

/-! ## 2. Encrypted frames -/

/-- An encrypted frame starts with the header of its message. -/
theorem encrypt_header (A : Aead) {id counter : Nat} {rest : Bytes} {m : Message}
    (hm : m.buffer = stampedHeader id counter ++ rest) (key : Bytes) :
    ∃ rest', MsgCodec.encrypt A m.buffer key = stampedHeader id counter ++ rest' := by
  have hsize : (stampedHeader id counter).length =
      MsgCodec.headerSize (stampedHeader id counter) := by
    have hbuf : (⟨stampedHeader id counter, none, none, false, false⟩ : Message).buffer =
        stampedHeader id counter ++ [] := (List.append_nil _).symm
    rw [length_header]
    exact (stamped_headerSize hbuf).symm
  rw [hm, MsgCodec.encrypt_split A hsize, List.append_assoc]
  exact ⟨_, rfl⟩

/-- The session decrypts the frame to the plaintext. -/
def DecryptsTo (A : Aead) (r : Session) (frame : Bytes) (peerInfo : PeerInfo) (plain : Bytes) :
    Prop :=
  ∃ m, r.decryptMessage A (received frame peerInfo) = .ok (some plain, m) ∧ m.buffer = plain

/-- A frame with session id 0 is not decrypted. -/
theorem not_decryptsTo_unencrypted (A : Aead) (r : Session) {frame plain : Bytes}
    {peerInfo : PeerInfo} {id counter : Nat} (hframe : HasHeader id counter { buffer := frame })
    (hid : id % 65536 = 0) : ¬ DecryptsTo A r frame peerInfo plain := by
  rintro ⟨m, h, -⟩
  obtain ⟨flags, rest, hbuf⟩ := hframe
  unfold Session.decryptMessage at h
  rw [show (received frame peerInfo).isUnencrypted = _ from headed_isUnencrypted hbuf, hid] at h
  cases h

/-- A frame with another session id is decrypted under the key of the receiver. -/
theorem decryptsTo_iff (A : Aead) {r : Session} {c : SessionCryptoContext}
    (hr : r.cryptoContext = some c) {frame plain : Bytes} {peerInfo : PeerInfo} {id counter : Nat}
    (hframe : HasHeader id counter { buffer := frame }) (hid : id % 65536 ≠ 0) :
    DecryptsTo A r frame peerInfo plain ↔
      MsgCodec.decrypt A frame (c.keys (if r.initiator then 1 else 0)) = some plain := by
  obtain ⟨flags, rest, hbuf⟩ := hframe
  have hm : (received frame peerInfo).isUnencrypted = .ok (decide (id % 65536 = 0)) :=
    headed_isUnencrypted hbuf
  rw [decide_eq_false hid] at hm
  unfold DecryptsTo
  rw [Session.decryptMessage_received hr hm]
  constructor
  · rintro ⟨m, h, -⟩
    exact congrArg Prod.fst (Except.ok.inj h)
  · intro h
    rw [h]
    exact ⟨_, rfl, rfl⟩

/-! ## 3. Both directions -/

section Agreement

variable {A : Aead} {s r : Session} {c : SessionCryptoContext}

/-- The receiver's key is the sender's exactly when the I flag and `_initiator` differ. -/
theorem keys_agree_iff (hne : c.i2rKey ≠ c.r2iKey) (iflag initiator : Bool) :
    c.keys (Session.keyIndex iflag) = c.keys (if initiator then 1 else 0) ↔
      iflag = !initiator := by
  cases iflag <;> cases initiator <;>
    simp [Session.keyIndex, SessionCryptoContext.keys, hne, Ne.symm hne]

/-- A frame decrypts under the key it was encrypted with, and under no other. -/
theorem decrypt_encrypt_iff (hA : A.Correct) (hsep : A.KeysSeparate) {frame key key' : Bytes}
    (h : MsgCodec.headerSize frame ≤ frame.length) (hk : key.length = 16)
    (hk' : key'.length = 16) :
    MsgCodec.decrypt A (MsgCodec.encrypt A frame key) key' = some frame ↔ key = key' := by
  constructor
  · intro hdec
    by_contra hne
    rw [MsgCodec.decrypt_encrypt_other hA hsep h hk hk' hne] at hdec
    cases hdec
  · rintro rfl
    exact MsgCodec.decrypt_encrypt hA h key

/-- **A frame sent on the session is decrypted by the other endpoint to what was sent exactly when**
    the I flag of the message is not the receiver's `_initiator`, and the session id it was stamped
    with makes it encrypted. -/
theorem decryptsTo_sent_iff (hA : A.Correct) (hsep : A.KeysSeparate)
    (hs : s.cryptoContext = some c) (hr : r.cryptoContext = some c)
    (hi : c.i2rKey.length = 16) (hj : c.r2iKey.length = 16) (hne : c.i2rKey ≠ c.r2iKey)
    {o : Outside} {msg sent : Message} {st : SendState}
    (hsend : (Session.sendMessage A msg).run ⟨s, o⟩ = .ok sent st) (peerInfo : PeerInfo) :
    ∃ m t, s.stamp msg = .ok m ∧ st.outside.transmitted = o.transmitted ++ [t] ∧
      (DecryptsTo A r t.frame peerInfo sent.buffer ↔
        m.iflag = .ok (!r.initiator) ∧ m.isEncrypted = .ok true) := by
  obtain ⟨m, hstamp, hrun⟩ := Session.sendMessage_eq_ok hsend
  obtain ⟨x, -, -, -, hm⟩ := stamp_eq_ok hstamp
  have hbuf : m.buffer = stampedHeader x.toInteger.toNat s.messageCounter ++ msg.buffer.drop 8 := by
    rw [hm]
  by_cases hid : x.toInteger.toNat % 65536 = 0
  · have henc : m.isEncrypted = .ok false := by
      rw [headed_isEncrypted hbuf, decide_eq_false (not_not.mpr hid)]
    obtain ⟨frame, st1, peer, haddr, hun, -, rfl⟩ := Session.sendStamped_unencrypted_ok henc hrun
    obtain ⟨m', heq, hhead⟩ := addressUnencrypted_header ⟨0, _, hbuf⟩ haddr
    cases heq
    refine ⟨m, _, hstamp, congrArg (· ++ _) hun.transmitted, ?_⟩
    rw [henc]
    exact iff_of_false (not_decryptsTo_unencrypted A r hhead hid) (by simp)
  · have henc : m.isEncrypted = .ok true := by
      rw [headed_isEncrypted hbuf, decide_eq_true hid]
    obtain ⟨iflag, c', peer, hflag, hc, -, hsent, rfl⟩ :=
      Session.sendStamped_encrypted_ok henc hrun
    obtain rfl : c = c' := Option.some.inj (hs.symm.trans hc)
    have hhead : HasHeader x.toInteger.toNat s.messageCounter
        { buffer := MsgCodec.encrypt A m.buffer (c.keys (Session.keyIndex iflag)) } :=
      ⟨0, encrypt_header A hbuf _⟩
    have hsize : MsgCodec.headerSize m.buffer ≤ m.buffer.length := by
      rw [stamped_headerSize hbuf, hbuf, List.length_append, length_header]
      omega
    have hk : ∀ i < 2, (c.keys i).length = 16 := by
      intro i hlt
      match i, hlt with
      | 0, _ => exact hi
      | 1, _ => exact hj
    have hindex : Session.keyIndex iflag < 2 := by cases iflag <;> decide
    have hindex' : (if r.initiator then 1 else 0) < 2 := by cases r.initiator <;> decide
    refine ⟨m, _, hstamp, rfl, ?_⟩
    rw [hsent]
    show DecryptsTo A r (MsgCodec.encrypt A m.buffer (c.keys (Session.keyIndex iflag))) peerInfo
      m.buffer ↔ _
    rw [decryptsTo_iff A hr hhead hid,
      decrypt_encrypt_iff hA hsep hsize (hk _ hindex) (hk _ hindex'), keys_agree_iff hne, henc,
      hflag]
    simp

end Agreement

/-! ## 4. A request and its reply -/

/-- An address to send to. -/
def samplePeer : PeerInfo := ⟨"::1", 5540⟩

/-- Three keys that differ. -/
def sampleContext : SessionCryptoContext :=
  ⟨List.replicate 16 1, List.replicate 16 2, List.replicate 16 3⟩

/-- An endpoint of a session with `sampleContext`, as the constructor and initFromSecret leave it,
    with an address. -/
def sampleSession (localSessionId peerSessionId : Nat) : Session where
  localSessionId := .nat localSessionId
  peerSessionId := .nat peerSessionId
  peerInfo := some samplePeer
  secure := true
  messageCounter := 1
  cryptoContext := some sampleContext
  context := rfl

/-- A message of an exchange, with the I flag as given. -/
def sampleMessage (iflag : UInt8) : Message :=
  { buffer := List.replicate 8 0 ++ [iflag, 2, 0, 0, 1, 0] }

/-- What is outside before anything is drawn. -/
def sampleOutside : Outside := { entropy := fun _ => 0 }

/-- A request of an exchange's initiator is decrypted. -/
theorem decryptsTo_request :
    ∃ sent st, (Session.sendMessage Aead.keyTag (sampleMessage 1)).run
        ⟨sampleSession 7 9, sampleOutside⟩ = .ok sent st ∧
      ∃ m t, (sampleSession 7 9).stamp (sampleMessage 1) = .ok m ∧
        st.outside.transmitted = sampleOutside.transmitted ++ [t] ∧
        (DecryptsTo Aead.keyTag (sampleSession 9 7) t.frame samplePeer sent.buffer ↔
          m.iflag = .ok (!(sampleSession 9 7).initiator) ∧ m.isEncrypted = .ok true) :=
  ⟨_, _, rfl, decryptsTo_sent_iff Aead.keyTag_correct Aead.keyTag_keysSeparate rfl rfl rfl rfl
    (by decide) rfl samplePeer⟩

/-- **The reply is not**: it is encrypted with the R2I key, and the receiver tries the I2R key. -/
theorem not_decryptsTo_reply :
    ∃ sent st t, (Session.sendMessage Aead.keyTag (sampleMessage 0)).run
        ⟨sampleSession 9 7, sampleOutside⟩ = .ok sent st ∧
      st.outside.transmitted = sampleOutside.transmitted ++ [t] ∧
      ¬ DecryptsTo Aead.keyTag (sampleSession 7 9) t.frame samplePeer sent.buffer := by
  refine ⟨_, _, _, rfl, rfl, ?_⟩
  rintro ⟨m, h, -⟩
  cases h

end Matternode.Messaging
