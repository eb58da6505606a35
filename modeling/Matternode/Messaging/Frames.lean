/-
  File:      Matternode/Messaging/Frames.lean
  Subject:   The header a session writes, as bytes, and what is read back from it.

  * `writeUIntLE_ok` -- what a write that succeeded has written;
  * `headerId` -- the id a header holds, for a value that is written as its session id;
  * `header`, `stampedHeader` -- the eight bytes of `Session.stamp`;
  * `stamp_eq_ok` -- a message that was stamped is that header before the rest of its buffer;
  * `headed_…`, `stamped_…` -- the fields of such a message;
  * `sendMessage_…`, `sendStamped_…`, `encryptMessage_some` -- what the parts of a run come to;
  * `decryptMessage_received` -- what a frame received decrypts to;
  * `sameBut_sendMessage` -- sending changes a session's counters and the node id of its peer only.
-/
import Matternode.Messaging.Session

namespace Matternode.Messaging

open Base Js

/-! ## 1. Writes that succeeded -/

theorem writeUIntLE_ok {w off : Nat} {bs bs' : Bytes} {v : JsValue}
    (h : writeUIntLE w bs v off = .ok bs') :
    ∃ x, v.toNumber = .ok x ∧ off + w ≤ bs.length ∧
      bs' = overwrite bs off (toLE w x.toInteger.toNat) := by
  obtain ⟨x, hx, h⟩ := bind_eq_ok h
  split at h
  · cases h
  · unfold writeBytes at h
    split at h
    · rename_i hle
      cases h
      rw [length_toLE] at hle
      exact ⟨x, hx, hle, rfl⟩
    · cases h

theorem write_ok {m m' : Message} {written : Bytes → Except JsError Bytes}
    (h : m.write written = .ok m') :
    ∃ buf, written m.buffer = .ok buf ∧ m' = { m with buffer := buf } := by
  obtain ⟨buf, hw, h⟩ := bind_eq_ok h
  cases h
  exact ⟨buf, hw, rfl⟩

theorem write_of_ok {m : Message} {written : Bytes → Except JsError Bytes} {buf : Bytes}
    (h : written m.buffer = .ok buf) : m.write written = .ok { m with buffer := buf } := by
  unfold Message.write
  rw [h]
  rfl

/-- The id that a field of two bytes holds, for a value it takes. -/
def headerId (v : JsValue) : Option Nat :=
  v.toNumber.toOption.bind fun x =>
    if x.gt 65535 || x.lt 0 then none else some (x.toInteger.toNat % 65536)

theorem headerId_lt {v : JsValue} {id : Nat} (h : headerId v = some id) : id < 65536 := by
  obtain ⟨x, -, h⟩ := Option.bind_eq_some_iff.mp h
  split at h
  · cases h
  · rw [← Option.some.inj h]
    exact Nat.mod_lt _ (by decide)

/-- **A value that the field takes is written as the id.** -/
theorem writeUInt16LE_of_headerId {v : JsValue} {id : Nat} (h : headerId v = some id) (bs : Bytes)
    (off : Nat) : writeUInt16LE bs v off = writeUInt16LE bs (.nat id) off := by
  have hlt := headerId_lt h
  obtain ⟨x, hx, h⟩ := Option.bind_eq_some_iff.mp h
  have hx' : v.toNumber = .ok x := by
    cases hv : v.toNumber with
    | error e =>
      rw [hv] at hx
      cases hx
    | ok y =>
      rw [hv] at hx
      cases hx
      rfl
  split at h
  · cases h
  · rename_i hrange
    have hsame : toLE 2 x.toInteger.toNat = toLE 2 id := by
      rw [← Option.some.inj h]
      exact (toLE_mod 2 x.toInteger.toNat).symm
    have hwrite : writeUInt16LE bs v off = writeBytes bs (toLE 2 x.toInteger.toNat) off := by
      unfold writeUInt16LE writeUIntLE
      rw [hx']
      exact if_neg hrange
    rw [hwrite, hsame]
    exact (writeUIntLE_bytes hlt).symm

theorem setSessionId_of_headerId {v : JsValue} {id : Nat} (h : headerId v = some id) (m : Message) :
    m.setSessionId v = m.setSessionId (.nat id) :=
  congrArg m.write (funext fun bs => writeUInt16LE_of_headerId h bs 1)

/-- A field that was written took its value. -/
theorem headerId_of_writeUInt16LE {v : JsValue} {bs bs' : Bytes} {off : Nat}
    (h : writeUInt16LE bs v off = .ok bs') : ∃ id, headerId v = some id := by
  obtain ⟨x, hx, h⟩ := bind_eq_ok h
  split at h
  · cases h
  · rename_i hrange
    refine ⟨x.toInteger.toNat % 65536, ?_⟩
    unfold headerId
    rw [hx]
    exact if_neg hrange

/-- A number that equals an id is written as it. -/
theorem headerId_of_strictEqNat {v : JsValue} {id : Nat} (h : v.strictEqNat id = true)
    (hlt : id < 65536) : headerId v = some id := by
  cases v with
  | number x =>
    have heq : x.eqInt id = true := h
    have hfits : ¬ (x.gt 65535 || x.lt 0) = true := by
      rw [Number.gt_of_eqInt heq, Number.lt_of_eqInt heq, Bool.or_eq_true, decide_eq_true_eq,
        decide_eq_true_eq]
      omega
    refine (if_neg hfits).trans ?_
    rw [Number.toInteger_of_eqInt heq, Int.toNat_natCast, Nat.mod_eq_of_lt hlt]
  | _ => cases h

/-! ## 2. The stamped header -/

/-- A header of a unicast session: message flags, session id, security flags 0, counter. -/
def header (flags : UInt8) (id counter : Nat) : Bytes :=
  flags :: (toLE 2 id ++ 0 :: toLE 4 counter)

@[simp] theorem length_header (flags : UInt8) (id counter : Nat) :
    (header flags id counter).length = 8 := by
  simp [header]

/-- The header `sendMessage` writes before it adds node ids. -/
abbrev stampedHeader (id counter : Nat) : Bytes := header 0 id counter

/-- Eight bytes and the rest. -/
theorem eight_bytes {bs : Bytes} (h : 8 ≤ bs.length) :
    ∃ b0 b1 b2 b3 b4 b5 b6 b7 rest, bs = b0 :: b1 :: b2 :: b3 :: b4 :: b5 :: b6 :: b7 :: rest := by
  match bs, h with
  | b0 :: b1 :: b2 :: b3 :: b4 :: b5 :: b6 :: b7 :: rest, _ =>
    exact ⟨b0, b1, b2, b3, b4, b5, b6, b7, rest, rfl⟩

/-- The four writes of a header, in the order of the code. -/
theorem overwrite_header {bs : Bytes} (h : 8 ≤ bs.length) (id counter : Nat) :
    overwrite (overwrite (overwrite (overwrite bs 0 (toLE 1 0)) 3 (toLE 1 0)) 1 (toLE 2 id)) 4
        (toLE 4 counter) = stampedHeader id counter ++ bs.drop 8 := by
  obtain ⟨b0, b1, b2, b3, b4, b5, b6, b7, rest, rfl⟩ := eight_bytes h
  simp [overwrite, toLE, header]

/-- **A stamped message is its header before the rest of its buffer**; the session id was a number,
    and the counter one of 32 bits. -/
theorem stamp_eq_ok {s : Session} {msg m : Message} (h : s.stamp msg = .ok m) :
    ∃ x, s.peerSessionId.toNumber = .ok x ∧ s.messageCounter < 2 ^ 32 ∧ 8 ≤ msg.buffer.length ∧
      m = { msg with buffer :=
        stampedHeader x.toInteger.toNat s.messageCounter ++ msg.buffer.drop 8 } := by
  obtain ⟨m3, h3, h4⟩ := bind_eq_ok h
  obtain ⟨m1, h1, h3⟩ := bind_eq_ok h3
  obtain ⟨m2, h2, h3⟩ := bind_eq_ok h3
  obtain ⟨buf1, hw1, rfl⟩ := write_ok h1
  obtain ⟨buf2, hw2, rfl⟩ := write_ok h2
  obtain ⟨buf3, hw3, rfl⟩ := write_ok h3
  obtain ⟨buf4, hw4, rfl⟩ := write_ok h4
  have hcounter : s.messageCounter < 2 ^ 32 := lt_of_writeUIntLE_nat hw4
  obtain ⟨x1, hx1, -, rfl⟩ := writeUIntLE_ok hw1
  obtain ⟨x2, hx2, -, rfl⟩ := writeUIntLE_ok hw2
  obtain ⟨x3, hx3, -, rfl⟩ := writeUIntLE_ok hw3
  obtain ⟨x4, hx4, hlen4, rfl⟩ := writeUIntLE_ok hw4
  cases hx1
  cases hx2
  cases hx4
  have hlen : 8 ≤ msg.buffer.length := by
    simp only [overwrite, List.length_append, List.length_take, List.length_drop,
      length_toLE] at hlen4
    omega
  refine ⟨x3, hx3, hcounter, hlen, ?_⟩
  have hov := overwrite_header hlen x3.toInteger.toNat s.messageCounter
  simp only [Number.int_toInteger, Int.toNat_natCast] at hov ⊢
  exact congrArg (fun b => { msg with buffer := b }) hov

/-! ## 3. Reading a stamped message -/

/-- A field is read where it stands. -/
theorem readUIntLE_at {bs : Bytes} (pre v post : Bytes) (h : bs = pre ++ v ++ post) :
    readUIntLE v.length bs pre.length = .ok (ofLE v) := by
  subst h
  unfold readUIntLE
  rw [readBytes_append]
  rfl

section Headed

variable {m : Message} {flags : UInt8} {id counter : Nat} {rest : Bytes}
  (hm : m.buffer = header flags id counter ++ rest)

include hm

theorem headed_messageFlags : m.messageFlags = .ok flags.toNat := by
  unfold Message.messageFlags
  rw [hm]
  have h := readUIntLE_at [] [flags] (toLE 2 id ++ 0 :: toLE 4 counter ++ rest) rfl
  simpa [header, ofLE, readUInt8] using h

theorem headed_sessionId : m.sessionId = .ok (id % 65536) := by
  unfold Message.sessionId
  rw [hm]
  have h := readUIntLE_at [flags] (toLE 2 id) (0 :: toLE 4 counter ++ rest) rfl
  rw [length_toLE, ofLE_toLE] at h
  simpa [header, readUInt16LE] using h

theorem headed_securityFlags : m.securityFlags = .ok 0 := by
  unfold Message.securityFlags
  rw [hm]
  have h := readUIntLE_at (flags :: toLE 2 id) [0] (toLE 4 counter ++ rest) rfl
  simpa [header, ofLE, readUInt8] using h

theorem headed_messageCounter (hc : counter < 2 ^ 32) : m.messageCounter = .ok counter := by
  unfold Message.messageCounter
  rw [hm]
  have h := readUIntLE_at (flags :: (toLE 2 id ++ [0])) (toLE 4 counter) rest rfl
  rw [length_toLE, ofLE_toLE_of_lt (by omega)] at h
  simpa [header, readUInt32LE] using h

/-- **Whether a message counts as unencrypted is its session id alone.** -/
theorem headed_isUnencrypted : m.isUnencrypted = .ok (decide (id % 65536 = 0)) := by
  unfold Message.isUnencrypted Message.sessionType
  rw [headed_securityFlags hm, headed_sessionId hm]
  rfl

theorem headed_isEncrypted : m.isEncrypted = .ok (decide (id % 65536 ≠ 0)) := by
  unfold Message.isEncrypted
  rw [headed_isUnencrypted hm]
  simp [bind, Except.bind, pure, Except.pure]

end Headed

section Stamped

variable {m : Message} {id counter : Nat} {rest : Bytes}
  (hm : m.buffer = stampedHeader id counter ++ rest)

include hm

theorem stamped_sflag : m.sflag = .ok false := by
  unfold Message.sflag
  rw [headed_messageFlags hm]
  rfl

theorem stamped_payloadOffset : m.payloadOffset = .ok 8 := by
  unfold Message.payloadOffset Message.dsiz
  rw [stamped_sflag hm, headed_messageFlags hm]
  rfl

theorem stamped_payload : m.payload = .ok rest := by
  unfold Message.payload
  rw [stamped_payloadOffset hm, hm]
  show Except.ok (subarrayFrom _ ((8 : Nat) : Int)) = _
  rw [subarrayFrom_nat, ← length_header 0 id counter, List.drop_left]

theorem stamped_hasFlag (bit : Nat) : MsgCodec.hasFlag m.buffer bit = false := by
  rw [hm]
  simp [MsgCodec.hasFlag, header]

theorem stamped_headerSize : MsgCodec.headerSize m.buffer = 8 := by
  unfold MsgCodec.headerSize
  simp only [stamped_hasFlag hm]
  rfl

/-- The nonce of a stamped frame is its counter, padded. -/
theorem stamped_nonce : MsgCodec.getNonce m.buffer = 0 :: toLE 4 counter ++ toLE 8 0 := by
  have hrange : subarray m.buffer (3 : Nat) (8 : Nat) = 0 :: toLE 4 counter := by
    rw [subarray_nat, hm, List.take_left' (length_header 0 id counter)]
    simp [header, toLE]
  unfold MsgCodec.getNonce
  rw [stamped_hasFlag hm, show subarray m.buffer 3 8 = 0 :: toLE 4 counter from hrange]
  simp [MsgCodec.concat13, toLE]

end Stamped

/-- The bytes begin with an odd one, as those of an exchange header with the I flag. -/
def beginsOdd (bs : Bytes) : Bool := (bs.headD 0).toNat % 2 = 1

/-- **The I flag is read behind the message header**, whatever stands there. -/
theorem stamped_iflag {m : Message} {id counter : Nat} {rest : Bytes}
    (hm : m.buffer = stampedHeader id counter ++ rest) (hrest : 1 ≤ rest.length) :
    m.iflag = .ok (beginsOdd rest) := by
  obtain ⟨b, tail, rfl⟩ := List.exists_cons_of_length_pos hrest
  have hread := readUIntLE_at [] [b] tail rfl
  unfold Message.iflag Message.exchangeFlag Message.exchangeFlags
  rw [stamped_payload hm]
  dsimp only [bind, Except.bind]
  rw [show readUInt8 (b :: tail) 0 = .ok (ofLE [b]) from hread]
  have hbit : (ofLE [b] &&& 0x01 ≠ 0) ↔ b.toNat % 2 = 1 := by
    rw [Nat.and_one_is_mod]
    unfold ofLE ofLE
    omega
  exact congrArg Except.ok (decide_eq_decide.mpr hbit)

/-- There is none where the message ends there. -/
theorem stamped_iflag_nil {m : Message} {id counter : Nat}
    (hm : m.buffer = stampedHeader id counter ++ []) : m.iflag = .error .rangeError := by
  unfold Message.iflag Message.exchangeFlag Message.exchangeFlags
  rw [stamped_payload hm]
  rfl

/-! ## 4. A run of `sendMessage` -/

namespace Session

/-- The state after the counter is taken. -/
def takeCounter (st : SendState) : SendState :=
  { st with session.messageCounter := st.session.messageCounter + 1 }

/-- The state after the transmission is counted. -/
def countTx (st : SendState) : SendState :=
  { st with session.metricTxCount := st.session.metricTxCount + 1 }

variable {A : Aead} {st : SendState} {msg m : Message}

/-- A header that cannot be written up to the session id takes no counter. -/
theorem sendMessage_address_error {e : JsError} (h : st.session.address msg = .error e) :
    (sendMessage A msg).run st = .error e st := by
  unfold sendMessage
  rw [run_bind_ok (run_get st), h]
  exact run_bind_error (run_lift_error e st)

/-- A counter that does not fit its field is taken all the same. -/
theorem sendMessage_stamp_error {e : JsError} (h1 : st.session.address msg = .ok m)
    (h2 : m.setMessageCounter (.nat st.session.messageCounter) = .error e) :
    (sendMessage A msg).run st = .error e (takeCounter st) := by
  unfold sendMessage
  rw [run_bind_ok (run_get st), h1, run_bind_ok (run_lift_ok m st), run_bind_ok (run_get st),
    run_bind_ok (run_modify _ st)]
  simp only [h2]
  exact run_bind_error (run_lift_error e _)

/-- A stamped message goes on to be encrypted or addressed. -/
theorem sendMessage_stamped (h : st.session.stamp msg = .ok m) :
    (sendMessage A msg).run st = (sendStamped A m).run (countTx (takeCounter st)) := by
  obtain ⟨m', h1, h2⟩ := bind_eq_ok h
  unfold sendMessage
  rw [run_bind_ok (run_get st), h1, run_bind_ok (run_lift_ok m' st), run_bind_ok (run_get st),
    run_bind_ok (run_modify _ st)]
  simp only [h2]
  rw [run_bind_ok (run_lift_ok m _), run_bind_ok (run_modify _ _)]
  rfl

/-- The state after the cipher is called. -/
def callCipher (st : SendState) (call : Ciphered) : SendState :=
  { st with outside.ciphered := st.outside.ciphered ++ [call] }

/-- The state after a frame is handed over. -/
def handOver (st : SendState) (peer : PeerInfo) (frame : Bytes) : SendState :=
  { st with outside.transmitted :=
      st.outside.transmitted ++ [⟨st.session.transport, peer, frame⟩] }

theorem transmit_some {peer : PeerInfo} (h : st.session.peerInfo = some peer) (buf : Bytes) :
    (transmit buf).run st = .ok () (handOver st peer buf) := by
  unfold transmit
  rw [run_bind_ok (run_get st)]
  simp only [h]
  rfl

theorem transmit_none (h : st.session.peerInfo = none) (buf : Bytes) :
    (transmit buf).run st = .error .typeError st := by
  unfold transmit
  rw [run_bind_ok (run_get st)]
  simp only [h]
  rfl

/-- A transmission that answers had an address to go to. -/
theorem transmit_eq_ok {buf : Bytes} {u : Unit} {st' : SendState}
    (h : (transmit buf).run st = .ok u st') :
    ∃ peer, st.session.peerInfo = some peer ∧ st' = handOver st peer buf := by
  cases hpeer : st.session.peerInfo with
  | none =>
    rw [transmit_none hpeer] at h
    cases h
  | some peer =>
    rw [transmit_some hpeer] at h
    cases h
    exact ⟨peer, rfl, rfl⟩

/-- The call of the cipher that sending a stamped message makes. -/
def cipherCallOf (c : SessionCryptoContext) (m : Message) (iflag : Bool) : Ciphered :=
  ⟨c.keys (keyIndex iflag), MsgCodec.getNonce m.buffer, m.buffer⟩

/-- **An encrypted message calls the cipher once**, with the key its I flag selects. -/
theorem encryptMessage_some {c : SessionCryptoContext} {iflag : Bool} (hI : m.iflag = .ok iflag)
    (hc : st.session.cryptoContext = some c) :
    (encryptMessage A m).run st =
      .ok ({ m with encrypted := some (MsgCodec.encrypt A m.buffer (c.keys (keyIndex iflag))) },
          MsgCodec.encrypt A m.buffer (c.keys (keyIndex iflag)))
        (callCipher st (cipherCallOf c m iflag)) := by
  unfold encryptMessage
  rw [hI, run_bind_ok (run_lift_ok iflag st), run_bind_ok (run_get st)]
  simp only [hc]
  rfl

/-- What sending an encrypted message comes to. -/
theorem sendStamped_encrypted (hm : m.isEncrypted = .ok true) :
    (sendStamped A m).run st =
      ((encryptMessage A m >>= fun r => do transmit r.2; pure r.1) : SendM Message).run st := by
  unfold sendStamped
  rw [hm, run_bind_ok (run_lift_ok true st)]
  rfl

theorem sendStamped_unencrypted (hm : m.isEncrypted = .ok false) :
    (sendStamped A m).run st =
      ((addressUnencrypted m >>= fun r => do transmit r.2; pure r.1) : SendM Message).run st := by
  unfold sendStamped
  rw [hm, run_bind_ok (run_lift_ok false st)]
  rfl

/-- What a run that answers has stamped. -/
theorem sendMessage_eq_ok {sent : Message} {st' : SendState}
    (h : (sendMessage A msg).run st = .ok sent st') :
    ∃ m, st.session.stamp msg = .ok m ∧
      (sendStamped A m).run (countTx (takeCounter st)) = .ok sent st' := by
  cases hstamp : st.session.stamp msg with
  | ok m => exact ⟨m, rfl, by rw [← sendMessage_stamped hstamp, h]⟩
  | error e =>
    cases haddr : st.session.address msg with
    | error e' =>
      rw [sendMessage_address_error haddr] at h
      cases h
    | ok m =>
      have hcounter : m.setMessageCounter (.nat st.session.messageCounter) = .error e := by
        unfold stamp at hstamp
        rwa [haddr] at hstamp
      rw [sendMessage_stamp_error haddr hcounter] at h
      cases h

/-- Nothing was called, and of the session nothing changed but the peer's node id. -/
structure Unsent (st₀ st : SendState) : Prop where
  ciphered : st.outside.ciphered = st₀.outside.ciphered
  transmitted : st.outside.transmitted = st₀.outside.transmitted
  session : st.session = { st₀.session with peerNodeId := st.session.peerNodeId }

theorem Unsent.refl (st : SendState) : Unsent st st := ⟨rfl, rfl, rfl⟩

theorem randomBytes_run (n : Nat) (o : Outside) :
    (randomBytes n).run o = .ok ((List.range n).map o.entropy)
      { o with entropy := fun i => o.entropy (n + i) } := rfl

theorem randomU64_run (o : Outside) :
    randomU64.run o = .ok (ofBE ((List.range 8).map o.entropy))
      { o with entropy := fun i => o.entropy (8 + i) } := rfl

theorem unsent_allocatePeerNodeId (st₀ : SendState) : Keeps (Unsent st₀) allocatePeerNodeId := by
  refine Triple.bind (Q := fun _ => Unsent st₀) Keeps.get fun s => ?_
  split
  · exact Keeps.pure ()
  · refine Keeps.bind (Triple.zoom ?_ ?_) fun id => Keeps.modify fun t ht => ?_
    · intro t id o ht hr
      rw [randomU64_run] at hr
      cases hr
      exact ⟨ht.ciphered, ht.transmitted, ht.session⟩
    · intro t e o ht hr
      rw [randomU64_run] at hr
      cases hr
    · exact ⟨ht.ciphered, ht.transmitted, by rw [ht.session]⟩

/-- **Addressing a message in the clear calls nothing.** -/
theorem unsent_addressUnencrypted (st₀ : SendState) (m : Message) :
    Keeps (Unsent st₀) (addressUnencrypted m) := by
  refine Keeps.bind (Keeps.lift _) fun iflag => ?_
  split
  · refine Keeps.bind (unsent_allocatePeerNodeId st₀) fun _ => ?_
    refine Keeps.bind Keeps.get fun s => Keeps.bind (Keeps.lift _) fun m' => Keeps.pure _
  · refine Keeps.bind Keeps.get fun s => ?_
    split
    · refine Keeps.bind Keeps.get fun s' => Keeps.bind (Keeps.lift _) fun m' => Keeps.pure _
    · exact Keeps.throw _

/-- **What sending an encrypted message leaves**, where it answers: one call of the cipher, and the
    encrypted frame handed over. -/
theorem sendStamped_encrypted_ok {sent : Message} {st' : SendState}
    (hm : m.isEncrypted = .ok true) (h : (sendStamped A m).run st = .ok sent st') :
    ∃ iflag c peer, m.iflag = .ok iflag ∧ st.session.cryptoContext = some c ∧
      st.session.peerInfo = some peer ∧ sent.buffer = m.buffer ∧
      st' = handOver (callCipher st (cipherCallOf c m iflag)) peer
        (MsgCodec.encrypt A m.buffer (c.keys (keyIndex iflag))) := by
  rw [sendStamped_encrypted hm] at h
  obtain ⟨_, st1, hcipher, h⟩ := run_bind_eq_ok h
  obtain ⟨iflag, t, hlift, hrest⟩ := run_bind_eq_ok hcipher
  obtain ⟨hflag, rfl⟩ := run_lift_eq_ok hlift
  cases hc : t.session.cryptoContext with
  | none =>
    rw [run_bind_ok (run_get t)] at hrest
    simp only [hc] at hrest
    cases hrest
  | some c =>
    rw [encryptMessage_some hflag hc] at hcipher
    cases hcipher
    obtain ⟨_, st2, htr, h⟩ := run_bind_eq_ok h
    obtain ⟨peer, hpeer, rfl⟩ := transmit_eq_ok htr
    cases h
    exact ⟨iflag, c, peer, hflag, rfl, hpeer, rfl, rfl⟩

/-- What sending a message in the clear leaves, where it answers: the message as it was addressed,
    handed over. -/
theorem sendStamped_unencrypted_ok {sent : Message} {st' : SendState}
    (hm : m.isEncrypted = .ok false) (h : (sendStamped A m).run st = .ok sent st') :
    ∃ frame st1 peer, (addressUnencrypted m).run st = .ok (sent, frame) st1 ∧
      Unsent st st1 ∧ st.session.peerInfo = some peer ∧ st' = handOver st1 peer frame := by
  rw [sendStamped_unencrypted hm] at h
  obtain ⟨⟨m', frame⟩, st1, haddr, h⟩ := run_bind_eq_ok h
  have hun := (unsent_addressUnencrypted st m).ok (Unsent.refl st) haddr
  have hpeer : st1.session.peerInfo = st.session.peerInfo := by rw [hun.session]
  obtain ⟨_, st2, htr, h⟩ := run_bind_eq_ok h
  obtain ⟨peer, hp, rfl⟩ := transmit_eq_ok htr
  cases h
  exact ⟨frame, st1, peer, haddr, hun, hpeer.symm.trans hp, rfl⟩

/-! ## 5. What a frame received decrypts to -/

/-- **A frame received is tried under one key of the session**, and keeps its bytes where it is
    refused. -/
theorem decryptMessage_received {s : Session} {c : SessionCryptoContext}
    (hs : s.cryptoContext = some c) {frame : Bytes} {peerInfo : PeerInfo}
    (hm : (received frame peerInfo).isUnencrypted = .ok false) :
    s.decryptMessage A (received frame peerInfo) =
      .ok (MsgCodec.decrypt A frame (c.keys (if s.initiator then 1 else 0)),
        { received frame peerInfo with
          buffer :=
            (MsgCodec.decrypt A frame (c.keys (if s.initiator then 1 else 0))).getD frame }) := by
  unfold decryptMessage
  rw [hm, hs]
  dsimp only [received, bind, Except.bind]
  cases MsgCodec.decrypt A frame (c.keys (if s.initiator then 1 else 0)) with
  | none => rfl
  | some dmsg => rfl

/-! ## 6. What sending keeps -/

/-- A session as it was made: its ids, whether it is secure, its keys. -/
structure SameIdentity (s t : Session) : Prop where
  localSessionId : t.localSessionId = s.localSessionId
  peerSessionId : t.peerSessionId = s.peerSessionId
  secure : t.secure = s.secure
  cryptoContext : t.cryptoContext = s.cryptoContext

theorem SameIdentity.refl (s : Session) : SameIdentity s s := ⟨rfl, rfl, rfl, rfl⟩

/-- The session in hand is `s` as it was made. -/
abbrev Same (s : Session) (st : SendState) : Prop := SameIdentity s st.session

/-- The session in hand is `s`, but for its counters and the node id of its peer. -/
def SameBut (s : Session) (st : SendState) : Prop :=
  ∃ messageCounter metricTxCount peerNodeId,
    st.session = { s with messageCounter, metricTxCount, peerNodeId }

theorem SameBut.refl (st : SendState) : SameBut st.session st := ⟨_, _, _, rfl⟩

theorem SameBut.trans {s : Session} {st st' : SendState} (h : SameBut s st)
    (h' : SameBut st.session st') : SameBut s st' := by
  obtain ⟨counter, tx, id, h⟩ := h
  obtain ⟨counter', tx', id', h'⟩ := h'
  exact ⟨counter', tx', id', by rw [h', h]⟩

theorem SameBut.sameIdentity {s : Session} {st : SendState} (h : SameBut s st) :
    SameIdentity s st.session := by
  obtain ⟨counter, tx, id, h⟩ := h
  rw [h]
  exact ⟨rfl, rfl, rfl, rfl⟩

theorem sameBut_modify {s : Session} {f : SendState → SendState}
    (h : ∀ st, SameBut st.session (f st)) : Keeps (SameBut s) (modify f : SendM PUnit) :=
  Keeps.modify fun st hst => hst.trans (h st)

theorem sameBut_transmit (s : Session) (buf : Bytes) : Keeps (SameBut s) (transmit buf) := by
  refine Keeps.bind Keeps.get fun st => ?_
  cases st.session.peerInfo with
  | none => exact Keeps.throw _
  | some peer => exact sameBut_modify fun st => ⟨_, _, _, rfl⟩

theorem sameBut_encryptMessage (A : Aead) (s : Session) (msg : Message) :
    Keeps (SameBut s) (encryptMessage A msg) := by
  refine Keeps.bind (Keeps.lift _) fun iflag => Keeps.bind Keeps.get fun st => ?_
  cases st.session.cryptoContext with
  | none => exact Keeps.throw _
  | some c =>
    exact Keeps.bind (sameBut_modify fun st => ⟨_, _, _, rfl⟩) fun _ => Keeps.pure _

theorem sameBut_allocatePeerNodeId (s : Session) : Keeps (SameBut s) allocatePeerNodeId := by
  refine Keeps.bind Keeps.get fun st => ?_
  split
  · exact Keeps.pure ()
  · exact Keeps.bind (Keeps.zoom _ fun st o h => h) fun id =>
      sameBut_modify fun st => ⟨_, _, _, rfl⟩

theorem sameBut_addressUnencrypted (s : Session) (msg : Message) :
    Keeps (SameBut s) (addressUnencrypted msg) := by
  refine Keeps.bind (Keeps.lift _) fun iflag => ?_
  split
  · refine Keeps.bind (sameBut_allocatePeerNodeId s) fun _ => Keeps.bind Keeps.get fun st => ?_
    exact Keeps.bind (Keeps.lift _) fun m => Keeps.pure _
  · refine Keeps.bind Keeps.get fun st => ?_
    split
    · exact Keeps.bind Keeps.get fun st => Keeps.bind (Keeps.lift _) fun m => Keeps.pure _
    · exact Keeps.throw _

/-- **Sending changes a session's counters and the node id of its peer only.** -/
theorem sameBut_sendMessage (A : Aead) (s : Session) (msg : Message) :
    Keeps (SameBut s) (sendMessage A msg) := by
  refine Keeps.bind Keeps.get fun st => Keeps.bind (Keeps.lift _) fun m => ?_
  refine Keeps.bind Keeps.get fun st => ?_
  refine Keeps.bind (sameBut_modify fun st => ⟨_, _, _, rfl⟩) fun _ => ?_
  refine Keeps.bind (Keeps.lift _) fun m => ?_
  refine Keeps.bind (sameBut_modify fun st => ⟨_, _, _, rfl⟩) fun _ => ?_
  have hrest (sent : Message × Bytes) :
      Keeps (SameBut s) (do transmit sent.2; return sent.1 : SendM Message) :=
    Keeps.bind (sameBut_transmit s sent.2) fun _ => Keeps.pure sent.1
  refine Keeps.bind (Keeps.lift _) fun encrypted => ?_
  cases encrypted with
  | true => exact Keeps.bind (sameBut_encryptMessage A s m) hrest
  | false => exact Keeps.bind (sameBut_addressUnencrypted s m) hrest

/-- **Sending leaves a session as it was made.** -/
theorem same_sendMessage (A : Aead) (s : Session) (msg : Message) :
    Keeps (Same s) (sendMessage A msg) :=
  Keeps.of_final fun st hst => by
    obtain ⟨h1, h2, h3, h4⟩ :=
      ((sameBut_sendMessage A st.session msg).final (SameBut.refl st)).sameIdentity
    exact ⟨h1.trans hst.localSessionId, h2.trans hst.peerSessionId, h3.trans hst.secure,
      h4.trans hst.cryptoContext⟩

end Session

end Matternode.Messaging
