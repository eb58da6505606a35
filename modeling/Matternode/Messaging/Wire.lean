/-
  File:      Matternode/Messaging/Wire.lean
  Subject:   What one call of `sendMessage` on an unsecured exchange makes of any message.

  A message is changed in place: the exchange writes its header where the payload stands, the session
  clears the message flags and asks for the I flag behind them, whatever stands there, and writes a
  node id where a field stands or is inserted.

  * `Exchange.put`, `Exchange.acked` -- the header of an exchange and its ack counter, as bytes;
  * `address_eq_ok_iff` -- **what an exchange makes of any message**;
  * `Session.addressed`, `Message.named`, `addressed_eq_ok_iff` -- **what its session makes of it**;
  * `Exchange.wire`, `wire_eq_ok_iff` -- both;
  * `PeeredExchange`, `sendMessage_of_wire`, `wire_of_sendMessage` -- **what one call transmits**.
-/
import Matternode.Messaging.NodeIds

namespace Matternode.Messaging

open Base Js

/-! ## 1. The bytes of an exchange -/

/-- The flags and the id of an exchange written at an offset. -/
def Exchange.put (ex : Exchange) (off : Nat) (bs : Bytes) : Bytes :=
  bs.take off ++ (toLE 1 ex.flags ++ ((bs.drop (off + 1)).take 1 ++
    (toLE 2 ex.exchangeId ++ bs.drop (off + 4))))

/-- The ack counter of an exchange, behind the header at an offset. -/
def Exchange.acked (ex : Exchange) (off : Nat) (bs : Bytes) : Bytes :=
  bs.take (off + exchangeHeaderMinSize) ++ (ex.ackBytes ++ bs.drop (off + exchangeHeaderMinSize))

section Put

variable {ex : Exchange} {a b bs : Bytes}

theorem Exchange.put_append (ex : Exchange) (a b : Bytes) :
    ex.put a.length (a ++ b) = a ++ ex.put 0 b := by
  unfold Exchange.put
  rw [List.take_left, List.drop_length_add_append, List.drop_length_add_append, Nat.zero_add,
    Nat.zero_add, List.take_zero, List.nil_append]

theorem Exchange.put_parts (ex : Exchange) {f o x rest : Bytes} (hf : f.length = 1)
    (ho : o.length = 1) (hx : x.length = 2) :
    ex.put 0 (f ++ (o ++ (x ++ rest))) =
      toLE 1 ex.flags ++ (o ++ (toLE 2 ex.exchangeId ++ rest)) := by
  have h1 : (f ++ (o ++ (x ++ rest))).drop 1 = o ++ (x ++ rest) := List.drop_left' hf
  have h4 : (f ++ (o ++ (x ++ rest))).drop 4 = rest := by
    have hassoc : f ++ (o ++ (x ++ rest)) = f ++ o ++ x ++ rest := by
      simp only [List.append_assoc]
    rw [hassoc]
    exact List.drop_left' (by simp only [List.length_append]; omega)
  unfold Exchange.put
  rw [Nat.zero_add, Nat.zero_add, h1, h4, List.take_left' ho, List.take_zero, List.nil_append]

/-- Four bytes, by their fields. -/
theorem exchange_parts (h : 4 ≤ bs.length) : ∃ f o x rest : Bytes, f.length = 1 ∧ o.length = 1 ∧
    x.length = 2 ∧ bs = f ++ (o ++ (x ++ rest)) := by
  refine ⟨bs.take 1, (bs.drop 1).take 1, (bs.drop 2).take 2, bs.drop 4, ?_, ?_, ?_, ?_⟩
  · rw [List.length_take]
    omega
  · rw [List.length_take, List.length_drop]
    omega
  · rw [List.length_take, List.length_drop]
    omega
  · have h2 : (bs.drop 2).take 2 ++ bs.drop 4 = bs.drop 2 := by
      rw [← List.drop_drop (i := 2) (j := 2)]
      exact List.take_append_drop 2 _
    have h1 : (bs.drop 1).take 1 ++ bs.drop 2 = bs.drop 1 := by
      rw [← List.drop_drop (i := 1) (j := 1)]
      exact List.take_append_drop 1 _
    rw [h2, h1, List.take_append_drop]

theorem Exchange.length_put {off : Nat} (h : off + 4 ≤ bs.length) :
    (ex.put off bs).length = bs.length := by
  unfold Exchange.put
  simp only [List.length_append, List.length_take, List.length_drop, length_toLE]
  omega

theorem Exchange.acked_of_not (hack : ex.isAck = false) (off : Nat) : ex.acked off bs = bs := by
  unfold Exchange.acked Exchange.ackBytes
  rw [hack]
  exact List.take_append_drop ..

theorem Exchange.length_ackBytes (ex : Exchange) :
    ex.ackBytes.length = if ex.isAck then 4 else 0 := by
  unfold Exchange.ackBytes
  cases ex.isAck <;> simp

theorem Exchange.length_acked (ex : Exchange) (off : Nat) (bs : Bytes) :
    (ex.acked off bs).length = bs.length + if ex.isAck then 4 else 0 := by
  unfold Exchange.acked
  simp only [List.length_append, List.length_take, List.length_drop, ex.length_ackBytes]
  omega

end Put

/-! ## 2. What the exchange writes -/

/-- A message whose payload begins with an exchange header, as far as the exchange id. -/
structure Opens (m : Message) (hdr : Bytes) (flags : Nat) (opcode : Bytes) (exchangeId : Nat)
    (rest : Bytes) : Prop where
  buffer : m.buffer = hdr ++ (toLE 1 flags ++ (opcode ++ (toLE 2 exchangeId ++ rest)))
  offset : m.payloadOffset = .ok hdr.length
  header : 8 ≤ hdr.length
  opcode : opcode.length = 1

/-- What stands behind the header does not move the payload. -/
theorem payloadOffset_of_front {m m' : Message} {hdr a b : Bytes} (hm : m.buffer = hdr ++ a)
    (hm' : m'.buffer = hdr ++ b) (h8 : 8 ≤ hdr.length) : m'.payloadOffset = m.payloadOffset := by
  refine payloadOffset_of_take ?_
  rw [hm, hm', List.take_append_of_le_length h8, List.take_append_of_le_length h8]

/-- A payload stands behind the message header. -/
theorem le_payloadOffset {m : Message} {off : Nat} (hoff : m.payloadOffset = .ok off) : 8 ≤ off := by
  obtain ⟨b, -, hret⟩ := bind_eq_ok hoff
  obtain ⟨z, -, hret⟩ := bind_eq_ok hret
  rw [← Except.ok.inj hret]
  unfold messageHeaderMinSize
  omega

/-- A payload that is long enough has the fields. -/
theorem exists_opens {m : Message} {off : Nat} (hoff : m.payloadOffset = .ok off)
    (hlen : off + 4 ≤ m.buffer.length) : ∃ hdr flags opcode exchangeId rest,
      hdr.length = off ∧ flags < 256 ∧ Opens m hdr flags opcode exchangeId rest := by
  obtain ⟨f, o, x, rest, hf, ho, hx, hdrop⟩ :=
    exchange_parts (show 4 ≤ (m.buffer.drop off).length by rw [List.length_drop]; omega)
  have htake : (m.buffer.take off).length = off := by
    rw [List.length_take]
    omega
  have h8 := le_payloadOffset hoff
  refine ⟨m.buffer.take off, ofLE f, o, ofLE x, rest, htake, ofLE_lt_of_length hf, ?_, ?_, ?_, ho⟩
  · rw [toLE_ofLE_of_length hf, toLE_ofLE_of_length hx, ← hdrop, List.take_append_drop]
  · rw [hoff, htake]
  · rw [htake]
    exact h8

namespace Opens

variable {m : Message} {hdr opcode rest : Bytes} {flags exchangeId : Nat}
  (h : Opens m hdr flags opcode exchangeId rest)

include h

theorem rewritten (flags' exchangeId' : Nat) : Opens { m with
    buffer := hdr ++ (toLE 1 flags' ++ (opcode ++ (toLE 2 exchangeId' ++ rest))) }
    hdr flags' opcode exchangeId' rest :=
  ⟨rfl, (payloadOffset_of_front h.buffer rfl h.header).trans h.offset, h.header, h.opcode⟩

theorem payload : m.payload = .ok (toLE 1 flags ++ (opcode ++ (toLE 2 exchangeId ++ rest))) := by
  rw [payload_at h.offset, h.buffer, List.drop_left]

theorem exchangeFlags (hf : flags < 256) : m.exchangeFlags = .ok flags := by
  have hread := readUIntLE_at [] (toLE 1 flags) (opcode ++ (toLE 2 exchangeId ++ rest)) rfl
  rw [length_toLE, ofLE_toLE_of_lt hf] at hread
  unfold Message.exchangeFlags
  rw [h.payload]
  exact hread

theorem setExchangeId {v : Nat} (hv : v < 65536) : m.setExchangeId (.nat v) = .ok { m with
    buffer := hdr ++ (toLE 1 flags ++ (opcode ++ (toLE 2 v ++ rest))) } := by
  have hw := writePayload_nat (toLE 1 flags ++ opcode) (toLE 2 exchangeId) rest
    (by simpa only [List.append_assoc] using h.buffer) h.offset (length_toLE ..) hv
  rw [List.length_append, length_toLE, h.opcode] at hw
  simp only [List.append_assoc] at hw
  exact hw

theorem setExchangeFlags {v : Nat} (hv : v < 256) : m.setExchangeFlags (.nat v) = .ok { m with
    buffer := hdr ++ (toLE 1 v ++ (opcode ++ (toLE 2 exchangeId ++ rest))) } :=
  writePayload_nat [] (toLE 1 flags) (opcode ++ (toLE 2 exchangeId ++ rest)) h.buffer h.offset
    (length_toLE ..) hv

theorem setExchangeFlag {bit : Nat} {v : Bool} (hf : flags < 256)
    (hv : (if v then flags ||| bit else flags &&& (0xFF ^^^ bit)) < 256) :
    m.setExchangeFlag bit v = .ok { m with
      buffer := hdr ++ (toLE 1 (if v then flags ||| bit else flags &&& (0xFF ^^^ bit)) ++
        (opcode ++ (toLE 2 exchangeId ++ rest))) } := by
  unfold Message.setExchangeFlag
  rw [h.exchangeFlags hf]
  exact h.setExchangeFlags hv
/-- The assignments of an exchange, up to the ack counter. -/
theorem address {ex : Exchange} (hx : ex.exchangeId < 65536) : ex.address m =
    let m' : Message := { m with
      buffer := hdr ++ (toLE 1 ex.flags ++ (opcode ++ (toLE 2 ex.exchangeId ++ rest))) }
    if ex.isAck then m'.setAckCounter (.nat ex.ackCounter) else .ok m' := by
  have h1 := h.rewritten flags ex.exchangeId
  have h2 := h.rewritten 0 ex.exchangeId
  unfold Exchange.address
  rw [h.setExchangeId hx]
  dsimp only [bind, Except.bind]
  rw [h1.setExchangeFlags (by decide)]
  dsimp only
  unfold Message.setIflag Message.setRflag Message.setAflag
  rw [h2.setExchangeFlag (by decide) (by cases ex.isInitiator <;> decide)]
  dsimp only
  rw [(h.rewritten _ _).setExchangeFlag (by cases ex.isInitiator <;> decide)
    (by cases ex.isInitiator <;> cases ex.isReliable <;> decide)]
  dsimp only
  unfold Exchange.flags
  cases ex.isAck with
  | false => cases ex.isInitiator <;> cases ex.isReliable <;> rfl
  | true =>
    rw [if_pos rfl, if_pos rfl, (h.rewritten _ _).setExchangeFlag
      (by cases ex.isInitiator <;> cases ex.isReliable <;> decide)
      (by cases ex.isInitiator <;> cases ex.isReliable <;> decide)]
    cases ex.isInitiator <;> cases ex.isReliable <;> rfl

end Opens

section Address

variable {ex : Exchange} {m m' : Message}

/-- **An ack counter is inserted** behind the exchange header, each time. -/
theorem setAckCounter_eq_ok_iff {off v : Nat} (hoff : m.payloadOffset = .ok off)
    (ha : m.aflag = .ok true) : m.setAckCounter (.nat v) = .ok m' ↔
      off + 6 ≤ m.buffer.length ∧ v < 2 ^ 32 ∧
        m' = { m with buffer := m.buffer.take (off + 6) ++ (toLE 4 v ++ m.buffer.drop (off + 6)) } := by
  have hset : m.setAckCounter (.nat v) =
      (m.insert (off + 6) ackCounterSize).write (writeUInt32LE · (.nat v) (off + 6)) := by
    unfold Message.setAckCounter
    rw [hoff, ha]
    rfl
  have hwrite (hlen : off + 6 ≤ m.buffer.length) (hv : v < 2 ^ 32) : m.setAckCounter (.nat v) =
      .ok { m with buffer := m.buffer.take (off + 6) ++ (toLE 4 v ++ m.buffer.drop (off + 6)) } := by
    have htake : (m.buffer.take (off + 6)).length = off + 6 := by
      rw [List.length_take]
      omega
    have hins := insert_eq (List.take_append_drop (off + 6) m.buffer).symm ackCounterSize
    have hover : overwrite (m.buffer.take (off + 6) ++ bufferAlloc 4 ++ m.buffer.drop (off + 6))
        (m.buffer.take (off + 6)).length (toLE 4 v) =
        m.buffer.take (off + 6) ++ toLE 4 v ++ m.buffer.drop (off + 6) :=
      overwrite_middle (by rw [length_toLE, length_bufferAlloc])
    rw [htake] at hins hover
    rw [hset, hins]
    refine write_of_ok ((writeUIntLE_nat hv ?_).trans ?_)
    · show off + 6 + 4 ≤ (m.buffer.take (off + 6) ++ bufferAlloc 4 ++ _).length
      simp only [List.length_append, htake, length_bufferAlloc]
      omega
    · rw [← List.append_assoc]
      exact congrArg Except.ok hover
  constructor
  · intro h
    have hmade := h
    rw [hset] at hmade
    obtain ⟨buf, hw, -⟩ := write_ok hmade
    have hv : v < 2 ^ 32 := lt_of_writeUIntLE_nat hw
    obtain ⟨x, -, hle, -⟩ := writeUIntLE_ok hw
    rw [length_insert] at hle
    have hlen : off + 6 ≤ m.buffer.length := by
      unfold ackCounterSize at hle
      omega
    exact ⟨hlen, hv, Except.ok.inj (h.symm.trans (hwrite hlen hv))⟩
  · rintro ⟨hlen, hv, rfl⟩
    exact hwrite hlen hv

/-- **What an exchange makes of a message.** -/
theorem address_eq_ok_iff : ex.address m = .ok m' ↔ ex.exchangeId < 65536 ∧
    ∃ off, m.payloadOffset = .ok off ∧ off + 4 ≤ m.buffer.length ∧
      (ex.isAck = true → off + 6 ≤ m.buffer.length ∧ ex.ackCounter < 2 ^ 32) ∧
      m' = { m with buffer := ex.acked off (ex.put off m.buffer) } := by
  have hput {off : Nat} (hoff : m.payloadOffset = .ok off) (hlen : off + 4 ≤ m.buffer.length)
      (hx : ex.exchangeId < 65536) : ex.address m = .ok m' ↔
        (ex.isAck = true → off + 6 ≤ m.buffer.length ∧ ex.ackCounter < 2 ^ 32) ∧
          m' = { m with buffer := ex.acked off (ex.put off m.buffer) } := by
    obtain ⟨hdr, flags, opcode, exchangeId, rest, rfl, -, h⟩ := exists_opens hoff hlen
    have hlen' : (ex.put hdr.length m.buffer).length = m.buffer.length := Exchange.length_put hlen
    have hbuf : ex.put hdr.length m.buffer =
        hdr ++ (toLE 1 ex.flags ++ (opcode ++ (toLE 2 ex.exchangeId ++ rest))) := by
      rw [h.buffer, ex.put_append, ex.put_parts (length_toLE ..) h.opcode (length_toLE ..)]
    rw [h.address hx, ← hbuf]
    cases hack : ex.isAck with
    | false =>
      rw [Exchange.acked_of_not hack]
      refine ⟨fun heq => ⟨nofun, (Except.ok.inj heq).symm⟩, fun heq => congrArg _ heq.2.symm⟩
    | true =>
      have hopens : Opens { m with buffer := ex.put hdr.length m.buffer } hdr ex.flags opcode
          ex.exchangeId rest := by
        rw [hbuf]
        exact h.rewritten _ _
      have ha : Message.aflag { m with buffer := ex.put hdr.length m.buffer } = .ok true := by
        unfold Message.aflag Message.exchangeFlag
        rw [hopens.exchangeFlags (flagBits_lt ..)]
        unfold Exchange.flags
        rw [hack]
        cases ex.isInitiator <;> cases ex.isReliable <;> rfl
      dsimp only
      rw [if_pos rfl]
      refine (setAckCounter_eq_ok_iff hopens.offset ha).trans ?_
      unfold Exchange.acked Exchange.ackBytes
      rw [hack]
      show hdr.length + 6 ≤ (ex.put hdr.length m.buffer).length ∧ _ ↔ _
      rw [hlen']
      refine ⟨fun heq => ⟨fun _ => ⟨heq.1, heq.2.1⟩, heq.2.2⟩, fun heq => ?_⟩
      obtain ⟨hsix, hcounter⟩ := heq.1 rfl
      exact ⟨hsix, hcounter, heq.2⟩
  constructor
  · intro h
    obtain ⟨m1, h1, -⟩ := bind_eq_ok h
    have hx : ex.exchangeId < 65536 := lt_of_writePayload h1
    obtain ⟨off, hoff, h1⟩ := bind_eq_ok h1
    obtain ⟨pay, hpay, h1⟩ := bind_eq_ok h1
    obtain ⟨buf, hw, -⟩ := bind_eq_ok h1
    obtain ⟨x, -, hlen, -⟩ := writeUIntLE_ok hw
    rw [← Except.ok.inj ((payload_at hoff).symm.trans hpay), List.length_drop] at hlen
    have hle : off + 4 ≤ m.buffer.length := by omega
    exact ⟨hx, off, hoff, hle, (hput hoff hle hx).mp h⟩
  · rintro ⟨hx, off, hoff, hlen, hmade⟩
    exact (hput hoff hlen hx).mpr hmade

end Address

/-! ## 3. What the session writes -/

/-- A node id that is written where eight bytes are. -/
theorem writeNodeId_eq_ok_iff {pre rest buf : Bytes} {id : Nat} :
    writeBigUInt64LE (pre ++ rest) id pre.length = .ok buf ↔
      id < 2 ^ 64 ∧ 8 ≤ rest.length ∧ buf = pre ++ (toLE 8 id ++ rest.drop 8) := by
  have hover : overwrite (pre ++ rest) pre.length (toLE 8 id) =
      pre ++ (toLE 8 id ++ rest.drop 8) := by
    unfold overwrite
    rw [List.take_left, length_toLE, List.drop_length_add_append, List.append_assoc]
  unfold writeBigUInt64LE
  constructor
  · intro h
    split at h
    · cases h
    · rw [Int.toNat_natCast] at h
      unfold writeBytes at h
      split at h
      · rename_i hid hlen
        rw [List.length_append, length_toLE] at hlen
        exact ⟨by omega, by omega, (Except.ok.inj h).symm.trans hover⟩
      · cases h
  · rintro ⟨hid, hlen, rfl⟩
    rw [if_neg (by omega), Int.toNat_natCast, ← hover]
    exact writeBytes_of_le (by rw [List.length_append, length_toLE]; omega)

/-- A field that is remembered stands there already; another one is inserted. -/
def afterField (remembered : Bool) (rest : Bytes) : Bytes :=
  rest.drop (if remembered then 8 else 0)

section Addressed

variable {m : Message} {pre rest : Bytes}

theorem write_nodeId_eq_ok_iff (hm : m.buffer = pre ++ rest) (id : Nat) (m' : Message) :
    m.write (writeBigUInt64LE · id pre.length) = .ok m' ↔ id < 2 ^ 64 ∧ 8 ≤ rest.length ∧
      m' = { m with buffer := pre ++ (toLE 8 id ++ rest.drop 8) } := by
  constructor
  · intro h
    obtain ⟨buf, hw, rfl⟩ := write_ok h
    rw [hm] at hw
    obtain ⟨hid, hlen, rfl⟩ := writeNodeId_eq_ok_iff.mp hw
    exact ⟨hid, hlen, rfl⟩
  · rintro ⟨hid, hlen, rfl⟩
    refine write_of_ok ?_
    rw [hm]
    exact writeNodeId_eq_ok_iff.mpr ⟨hid, hlen, rfl⟩

/-- The same with new bytes. -/
theorem write_inserted_eq_ok_iff (hm : m.buffer = pre ++ rest) (id : Nat) (m' : Message) :
    (m.insert pre.length messageNodeIdSize).write (writeBigUInt64LE · id pre.length) = .ok m' ↔
      id < 2 ^ 64 ∧ m' = { m with buffer := pre ++ (toLE 8 id ++ rest) } := by
  have hins : (m.insert pre.length messageNodeIdSize).buffer = pre ++ (bufferAlloc 8 ++ rest) := by
    rw [insert_eq hm messageNodeIdSize, ← List.append_assoc]
    rfl
  have hdrop : (bufferAlloc 8 ++ rest).drop 8 = rest := List.drop_left' (length_bufferAlloc 8)
  rw [write_nodeId_eq_ok_iff hins id m', hdrop, List.length_append, length_bufferAlloc]
  refine ⟨fun h => ⟨h.1, h.2.2⟩, fun h => ⟨h.1, by omega, h.2⟩⟩

/-- **A source is written** where it stands, or where it is inserted. -/
theorem setSourceNodeId_eq_ok_iff (hs : m.sflag = .ok true) (hm : m.buffer = pre ++ rest)
    (hpre : pre.length = 8) (id : Nat) (m' : Message) : m.setSourceNodeId (.bigint id) = .ok m' ↔
      id < 2 ^ 64 ∧ (m.hasSource = true → 8 ≤ rest.length) ∧ m' = { m with
        buffer := pre ++ (toLE 8 id ++ afterField m.hasSource rest), hasSource := true } := by
  cases hsource : m.hasSource with
  | false =>
    have hwrite := write_inserted_eq_ok_iff (m := { m with hasSource := true }) hm id m'
    rw [hpre] at hwrite
    unfold Message.setSourceNodeId
    rw [hs, hsource]
    refine hwrite.trans ⟨fun h => ⟨h.1, nofun, h.2⟩, fun h => ⟨h.1, h.2.2⟩⟩
  | true =>
    have hwrite := write_nodeId_eq_ok_iff hm id m'
    rw [hpre] at hwrite
    unfold Message.setSourceNodeId
    rw [hs, hsource]
    have hsame : ({ m with buffer := pre ++ (toLE 8 id ++ rest.drop 8) } : Message) =
        { m with buffer := pre ++ (toLE 8 id ++ rest.drop 8), hasSource := true } :=
      congrArg (fun b => { m with
        buffer := pre ++ (toLE 8 id ++ rest.drop 8), hasSource := b }) hsource
    rw [hsame] at hwrite
    exact hwrite.trans ⟨fun h => ⟨h.1, fun _ => h.2.1, h.2.2⟩, fun h => ⟨h.1, h.2.1 rfl, h.2.2⟩⟩

/-- **So is a destination.** -/
theorem setDestinationNodeId_eq_ok_iff (hz : m.dsiz = .ok 1) (hm : m.buffer = pre ++ rest)
    (hoff : m.destinationOffset = .ok pre.length) (id : Nat) (m' : Message) :
    m.setDestinationNodeId (.bigint id) = .ok m' ↔
      id < 2 ^ 64 ∧ (m.hasDestination = true → 8 ≤ rest.length) ∧ m' = { m with
        buffer := pre ++ (toLE 8 id ++ afterField m.hasDestination rest)
        hasDestination := true } := by
  have hset : m.setDestinationNodeId (.bigint id) = (m.insertDestination pre.length 1 >>= fun m =>
      m.write (writeBigUInt64LE · id pre.length)) := by
    unfold Message.setDestinationNodeId
    rw [hoff, hz]
    rfl
  rw [hset]
  unfold Message.insertDestination
  cases hdest : m.hasDestination with
  | false =>
    have hwrite :=
      write_inserted_eq_ok_iff (m := { m with hasDestination := true }) hm id m'
    refine hwrite.trans ⟨fun h => ⟨h.1, nofun, h.2⟩, fun h => ⟨h.1, h.2.2⟩⟩
  | true =>
    have hwrite := write_nodeId_eq_ok_iff hm id m'
    have hsame : ({ m with buffer := pre ++ (toLE 8 id ++ rest.drop 8) } : Message) =
        { m with buffer := pre ++ (toLE 8 id ++ rest.drop 8), hasDestination := true } :=
      congrArg (fun b => { m with
        buffer := pre ++ (toLE 8 id ++ rest.drop 8), hasDestination := b }) hdest
    rw [hsame] at hwrite
    exact hwrite.trans ⟨fun h => ⟨h.1, fun _ => h.2.1, h.2.2⟩, fun h => ⟨h.1, h.2.1 rfl, h.2.2⟩⟩

end Addressed

/-! ## 4. One frame -/

/-- The first byte of a number has its parity. -/
theorem beginsOdd_toLE (w n : Nat) (bs : Bytes) :
    beginsOdd (toLE (w + 1) n ++ bs) = decide (n % 2 = 1) := by
  have hlow : (UInt8.ofNat n).toNat % 2 = n % 2 := by
    rw [UInt8.toNat_ofNat']
    omega
  unfold beginsOdd
  show decide ((UInt8.ofNat n).toNat % 2 = 1) = _
  rw [hlow]

/-- **The I flag of an exchange stands where the payload does.** -/
theorem Exchange.beginsOdd_put (ex : Exchange) {bs : Bytes} (h : 8 ≤ bs.length) :
    beginsOdd ((ex.put 8 bs).drop 8) = ex.isInitiator := by
  have htake : (bs.take 8).length = 8 := by
    rw [List.length_take]
    omega
  unfold Exchange.put
  rw [List.drop_left' htake, beginsOdd_toLE]
  unfold Exchange.flags
  cases ex.isInitiator <;> cases ex.isAck <;> cases ex.isReliable <;> rfl

/-- An ack counter stands further behind. -/
theorem Exchange.beginsOdd_acked (ex : Exchange) {off : Nat} {bs : Bytes} (hoff : 8 ≤ off)
    (h : 8 < bs.length) : beginsOdd ((ex.acked off bs).drop 8) = beginsOdd (bs.drop 8) := by
  have hlt : 8 < off + exchangeHeaderMinSize := by
    unfold exchangeHeaderMinSize
    omega
  have hlen : 8 < (bs.take (off + exchangeHeaderMinSize)).length := by
    rw [List.length_take]
    omega
  unfold Exchange.acked beginsOdd
  rw [List.headD_eq_head?_getD, List.headD_eq_head?_getD, List.head?_drop, List.head?_drop,
    List.getElem?_append_left hlen, List.getElem?_take_of_lt hlt]

/-- A message remembers that a source was inserted, or a destination. -/
def Message.remembers (m : Message) (source : Bool) : Bool :=
  if source then m.hasSource else m.hasDestination

/-- The message with a node id written as its source, or as its destination. -/
def Message.named (m : Message) (source : Bool) (nodeId counter : Nat) (rest : Bytes) : Message :=
  { m with
    buffer := header (if source then 4 else 1) 0 counter ++
      (toLE 8 nodeId ++ afterField (m.remembers source) rest)
    hasSource := m.hasSource || source
    hasDestination := m.hasDestination || !source }

section Stamped

variable {m m' : Message} {counter nodeId : Nat} {rest : Bytes}
  (hm : m.buffer = stampedHeader 0 counter ++ rest)

include hm

theorem fromNode_eq_ok_iff : Session.fromNode nodeId m = .ok m' ↔ nodeId < 2 ^ 64 ∧
    (m.remembers true = true → 8 ≤ rest.length) ∧ m' = m.named true nodeId counter rest := by
  have hdsiz : m.setDsiz destinationTypeOmit = .ok m := by
    rw [setDsiz_headed hm]
    exact congrArg (fun b => Except.ok { m with buffer := b }) hm.symm
  have hs : Message.sflag { m with buffer := header 4 0 counter ++ rest } = .ok true := by
    rw [headed_sflag rfl]
    rfl
  have hset := setSourceNodeId_eq_ok_iff hs rfl (length_header ..) nodeId m'
  unfold Session.fromNode
  rw [hdsiz]
  dsimp only [bind, Except.bind]
  rw [setSflag_headed hm]
  refine hset.trans ?_
  unfold Message.named Message.remembers
  simp only [if_true, Bool.or_true, Bool.not_true, Bool.or_false]

theorem toNode_eq_ok_iff : Session.toNode nodeId m = .ok m' ↔ nodeId < 2 ^ 64 ∧
    (m.remembers false = true → 8 ≤ rest.length) ∧ m' = m.named false nodeId counter rest := by
  have hsflag : m.setSflag sourceTypeOmit = .ok m := by
    rw [setSflag_headed hm]
    exact congrArg (fun b => Except.ok { m with buffer := b }) hm.symm
  have hz : Message.dsiz { m with buffer := header 1 0 counter ++ rest } = .ok 1 := by
    rw [headed_dsiz rfl]
    rfl
  have hoff : Message.destinationOffset { m with buffer := header 1 0 counter ++ rest } =
      .ok (header 1 0 counter).length := by
    rw [(offsets_of_flags (headed_sflag rfl) hz).1, length_header]
    rfl
  have hset := setDestinationNodeId_eq_ok_iff hz rfl hoff nodeId m'
  unfold Session.toNode
  rw [hsflag]
  dsimp only [bind, Except.bind]
  rw [setDsiz_headed hm]
  refine hset.trans ?_
  unfold Message.named Message.remembers
  simp only [Bool.false_eq_true, if_false, Bool.or_true, Bool.not_false, Bool.or_false]

/-- **The field that is written is the one the byte behind the header names.** -/
theorem addressed_eq_ok_iff (hrest : 1 ≤ rest.length) : Session.addressed nodeId m = .ok m' ↔
    nodeId < 2 ^ 64 ∧ (m.remembers (beginsOdd rest) = true → 8 ≤ rest.length) ∧
      m' = m.named (beginsOdd rest) nodeId counter rest := by
  unfold Session.addressed
  rw [stamped_iflag hm hrest]
  cases beginsOdd rest with
  | true => exact fromNode_eq_ok_iff hm
  | false => exact toNode_eq_ok_iff hm

end Stamped

/-! A frame that was made reads back. -/

section Named

variable {m f : Message} {source : Bool} {nodeId counter : Nat} {rest : Bytes}
  (hf : f.buffer = (m.named source nodeId counter rest).buffer)

include hf

theorem named_sflag : f.sflag = .ok source := by
  rw [headed_sflag hf]
  cases source <;> rfl

theorem named_dsiz : f.dsiz = .ok (if source then destinationTypeOmit else destinationTypeNodeId) := by
  rw [headed_dsiz hf]
  cases source <;> rfl

theorem named_destination (hsource : source = false) (hnode : nodeId < 2 ^ 64) :
    f.destinationNodeId = .ok nodeId := by
  have hs := named_sflag hf
  have hz := named_dsiz hf
  have hoff := (offsets_of_flags hs hz).1
  rw [hsource] at hz hoff
  refine destinationNodeId_written hz (hoff.trans ?_) hf hnode
  rw [length_header]
  rfl

end Named

/-- What one call makes of a message, on an unsecured session that knows its peer. -/
def Exchange.wire (ex : Exchange) (s : Session) (nodeId : Nat) (msg : Message) :
    Except JsError Message := do
  let msg ← ex.address msg
  let msg ← s.stamp msg
  Session.addressed nodeId msg
section Wire

variable {ex : Exchange} {s : Session} {nodeId : Nat} {msg sent : Message}
  (hid : s.peerSessionId = .nat unsecuredSessionId)

include hid

/-- **What one call makes of a message.** -/
theorem wire_eq_ok_iff : ex.wire s nodeId msg = .ok sent ↔
    ex.exchangeId < 65536 ∧ s.messageCounter < 2 ^ 32 ∧ nodeId < 2 ^ 64 ∧
      ∃ off, msg.payloadOffset = .ok off ∧ off + 4 ≤ msg.buffer.length ∧
        (ex.isAck = true → off + 6 ≤ msg.buffer.length ∧ ex.ackCounter < 2 ^ 32) ∧
        ∃ rest, rest = (ex.acked off (ex.put off msg.buffer)).drop 8 ∧
          (msg.remembers (beginsOdd rest) = true → 8 ≤ rest.length) ∧
          sent = msg.named (beginsOdd rest) nodeId s.messageCounter rest := by
  have hrest {off : Nat} (hoff : msg.payloadOffset = .ok off) (hlen : off + 4 ≤ msg.buffer.length) :
      8 ≤ (ex.acked off (ex.put off msg.buffer)).length ∧
        1 ≤ ((ex.acked off (ex.put off msg.buffer)).drop 8).length := by
    have h8 := le_payloadOffset hoff
    rw [List.length_drop, ex.length_acked, Exchange.length_put hlen]
    omega
  constructor
  · intro h
    obtain ⟨m1, h1, h⟩ := bind_eq_ok h
    obtain ⟨m2, h2, h⟩ := bind_eq_ok h
    obtain ⟨hx, off, hoff, hlen, hack, rfl⟩ := address_eq_ok_iff.mp h1
    obtain ⟨-, -, hcounter, h8, -⟩ := stamp_eq_ok h2
    obtain rfl := Except.ok.inj (h2.symm.trans (Session.stamp_ok hid (by decide) hcounter h8))
    obtain ⟨hnode, hrem, rfl⟩ := (addressed_eq_ok_iff rfl (hrest hoff hlen).2).mp h
    exact ⟨hx, hcounter, hnode, off, hoff, hlen, hack, _, rfl, hrem, rfl⟩
  · rintro ⟨hx, hcounter, hnode, off, hoff, hlen, hack, rest, rfl, hrem, rfl⟩
    obtain ⟨h8, h1⟩ := hrest hoff hlen
    unfold Exchange.wire
    rw [address_eq_ok_iff.mpr ⟨hx, off, hoff, hlen, hack, rfl⟩]
    dsimp only [bind, Except.bind]
    rw [Session.stamp_ok hid (by decide) hcounter h8]
    exact (addressed_eq_ok_iff rfl h1).mpr ⟨hnode, hrem, rfl⟩

end Wire

/-! ## 5. One call -/

/-- An exchange on an unsecured session that knows the address and the node id of its peer. -/
structure PeeredExchange (n : Node) (i : Nat) (ex : Exchange) (s : Session) (peer : PeerInfo)
    (nodeId : Nat) : Prop where
  exchange : n.exchanges[i]? = some ex
  session : n.sessions.session? ex.session = some s
  peerSessionId : s.peerSessionId = .nat unsecuredSessionId
  peerInfo : s.peerInfo = some peer
  peerNodeId : s.peerNodeId = some nodeId
  nodeId_pos : 0 < nodeId

namespace Session

variable {st st' : SendState} {m m' : Message} {nodeId : Nat}

/-- **What is addressed in the clear** names a node: as the source, or the peer as the destination. -/
theorem addressUnencrypted_eq_ok {counter : Nat} {rest frame : Bytes}
    (hm : m.buffer = stampedHeader 0 counter ++ rest) (hrest : 1 ≤ rest.length)
    (h : (addressUnencrypted m).run st = .ok (m', frame) st') : ∃ id, id < 2 ^ 64 ∧
      (beginsOdd rest = false → 0 < id) ∧ m' = m.named (beginsOdd rest) id counter rest ∧
      frame = m'.buffer := by
  unfold addressUnencrypted at h
  rw [stamped_iflag hm hrest, run_bind_ok (run_lift_ok _ st)] at h
  cases hodd : beginsOdd rest with
  | true =>
    rw [hodd, if_pos rfl] at h
    obtain ⟨-, t1, -, h⟩ := run_bind_eq_ok h
    rw [run_bind_ok (run_get t1)] at h
    obtain ⟨m1, t2, hl, h⟩ := run_bind_eq_ok h
    cases h
    obtain ⟨hid, -, hm'⟩ := (fromNode_eq_ok_iff hm).mp (run_lift_eq_ok hl).1
    exact ⟨_, hid, nofun, hm', rfl⟩
  | false =>
    rw [hodd, if_neg (by decide), run_bind_ok (run_get st)] at h
    split at h
    · rename_i hhas
      rw [run_bind_ok (run_get st)] at h
      obtain ⟨m1, t2, hl, h⟩ := run_bind_eq_ok h
      cases h
      obtain ⟨hid, -, hm'⟩ := (toNode_eq_ok_iff hm).mp (run_lift_eq_ok hl).1
      refine ⟨_, hid, fun _ => ?_, hm', rfl⟩
      unfold hasPeerNodeId at hhas
      rw [decide_eq_true_eq] at hhas
      omega
    · cases h

/-- A message stamped on an unsecured session is not encrypted. -/
theorem isEncrypted_of_stamp {s : Session} (hid : s.peerSessionId = .nat unsecuredSessionId)
    (h : s.stamp m = .ok m') : m'.isEncrypted = .ok false := by
  obtain ⟨x, hx, -, -, hm'⟩ := stamp_eq_ok h
  rw [hid] at hx
  cases hx
  have hbuf : m'.buffer = stampedHeader 0 s.messageCounter ++ m.buffer.drop 8 := by
    rw [hm']
    rfl
  exact headed_isEncrypted hbuf

end Session

namespace Node

variable {n n' : Node} {i : Nat} {ex : Exchange} {s : Session} {peer : PeerInfo} {nodeId : Nat}
  {msg sent : Message}

/-- **A message that the exchange addresses goes to its session.** -/
theorem sendMessage_of_session {A : Aead} {m : Message} {st : SendState}
    (hex : n.exchanges[i]? = some ex) (hs : n.sessions.session? ex.session = some s)
    (haddr : ex.address msg = .ok m)
    (hsend : (Session.sendMessage A m).run ⟨s, n.sessions.outside⟩ = .ok sent st) :
    (sendMessage A i msg).run n = .ok sent { n with sessions :=
      { n.sessions.modifySession (fun _ => st.session) ex.session with outside := st.outside } } := by
  obtain ⟨m', hstamp, -⟩ := Session.sendMessage_eq_ok hsend
  obtain ⟨-, -, -, hlen, -⟩ := stamp_eq_ok hstamp
  rw [run_sendMessage hex haddr hlen]
  exact run_zoom_ok (SessionManager.run_sendOn_ok hs hsend)

/-- What a call that answers comes to: its message addressed, and sent by the session. -/
theorem sendMessage_eq_ok {A : Aead} (hex : n.exchanges[i]? = some ex)
    (hrun : (sendMessage A i msg).run n = .ok sent n') :
    ∃ s m st, n.sessions.session? ex.session = some s ∧ ex.address msg = .ok m ∧
      (Session.sendMessage A m).run ⟨s, n.sessions.outside⟩ = .ok sent st ∧
      n' = { n with sessions := { n.sessions.modifySession (fun _ => st.session) ex.session with
        outside := st.outside } } := by
  unfold sendMessage at hrun
  rw [run_bind_ok (run_get n), hex] at hrun
  dsimp only at hrun
  obtain ⟨m1, t1, h1, r1⟩ := run_bind_eq_ok hrun
  obtain ⟨haddr, ht1⟩ := run_lift_eq_ok h1
  rw [ht1] at r1
  obtain ⟨id, t2, h2, r2⟩ := run_bind_eq_ok r1
  obtain ⟨-, ht2⟩ := run_lift_eq_ok h2
  rw [ht2] at r2
  obtain ⟨t, hon, hn'⟩ := run_zoom_eq_ok r2
  unfold SessionManager.sendOn at hon
  rw [run_bind_ok (run_get _)] at hon
  cases hs : n.sessions.session? ex.session with
  | none =>
    rw [hs] at hon
    cases hon
  | some s =>
    rw [hs] at hon
    dsimp only at hon
    obtain ⟨st, hsend, ht⟩ := run_zoom_eq_ok hon
    exact ⟨s, m1, st, rfl, haddr, hsend, by rw [hn', ht]⟩

/-- **One call on an unsecured exchange sends what is made of the message**, to the address of the
    session. -/
theorem sendMessage_of_wire (A : Aead) (h : PeeredExchange n i ex s peer nodeId)
    (hw : ex.wire s nodeId msg = .ok sent) : (sendMessage A i msg).run n = .ok sent
      { n with sessions := n.sessions.transmitOn ex.session s peer sent.buffer } := by
  obtain ⟨m1, h1, hw⟩ := bind_eq_ok hw
  obtain ⟨m2, h2, hw⟩ := bind_eq_ok hw
  have hclear := Session.isEncrypted_of_stamp h.peerSessionId h2
  have hsend : (Session.sendMessage A m1).run ⟨s, n.sessions.outside⟩ = .ok sent
      (Session.handOver (Session.countTx (Session.takeCounter ⟨s, n.sessions.outside⟩)) peer
        sent.buffer) := by
    refine (Session.sendMessage_stamped h2).trans ?_
    exact Session.run_sendStamped A hclear h.peerInfo h.peerNodeId h.nodeId_pos hw
  exact sendMessage_of_session h.exchange h.session h1 hsend

/-- A call that answers has made this of the message. -/
theorem wire_of_sendMessage {A : Aead} (h : PeeredExchange n i ex s peer nodeId)
    (hrun : (sendMessage A i msg).run n = .ok sent n') : ex.wire s nodeId msg = .ok sent := by
  obtain ⟨s', m1, st, hs, haddr, hsend, -⟩ := sendMessage_eq_ok h.exchange hrun
  obtain rfl := Option.some.inj (h.session.symm.trans hs)
  obtain ⟨m2, hstamp, hsend⟩ := Session.sendMessage_eq_ok hsend
  have hclear := Session.isEncrypted_of_stamp h.peerSessionId hstamp
  obtain ⟨frame, st1, peer', haddressed, -, -, -⟩ := Session.sendStamped_unencrypted_ok hclear hsend
  rw [Session.run_addressUnencrypted h.peerNodeId h.nodeId_pos] at haddressed
  obtain ⟨hmap, -⟩ := run_lift_eq_ok haddressed
  cases hw : Session.addressed nodeId m2 with
  | error e =>
    rw [hw] at hmap
    cases hmap
  | ok m' =>
    rw [hw] at hmap
    cases hmap
    unfold Exchange.wire
    rw [haddr]
    dsimp only [bind, Except.bind]
    rw [show s.stamp m1 = .ok m2 from hstamp]
    exact hw

end Node

end Matternode.Messaging
