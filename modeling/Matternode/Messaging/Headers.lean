/-
  File:      Matternode/Messaging/Headers.lean
  Subject:   The header encoders of MsgCodec, and what Message reads of their bytes.

  The encoders decide by null checks what stands in a header, the getters of Message by its flags.
  They differ twice: the encoder of a message header writes no 16-bit destination, which the getters
  skip (and never read); and the payload of a message with a vendor id is taken two bytes early.

  * `encodeMessageFlags`, `encodeSecurityFlags`, `encodeExchangeFlags`;
  * `encodeHeader`, `encodeProtocolHeader` -- over a buffer of `mtu` bytes, cut at the last field;
  * `MessageHeader`, `ProtocolHeader` -- fields that their flags announce;
  * `ReadsBack`, **`readsBack_iff`** -- the headers that Message reads as they were encoded.
-/
import Matternode.Messaging.Frames

namespace Matternode.Messaging.MsgCodec

open Base Js

/-! ## 1. Flags -/

/-- `encodeMessageFlags(dsiz, sFlag, version)`. -/
def encodeMessageFlags (dsiz sFlag version : Nat := 0) : Nat :=
  ((version &&& 0x0F) <<< 4) ||| ((sFlag &&& 0x01) <<< 2) ||| (dsiz &&& 0x03)

/-- `encodeSecurityFlags(sessionType, cFlag, pFlag, mxFlag)`. -/
def encodeSecurityFlags (sessionType : Nat) (cFlag pFlag mxFlag : Nat := 0) : Nat :=
  ((pFlag &&& 0x01) <<< 7) ||| ((cFlag &&& 0x01) <<< 6) ||| ((mxFlag &&& 0x01) <<< 5) |||
    (sessionType &&& 0x03)

/-- `encodeExchangeFlags(iFlag, aFlag, rFlag, vFlag, sxFlag)`. -/
def encodeExchangeFlags (iFlag aFlag rFlag : Nat) (vFlag sxFlag : Nat := 0) : Nat :=
  ((vFlag &&& 0x01) <<< 4) ||| ((sxFlag &&& 0x01) <<< 3) ||| ((rFlag &&& 0x01) <<< 2) |||
    ((aFlag &&& 0x01) <<< 1) ||| (iFlag &&& 0x01)

theorem encodeMessageFlags_bits (dsiz sFlag version : Nat) :
    encodeMessageFlags dsiz sFlag version < 256 ∧
      encodeMessageFlags dsiz sFlag version &&& 0x03 = dsiz &&& 0x03 ∧
      (encodeMessageFlags dsiz sFlag version &&& msgFlagsSrcPresent ≠ 0 ↔ sFlag &&& 0x01 ≠ 0) := by
  have hall : ∀ v < 16, ∀ s < 2, ∀ d < 4, (v <<< 4 ||| s <<< 2 ||| d) < 256 ∧
      (v <<< 4 ||| s <<< 2 ||| d) &&& 0x03 = d ∧
      ((v <<< 4 ||| s <<< 2 ||| d) &&& msgFlagsSrcPresent ≠ 0 ↔ s ≠ 0) := by decide
  exact hall _ (Nat.and_lt_two_pow version (by decide : 0x0F < 2 ^ 4)) _
    (Nat.and_lt_two_pow sFlag (by decide : 0x01 < 2 ^ 1)) _
    (Nat.and_lt_two_pow dsiz (by decide : 0x03 < 2 ^ 2))

theorem encodeExchangeFlags_bits (iFlag aFlag rFlag vFlag sxFlag : Nat) :
    encodeExchangeFlags iFlag aFlag rFlag vFlag sxFlag < 256 ∧
      (encodeExchangeFlags iFlag aFlag rFlag vFlag sxFlag &&& 0x02 ≠ 0 ↔ aFlag &&& 0x01 ≠ 0) ∧
      (encodeExchangeFlags iFlag aFlag rFlag vFlag sxFlag &&& 0x10 ≠ 0 ↔ vFlag &&& 0x01 ≠ 0) := by
  have hall : ∀ v s r a i : Fin 2,
      let flags := v.val <<< 4 ||| s.val <<< 3 ||| r.val <<< 2 ||| a.val <<< 1 ||| i.val
      flags < 256 ∧ (flags &&& 0x02 ≠ 0 ↔ a.val ≠ 0) ∧ (flags &&& 0x10 ≠ 0 ↔ v.val ≠ 0) := by
    decide
  have hbit (n : Nat) : n &&& 0x01 < 2 := Nat.and_lt_two_pow n (by decide : 0x01 < 2 ^ 1)
  exact hall ⟨_, hbit vFlag⟩ ⟨_, hbit sxFlag⟩ ⟨_, hbit rFlag⟩ ⟨_, hbit aFlag⟩ ⟨_, hbit iFlag⟩

/-! ## 2. The encoders -/

def mtu : Nat := 1280

/-- The buffer of an encoder, and how far it is written. -/
structure Writing where
  buf : Bytes := bufferAlloc mtu
  offset : Nat := 0

/-- `buf.writeX(v, offset); offset += size`. -/
def Writing.field (w : Writing) (size : Nat) (write : Bytes → Nat → Except JsError Bytes) :
    Except JsError Writing := do
  return { buf := ← write w.buf w.offset, offset := w.offset + size }

/-- `if (flag && (v != null)) …` -/
def Writing.optional (w : Writing) (flag : Bool) (size : Nat)
    (write : Bytes → Nat → Nat → Except JsError Bytes) (v : Option Nat) : Except JsError Writing :=
  match flag, v with
  | true, some v => w.field size (fun buf offset => write buf v offset)
  | _, _ => .ok w

/-- `encodeHeader(msgFlags, secFlags, sessionId, msgCounter, src, dst)`: a destination is written
    under the flag of a 64-bit one. -/
def encodeHeader (msgFlags secFlags sessionId msgCounter : Nat) (src dst : Option Nat := none) :
    Except JsError Bytes := do
  let w : Writing := {}
  let w ← w.field 1 (writeUInt8 · (.nat msgFlags) ·)
  let w ← w.field 2 (writeUInt16LE · (.nat sessionId) ·)
  let w ← w.field 1 (writeUInt8 · (.nat secFlags) ·)
  let w ← w.field 4 (writeUInt32LE · (.nat msgCounter) ·)
  let w ← w.optional (msgFlags &&& msgFlagsSrcPresent ≠ 0) 8 (writeBigUInt64LE · · ·) src
  let w ← w.optional (msgFlags &&& msgFlagsDstPresent ≠ 0) 8 (writeBigUInt64LE · · ·) dst
  return subarray w.buf 0 w.offset

/-- `encodeProtocolHeader(exchangeFlags, exchangeId, opcode, protocolId, vendorId,
    ackMsgCounter)`. -/
def encodeProtocolHeader (exchangeFlags exchangeId opcode protocolId : Nat)
    (vendorId ackMsgCounter : Option Nat := none) : Except JsError Bytes := do
  let w : Writing := {}
  let w ← w.field 1 (writeUInt8 · (.nat exchangeFlags) ·)
  let w ← w.field 1 (writeUInt8 · (.nat opcode) ·)
  let w ← w.field 2 (writeUInt16LE · (.nat exchangeId) ·)
  let w ← w.field 2 (writeUInt16LE · (.nat protocolId) ·)
  let w ← w.optional true 2 (fun buf v offset => writeUInt16LE buf (.nat v) offset) vendorId
  let w ← w.optional true 4 (fun buf v offset => writeUInt32LE buf (.nat v) offset) ackMsgCounter
  return subarray w.buf 0 w.offset

/-! ## 3. What they write -/

/-- The buffer holds the bytes written so far, and zeros. -/
def Writing.Holds (w : Writing) (bs : Bytes) : Prop :=
  w.offset = bs.length ∧ w.buf.length = mtu ∧ w.buf.take bs.length = bs

theorem holds_nil : ({} : Writing).Holds [] := ⟨rfl, by simp, rfl⟩

/-- A field stands behind those before it. -/
theorem Writing.Holds.field {w : Writing} {bs v : Bytes} {size : Nat}
    {write : Bytes → Nat → Except JsError Bytes} (h : w.Holds bs) (hsize : v.length = size)
    (hroom : bs.length + size ≤ mtu)
    (hwrite : ∀ buf off, off + size ≤ buf.length → write buf off = .ok (overwrite buf off v)) :
    ∃ w', w.field size write = .ok w' ∧ w'.Holds (bs ++ v) := by
  obtain ⟨hoff, hlen, htake⟩ := h
  have hw := hwrite w.buf w.offset (by omega)
  refine ⟨{ buf := overwrite w.buf w.offset v, offset := w.offset + size }, ?_, ?_, ?_, ?_⟩
  · unfold Writing.field
    rw [hw]
    rfl
  · rw [List.length_append, hoff, hsize]
  · rw [length_overwrite (by omega), hlen]
  · show (w.buf.take w.offset ++ v ++ w.buf.drop (w.offset + v.length)).take (bs ++ v).length = _
    rw [hoff, htake, List.take_left]

/-- What is written is what the buffer is cut to. -/
theorem Writing.Holds.cut {w : Writing} {bs : Bytes} (h : w.Holds bs) :
    subarray w.buf 0 w.offset = bs := by
  obtain ⟨hoff, -, htake⟩ := h
  rw [hoff]
  exact (subarray_nat w.buf 0 bs.length).trans htake

theorem writeBigUInt64LE_nat {n off : Nat} {bs : Bytes} (hn : n < 2 ^ 64)
    (hoff : off + 8 ≤ bs.length) :
    writeBigUInt64LE bs n off = .ok (overwrite bs off (toLE 8 n)) := by
  unfold writeBigUInt64LE
  rw [if_neg (by omega), Int.toNat_natCast]
  exact writeBytes_of_le (by simpa using hoff)

/-- An optional field, where there is one and its flag says so. -/
theorem Writing.Holds.optional {w : Writing} {bs : Bytes} {size : Nat} (flag : Bool)
    (write : Bytes → Nat → Nat → Except JsError Bytes) (h : w.Holds bs) (v : Option Nat)
    (hroom : bs.length + size ≤ mtu)
    (hwrite : ∀ n, v = some n → ∀ buf off, off + size ≤ buf.length →
      write buf n off = .ok (overwrite buf off (toLE size n))) :
    ∃ w', w.optional flag size write v = .ok w' ∧
      w'.Holds (bs ++ if flag then v.elim [] (toLE size) else []) := by
  have hskip : w.Holds (bs ++ []) := by
    rw [List.append_nil]
    exact h
  cases flag with
  | false => exact ⟨w, rfl, hskip⟩
  | true =>
    cases v with
    | none => exact ⟨w, rfl, hskip⟩
    | some n => exact h.field (length_toLE size n) hroom (hwrite n rfl)

/-! ## 4. Headers -/

def excFlagsAck : Nat := 0x02
def excFlagsVendor : Nat := 0x10

/-- Where a message goes. -/
inductive Destination where
  | omitted
  | node (id : UInt64)
  | group (id : UInt16)

namespace Destination

/-- The destination size of the message flags. -/
def size : Destination → Nat
  | omitted => 0
  | node _ => 1
  | group _ => 2

/-- The `dst` argument. -/
def argument : Destination → Option Nat
  | omitted => none
  | node id => some id.toNat
  | group id => some id.toNat

/-- What `DestinationNodeId` is to answer. -/
def nodeId : Destination → Nat
  | omitted => nodeIdAny
  | node id => id.toNat
  | group id => id.toNat

/-- What it does answer. -/
def answered : Destination → Nat
  | node id => id.toNat
  | _ => nodeIdAny

theorem answered_eq {d : Destination} : d.answered = d.nodeId ↔ ∀ id, d ≠ group id := by
  cases d with
  | omitted => exact iff_of_true rfl (fun id h => by cases h)
  | node id => exact iff_of_true rfl (fun id h => by cases h)
  | group id =>
    refine iff_of_false ?_ (fun h => h id rfl)
    have hlt := id.toNat_lt
    show nodeIdAny ≠ id.toNat
    unfold nodeIdAny
    omega

theorem argument_lt {d : Destination} {n : Nat} (h : d.argument = some n) : n < 2 ^ 64 := by
  cases d with
  | omitted => cases h
  | node id =>
    cases h
    exact id.toNat_lt
  | group id =>
    cases h
    exact id.toNat_lt.trans (by decide)

/-- The bytes that are written. -/
def wire : Destination → Bytes
  | node id => toLE 8 id.toNat
  | _ => []

end Destination

/-- The arguments of `encodeHeader`, as the flags announce them. -/
structure MessageHeader where
  msgFlags : UInt8
  secFlags : UInt8
  sessionId : UInt16
  msgCounter : UInt32
  src : Option UInt64
  dst : Destination
  src_flag : msgFlags.toNat &&& msgFlagsSrcPresent ≠ 0 ↔ src.isSome
  dst_flag : msgFlags.toNat &&& 0x03 = dst.size

/-- The arguments of `encodeProtocolHeader`, as the flags announce them. -/
structure ProtocolHeader where
  exchangeFlags : UInt8
  exchangeId : UInt16
  opcode : UInt8
  protocolId : UInt16
  vendorId : Option UInt16
  ackMsgCounter : Option UInt32
  vendor_flag : exchangeFlags.toNat &&& excFlagsVendor ≠ 0 ↔ vendorId.isSome
  ack_flag : exchangeFlags.toNat &&& excFlagsAck ≠ 0 ↔ ackMsgCounter.isSome

/-- A header under the flags `encodeMessageFlags` gives for its arguments. -/
def MessageHeader.ofArguments (secFlags : UInt8) (sessionId : UInt16) (msgCounter : UInt32)
    (src : Option UInt64) (dst : Destination) : MessageHeader where
  msgFlags := UInt8.ofNat (encodeMessageFlags dst.size src.isSome.toNat)
  secFlags := secFlags
  sessionId := sessionId
  msgCounter := msgCounter
  src := src
  dst := dst
  src_flag := by
    obtain ⟨hlt, -, hsrc⟩ := encodeMessageFlags_bits dst.size src.isSome.toNat 0
    rw [UInt8.toNat_ofNat', Nat.mod_eq_of_lt hlt, hsrc]
    cases src <;> simp
  dst_flag := by
    obtain ⟨hlt, hsize, -⟩ := encodeMessageFlags_bits dst.size src.isSome.toNat 0
    rw [UInt8.toNat_ofNat', Nat.mod_eq_of_lt hlt, hsize]
    cases dst <;> simp [Destination.size]

/-- A header under the flags `encodeExchangeFlags` gives for its arguments. -/
def ProtocolHeader.ofArguments (iFlag rFlag : Nat) (exchangeId : UInt16) (opcode : UInt8)
    (protocolId : UInt16) (vendorId : Option UInt16) (ackMsgCounter : Option UInt32) :
    ProtocolHeader where
  exchangeFlags := UInt8.ofNat
    (encodeExchangeFlags iFlag ackMsgCounter.isSome.toNat rFlag vendorId.isSome.toNat)
  exchangeId := exchangeId
  opcode := opcode
  protocolId := protocolId
  vendorId := vendorId
  ackMsgCounter := ackMsgCounter
  vendor_flag := by
    obtain ⟨hlt, -, hvendor⟩ := encodeExchangeFlags_bits iFlag ackMsgCounter.isSome.toNat rFlag
      vendorId.isSome.toNat 0
    rw [UInt8.toNat_ofNat', Nat.mod_eq_of_lt hlt]
    refine hvendor.trans ?_
    cases vendorId <;> simp
  ack_flag := by
    obtain ⟨hlt, hack, -⟩ := encodeExchangeFlags_bits iFlag ackMsgCounter.isSome.toNat rFlag
      vendorId.isSome.toNat 0
    rw [UInt8.toNat_ofNat', Nat.mod_eq_of_lt hlt]
    refine hack.trans ?_
    cases ackMsgCounter <;> simp

namespace MessageHeader

variable (h : MessageHeader)

def encode : Except JsError Bytes :=
  encodeHeader h.msgFlags.toNat h.secFlags.toNat h.sessionId.toNat h.msgCounter.toNat
    (h.src.map UInt64.toNat) h.dst.argument

/-- The first eight bytes. -/
def fixed : Bytes :=
  toLE 1 h.msgFlags.toNat ++ toLE 2 h.sessionId.toNat ++ toLE 1 h.secFlags.toNat ++
    toLE 4 h.msgCounter.toNat

/-- The bytes of the source. -/
def source : Bytes := (h.src.map UInt64.toNat).elim [] (toLE 8)

def wire : Bytes := h.fixed ++ h.source ++ h.dst.wire

theorem length_fixed : h.fixed.length = 8 := by
  simp [fixed]

theorem length_source : h.source.length = if h.src.isSome then 8 else 0 := by
  unfold source
  cases h.src <;> simp

/-- The bit of a 64-bit destination is the lower bit of its size. -/
theorem dst_present : h.msgFlags.toNat &&& msgFlagsDstPresent = h.dst.size &&& 1 := by
  rw [← h.dst_flag, Nat.and_assoc]
  rfl

theorem source_flag : (if decide (h.msgFlags.toNat &&& msgFlagsSrcPresent ≠ 0) then
    (h.src.map UInt64.toNat).elim [] (toLE 8) else []) = h.source := by
  unfold source
  split
  · rfl
  · rename_i hs
    cases hsrc : h.src with
    | none => rfl
    | some id =>
      have hset := h.src_flag.mpr (by rw [hsrc]; rfl)
      exact absurd (decide_eq_true hset) hs

theorem dst_wire : (if decide (h.msgFlags.toNat &&& msgFlagsDstPresent ≠ 0) then
    h.dst.argument.elim [] (toLE 8) else []) = h.dst.wire := by
  rw [h.dst_present]
  cases h.dst <;> simp [Destination.size, Destination.argument, Destination.wire]

/-- **What the encoder of a message header writes.** -/
theorem encode_eq : h.encode = .ok h.wire := by
  obtain ⟨w1, e1, h1⟩ := holds_nil.field (length_toLE 1 h.msgFlags.toNat) (by decide)
    (fun buf off hle => writeUIntLE_nat h.msgFlags.toNat_lt hle)
  obtain ⟨w2, e2, h2⟩ := h1.field (length_toLE 2 h.sessionId.toNat) (by simp [mtu])
    (fun buf off hle => writeUIntLE_nat h.sessionId.toNat_lt hle)
  obtain ⟨w3, e3, h3⟩ := h2.field (length_toLE 1 h.secFlags.toNat) (by simp [mtu])
    (fun buf off hle => writeUIntLE_nat h.secFlags.toNat_lt hle)
  obtain ⟨w4, e4, h4⟩ := h3.field (length_toLE 4 h.msgCounter.toNat) (by simp [mtu])
    (fun buf off hle => writeUIntLE_nat h.msgCounter.toNat_lt hle)
  have hfixed : w4.Holds h.fixed := h4
  obtain ⟨w5, e5, h5⟩ := hfixed.optional (h.msgFlags.toNat &&& msgFlagsSrcPresent ≠ 0)
    (writeBigUInt64LE · · ·) (h.src.map UInt64.toNat)
    (show h.fixed.length + 8 ≤ mtu by rw [h.length_fixed]; decide)
    (by
      intro n hn buf off hle
      obtain ⟨id, -, rfl⟩ := Option.map_eq_some_iff.mp hn
      exact writeBigUInt64LE_nat id.toNat_lt hle)
  rw [h.source_flag] at h5
  obtain ⟨w6, e6, h6⟩ := h5.optional (h.msgFlags.toNat &&& msgFlagsDstPresent ≠ 0)
    (writeBigUInt64LE · · ·) h.dst.argument
    (show (h.fixed ++ h.source).length + 8 ≤ mtu by
      rw [List.length_append, h.length_fixed, h.length_source]
      split <;> decide)
    (by
      intro n hn buf off hle
      exact writeBigUInt64LE_nat (h.dst.argument_lt hn) hle)
  rw [h.dst_wire] at h6
  have hcut := h6.cut
  unfold encode encodeHeader
  simp only [writeUInt8, writeUInt16LE, writeUInt32LE, e1, e2, e3, e4, e5, e6, bind, Except.bind,
    pure, Except.pure, hcut]
  rfl

end MessageHeader

namespace ProtocolHeader

variable (p : ProtocolHeader)

def encode : Except JsError Bytes :=
  encodeProtocolHeader p.exchangeFlags.toNat p.exchangeId.toNat p.opcode.toNat p.protocolId.toNat
    (p.vendorId.map UInt16.toNat) (p.ackMsgCounter.map UInt32.toNat)

/-- The first six bytes. -/
def fixed : Bytes :=
  toLE 1 p.exchangeFlags.toNat ++ toLE 1 p.opcode.toNat ++ toLE 2 p.exchangeId.toNat ++
    toLE 2 p.protocolId.toNat

def vendor : Bytes := (p.vendorId.map UInt16.toNat).elim [] (toLE 2)

def ack : Bytes := (p.ackMsgCounter.map UInt32.toNat).elim [] (toLE 4)

def wire : Bytes := p.fixed ++ p.vendor ++ p.ack

theorem length_fixed : p.fixed.length = 6 := by
  simp [fixed]

theorem length_vendor : p.vendor.length = if p.vendorId.isSome then 2 else 0 := by
  unfold vendor
  cases p.vendorId <;> simp

theorem length_ack : p.ack.length = if p.ackMsgCounter.isSome then 4 else 0 := by
  unfold ack
  cases p.ackMsgCounter <;> simp

/-- **What the encoder of a protocol header writes.** -/
theorem encode_eq : p.encode = .ok p.wire := by
  obtain ⟨w1, e1, h1⟩ := holds_nil.field (length_toLE 1 p.exchangeFlags.toNat) (by decide)
    (fun buf off hle => writeUIntLE_nat p.exchangeFlags.toNat_lt hle)
  obtain ⟨w2, e2, h2⟩ := h1.field (length_toLE 1 p.opcode.toNat) (by simp [mtu])
    (fun buf off hle => writeUIntLE_nat p.opcode.toNat_lt hle)
  obtain ⟨w3, e3, h3⟩ := h2.field (length_toLE 2 p.exchangeId.toNat) (by simp [mtu])
    (fun buf off hle => writeUIntLE_nat p.exchangeId.toNat_lt hle)
  obtain ⟨w4, e4, h4⟩ := h3.field (length_toLE 2 p.protocolId.toNat) (by simp [mtu])
    (fun buf off hle => writeUIntLE_nat p.protocolId.toNat_lt hle)
  have hfixed : w4.Holds p.fixed := h4
  obtain ⟨w5, e5, h5⟩ := hfixed.optional true
    (fun buf v offset => writeUIntLE 2 buf (.nat v) offset) (p.vendorId.map UInt16.toNat)
    (show p.fixed.length + 2 ≤ mtu by rw [p.length_fixed]; decide)
    (by
      intro n hn buf off hle
      obtain ⟨id, -, rfl⟩ := Option.map_eq_some_iff.mp hn
      exact writeUIntLE_nat id.toNat_lt hle)
  have hvendor : w5.Holds (p.fixed ++ p.vendor) := h5
  obtain ⟨w6, e6, h6⟩ := hvendor.optional true
    (fun buf v offset => writeUIntLE 4 buf (.nat v) offset) (p.ackMsgCounter.map UInt32.toNat)
    (show (p.fixed ++ p.vendor).length + 4 ≤ mtu by
      rw [List.length_append, p.length_fixed, p.length_vendor]
      split <;> decide)
    (by
      intro n hn buf off hle
      obtain ⟨counter, -, rfl⟩ := Option.map_eq_some_iff.mp hn
      exact writeUIntLE_nat counter.toNat_lt hle)
  have hcut := h6.cut
  unfold encode encodeProtocolHeader
  simp only [writeUInt8, writeUInt16LE, writeUInt32LE, e1, e2, e3, e4, e5, e6, bind, Except.bind,
    pure, Except.pure, hcut]
  rfl

end ProtocolHeader

/-! ## 5. What Message reads -/

/-- A field is read where it stands. -/
theorem readUIntLE_field {w n : Nat} (hn : n < 256 ^ w) {b : Bytes} (pre post : Bytes)
    (h : b = pre ++ toLE w n ++ post) : readUIntLE w b pre.length = .ok n := by
  have hread := readUIntLE_at pre (toLE w n) post h
  rwa [length_toLE, ofLE_toLE_of_lt hn] at hread

section Reading

variable {m : Message} (h : MessageHeader) {rest : Bytes} (hm : m.buffer = h.wire ++ rest)

include hm

theorem read_messageFlags : m.messageFlags = .ok h.msgFlags.toNat :=
  readUIntLE_field h.msgFlags.toNat_lt []
    (toLE 2 h.sessionId.toNat ++ toLE 1 h.secFlags.toNat ++ toLE 4 h.msgCounter.toNat ++ h.source ++
      h.dst.wire ++ rest) (by rw [hm]; simp [MessageHeader.wire, MessageHeader.fixed])

theorem read_sessionId : m.sessionId = .ok h.sessionId.toNat :=
  readUIntLE_field h.sessionId.toNat_lt (toLE 1 h.msgFlags.toNat)
    (toLE 1 h.secFlags.toNat ++ toLE 4 h.msgCounter.toNat ++ h.source ++ h.dst.wire ++ rest)
    (by rw [hm]; simp [MessageHeader.wire, MessageHeader.fixed])

theorem read_messageCounter : m.messageCounter = .ok h.msgCounter.toNat :=
  readUIntLE_field h.msgCounter.toNat_lt
    (toLE 1 h.msgFlags.toNat ++ toLE 2 h.sessionId.toNat ++ toLE 1 h.secFlags.toNat)
    (h.source ++ h.dst.wire ++ rest)
    (by rw [hm]; simp [MessageHeader.wire, MessageHeader.fixed])

theorem read_sflag : m.sflag = .ok h.src.isSome := by
  unfold Message.sflag
  rw [read_messageFlags h hm]
  refine congrArg Except.ok (Bool.eq_iff_iff.mpr ?_)
  rw [decide_eq_true_eq]
  exact h.src_flag

theorem read_dsiz : m.dsiz = .ok h.dst.size := by
  unfold Message.dsiz
  rw [read_messageFlags h hm]
  exact congrArg Except.ok h.dst_flag

theorem read_sourceNodeId :
    m.sourceNodeId = .ok ((h.src.map UInt64.toNat).getD nodeIdAny) := by
  unfold Message.sourceNodeId
  rw [read_sflag h hm]
  cases hs : h.src with
  | none => rfl
  | some id =>
    have hread := readUIntLE_field (w := 8) id.toNat_lt h.fixed (h.dst.wire ++ rest)
      (b := m.buffer) (by rw [hm]; simp [MessageHeader.wire, MessageHeader.source, hs])
    rw [h.length_fixed] at hread
    exact hread

/-- Where the destination would stand. -/
theorem read_destinationOffset : m.destinationOffset = .ok (h.fixed ++ h.source).length := by
  unfold Message.destinationOffset
  rw [read_sflag h hm, List.length_append, h.length_fixed, h.length_source]
  cases h.src.isSome <;> rfl

/-- **A 64-bit destination is read**; any other reads as none. -/
theorem read_destinationNodeId : m.destinationNodeId =
    .ok h.dst.answered := by
  unfold Message.destinationNodeId
  rw [read_dsiz h hm, read_destinationOffset h hm]
  cases hd : h.dst with
  | omitted => rfl
  | group id => rfl
  | node id =>
    exact readUIntLE_field (w := 8) id.toNat_lt (h.fixed ++ h.source) rest
      (by rw [hm]; simp [MessageHeader.wire, Destination.wire, hd])

/-- **Behind a header without a group stands the payload.** -/
theorem read_payload (hd : ∀ id, h.dst ≠ .group id) :
    m.payloadOffset = .ok h.wire.length ∧ m.payload = .ok rest := by
  have hoff : m.payloadOffset = .ok h.wire.length := by
    unfold Message.payloadOffset
    rw [read_sflag h hm, read_dsiz h hm]
    have hlen : h.wire.length = 8 + (if h.src.isSome then 8 else 0) + h.dst.wire.length := by
      unfold MessageHeader.wire
      rw [List.length_append, List.length_append, h.length_fixed, h.length_source]
    rw [hlen]
    cases hdst : h.dst with
    | omitted => cases h.src.isSome <;> rfl
    | node id =>
      cases h.src.isSome <;> simp [Destination.size, Destination.wire, messageHeaderMinSize, bind,
        Except.bind, pure, Except.pure]
    | group id => exact absurd hdst (hd id)
  refine ⟨hoff, ?_⟩
  unfold Message.payload
  rw [hoff, hm]
  show Except.ok (subarrayFrom _ _) = _
  rw [subarrayFrom_nat, List.drop_left]

end Reading

/-- What stands in the exchange header, read of the payload. -/
structure ReadsProtocol (m : Message) (p : ProtocolHeader) : Prop where
  exchangeFlags : m.exchangeFlags = .ok p.exchangeFlags.toNat
  protocolOpcode : m.protocolOpcode = .ok p.opcode.toNat
  exchangeId : m.exchangeId = .ok p.exchangeId.toNat
  protocolId : m.protocolId = .ok p.protocolId.toNat

section Payload

variable {m : Message} (p : ProtocolHeader) {rest : Bytes} (hp : m.payload = .ok (p.wire ++ rest))

include hp

theorem readsProtocol : ReadsProtocol m p := by
  constructor
  · unfold Message.exchangeFlags
    rw [hp]
    exact readUIntLE_field (w := 1) p.exchangeFlags.toNat_lt []
      (toLE 1 p.opcode.toNat ++ toLE 2 p.exchangeId.toNat ++ toLE 2 p.protocolId.toNat ++ p.vendor ++
        p.ack ++ rest)
      (show p.wire ++ rest = _ by simp [ProtocolHeader.wire, ProtocolHeader.fixed])
  · unfold Message.protocolOpcode
    rw [hp]
    exact readUIntLE_field (w := 1) p.opcode.toNat_lt (toLE 1 p.exchangeFlags.toNat)
      (toLE 2 p.exchangeId.toNat ++ toLE 2 p.protocolId.toNat ++ p.vendor ++ p.ack ++ rest)
      (show p.wire ++ rest = _ by simp [ProtocolHeader.wire, ProtocolHeader.fixed])
  · unfold Message.exchangeId
    rw [hp]
    exact readUIntLE_field (w := 2) p.exchangeId.toNat_lt
      (toLE 1 p.exchangeFlags.toNat ++ toLE 1 p.opcode.toNat)
      (toLE 2 p.protocolId.toNat ++ p.vendor ++ p.ack ++ rest)
      (show p.wire ++ rest = _ by simp [ProtocolHeader.wire, ProtocolHeader.fixed])
  · unfold Message.protocolId
    rw [hp]
    exact readUIntLE_field (w := 2) p.protocolId.toNat_lt
      (toLE 1 p.exchangeFlags.toNat ++ toLE 1 p.opcode.toNat ++ toLE 2 p.exchangeId.toNat)
      (p.vendor ++ p.ack ++ rest)
      (show p.wire ++ rest = _ by simp [ProtocolHeader.wire, ProtocolHeader.fixed])

/-- **The application payload is taken behind a header without a vendor id**, which is two bytes too
    early if there is one. -/
theorem read_appPayload {off : Nat} (hoff : m.payloadOffset = .ok off)
    (hbuf : m.buffer.drop off = p.wire ++ rest) :
    m.appPayload = .ok ((p.vendor ++ p.ack ++ rest).drop p.ack.length) := by
  have haflag : m.aflag = .ok p.ackMsgCounter.isSome := by
    unfold Message.aflag Message.exchangeFlag
    rw [(readsProtocol p hp).exchangeFlags]
    refine congrArg Except.ok (Bool.eq_iff_iff.mpr ?_)
    rw [decide_eq_true_eq]
    exact p.ack_flag
  unfold Message.appPayload
  rw [haflag, hoff]
  have hsize : exchangeHeaderMinSize + (if p.ackMsgCounter.isSome then ackCounterSize else 0) =
      p.fixed.length + p.ack.length := by
    rw [p.length_fixed, p.length_ack]
    rfl
  show Except.ok (subarrayFrom m.buffer (off + (exchangeHeaderMinSize +
    (if p.ackMsgCounter.isSome then ackCounterSize else 0)) : Nat)) = _
  rw [hsize, subarrayFrom_nat, ← List.drop_drop, hbuf, ← List.drop_drop]
  unfold ProtocolHeader.wire
  rw [List.append_assoc, List.append_assoc, List.drop_left, List.append_assoc]

end Payload

/-! ## 6. The headers that agree -/

/-- Both encoders succeed, and a message of their bytes and the payload reads as what they were
    called with. -/
def ReadsBack (h : MessageHeader) (p : ProtocolHeader) (payload : Bytes) : Prop :=
  ∃ header protocolHeader m, h.encode = .ok header ∧ p.encode = .ok protocolHeader ∧
    m = ({ buffer := header ++ protocolHeader ++ payload } : Message) ∧
    m.sessionId = .ok h.sessionId.toNat ∧ m.messageCounter = .ok h.msgCounter.toNat ∧
    m.sourceNodeId = .ok ((h.src.map UInt64.toNat).getD nodeIdAny) ∧
    m.destinationNodeId = .ok h.dst.nodeId ∧ ReadsProtocol m p ∧ m.appPayload = .ok payload

section Agree

variable {h : MessageHeader} {p : ProtocolHeader} {payload : Bytes}

theorem buffer_wire (payload : Bytes) : ({ buffer := h.wire ++ p.wire ++ payload } : Message).buffer =
    h.wire ++ (p.wire ++ payload) := List.append_assoc ..

theorem appPayload_wire (hd : ∀ id, h.dst ≠ .group id) :
    ({ buffer := h.wire ++ p.wire ++ payload } : Message).appPayload =
      .ok ((p.vendor ++ p.ack ++ payload).drop p.ack.length) := by
  have hm := buffer_wire (h := h) (p := p) payload
  obtain ⟨hoff, hpay⟩ := read_payload h hm hd
  exact read_appPayload p hpay hoff (by rw [hm, List.drop_left])

/-- A group is never answered. -/
theorem ReadsBack.destination (hr : ReadsBack h p payload) (id : UInt16) : h.dst ≠ .group id := by
  obtain ⟨header, protocolHeader, m, henc, henc', rfl, -, -, -, hdst, -⟩ := hr
  obtain rfl := Except.ok.inj (h.encode_eq.symm.trans henc)
  obtain rfl := Except.ok.inj (p.encode_eq.symm.trans henc')
  rw [read_destinationNodeId h (buffer_wire _)] at hdst
  exact Destination.answered_eq.mp (Except.ok.inj hdst) id

/-- A vendor id would make the payload longer by two bytes. -/
theorem ReadsBack.vendor (hr : ReadsBack h p payload) : p.vendorId = none := by
  have hd := hr.destination
  obtain ⟨header, protocolHeader, m, henc, henc', rfl, -, -, -, -, -, hpayload⟩ := hr
  obtain rfl := Except.ok.inj (h.encode_eq.symm.trans henc)
  obtain rfl := Except.ok.inj (p.encode_eq.symm.trans henc')
  rw [appPayload_wire hd] at hpayload
  have hlen := congrArg List.length (Except.ok.inj hpayload)
  rw [List.length_drop, List.length_append, List.length_append, p.length_vendor] at hlen
  cases hv : p.vendorId with
  | none => rfl
  | some id =>
    rw [hv] at hlen
    simp at hlen
    omega

end Agree

/-- **Headers are read as they were encoded exactly if** the destination is no group and there is no
    vendor id. -/
theorem readsBack_iff (h : MessageHeader) (p : ProtocolHeader) (payload : Bytes) :
    ReadsBack h p payload ↔ (∀ id, h.dst ≠ .group id) ∧ p.vendorId = none := by
  constructor
  · intro hr
    exact ⟨hr.destination, hr.vendor⟩
  · rintro ⟨hd, hv⟩
    have hpay : ({ buffer := h.wire ++ p.wire ++ payload } : Message).payload =
        .ok (p.wire ++ payload) := (read_payload h (buffer_wire _) hd).2
    refine ⟨_, _, _, h.encode_eq, p.encode_eq, rfl, read_sessionId h (buffer_wire _),
      read_messageCounter h (buffer_wire _), read_sourceNodeId h (buffer_wire _), ?_,
      readsProtocol p hpay, ?_⟩
    · rw [read_destinationNodeId h (buffer_wire _), Destination.answered_eq.mpr hd]
    · have hnone : p.vendor = [] := by
        unfold ProtocolHeader.vendor
        rw [hv]
        rfl
      rw [appPayload_wire hd, hnone, List.nil_append, List.drop_left]

/-- A header to a group, and one to a node. -/
def groupHeader : MessageHeader := .ofArguments 1 1 5 none (.group 0x0101)

def nodeHeader : MessageHeader := .ofArguments 0 1 5 (some 2) (.node 3)

/-- A protocol header of a vendor, and one without. -/
def vendorHeader : ProtocolHeader := .ofArguments 1 0 7 0x20 0x8000 (some 0xFFF1) (some 9)

def plainHeader : ProtocolHeader := .ofArguments 1 1 7 0x20 0 none none

/-- **Two messages that are read as others**: one to a group, whose exchange header is read two bytes
    late, and one of a vendor, whose payload begins two bytes early. -/
theorem headers_disagree :
    ¬ ReadsBack groupHeader plainHeader [1, 2, 3] ∧ ¬ ReadsBack nodeHeader vendorHeader [1, 2, 3] := by
  constructor
  · intro hr
    exact hr.destination 0x0101 rfl
  · intro hr
    cases hr.vendor

end Matternode.Messaging.MsgCodec
