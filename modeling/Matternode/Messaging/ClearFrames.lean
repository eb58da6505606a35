/-
  File:      Matternode/Messaging/ClearFrames.lean
  Subject:   Frames of unsecured exchanges: what is written, and what is read back.

  The bytes of a frame are put together by two classes: a protocol sets fields of a new message, the
  exchange its header and the ack counter, the session the message header and a node id. Each setter
  finds its place from flags that others write.

  * `exchangeHeader`, `newBytes` -- the bytes of a message under construction;
  * `MessageField`, `set_eq_ok` -- the fields a protocol sets, in any order;
  * `address_new` -- what an exchange makes of such a message;
  * `stamp_eq_ok_iff`, `addressed_stamped` -- what its session makes of it;
  * `clearFrame`, `sendMessage_clearFrame` -- **the frame that is transmitted**;
  * `clearFrame_…` -- what the getters read in it;
  * `sendMessage_unsecured` -- what is sent on an unsecured exchange reads back.
-/
import Matternode.Messaging.Exchange

namespace Matternode.Messaging

open Base Js

/-! ## 1. A message under construction -/

/-- The exchange header: flags, opcode, exchange id, protocol id. -/
def exchangeHeader (flags opcode exchangeId protocolId : Nat) : Bytes :=
  toLE 1 flags ++ toLE 1 opcode ++ toLE 2 exchangeId ++ toLE 2 protocolId

@[simp] theorem length_exchangeHeader (flags opcode exchangeId protocolId : Nat) :
    (exchangeHeader flags opcode exchangeId protocolId).length = 6 := by
  simp [exchangeHeader]

/-- The bytes of a message whose message header is still zero. -/
def newBytes (flags opcode exchangeId protocolId : Nat) (body : Bytes) : Bytes :=
  stampedHeader 0 0 ++ (exchangeHeader flags opcode exchangeId protocolId ++ body)

/-- A message whose message header is still zero. -/
def newMessage (flags opcode exchangeId protocolId : Nat) (body : Bytes) : Message :=
  { buffer := newBytes flags opcode exchangeId protocolId body }

theorem newMessage_zero : newMessage 0 0 0 0 [] = {} := by decide

section Payload

variable {m : Message} {hdr rest : Bytes} {flags opcode exchangeId protocolId : Nat}
  (hbuf : m.buffer = hdr ++ (exchangeHeader flags opcode exchangeId protocolId ++ rest))
  (hoff : m.payloadOffset = .ok hdr.length)

include hbuf hoff

theorem payload_eq :
    m.payload = .ok (exchangeHeader flags opcode exchangeId protocolId ++ rest) := by
  unfold Message.payload
  rw [hoff, hbuf]
  show Except.ok (subarrayFrom _ ((hdr.length : Nat) : Int)) = _
  rw [subarrayFrom_nat, List.drop_left]

theorem exchangeFlags_eq (hf : flags < 256) : m.exchangeFlags = .ok flags := by
  unfold Message.exchangeFlags
  rw [payload_eq hbuf hoff]
  dsimp only [bind, Except.bind]
  have h := readUIntLE_at [] (toLE 1 flags)
    (toLE 1 opcode ++ toLE 2 exchangeId ++ toLE 2 protocolId ++ rest) rfl
  rw [length_toLE, ofLE_toLE_of_lt hf] at h
  simpa [exchangeHeader, readUInt8] using h

theorem protocolOpcode_eq (ho : opcode < 256) : m.protocolOpcode = .ok opcode := by
  unfold Message.protocolOpcode
  rw [payload_eq hbuf hoff]
  dsimp only [bind, Except.bind]
  have h := readUIntLE_at (toLE 1 flags) (toLE 1 opcode)
    (toLE 2 exchangeId ++ toLE 2 protocolId ++ rest) rfl
  rw [length_toLE, length_toLE, ofLE_toLE_of_lt ho] at h
  simpa [exchangeHeader, readUInt8] using h

theorem exchangeId_eq (hx : exchangeId < 65536) : m.exchangeId = .ok exchangeId := by
  unfold Message.exchangeId
  rw [payload_eq hbuf hoff]
  dsimp only [bind, Except.bind]
  have h := readUIntLE_at (toLE 1 flags ++ toLE 1 opcode) (toLE 2 exchangeId)
    (toLE 2 protocolId ++ rest) rfl
  rw [List.length_append, length_toLE, length_toLE, length_toLE, ofLE_toLE_of_lt hx] at h
  simpa [exchangeHeader, readUInt16LE] using h

theorem protocolId_eq (hp : protocolId < 65536) : m.protocolId = .ok protocolId := by
  unfold Message.protocolId
  rw [payload_eq hbuf hoff]
  dsimp only [bind, Except.bind]
  have h := readUIntLE_at (toLE 1 flags ++ toLE 1 opcode ++ toLE 2 exchangeId)
    (toLE 2 protocolId) rest rfl
  rw [List.length_append, List.length_append, length_toLE, length_toLE, length_toLE,
    ofLE_toLE_of_lt hp] at h
  simpa [exchangeHeader, readUInt16LE] using h

end Payload

/-! ## 2. Writing the payload -/

/-- The first part of a buffer. -/
theorem subarray_start (a b : Bytes) : subarray (a ++ b) 0 a.length = a := by
  have h := subarray_nat (a ++ b) 0 a.length
  rwa [List.take_left, List.drop_zero] at h

/-- A field of the payload that is written holds its number. -/
theorem writePayload_nat {m : Message} {w n : Nat} {hdr : Bytes} (pre old post : Bytes)
    (hbuf : m.buffer = hdr ++ (pre ++ old ++ post)) (hoff : m.payloadOffset = .ok hdr.length)
    (hold : old.length = w) (hn : n < 256 ^ w) :
    m.writePayload (writeUIntLE w · (.nat n) pre.length) =
      .ok { m with buffer := hdr ++ (pre ++ toLE w n ++ post) } := by
  have hpay : m.payload = .ok (pre ++ old ++ post) := by
    unfold Message.payload
    rw [hoff, hbuf]
    show Except.ok (subarrayFrom _ ((hdr.length : Nat) : Int)) = _
    rw [subarrayFrom_nat, List.drop_left]
  have hstart : subarray m.buffer 0 hdr.length = hdr := by
    rw [hbuf, subarray_start]
  have hwrite : writeUIntLE w (pre ++ old ++ post) (.nat n) pre.length =
      .ok (pre ++ toLE w n ++ post) := by
    rw [writeUIntLE_nat hn (by simp only [List.length_append]; omega),
      overwrite_middle (by rw [length_toLE, hold])]
  unfold Message.writePayload
  rw [hoff, hpay]
  dsimp only [bind, Except.bind]
  rw [hwrite, hstart]
  rfl

/-- New bytes between two parts of a buffer. -/
theorem insert_eq {m : Message} {a b : Bytes} (hbuf : m.buffer = a ++ b) (size : Nat) :
    m.insert a.length size = { m with buffer := a ++ bufferAlloc size ++ b } := by
  have hstart : subarray m.buffer 0 a.length = a := by
    rw [hbuf, subarray_start]
  unfold Message.insert
  rw [hstart, subarrayFrom_nat, hbuf, List.drop_left]

/-- A number that was written into the payload is in range. -/
theorem lt_of_writePayload {m m' : Message} {w n off : Nat}
    (h : m.writePayload (writeUIntLE w · (.nat n) off) = .ok m') : n < 256 ^ w := by
  obtain ⟨offset, -, h⟩ := bind_eq_ok h
  obtain ⟨pay, -, h⟩ := bind_eq_ok h
  obtain ⟨buf, hw, -⟩ := bind_eq_ok h
  exact lt_of_writeUIntLE_nat hw

section PayloadFields

variable {m : Message} {hdr rest : Bytes} {flags opcode exchangeId protocolId : Nat}
  (hbuf : m.buffer = hdr ++ (exchangeHeader flags opcode exchangeId protocolId ++ rest))
  (hoff : m.payloadOffset = .ok hdr.length)

include hbuf hoff

theorem setExchangeFlags_at {v : Nat} (hv : v < 256) :
    m.setExchangeFlags (.nat v) = .ok { m with
      buffer := hdr ++ (exchangeHeader v opcode exchangeId protocolId ++ rest) } := by
  have h := writePayload_nat [] (toLE 1 flags)
    (toLE 1 opcode ++ toLE 2 exchangeId ++ toLE 2 protocolId ++ rest)
    (by simpa [exchangeHeader] using hbuf) hoff (length_toLE ..) hv
  simpa [Message.setExchangeFlags, writeUInt8, exchangeHeader] using h

theorem setProtocolOpcode_at {v : Nat} (hv : v < 256) :
    m.setProtocolOpcode (.nat v) = .ok { m with
      buffer := hdr ++ (exchangeHeader flags v exchangeId protocolId ++ rest) } := by
  have h := writePayload_nat (toLE 1 flags) (toLE 1 opcode)
    (toLE 2 exchangeId ++ toLE 2 protocolId ++ rest)
    (by simpa [exchangeHeader] using hbuf) hoff (length_toLE ..) hv
  simpa [Message.setProtocolOpcode, writeUInt8, exchangeHeader] using h

theorem setExchangeId_at {v : Nat} (hv : v < 65536) :
    m.setExchangeId (.nat v) = .ok { m with
      buffer := hdr ++ (exchangeHeader flags opcode v protocolId ++ rest) } := by
  have h := writePayload_nat (toLE 1 flags ++ toLE 1 opcode) (toLE 2 exchangeId)
    (toLE 2 protocolId ++ rest) (by simpa [exchangeHeader] using hbuf) hoff (length_toLE ..) hv
  simpa [Message.setExchangeId, writeUInt16LE, exchangeHeader] using h

theorem setProtocolId_at {v : Nat} (hv : v < 65536) :
    m.setProtocolId (.nat v) = .ok { m with
      buffer := hdr ++ (exchangeHeader flags opcode exchangeId v ++ rest) } := by
  have h := writePayload_nat (toLE 1 flags ++ toLE 1 opcode ++ toLE 2 exchangeId)
    (toLE 2 protocolId) rest (by simpa [exchangeHeader] using hbuf) hoff (length_toLE ..) hv
  simpa [Message.setProtocolId, writeUInt16LE, exchangeHeader] using h

/-- A flag of the exchange header is rewritten among the others. -/
theorem setExchangeFlag_at {bit : Nat} {v : Bool} (hf : flags < 256)
    (hflags : (if v then flags ||| bit else flags &&& (0xFF ^^^ bit)) < 256) :
    m.setExchangeFlag bit v = .ok { m with
      buffer := hdr ++ (exchangeHeader (if v then flags ||| bit else flags &&& (0xFF ^^^ bit)) opcode
        exchangeId protocolId ++ rest) } := by
  unfold Message.setExchangeFlag
  rw [exchangeFlags_eq hbuf hoff hf]
  exact setExchangeFlags_at hbuf hoff hflags

end PayloadFields

section NewMessage

variable {flags opcode exchangeId protocolId : Nat} {body : Bytes}

theorem payloadOffset_new :
    (newMessage flags opcode exchangeId protocolId body).payloadOffset =
      .ok (stampedHeader 0 0).length :=
  stamped_payloadOffset rfl

theorem setExchangeFlags_new {v : Nat} (hv : v < 256) :
    (newMessage flags opcode exchangeId protocolId body).setExchangeFlags (.nat v) =
      .ok (newMessage v opcode exchangeId protocolId body) :=
  setExchangeFlags_at rfl payloadOffset_new hv

theorem setProtocolOpcode_new {v : Nat} (hv : v < 256) :
    (newMessage flags opcode exchangeId protocolId body).setProtocolOpcode (.nat v) =
      .ok (newMessage flags v exchangeId protocolId body) :=
  setProtocolOpcode_at rfl payloadOffset_new hv

theorem setExchangeId_new {v : Nat} (hv : v < 65536) :
    (newMessage flags opcode exchangeId protocolId body).setExchangeId (.nat v) =
      .ok (newMessage flags opcode v protocolId body) :=
  setExchangeId_at rfl payloadOffset_new hv

theorem setProtocolId_new {v : Nat} (hv : v < 65536) :
    (newMessage flags opcode exchangeId protocolId body).setProtocolId (.nat v) =
      .ok (newMessage flags opcode exchangeId v body) :=
  setProtocolId_at rfl payloadOffset_new hv

theorem setAppPayload_new (v : Bytes) :
    (newMessage flags opcode exchangeId protocolId body).setAppPayload v =
      newMessage flags opcode exchangeId protocolId (body ++ v) := by
  simp [Message.setAppPayload, newMessage, newBytes]

/-- The flag bits of an exchange header. -/
def flagBits (iflag aflag rflag : Bool) : Nat :=
  (if iflag then 1 else 0) + (if aflag then 2 else 0) + (if rflag then 4 else 0)

theorem flagBits_lt (iflag aflag rflag : Bool) : flagBits iflag aflag rflag < 256 := by
  revert iflag aflag rflag
  decide

theorem setExchangeFlag_new {bit : Nat} {v : Bool} (hf : flags < 256)
    (hflags : (if v then flags ||| bit else flags &&& (0xFF ^^^ bit)) < 256) :
    (newMessage flags opcode exchangeId protocolId body).setExchangeFlag bit v =
      .ok (newMessage (if v then flags ||| bit else flags &&& (0xFF ^^^ bit)) opcode exchangeId
        protocolId body) :=
  setExchangeFlag_at rfl payloadOffset_new hf hflags

theorem setIflag_new (v : Bool) :
    (newMessage 0 opcode exchangeId protocolId body).setIflag v =
      .ok (newMessage (flagBits v false false) opcode exchangeId protocolId body) := by
  cases v with
  | false => exact setExchangeFlag_new (by decide) (by decide)
  | true => exact setExchangeFlag_new (by decide) (by decide)

theorem setRflag_new (iflag v : Bool) :
    (newMessage (flagBits iflag false false) opcode exchangeId protocolId body).setRflag v =
      .ok (newMessage (flagBits iflag false v) opcode exchangeId protocolId body) := by
  cases iflag <;> cases v <;> exact setExchangeFlag_new (by decide) (by decide)

theorem setAflag_new (iflag rflag : Bool) :
    (newMessage (flagBits iflag false rflag) opcode exchangeId protocolId body).setAflag true =
      .ok (newMessage (flagBits iflag true rflag) opcode exchangeId protocolId body) := by
  cases iflag <;> cases rflag <;> exact setExchangeFlag_new (by decide) (by decide)

theorem aflag_new (iflag aflag rflag : Bool) :
    (newMessage (flagBits iflag aflag rflag) opcode exchangeId protocolId body).aflag =
      .ok aflag := by
  unfold Message.aflag Message.exchangeFlag
  rw [exchangeFlags_eq rfl payloadOffset_new (flagBits_lt iflag aflag rflag)]
  cases iflag <;> cases aflag <;> cases rflag <;> rfl

/-- The ack counter goes between the exchange header and the body. -/
theorem setAckCounter_new {iflag rflag : Bool} {v : Nat} (hv : v < 2 ^ 32) :
    (newMessage (flagBits iflag true rflag) opcode exchangeId protocolId body).setAckCounter
        (.nat v) =
      .ok (newMessage (flagBits iflag true rflag) opcode exchangeId protocolId
        (toLE 4 v ++ body)) := by
  generalize hf : flagBits iflag true rflag = flags
  have hhead : (stampedHeader 0 0 ++ exchangeHeader flags opcode exchangeId protocolId).length =
      8 + exchangeHeaderMinSize := by
    simp [exchangeHeaderMinSize]
  have hins : (newMessage flags opcode exchangeId protocolId body).insert
      (8 + exchangeHeaderMinSize) ackCounterSize =
      { buffer := (stampedHeader 0 0 ++ exchangeHeader flags opcode exchangeId protocolId) ++
          bufferAlloc 4 ++ body } := by
    rw [← hhead]
    exact insert_eq (List.append_assoc ..).symm ackCounterSize
  unfold Message.setAckCounter
  rw [payloadOffset_new, length_header, ← hf, aflag_new, hf]
  dsimp only [bind, Except.bind, if_true, Message.write]
  rw [hins, ← hhead]
  unfold writeUInt32LE
  rw [writeUIntLE_nat hv (by simp only [List.length_append, length_bufferAlloc]; omega),
    overwrite_middle (by rw [length_toLE, length_bufferAlloc])]
  simp [newMessage, newBytes, pure, Except.pure]

end NewMessage

/-! ## 3. The fields a protocol sets -/

/-- A field that a protocol sets on a new message. -/
inductive MessageField where
  | protocolId (v : Nat)
  | protocolOpcode (v : Nat)
  | appPayload (v : Bytes)
  deriving DecidableEq, Repr

/-- `msg.ProtocolId = v`, `msg.ProtocolOpcode = v`, `msg.AppPayload = v`. -/
def MessageField.set (msg : Message) : MessageField → Except JsError Message
  | .protocolId v => msg.setProtocolId (.nat v)
  | .protocolOpcode v => msg.setProtocolOpcode (.nat v)
  | .appPayload v => .ok (msg.setAppPayload v)

/-- What a protocol says in a message. -/
structure Content where
  protocolId : Nat := 0
  opcode : Nat := 0
  body : Bytes := []

namespace Content

/-- The content with one field set; a payload goes after the one before it. -/
def put (c : Content) : MessageField → Content
  | .protocolId v => { c with protocolId := v }
  | .protocolOpcode v => { c with opcode := v }
  | .appPayload v => { c with body := c.body ++ v }

def message (c : Content) : Message := newMessage 0 c.opcode 0 c.protocolId c.body

/-- The payload that is read back. -/
theorem appPayload_message (c : Content) : c.message.appPayload = .ok c.body := by
  have haflag : c.message.aflag = .ok false := aflag_new false false false
  have hoffset : c.message.payloadOffset = .ok 8 := payloadOffset_new
  unfold Message.appPayload
  rw [haflag, hoffset]
  simp only [bind, Except.bind, Bool.false_eq_true, if_false, subarrayFrom_nat]
  rfl

structure InRange (c : Content) : Prop where
  protocolId : c.protocolId < 65536
  opcode : c.opcode < 256

variable {c : Content} {m : Message}

/-- A field that was set changes the content alike, and fits its place. -/
theorem set_eq_ok {field : MessageField} (hc : c.InRange) (h : field.set c.message = .ok m) :
    m = (c.put field).message ∧ (c.put field).InRange := by
  cases field with
  | protocolId v =>
    have hv : v < 65536 := lt_of_writePayload h
    refine ⟨Except.ok.inj (h.symm.trans (setProtocolId_new hv)), hv, hc.opcode⟩
  | protocolOpcode v =>
    have hv : v < 256 := lt_of_writePayload h
    refine ⟨Except.ok.inj (h.symm.trans (setProtocolOpcode_new hv)), hc.protocolId, hv⟩
  | appPayload v =>
    refine ⟨(Except.ok.inj h).symm.trans (setAppPayload_new v), hc.protocolId, hc.opcode⟩

/-- **Fields set one after the other** make the message of their content. -/
theorem fields_eq_ok {fields : List MessageField} (hc : c.InRange)
    (h : fields.foldlM MessageField.set c.message = .ok m) :
    m = (fields.foldl put c).message ∧ (fields.foldl put c).InRange := by
  induction fields generalizing c with
  | nil => exact ⟨(Except.ok.inj h).symm, hc⟩
  | cons field fields ih =>
    obtain ⟨m', hfirst, hrest⟩ := bind_eq_ok h
    obtain ⟨rfl, hc'⟩ := set_eq_ok hc hfirst
    exact ih hc' hrest

/-- The order in which three different fields are set does not matter. -/
theorem put_of_perm {fields : List MessageField} {p o : Nat} {bs : Bytes}
    (h : fields.Perm [.protocolId p, .protocolOpcode o, .appPayload bs]) (c : Content) :
    fields.foldl put c = ⟨p, o, c.body ++ bs⟩ := by
  have hcomm : ∀ a ∈ fields, ∀ b ∈ fields, ∀ d, (put (put d a) b) = put (put d b) a := by
    intro a ha b hb d
    have ha' := h.mem_iff.mp ha
    have hb' := h.mem_iff.mp hb
    simp only [List.mem_cons, List.not_mem_nil, or_false] at ha' hb'
    rcases ha' with rfl | rfl | rfl <;> rcases hb' with rfl | rfl | rfl <;> rfl
  rw [h.foldl_eq' hcomm c]
  rfl

/-- What a new message is, once its three fields are set. -/
theorem message_of_fields {fields : List MessageField} {p o : Nat} {bs : Bytes}
    (hperm : fields.Perm [.protocolId p, .protocolOpcode o, .appPayload bs])
    (h : fields.foldlM MessageField.set {} = .ok m) :
    m = newMessage 0 o 0 p bs ∧ p < 65536 ∧ o < 256 := by
  rw [← newMessage_zero] at h
  obtain ⟨hm, hrange⟩ := fields_eq_ok (c := {}) ⟨by decide, by decide⟩ h
  rw [put_of_perm hperm] at hm hrange
  exact ⟨hm, hrange.protocolId, hrange.opcode⟩

end Content

/-! ## 4. What the exchange writes -/

/-- The ack counter of an exchange that acknowledges. -/
def Exchange.ackBytes (ex : Exchange) : Bytes := if ex.isAck then toLE 4 ex.ackCounter else []

/-- The flags of an exchange's messages. -/
def Exchange.flags (ex : Exchange) : Nat := flagBits ex.isInitiator ex.isAck ex.isReliable

/-- **An exchange writes its header, and its ack counter before the body.** -/
theorem address_new {ex : Exchange} {opcode protocolId : Nat} {body : Bytes}
    (hx : ex.exchangeId < 65536) (hack : ex.ackCounter < 2 ^ 32) :
    ex.address (newMessage 0 opcode 0 protocolId body) =
      .ok (newMessage ex.flags opcode ex.exchangeId protocolId (ex.ackBytes ++ body)) := by
  unfold Exchange.address Exchange.flags Exchange.ackBytes
  rw [setExchangeId_new hx]
  dsimp only [bind, Except.bind]
  rw [setExchangeFlags_new (by decide)]
  dsimp only
  rw [setIflag_new]
  dsimp only
  rw [setRflag_new]
  cases ex.isAck with
  | false => rfl
  | true =>
    dsimp only [if_true]
    rw [setAflag_new]
    exact setAckCounter_new hack

/-! ## 5. What the session writes -/

theorem setMessageFlags_headed {m : Message} {flags : UInt8} {id counter : Nat} {rest : Bytes}
    (hm : m.buffer = header flags id counter ++ rest) {v : Nat} (hv : v < 256) :
    m.setMessageFlags (.nat v) =
      .ok { m with buffer := header (UInt8.ofNat v) id counter ++ rest } := by
  refine write_of_ok ?_
  rw [hm]
  unfold writeUInt8
  rw [writeUIntLE_nat hv (by simp only [List.length_append, length_header]; omega)]
  simp [header, overwrite, toLE]

/-- The flags without some, and with others, that are written in two steps. -/
theorem setFlags_headed {m : Message} {flags : UInt8} {id counter mask v : Nat} {rest : Bytes}
    (hm : m.buffer = header flags id counter ++ rest) (hmask : mask < 256) (hv : v < 256) :
    (do
      let m ← m.setMessageFlags (.nat ((← m.messageFlags) &&& mask))
      m.setMessageFlags (.nat ((← m.messageFlags) ||| v))) =
      .ok { m with
        buffer := header (UInt8.ofNat ((flags.toNat &&& mask) ||| v)) id counter ++ rest } := by
  have hand : flags.toNat &&& mask < 2 ^ 8 := Nat.and_lt_two_pow _ hmask
  have hor : (flags.toNat &&& mask) ||| v < 2 ^ 8 := Nat.or_lt_two_pow hand hv
  rw [headed_messageFlags hm]
  dsimp only [bind, Except.bind]
  rw [setMessageFlags_headed hm hand]
  dsimp only
  rw [headed_messageFlags rfl, UInt8.toNat_ofNat_of_lt' hand]
  exact setMessageFlags_headed rfl hor

theorem setSflag_headed {m : Message} {flags : UInt8} {id counter : Nat} {rest : Bytes}
    (hm : m.buffer = header flags id counter ++ rest) (v : Nat) :
    m.setSflag v = .ok { m with
      buffer := header (UInt8.ofNat ((flags.toNat &&& 0x04) ||| (v &&& 0x04))) id counter ++ rest } :=
  setFlags_headed hm (by decide) (Nat.and_lt_two_pow v (by decide : 0x04 < 2 ^ 8))

theorem setDsiz_headed {m : Message} {flags : UInt8} {id counter : Nat} {rest : Bytes}
    (hm : m.buffer = header flags id counter ++ rest) (v : Nat) :
    m.setDsiz v = .ok { m with
      buffer := header (UInt8.ofNat ((flags.toNat &&& 0x03) ||| (v &&& 0x03))) id counter ++ rest } :=
  setFlags_headed hm (by decide) (Nat.and_lt_two_pow v (by decide : 0x03 < 2 ^ 8))

section Headed

variable {m : Message} {flags : UInt8} {id counter nodeId : Nat} {rest : Bytes}
  (hm : m.buffer = header flags id counter ++ rest)

include hm

theorem headed_sflag : m.sflag = .ok (decide (flags.toNat &&& 0x04 ≠ 0)) := by
  unfold Message.sflag
  rw [headed_messageFlags hm]
  rfl

theorem headed_dsiz : m.dsiz = .ok (flags.toNat &&& 0x03) := by
  unfold Message.dsiz
  rw [headed_messageFlags hm]
  rfl

end Headed

section FirstAssignment

variable {m : Message} {v : JsValue} {id : Nat} {pre rest : Bytes}

/-- A node id among the bytes of a message, where it was inserted. -/
theorem writeNodeId_insert (hm : m.buffer = pre ++ rest)
    (hid : id < 2 ^ 64) :
    writeBigUInt64LE (m.insert pre.length messageNodeIdSize).buffer id pre.length =
      .ok (pre ++ (toLE 8 id ++ rest)) := by
  have hins := insert_eq hm messageNodeIdSize
  have hlen : pre.length + (toLE 8 id).length ≤ (pre ++ bufferAlloc 8 ++ rest).length := by
    simp only [List.length_append, length_toLE, length_bufferAlloc]
    omega
  have hover : overwrite (pre ++ bufferAlloc 8 ++ rest) pre.length (toLE 8 id) =
      pre ++ toLE 8 id ++ rest :=
    overwrite_middle (by rw [length_toLE, length_bufferAlloc])
  rw [hins]
  unfold writeBigUInt64LE
  rw [if_neg (by omega), Int.toNat_natCast]
  refine (writeBytes_of_le hlen).trans ?_
  rw [← List.append_assoc]
  exact congrArg Except.ok hover

/-- **A source that is assigned first** is inserted behind the message header. -/
theorem setSourceNodeId_new (hs : m.sflag = .ok true) (hsource : m.hasSource = false)
    (hm : m.buffer = pre ++ rest) (hpre : pre.length = 8) (hv : v.toBigInt = .ok (id : Int))
    (hid : id < 2 ^ 64) :
    m.setSourceNodeId v =
      .ok { m with buffer := pre ++ (toLE 8 id ++ rest), hasSource := true } := by
  have hwrite := writeNodeId_insert hm hid
  rw [hpre] at hwrite
  unfold Message.setSourceNodeId
  rw [hs, hv]
  dsimp only [bind, Except.bind]
  rw [if_pos rfl, hsource]
  exact write_of_ok hwrite

/-- **A destination that is assigned first** is inserted at its place. -/
theorem setDestinationNodeId_new (hz : m.dsiz = .ok 1) (hdest : m.hasDestination = false)
    (hm : m.buffer = pre ++ rest) (hoff : m.destinationOffset = .ok pre.length)
    (hv : v.toBigInt = .ok (id : Int)) (hid : id < 2 ^ 64) :
    m.setDestinationNodeId v =
      .ok { m with buffer := pre ++ (toLE 8 id ++ rest), hasDestination := true } := by
  have hins : m.insertDestination pre.length 1 =
      .ok { m.insert pre.length messageNodeIdSize with hasDestination := true } := by
    unfold Message.insertDestination
    rw [if_neg (by rw [hdest]; decide)]
    rfl
  unfold Message.setDestinationNodeId
  rw [hoff, hz]
  dsimp only [bind, Except.bind]
  rw [if_neg (by decide), hins, hv]
  dsimp only
  rw [if_pos rfl]
  exact write_of_ok (m := { m.insert pre.length messageNodeIdSize with hasDestination := true })
    (writeNodeId_insert hm hid)

end FirstAssignment

namespace Session

/-- **A message of an initiator** takes its node id as the source. -/
theorem fromNode_stamped {m : Message} {id counter nodeId : Nat} {rest : Bytes}
    (hm : m.buffer = stampedHeader id counter ++ rest) (hsource : m.hasSource = false)
    (hnode : nodeId < 2 ^ 64) :
    fromNode nodeId m =
      .ok { m with
        buffer := header 4 id counter ++ (toLE 8 nodeId ++ rest), hasSource := true } := by
  have hset : ({ m with buffer := header 4 id counter ++ rest } : Message).setSourceNodeId
      (.bigint nodeId) = .ok { m with
        buffer := header 4 id counter ++ (toLE 8 nodeId ++ rest), hasSource := true } :=
    setSourceNodeId_new ((headed_sflag rfl).trans rfl) hsource rfl (length_header _ _ _) rfl hnode
  have hdsiz : m.setDsiz destinationTypeOmit = .ok m := by
    rw [setDsiz_headed hm]
    exact congrArg (fun b => Except.ok { m with buffer := b }) hm.symm
  unfold fromNode
  rw [hdsiz]
  dsimp only [bind, Except.bind]
  rw [setSflag_headed hm]
  exact hset

/-- **A message of a responder** takes its node id as the destination. -/
theorem toNode_stamped {m : Message} {id counter nodeId : Nat} {rest : Bytes}
    (hm : m.buffer = stampedHeader id counter ++ rest) (hdest : m.hasDestination = false)
    (hnode : nodeId < 2 ^ 64) :
    toNode nodeId m =
      .ok { m with
        buffer := header 1 id counter ++ (toLE 8 nodeId ++ rest), hasDestination := true } := by
  have hset : ({ m with buffer := header 1 id counter ++ rest } : Message).setDestinationNodeId
      (.bigint nodeId) = .ok { m with
        buffer := header 1 id counter ++ (toLE 8 nodeId ++ rest), hasDestination := true } := by
    have hoff : ({ m with buffer := header 1 id counter ++ rest } : Message).destinationOffset =
        .ok (header 1 id counter).length := by
      unfold Message.destinationOffset
      rw [headed_sflag rfl, length_header]
      rfl
    exact setDestinationNodeId_new ((headed_dsiz rfl).trans rfl) hdest rfl hoff rfl hnode
  have hsflag : m.setSflag sourceTypeOmit = .ok m := by
    rw [setSflag_headed hm]
    exact congrArg (fun b => Except.ok { m with buffer := b }) hm.symm
  unfold toNode
  rw [hsflag]
  dsimp only [bind, Except.bind]
  rw [setDsiz_headed hm]
  exact hset

/-- **The header is written up to its session id** for an id that fits, in four bytes. -/
theorem address_ok {s : Session} {msg : Message} {id : Nat}
    (hid : headerId s.peerSessionId = some id) (hlen : 4 ≤ msg.buffer.length) :
    s.address msg = .ok { msg with
      buffer :=
        overwrite (overwrite (overwrite msg.buffer 0 (toLE 1 0)) 3 (toLE 1 0)) 1 (toLE 2 id) } := by
  have hlen1 : (overwrite msg.buffer 0 (toLE 1 0)).length = msg.buffer.length :=
    length_overwrite (by rw [length_toLE]; omega)
  have h1 : msg.setMessageFlags (.nat 0) =
      .ok { msg with buffer := overwrite msg.buffer 0 (toLE 1 0) } :=
    write_of_ok (writeUIntLE_nat (by decide) (by omega))
  generalize overwrite msg.buffer 0 (toLE 1 0) = buf1 at hlen1 h1
  have hlen2 : (overwrite buf1 3 (toLE 1 0)).length = buf1.length :=
    length_overwrite (by rw [length_toLE]; omega)
  have h2 : ({ msg with buffer := buf1 } : Message).setSecurityFlags (.nat 0) =
      .ok { msg with buffer := overwrite buf1 3 (toLE 1 0) } :=
    write_of_ok (writeUIntLE_nat (by decide) (by show 4 ≤ buf1.length; omega))
  generalize overwrite buf1 3 (toLE 1 0) = buf2 at hlen2 h2
  unfold address
  rw [h1]
  dsimp only [bind, Except.bind]
  rw [h2]
  dsimp only
  rw [setSessionId_of_headerId hid]
  exact write_of_ok (writeUIntLE_nat (headerId_lt hid) (by show 3 ≤ buf2.length; omega))

theorem headerId_of_address {s : Session} {msg m : Message} (h : s.address msg = .ok m) :
    ∃ id, headerId s.peerSessionId = some id := by
  obtain ⟨m1, -, h⟩ := bind_eq_ok h
  obtain ⟨m2, -, h⟩ := bind_eq_ok h
  obtain ⟨buf, hw, -⟩ := write_ok h
  exact headerId_of_writeUInt16LE hw

/-- **What a session stamps**: its header before the rest of the message. -/
theorem stamp_eq_ok_iff {s : Session} {msg m : Message} : s.stamp msg = .ok m ↔
    ∃ id, headerId s.peerSessionId = some id ∧ s.messageCounter < 2 ^ 32 ∧
      8 ≤ msg.buffer.length ∧ m = { msg with
        buffer := stampedHeader id s.messageCounter ++ msg.buffer.drop 8 } := by
  have hstamp {id : Nat} (hid : headerId s.peerSessionId = some id)
      (hcounter : s.messageCounter < 2 ^ 32) (hlen : 8 ≤ msg.buffer.length) :
      s.stamp msg = .ok { msg with
        buffer := stampedHeader id s.messageCounter ++ msg.buffer.drop 8 } := by
    have haddr := @address_ok s msg id hid (by omega)
    have hover := overwrite_header hlen id s.messageCounter
    have hsame : (overwrite (overwrite (overwrite msg.buffer 0 (toLE 1 0)) 3 (toLE 1 0)) 1
        (toLE 2 id)).length = msg.buffer.length := by
      have h1 : (overwrite msg.buffer 0 (toLE 1 0)).length = msg.buffer.length :=
        length_overwrite (by rw [length_toLE]; omega)
      have h2 : (overwrite (overwrite msg.buffer 0 (toLE 1 0)) 3 (toLE 1 0)).length =
          msg.buffer.length := (length_overwrite (by rw [length_toLE]; omega)).trans h1
      exact (length_overwrite (by rw [length_toLE]; omega)).trans h2
    generalize overwrite (overwrite (overwrite msg.buffer 0 (toLE 1 0)) 3 (toLE 1 0)) 1
      (toLE 2 id) = buf at haddr hover hsame
    have hcount : ({ msg with buffer := buf } : Message).setMessageCounter
        (.nat s.messageCounter) =
          .ok { msg with buffer := overwrite buf 4 (toLE 4 s.messageCounter) } :=
      write_of_ok (writeUIntLE_nat hcounter (by show 8 ≤ buf.length; omega))
    unfold stamp
    rw [haddr, ← hover]
    exact hcount
  constructor
  · intro h
    obtain ⟨m1, haddr, -⟩ := bind_eq_ok h
    obtain ⟨id, hid⟩ := headerId_of_address haddr
    obtain ⟨-, -, hcounter, hlen, -⟩ := stamp_eq_ok h
    exact ⟨id, hid, hcounter, hlen, Except.ok.inj (h.symm.trans (hstamp hid hcounter hlen))⟩
  · rintro ⟨id, hid, hcounter, hlen, rfl⟩
    exact hstamp hid hcounter hlen

/-- **A message that is long enough is stamped**, where the counter fits its field. -/
theorem stamp_ok {s : Session} {msg : Message} {id : Nat} (hid : s.peerSessionId = .nat id)
    (hlt : id < 65536) (hc : s.messageCounter < 2 ^ 32) (hlen : 8 ≤ msg.buffer.length) :
    s.stamp msg = .ok { msg with
      buffer := stampedHeader id s.messageCounter ++ msg.buffer.drop 8 } := by
  refine stamp_eq_ok_iff.mpr ⟨id, ?_, hc, hlen, rfl⟩
  rw [hid]
  exact headerId_of_strictEqNat (by rw [JsValue.strictEqNat_nat, decide_eq_true_eq]) hlt

end Session

/-! ## 6. The frame -/

/-- The frame of a message sent in the clear. -/
def clearFrame (ex : Exchange) (nodeId counter : Nat) (c : Content) : Bytes :=
  header (if ex.isInitiator then 4 else 1) 0 counter ++ (toLE 8 nodeId ++
    (exchangeHeader ex.flags c.opcode ex.exchangeId c.protocolId ++ (ex.ackBytes ++ c.body)))

/-- An exchange on an unsecured session that knows its peer. -/
structure ClearExchange (n : Node) (i : Nat) (ex : Exchange) (s : Session) (peer : PeerInfo)
    (nodeId : Nat) : Prop where
  exchange : n.exchanges[i]? = some ex
  session : n.sessions.session? ex.session = some s
  peerSessionId : s.peerSessionId = .nat unsecuredSessionId
  peerInfo : s.peerInfo = some peer
  peerNodeId : s.peerNodeId = some nodeId
  nodeId_pos : 0 < nodeId
  nodeId_lt : nodeId < 2 ^ 64
  counter_lt : s.messageCounter < 2 ^ 32
  exchangeId_lt : ex.exchangeId < 65536
  ackCounter_lt : ex.ackCounter < 2 ^ 32

section Frame

variable {ex : Exchange} {nodeId counter : Nat} {c : Content} {m : Message}
  (hbuf : m.buffer = clearFrame ex nodeId counter c)

/-- The bytes before the payload of the frame. -/
abbrev clearHeader (ex : Exchange) (nodeId counter : Nat) : Bytes :=
  header (if ex.isInitiator then 4 else 1) 0 counter ++ toLE 8 nodeId

theorem clearFrame_eq : clearFrame ex nodeId counter c = clearHeader ex nodeId counter ++
    (exchangeHeader ex.flags c.opcode ex.exchangeId c.protocolId ++ (ex.ackBytes ++ c.body)) :=
  (List.append_assoc ..).symm

include hbuf

theorem clearFrame_payloadOffset :
    m.payloadOffset = .ok (clearHeader ex nodeId counter).length := by
  unfold Message.payloadOffset
  rw [headed_sflag hbuf, headed_dsiz hbuf, List.length_append, length_header, length_toLE]
  cases ex.isInitiator <;> rfl

theorem clearFrame_buffer : m.buffer = clearHeader ex nodeId counter ++
    (exchangeHeader ex.flags c.opcode ex.exchangeId c.protocolId ++ (ex.ackBytes ++ c.body)) :=
  hbuf.trans clearFrame_eq

theorem clearFrame_exchangeFlag (bit : Nat) :
    m.exchangeFlag bit = .ok (decide (ex.flags &&& bit ≠ 0)) := by
  unfold Message.exchangeFlag
  rw [exchangeFlags_eq (clearFrame_buffer hbuf) (clearFrame_payloadOffset hbuf) (flagBits_lt _ _ _)]
  rfl

theorem clearFrame_iflag : m.iflag = .ok ex.isInitiator := by
  unfold Message.iflag
  rw [clearFrame_exchangeFlag hbuf, Exchange.flags]
  cases ex.isInitiator <;> cases ex.isAck <;> cases ex.isReliable <;> rfl

theorem clearFrame_aflag : m.aflag = .ok ex.isAck := by
  unfold Message.aflag
  rw [clearFrame_exchangeFlag hbuf, Exchange.flags]
  cases ex.isInitiator <;> cases ex.isAck <;> cases ex.isReliable <;> rfl

theorem clearFrame_rflag : m.rflag = .ok ex.isReliable := by
  unfold Message.rflag
  rw [clearFrame_exchangeFlag hbuf, Exchange.flags]
  cases ex.isInitiator <;> cases ex.isAck <;> cases ex.isReliable <;> rfl

/-- **The payload read back starts where the ack counter ends.** -/
theorem clearFrame_appPayload : m.appPayload = .ok c.body := by
  unfold Message.appPayload
  rw [clearFrame_aflag hbuf, clearFrame_payloadOffset hbuf]
  dsimp only [bind, Except.bind]
  rw [subarrayFrom_nat, clearFrame_buffer hbuf]
  have hsize : (clearHeader ex nodeId counter).length +
      (exchangeHeaderMinSize + if ex.isAck then ackCounterSize else 0) =
      (clearHeader ex nodeId counter ++
        (exchangeHeader ex.flags c.opcode ex.exchangeId c.protocolId ++ ex.ackBytes)).length := by
    simp only [List.length_append, length_exchangeHeader, Exchange.ackBytes]
    cases ex.isAck <;> simp [exchangeHeaderMinSize, ackCounterSize]
  have hsplit : clearHeader ex nodeId counter ++
      (exchangeHeader ex.flags c.opcode ex.exchangeId c.protocolId ++ (ex.ackBytes ++ c.body)) =
      clearHeader ex nodeId counter ++
        (exchangeHeader ex.flags c.opcode ex.exchangeId c.protocolId ++ ex.ackBytes) ++ c.body := by
    simp only [List.append_assoc]
  rw [hsize, hsplit, List.drop_left]
  rfl

theorem clearFrame_isUnencrypted : m.isUnencrypted = .ok true :=
  headed_isUnencrypted hbuf

/-- The node id is read where it was written: as the source. -/
theorem clearFrame_source (hrole : ex.isInitiator = true) (hnode : nodeId < 2 ^ 64) :
    m.sflag = .ok true ∧ m.dsiz = .ok 0 ∧ m.sourceNodeId = .ok nodeId := by
  have hs : m.sflag = .ok true := by
    rw [headed_sflag hbuf, hrole]
    rfl
  have hd : m.dsiz = .ok 0 := by
    rw [headed_dsiz hbuf, hrole]
    rfl
  refine ⟨hs, hd, ?_⟩
  unfold Message.sourceNodeId
  rw [hs, hbuf]
  have h := readUIntLE_at (header (if ex.isInitiator then 4 else 1) 0 counter) (toLE 8 nodeId)
    (exchangeHeader ex.flags c.opcode ex.exchangeId c.protocolId ++ (ex.ackBytes ++ c.body))
    (List.append_assoc ..).symm
  rw [length_toLE, length_header, ofLE_toLE_of_lt hnode] at h
  exact h

/-- The node id is read where it was written: as the destination. -/
theorem clearFrame_destination (hrole : ex.isInitiator = false) (hnode : nodeId < 2 ^ 64) :
    m.sflag = .ok false ∧ m.dsiz = .ok 1 ∧ m.destinationNodeId = .ok nodeId := by
  have hs : m.sflag = .ok false := by
    rw [headed_sflag hbuf, hrole]
    rfl
  have hd : m.dsiz = .ok 1 := by
    rw [headed_dsiz hbuf, hrole]
    rfl
  refine ⟨hs, hd, ?_⟩
  unfold Message.destinationNodeId Message.destinationOffset
  rw [hs, hd, hbuf]
  have h := readUIntLE_at (header (if ex.isInitiator then 4 else 1) 0 counter) (toLE 8 nodeId)
    (exchangeHeader ex.flags c.opcode ex.exchangeId c.protocolId ++ (ex.ackBytes ++ c.body))
    (List.append_assoc ..).symm
  rw [length_toLE, length_header, ofLE_toLE_of_lt hnode] at h
  exact h

end Frame

/-! ## 7. Sending in the clear -/

namespace Session

variable {st : SendState} {m m' : Message} {counter nodeId : Nat}

/-- The fields of an unencrypted message that `sendMessage` writes for a session that knows its
    peer. -/
def addressed (nodeId : Nat) (m : Message) : Except JsError Message := do
  if ← m.iflag then fromNode nodeId m else toNode nodeId m

/-- **A session that knows its peer addresses the message**, and changes nothing else. -/
theorem run_addressUnencrypted (hnode : st.session.peerNodeId = some nodeId) (hpos : 0 < nodeId) :
    (addressUnencrypted m).run st =
      (lift ((fun m' => (m', m'.buffer)) <$> addressed nodeId m) : SendM (Message × Bytes)).run st := by
  have hhas : st.session.hasPeerNodeId = true := by
    unfold hasPeerNodeId
    rw [hnode, Option.getD_some, decide_eq_true_eq]
    omega
  have halloc : allocatePeerNodeId.run st = .ok () st := by
    unfold allocatePeerNodeId
    rw [run_bind_ok (run_get st), hhas]
    rfl
  unfold addressUnencrypted addressed
  cases m.iflag with
  | error e => exact run_bind_error (run_lift_error e st)
  | ok iflag =>
    rw [run_bind_ok (run_lift_ok iflag st)]
    cases iflag with
    | true =>
      simp only [if_true]
      rw [run_bind_ok halloc, run_bind_ok (run_get st), hnode, Option.getD_some]
      exact run_lift_map _ _ st
    | false =>
      simp only [Bool.false_eq_true, if_false]
      rw [run_bind_ok (run_get st), hhas]
      simp only [if_true]
      rw [run_bind_ok (run_get st), hnode, Option.getD_some]
      exact run_lift_map _ _ st

/-- A stamped message names a node between its header and the rest. -/
theorem addressed_stamped {iflag : Bool} {rest : Bytes} (hi : m.iflag = .ok iflag)
    (hm : m.buffer = stampedHeader 0 counter ++ rest) (hsource : m.hasSource = false)
    (hdest : m.hasDestination = false) (hlt : nodeId < 2 ^ 64) :
    ∃ sent, addressed nodeId m = .ok sent ∧
      sent.buffer = header (if iflag then 4 else 1) 0 counter ++ (toLE 8 nodeId ++ rest) := by
  unfold addressed
  rw [hi]
  cases iflag with
  | true => exact ⟨_, fromNode_stamped hm hsource hlt, rfl⟩
  | false => exact ⟨_, toNode_stamped hm hdest hlt, rfl⟩

/-- What is sent in the clear is what was addressed. -/
theorem run_sendStamped (A : Aead) {peer : PeerInfo} (hclear : m.isEncrypted = .ok false)
    (hpeer : st.session.peerInfo = some peer) (hnode : st.session.peerNodeId = some nodeId)
    (hpos : 0 < nodeId) (haddr : addressed nodeId m = .ok m') :
    (sendStamped A m).run st = .ok m' (handOver st peer m'.buffer) := by
  have hrun : (addressUnencrypted m).run st = .ok (m', m'.buffer) st := by
    rw [run_addressUnencrypted hnode hpos, haddr]
    rfl
  rw [sendStamped_unencrypted hclear, run_bind_ok hrun, run_bind_ok (transmit_some hpeer _)]
  rfl

/-- The session after it sent a message. -/
def afterSend (s : Session) : Session :=
  { s with messageCounter := s.messageCounter + 1, metricTxCount := s.metricTxCount + 1 }

/-- **What a session does with a message that its exchange has addressed.** -/
theorem run_sendMessage_clear (A : Aead) (st : SendState) (ex : Exchange) {peer : PeerInfo}
    (c : Content) (hid : st.session.peerSessionId = .nat unsecuredSessionId)
    (hcounter : st.session.messageCounter < 2 ^ 32) (hpeer : st.session.peerInfo = some peer)
    (hnode : st.session.peerNodeId = some nodeId) (hpos : 0 < nodeId) (hlt : nodeId < 2 ^ 64) :
    ∃ sent, (sendMessage A (newMessage ex.flags c.opcode ex.exchangeId c.protocolId
        (ex.ackBytes ++ c.body))).run st =
      .ok sent (handOver (countTx (takeCounter st)) peer
        (clearFrame ex nodeId st.session.messageCounter c)) := by
  generalize hmsg : newMessage ex.flags c.opcode ex.exchangeId c.protocolId
    (ex.ackBytes ++ c.body) = msg
  generalize hrest : exchangeHeader ex.flags c.opcode ex.exchangeId c.protocolId ++
    (ex.ackBytes ++ c.body) = rest
  have hbuf : msg.buffer = stampedHeader 0 0 ++ rest := by
    rw [← hmsg, ← hrest]
    rfl
  have hdrop : msg.buffer.drop 8 = rest := by
    rw [hbuf, ← length_header 0 0 0, List.drop_left]
  have hstamp := stamp_ok hid (by decide) hcounter
    (show 8 ≤ msg.buffer.length by rw [hbuf, List.length_append, length_header]; omega)
  rw [hdrop] at hstamp
  generalize hm : ({ msg with
    buffer := stampedHeader unsecuredSessionId st.session.messageCounter ++ rest } : Message) = m
    at hstamp
  have hbufm : m.buffer = stampedHeader 0 st.session.messageCounter ++ rest := by
    rw [← hm]
    rfl
  have hiflag : m.iflag = .ok ex.isInitiator := by
    have hbuf' : m.buffer = stampedHeader 0 st.session.messageCounter ++
        (exchangeHeader ex.flags c.opcode ex.exchangeId c.protocolId ++ (ex.ackBytes ++ c.body)) := by
      rw [hbufm, hrest]
    unfold Message.iflag Message.exchangeFlag
    rw [exchangeFlags_eq hbuf' (stamped_payloadOffset hbufm) (flagBits_lt _ _ _), Exchange.flags]
    cases ex.isInitiator <;> cases ex.isAck <;> cases ex.isReliable <;> rfl
  obtain ⟨sent, haddr, hframe⟩ := addressed_stamped hiflag hbufm
    (by rw [← hm, ← hmsg]; rfl) (by rw [← hm, ← hmsg]; rfl) hlt
  have hsend : (sendStamped A m).run (countTx (takeCounter st)) = .ok sent
      (handOver (countTx (takeCounter st)) peer sent.buffer) :=
    run_sendStamped A (headed_isEncrypted hbufm) hpeer hnode hpos haddr
  refine ⟨sent, (sendMessage_stamped hstamp).trans (hsend.trans ?_)⟩
  unfold clearFrame
  rw [hframe, hrest]

end Session

namespace SessionManager

variable {A : Aead} {h : SessionManager} {ref : SessionRef} {s : Session} {m : Message}

/-- A session of the tables sends. -/
theorem run_sendOn_ok {sent : Message} {st : SendState} (hs : h.session? ref = some s)
    (hsend : (Session.sendMessage A m).run ⟨s, h.outside⟩ = .ok sent st) :
    (sendOn A ref m).run h =
      .ok sent { h.modifySession (fun _ => st.session) ref with outside := st.outside } := by
  unfold sendOn
  rw [run_bind_ok (run_get h), hs]
  dsimp only
  exact run_zoom_ok hsend

theorem run_sendOn_error {e : JsError} {st : SendState} (hs : h.session? ref = some s)
    (hsend : (Session.sendMessage A m).run ⟨s, h.outside⟩ = .error e st) :
    (sendOn A ref m).run h =
      .error e { h.modifySession (fun _ => st.session) ref with outside := st.outside } := by
  unfold sendOn
  rw [run_bind_ok (run_get h), hs]
  dsimp only
  exact run_zoom_error hsend

/-- The tables after a frame went out on a session. -/
def transmitOn (h : SessionManager) (ref : SessionRef) (s : Session) (peer : PeerInfo)
    (frame : Bytes) : SessionManager :=
  { h.modifySession (fun _ => s.afterSend) ref with
    outside := { h.outside with
      transmitted := h.outside.transmitted ++ [⟨s.transport, peer, frame⟩] } }

end SessionManager

namespace Node

variable {n : Node} {i : Nat} {ex : Exchange} {s : Session} {peer : PeerInfo} {nodeId : Nat}

/-- **A message that the exchange addresses is handed to its session.** -/
theorem run_sendMessage {A : Aead} {msg m : Message} (hex : n.exchanges[i]? = some ex)
    (haddr : ex.address msg = .ok m) (hlen : 8 ≤ m.buffer.length) :
    (sendMessage A i msg).run n =
      (onSessions (SessionManager.sendOn A ex.session m)).run n := by
  obtain ⟨id, hid⟩ := Message.sessionId_of_le (m := m) (by omega)
  unfold sendMessage
  rw [run_bind_ok (run_get n), hex]
  dsimp only
  rw [run_bind_ok (run_lift_of haddr n), run_bind_ok (run_lift_of hid n)]

theorem run_sendMessage_content {A : Aead} (hex : n.exchanges[i]? = some ex)
    (hx : ex.exchangeId < 65536) (hack : ex.ackCounter < 2 ^ 32) (c : Content) :
    (sendMessage A i c.message).run n = (onSessions (SessionManager.sendOn A ex.session
      (newMessage ex.flags c.opcode ex.exchangeId c.protocolId (ex.ackBytes ++ c.body)))).run n := by
  refine run_sendMessage hex (address_new hx hack) ?_
  show 8 ≤ (stampedHeader 0 0 ++ _).length
  rw [List.length_append, length_header]
  exact Nat.le_add_right ..

/-- **The frame that an exchange on an unsecured session transmits.** -/
theorem sendMessage_clearFrame (A : Aead) (h : ClearExchange n i ex s peer nodeId) (c : Content) :
    ∃ sent, (sendMessage A i c.message).run n = .ok sent { n with
      sessions := n.sessions.transmitOn ex.session s peer
        (clearFrame ex nodeId s.messageCounter c) } := by
  obtain ⟨sent, hsend⟩ := Session.run_sendMessage_clear A ⟨s, n.sessions.outside⟩ ex c
    h.peerSessionId h.counter_lt h.peerInfo h.peerNodeId h.nodeId_pos h.nodeId_lt
  refine ⟨sent, (run_sendMessage_content h.exchange h.exchangeId_lt h.ackCounter_lt c).trans ?_⟩
  exact run_zoom_ok (SessionManager.run_sendOn_ok h.session hsend)

end Node

/-- A frame reads back as what its exchange, its session and its protocol put into it. -/
structure ReadsBack (ex : Exchange) (nodeId : Nat) (c : Content) (m : Message) : Prop where
  exchangeId : m.exchangeId = .ok ex.exchangeId
  protocolId : m.protocolId = .ok c.protocolId
  protocolOpcode : m.protocolOpcode = .ok c.opcode
  iflag : m.iflag = .ok ex.isInitiator
  rflag : m.rflag = .ok ex.isReliable
  aflag : m.aflag = .ok ex.isAck
  appPayload : m.appPayload = .ok c.body
  source : ex.isInitiator = true →
    m.sflag = .ok true ∧ m.dsiz = .ok destinationTypeOmit ∧ m.sourceNodeId = .ok nodeId
  destination : ex.isInitiator = false →
    m.sflag = .ok false ∧ m.dsiz = .ok destinationTypeNodeId ∧ m.destinationNodeId = .ok nodeId
  ackCounter : ∃ pay, m.payload = .ok pay ∧
    pay.drop exchangeHeaderMinSize = (if ex.isAck then toLE 4 ex.ackCounter else []) ++ c.body
  isUnencrypted : m.isUnencrypted = .ok true

theorem readsBack_clearFrame {ex : Exchange} {nodeId counter : Nat} {c : Content}
    (hc : c.InRange) (hx : ex.exchangeId < 65536) (hnode : nodeId < 2 ^ 64) :
    ReadsBack ex nodeId c { buffer := clearFrame ex nodeId counter c } where
  exchangeId := exchangeId_eq (clearFrame_buffer rfl) (clearFrame_payloadOffset rfl) hx
  protocolId := protocolId_eq (clearFrame_buffer rfl) (clearFrame_payloadOffset rfl) hc.protocolId
  protocolOpcode := protocolOpcode_eq (clearFrame_buffer rfl) (clearFrame_payloadOffset rfl) hc.opcode
  iflag := clearFrame_iflag rfl
  rflag := clearFrame_rflag rfl
  aflag := clearFrame_aflag rfl
  appPayload := clearFrame_appPayload rfl
  source hrole := clearFrame_source rfl hrole hnode
  destination hrole := clearFrame_destination rfl hrole hnode
  ackCounter := by
    refine ⟨_, payload_eq (clearFrame_buffer rfl) (clearFrame_payloadOffset rfl), ?_⟩
    exact List.drop_left' (length_exchangeHeader ..)
  isUnencrypted := clearFrame_isUnencrypted rfl

namespace Node

variable {n : Node} {i : Nat} {ex : Exchange} {s : Session} {peer : PeerInfo} {nodeId : Nat}

/-- **What is sent on an unsecured exchange reads back as it was sent**: one frame is handed to the
    transport, and a new message made of it has the fields of the exchange and of the protocol. -/
theorem sendMessage_unsecured (A : Aead) (h : ClearExchange n i ex s peer nodeId)
    {fields : List MessageField} {p o : Nat} {bs : Bytes} {msg : Message}
    (hperm : fields.Perm [.protocolId p, .protocolOpcode o, .appPayload bs])
    (hset : fields.foldlM MessageField.set {} = .ok msg) :
    ∃ sent n' frame, (sendMessage A i msg).run n = .ok sent n' ∧
      n'.sessions.outside.transmitted =
        n.sessions.outside.transmitted ++ [⟨s.transport, peer, frame⟩] ∧
      ReadsBack ex nodeId ⟨p, o, bs⟩ { buffer := frame } := by
  obtain ⟨rfl, hp, ho⟩ := Content.message_of_fields hperm hset
  obtain ⟨sent, hrun⟩ := sendMessage_clearFrame A h ⟨p, o, bs⟩
  exact ⟨sent, _, _, hrun, rfl, readsBack_clearFrame ⟨hp, ho⟩ h.exchangeId_lt h.nodeId_lt⟩

/-- A responder that acknowledges and asks for an ack, its payload set first. -/
theorem sendMessage_unsecured_acknowledging :
    let ex : Exchange :=
      { exchangeId := 258, session := .unsecured 0, isInitiator := false, isReliable := true,
        isAck := true, ackCounter := 77 }
    let s : Session :=
      { localSessionId := .nat 0, peerSessionId := .nat 0, secure := false, messageCounter := 9,
        peerInfo := some ⟨"fe80::1", 5540⟩, peerNodeId := some 5, cryptoContext := none,
        context := rfl }
    let n : Node :=
      { sessions := { sessionsUnsecured := [s], outside := { entropy := fun _ => 0 } },
        exchanges := [ex] }
    ∃ sent n' frame,
      (sendMessage Aead.keyTag 0 (newMessage 0 0x21 0 0 [1, 2])).run n = .ok sent n' ∧
      n'.sessions.outside.transmitted = [] ++ [⟨.server, ⟨"fe80::1", 5540⟩, frame⟩] ∧
      ReadsBack ex 5 ⟨0, 0x21, [1, 2]⟩ { buffer := frame } := by
  intro ex s n
  have h : ClearExchange n 0 ex s ⟨"fe80::1", 5540⟩ 5 :=
    ⟨rfl, rfl, rfl, rfl, rfl, by decide, by decide, by show 9 < 2 ^ 32; decide,
      by show 258 < 65536; decide, by show 77 < 2 ^ 32; decide⟩
  have hperm : [MessageField.appPayload [1, 2], .protocolOpcode 0x21, .protocolId 0].Perm
      [.protocolId 0, .protocolOpcode 0x21, .appPayload [1, 2]] := by decide
  exact sendMessage_unsecured Aead.keyTag h hperm rfl

end Node

end Matternode.Messaging
