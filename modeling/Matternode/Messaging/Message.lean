/-
  File:      Matternode/Messaging/Message.lean
  Subject:   Message: the fields of a raw frame, read and written in place.

  A getter reads the buffer and throws where it is too short; a setter answers the message with the
  changed buffer. `Payload` is a view, so its setters write the buffer behind it.

  * the header fields, `sourceNodeId`, `destinationNodeId`, `payloadOffset`, `appPayload`;
  * the setters `setX` of each;
  * `isUnencrypted`, `isEncrypted` -- read back from the header.
-/
import Matternode.Base.Script
import Matternode.Messaging.MsgCodec

namespace Matternode.Messaging

open Base Js

/-- A sender's address. -/
@[ext]
structure PeerInfo where
  address : String
  port : Nat
  deriving DecidableEq, Repr

def sessionIdUnsecured : Nat := 0x0000
def messageHeaderMinSize : Nat := 8
def exchangeHeaderMinSize : Nat := 6
def messageNodeIdSize : Nat := 8
def messageGroupIdSize : Nat := 2
def ackCounterSize : Nat := 4

/-- Message.DestinationType. -/
def destinationTypeOmit : Nat := 0
def destinationTypeNodeId : Nat := 1

/-- Message.SourceType. -/
def sourceTypeOmit : Nat := 0
def sourceTypeNodeId : Nat := 4

structure Message where
  buffer : Bytes := bufferAlloc (messageHeaderMinSize + exchangeHeaderMinSize)
  encrypted : Option Bytes := none
  peerInfo : Option PeerInfo := none
  hasSource : Bool := false
  hasDestination : Bool := false
  deriving DecidableEq, Repr

/-- `new Message(buf, null, peerInfo)`: a datagram. -/
def rawMessage (buf : Bytes) (peerInfo : PeerInfo) : Message :=
  { buffer := buf, peerInfo := some peerInfo }

/-- `new Message(buf, buf, peerInfo)`: a frame received on a secure session. -/
def received (frame : Bytes) (peerInfo : PeerInfo) : Message :=
  { buffer := frame, encrypted := some frame, peerInfo := some peerInfo }

namespace Message

/-! ## 1. The message header -/

def messageFlags (m : Message) : Except JsError Nat := readUInt8 m.buffer 0
def sessionId (m : Message) : Except JsError Nat := readUInt16LE m.buffer 1
def securityFlags (m : Message) : Except JsError Nat := readUInt8 m.buffer 3
def messageCounter (m : Message) : Except JsError Nat := readUInt32LE m.buffer 4

/-- A write of the buffer. -/
def write (m : Message) (written : Bytes → Except JsError Bytes) : Except JsError Message := do
  return { m with buffer := ← written m.buffer }

def setMessageFlags (m : Message) (v : JsValue) := m.write (writeUInt8 · v 0)
def setSessionId (m : Message) (v : JsValue) := m.write (writeUInt16LE · v 1)
def setSecurityFlags (m : Message) (v : JsValue) := m.write (writeUInt8 · v 3)
def setMessageCounter (m : Message) (v : JsValue) := m.write (writeUInt32LE · v 4)

def version (m : Message) : Except JsError Nat := do
  return (← m.messageFlags) >>> 4

def sflag (m : Message) : Except JsError Bool := do
  return (← m.messageFlags) &&& 0x04 ≠ 0

/-- The setter keeps the bit it means to clear and clears the others. -/
def setSflag (m : Message) (v : Nat) : Except JsError Message := do
  let m ← m.setMessageFlags (.nat ((← m.messageFlags) &&& 0x04))
  m.setMessageFlags (.nat ((← m.messageFlags) ||| (v &&& 0x04)))

def dsiz (m : Message) : Except JsError Nat := do
  return (← m.messageFlags) &&& 0x03

def setDsiz (m : Message) (v : Nat) : Except JsError Message := do
  let m ← m.setMessageFlags (.nat ((← m.messageFlags) &&& 0x03))
  m.setMessageFlags (.nat ((← m.messageFlags) ||| (v &&& 0x03)))

def sessionType (m : Message) : Except JsError Nat := do
  return (← m.securityFlags) &&& 0x03

def isUnencrypted (m : Message) : Except JsError Bool := do
  if (← m.sessionType) = 0 then return (← m.sessionId) = sessionIdUnsecured
  else return false

def isEncrypted (m : Message) : Except JsError Bool := do
  return !(← m.isUnencrypted)

/-! ## 2. Node ids -/

def sourceNodeId (m : Message) : Except JsError Nat := do
  if ← m.sflag then readBigUInt64LE m.buffer messageHeaderMinSize
  else return MsgCodec.nodeIdAny

/-- Where the destination stands. -/
def destinationOffset (m : Message) : Except JsError Nat := do
  return messageHeaderMinSize + (if ← m.sflag then messageNodeIdSize else 0)

/-- A 16-bit destination is never read: the getter asks `this.dsiz`, which is undefined. -/
def destinationNodeId (m : Message) : Except JsError Nat := do
  let dsiz ← m.dsiz
  let offset ← m.destinationOffset
  if dsiz = 1 then readBigUInt64LE m.buffer offset
  else return MsgCodec.nodeIdAny

/-- `size` new bytes at an offset. -/
def insert (m : Message) (offset size : Nat) : Message :=
  { m with buffer := subarray m.buffer 0 offset ++ bufferAlloc size ++ subarrayFrom m.buffer offset }

def setSourceNodeId (m : Message) (v : JsValue) : Except JsError Message := do
  if ← m.sflag then
    let m := if m.hasSource then m
      else { m.insert messageHeaderMinSize messageNodeIdSize with hasSource := true }
    let id ← v.toBigInt
    m.write (writeBigUInt64LE · id messageHeaderMinSize)
  else return m

/-- The bytes of a destination, inserted once; a destination size of 3 names none. -/
def insertDestination (m : Message) (offset dsiz : Nat) : Except JsError Message :=
  if m.hasDestination then .ok m
  else if dsiz = 1 then .ok { m.insert offset messageNodeIdSize with hasDestination := true }
  else if dsiz = 2 then .ok { m.insert offset messageGroupIdSize with hasDestination := true }
  else .error .typeError

def setDestinationNodeId (m : Message) (v : JsValue) : Except JsError Message := do
  let offset ← m.destinationOffset
  let dsiz ← m.dsiz
  if dsiz = 0 then return m
  else
    let m ← m.insertDestination offset dsiz
    if dsiz = 1 then
      let id ← v.toBigInt
      m.write (writeBigUInt64LE · id offset)
    else if dsiz = 2 then m.write (writeUInt16LE · v offset)
    else return m

/-! ## 3. The exchange header -/

def payloadOffset (m : Message) : Except JsError Nat := do
  let offset := messageHeaderMinSize + (if ← m.sflag then 8 else 0)
  let dsiz ← m.dsiz
  return offset + (if dsiz = 1 then 8 else if dsiz = 2 then 2 else 0)

def payload (m : Message) : Except JsError Bytes := do
  return subarrayFrom m.buffer (← m.payloadOffset)

def exchangeFlags (m : Message) : Except JsError Nat := do readUInt8 (← m.payload) 0
def protocolOpcode (m : Message) : Except JsError Nat := do readUInt8 (← m.payload) 1
def exchangeId (m : Message) : Except JsError Nat := do readUInt16LE (← m.payload) 2
def protocolId (m : Message) : Except JsError Nat := do readUInt16LE (← m.payload) 4

/-- A write of the view `Payload`. -/
def writePayload (m : Message) (written : Bytes → Except JsError Bytes) :
    Except JsError Message := do
  let offset ← m.payloadOffset
  let payload ← written (← m.payload)
  return { m with buffer := subarray m.buffer 0 offset ++ payload }

def setExchangeFlags (m : Message) (v : JsValue) := m.writePayload (writeUInt8 · v 0)
def setProtocolOpcode (m : Message) (v : JsValue) := m.writePayload (writeUInt8 · v 1)
def setExchangeId (m : Message) (v : JsValue) := m.writePayload (writeUInt16LE · v 2)
def setProtocolId (m : Message) (v : JsValue) := m.writePayload (writeUInt16LE · v 4)

/-- A bit of the exchange flags. -/
def exchangeFlag (m : Message) (bit : Nat) : Except JsError Bool := do
  return (← m.exchangeFlags) &&& bit ≠ 0

def setExchangeFlag (m : Message) (bit : Nat) (v : Bool) : Except JsError Message := do
  let flags ← m.exchangeFlags
  m.setExchangeFlags (.nat (if v then flags ||| bit else flags &&& (0xFF ^^^ bit)))

def iflag (m : Message) := m.exchangeFlag 0x01
def aflag (m : Message) := m.exchangeFlag 0x02
def rflag (m : Message) := m.exchangeFlag 0x04
def sxflag (m : Message) := m.exchangeFlag 0x08
def vflag (m : Message) := m.exchangeFlag 0x10

def setIflag (m : Message) (v : Bool) := m.setExchangeFlag 0x01 v
def setAflag (m : Message) (v : Bool) := m.setExchangeFlag 0x02 v
def setRflag (m : Message) (v : Bool) := m.setExchangeFlag 0x04 v

def setAckCounter (m : Message) (v : JsValue) : Except JsError Message := do
  let offset := (← m.payloadOffset) + exchangeHeaderMinSize
  if ← m.aflag then (m.insert offset ackCounterSize).write (writeUInt32LE · v offset)
  else return m

/-! ## 4. The application payload -/

def appPayload (m : Message) : Except JsError Bytes := do
  let exchangeHeaderSize := exchangeHeaderMinSize + (if ← m.aflag then ackCounterSize else 0)
  return subarrayFrom m.buffer ((← m.payloadOffset) + exchangeHeaderSize : Nat)

/-- `msg.AppPayload = v` appends. -/
def setAppPayload (m : Message) (v : Bytes) : Message := { m with buffer := m.buffer ++ v }

/-! ## 5. What the length of a frame gives -/

section Length

variable {m : Message}

theorem sessionId_of_le (h : 3 ≤ m.buffer.length) : ∃ id, m.sessionId = .ok id :=
  ⟨_, readUIntLE_of_le h⟩

theorem messageCounter_of_le (h : 8 ≤ m.buffer.length) : ∃ counter, m.messageCounter = .ok counter :=
  ⟨_, readUIntLE_of_le h⟩

theorem messageCounter_of_short (h : m.buffer.length < 8) :
    m.messageCounter = .error .rangeError :=
  readUIntLE_of_short h

/-- A frame that could be told from an unencrypted one has its security flags. -/
theorem length_of_isUnencrypted {b : Bool} (h : m.isUnencrypted = .ok b) : 4 ≤ m.buffer.length := by
  obtain ⟨sessionType, htype, -⟩ := bind_eq_ok h
  obtain ⟨flags, hflags, -⟩ := bind_eq_ok htype
  exact readUIntLE_eq_ok hflags

theorem sessionId_of_unencrypted (h : m.isUnencrypted = .ok true) :
    m.sessionId = .ok sessionIdUnsecured := by
  obtain ⟨sessionType, -, hrest⟩ := bind_eq_ok h
  split at hrest
  · obtain ⟨id, hid, hret⟩ := bind_eq_ok hrest
    have hzero : id = sessionIdUnsecured := by simpa using Except.ok.inj hret
    rw [hid, hzero]
  · cases hrest

theorem sflag_of_pos (h : 0 < m.buffer.length) : ∃ b, m.sflag = .ok b := by
  unfold sflag messageFlags readUInt8
  rw [readUIntLE_of_le (by omega)]
  exact ⟨_, rfl⟩

/-- The source node id is read past the header, where the S flag announces it. -/
theorem sourceNodeId_of_le {b : Bool} (hs : m.sflag = .ok b)
    (h : b = true → 16 ≤ m.buffer.length) : ∃ id, m.sourceNodeId = .ok id := by
  unfold sourceNodeId
  rw [hs]
  cases b with
  | true => exact ⟨_, readUIntLE_of_le (h rfl)⟩
  | false => exact ⟨_, rfl⟩

theorem sourceNodeId_of_short (hs : m.sflag = .ok true) (h : m.buffer.length < 16) :
    m.sourceNodeId = .error .rangeError := by
  unfold sourceNodeId
  rw [hs]
  exact readUIntLE_of_short h

/-- The payload stands past the header, and past the source node id where there is one. -/
theorem payload_eq_ok {pay : Bytes} (h : m.payload = .ok pay) :
    ∃ off b, m.payloadOffset = .ok off ∧ m.sflag = .ok b ∧ pay = m.buffer.drop off ∧ 8 ≤ off ∧
      (b = true → 16 ≤ off) := by
  obtain ⟨off, hoff, hpay⟩ := bind_eq_ok h
  obtain ⟨b, hb, hrest⟩ := bind_eq_ok hoff
  obtain ⟨dsiz, -, hret⟩ := bind_eq_ok hrest
  have hlow : messageHeaderMinSize + (if b then 8 else 0) ≤ off := by
    rw [← Except.ok.inj hret]
    exact Nat.le_add_right ..
  refine ⟨off, b, hoff, hb, ?_, ?_, ?_⟩
  · rw [← Except.ok.inj hpay, subarrayFrom_nat]
  · unfold messageHeaderMinSize at hlow
    omega
  · rintro rfl
    exact hlow

/-- A message with a byte in its payload has a counter and a source node id. -/
theorem header_of_payload {pay : Bytes} {w off v : Nat} (hpay : m.payload = .ok pay)
    (hread : readUIntLE w pay off = .ok v) (hpos : 0 < off + w) :
    8 ≤ m.buffer.length ∧ ∃ source, m.sourceNodeId = .ok source := by
  have hlen := readUIntLE_eq_ok hread
  obtain ⟨start, b, -, hb, hdrop, h8, h16⟩ := payload_eq_ok hpay
  rw [hdrop, List.length_drop] at hlen
  exact ⟨by omega, sourceNodeId_of_le hb fun hset => (h16 hset).trans (by omega)⟩

theorem header_of_exchangeId {exchangeId : Nat} (h : m.exchangeId = .ok exchangeId) :
    8 ≤ m.buffer.length := by
  obtain ⟨pay, hpay, hread⟩ := bind_eq_ok h
  exact (header_of_payload hpay hread (by decide)).1

theorem header_of_iflag {iflag : Bool} (h : m.iflag = .ok iflag) :
    8 ≤ m.buffer.length ∧ ∃ source, m.sourceNodeId = .ok source := by
  obtain ⟨flags, hflags, -⟩ := bind_eq_ok h
  obtain ⟨pay, hpay, hread⟩ := bind_eq_ok hflags
  exact header_of_payload hpay hread (by decide)

/-- A message with a protocol id has a whole exchange header, after a whole message header. -/
theorem protocolId_eq_ok {protocolId : Nat} (h : m.protocolId = .ok protocolId) :
    (∃ id, m.exchangeId = .ok id) ∧ (∃ flags, m.exchangeFlags = .ok flags) ∧
      (∃ opcode, m.protocolOpcode = .ok opcode) ∧ 8 ≤ m.buffer.length ∧
      ∃ source, m.sourceNodeId = .ok source := by
  obtain ⟨pay, hpay, hread⟩ := bind_eq_ok h
  have hlen := readUIntLE_eq_ok hread
  unfold exchangeId exchangeFlags protocolOpcode
  rw [hpay]
  exact ⟨⟨_, readUIntLE_of_le (by omega)⟩, ⟨_, readUIntLE_of_le (by omega)⟩,
    ⟨_, readUIntLE_of_le (by omega)⟩, header_of_payload hpay hread (by decide)⟩

end Length

end Message

end Matternode.Messaging
