/-
  File:      Matternode/Messaging/Session.lean
  Subject:   Session: keys, counters, and the frames a session sends and decrypts.

  What lies outside the code is state too: the random bytes still to be drawn, the calls of the
  cipher, and the frames handed to a transport (`Outside`). The cipher and the key derivation are
  parameters.

  * `SessionCryptoContext`, `Session` -- a session holds a crypto context exactly when it is secure;
  * `Session.stamp` -- the header `sendMessage` writes, up to the counter it takes;
  * `Session.sendMessage`, `Session.decryptMessage`.
-/
import Matternode.Messaging.Message

namespace Matternode.Messaging

open Base Js

/-! ## 1. The outside -/

inductive Transport where
  | server | client
  deriving DecidableEq, Repr

/-- A call of `MsgCodec.encrypt`'s cipher: the key, the nonce, and the frame in the clear. -/
structure Ciphered where
  key : Bytes
  nonce : Bytes
  frame : Bytes
  deriving DecidableEq, Repr

/-- A call of `Transport.send`. -/
structure Transmission where
  transport : Transport
  peer : PeerInfo
  frame : Bytes
  deriving DecidableEq, Repr

structure Outside where
  entropy : Nat → UInt8
  ciphered : List Ciphered := []
  transmitted : List Transmission := []

/-- `crypto.randomBytes(n)`. -/
def randomBytes (n : Nat) : EStateM JsError Outside Bytes := do
  let entropy := (← get).entropy
  modify fun o => { o with entropy := fun i => o.entropy (n + i) }
  return (List.range n).map entropy

/-- Crypto.RandomU16. -/
def randomU16 : EStateM JsError Outside Nat := ofBE <$> randomBytes 2

/-- Crypto.RandomU32. -/
def randomU32 : EStateM JsError Outside Nat := ofBE <$> randomBytes 4

/-- Crypto.RandomU64. -/
def randomU64 : EStateM JsError Outside Nat := ofBE <$> randomBytes 8

/-! ## 2. Sessions -/

/-- The session keys, by SessionCryptoContext.KeyIndex. -/
structure SessionCryptoContext where
  i2rKey : Bytes
  r2iKey : Bytes
  attestationChallenge : Bytes
  deriving DecidableEq, Repr

namespace SessionCryptoContext

/-- `_keys[index]`. -/
def keys (c : SessionCryptoContext) : Nat → Bytes
  | 0 => c.i2rKey
  | 1 => c.r2iKey
  | _ => c.attestationChallenge

/-- The keys of a new context. -/
def default : SessionCryptoContext where
  i2rKey := fromHex "5eded244e5532b3cdc23409dbad052d2".toList
  r2iKey := fromHex "a9e011b1737c6d4b70e4c0a2fe660476".toList
  attestationChallenge := fromHex "c5aead0e0691c420284c9580f90e07b0".toList

/-- HKDF-SHA256. -/
abbrev Hkdf := (secret salt info : Bytes) → (len : Nat) → Bytes

def initFromSecret (hkdf : Hkdf) (secret salt info : Bytes) (len : Nat := 48) :
    SessionCryptoContext :=
  let sessionKey := hkdf secret salt info len
  { i2rKey := subarray sessionKey 0 16
    r2iKey := subarray sessionKey 16 32
    attestationChallenge := subarrayFrom sessionKey 32 }

end SessionCryptoContext

/-- Session.UNSECURED_SESSION_ID. -/
def unsecuredSessionId : Nat := 0

structure Session where
  localSessionId : JsValue
  peerSessionId : JsValue
  peerNodeId : Option Nat := none
  peerInfo : Option PeerInfo := none
  peerMessageCounter : Nat := 0
  initiator : Bool := false
  secure : Bool
  messageCounter : Nat
  metricTxCount : Nat := 0
  metricRxCount : Nat := 0
  transport : Transport := .server
  cryptoContext : Option SessionCryptoContext
  context : cryptoContext.isSome = secure

namespace Session

/-- `new Session(localSessionId, peerSessionId, secure)`. -/
def new (localSessionId peerSessionId : JsValue) (secure : Bool) :
    EStateM JsError Outside Session := do
  let r ← randomU32
  return { localSessionId, peerSessionId, secure
           messageCounter := (r &&& 0x0FFFFFFF) + 1
           cryptoContext := if secure then some .default else none
           context := by cases secure <;> rfl }

/-- `get AttestationChallenge()`: an unsecured session has no crypto context to ask. -/
def attestationChallenge (s : Session) : Except JsError Bytes :=
  s.cryptoContext.elim (.error .typeError) fun c => .ok c.attestationChallenge

def initFromSecret (hkdf : SessionCryptoContext.Hkdf) (s : Session) (secret salt info : Bytes) :
    Except JsError Session :=
  match s.cryptoContext, s.context with
  | some _, h =>
    .ok { s with
      cryptoContext := some (.initFromSecret hkdf secret salt info)
      context := h }
  | none, _ => .error .typeError

/-- `updateActivity()`, less the time. -/
def updateActivity (s : Session) : Session := { s with metricRxCount := s.metricRxCount + 1 }

end Session

/-! ## 3. Sending -/

/-- What `sendMessage` works on. -/
structure SendState where
  session : Session
  outside : Outside

namespace Session

abbrev SendM := EStateM JsError SendState

/-- The fields `sendMessage` writes before it takes a counter. -/
def address (s : Session) (msg : Message) : Except JsError Message := do
  let msg ← msg.setMessageFlags (.nat 0)
  let msg ← msg.setSecurityFlags (.nat 0)
  msg.setSessionId s.peerSessionId

/-- The header `sendMessage` writes. -/
def stamp (s : Session) (msg : Message) : Except JsError Message := do
  (← s.address msg).setMessageCounter (.nat s.messageCounter)

/-- Which key encrypts: I2R or R2I. -/
def keyIndex (iflag : Bool) : Nat := if iflag then 0 else 1

/-- The branch of `sendMessage` for an encrypted message: the message and the frame. -/
def encryptMessage (A : Aead) (msg : Message) : SendM (Message × Bytes) := do
  let iflag ← lift msg.iflag
  match (← get).session.cryptoContext with
  | none => throw .typeError
  | some c =>
    let key := c.keys (keyIndex iflag)
    let buf := MsgCodec.encrypt A msg.buffer key
    modify fun st => { st with
      outside.ciphered := st.outside.ciphered ++ [⟨key, MsgCodec.getNonce msg.buffer, msg.buffer⟩] }
    return ({ msg with encrypted := some buf }, buf)

/-- `!!this.PeerNodeId`. -/
def hasPeerNodeId (s : Session) : Bool := s.peerNodeId.getD 0 ≠ 0

/-- A random node id for a session that has none, or has 0. -/
def allocatePeerNodeId : SendM Unit := do
  if (← get).session.hasPeerNodeId then return
  let id ← zoom SendState.outside (fun o st => { st with outside := o }) randomU64
  modify fun st => { st with session.peerNodeId := some id }

/-- A message with the node id as its source. -/
def fromNode (id : Nat) (msg : Message) : Except JsError Message := do
  let msg ← msg.setDsiz destinationTypeOmit
  let msg ← msg.setSflag sourceTypeNodeId
  msg.setSourceNodeId (.bigint id)

/-- A message with the node id as its destination. -/
def toNode (id : Nat) (msg : Message) : Except JsError Message := do
  let msg ← msg.setSflag sourceTypeOmit
  let msg ← msg.setDsiz destinationTypeNodeId
  msg.setDestinationNodeId (.bigint id)

/-- The branch of `sendMessage` for an unencrypted message: the message and the frame. The last
    line stands for `log.error`, which names a variable that is not declared. -/
def addressUnencrypted (msg : Message) : SendM (Message × Bytes) := do
  if ← lift msg.iflag then
    allocatePeerNodeId
    let msg ← lift (fromNode ((← get).session.peerNodeId.getD 0) msg)
    return (msg, msg.buffer)
  else if (← get).session.hasPeerNodeId then
    let msg ← lift (toNode ((← get).session.peerNodeId.getD 0) msg)
    return (msg, msg.buffer)
  else throw .referenceError

/-- `this.Transport.send(buf, this.PeerInfo.port, this.PeerInfo.address)`. -/
def transmit (buf : Bytes) : SendM Unit := do
  match (← get).session.peerInfo with
  | none => throw .typeError
  | some peer =>
    modify fun st => { st with
      outside.transmitted :=
        st.outside.transmitted ++ [⟨st.session.transport, peer, buf⟩] }

/-- `sendMessage` from where the header is written. -/
def sendStamped (A : Aead) (msg : Message) : SendM Message := do
  let (msg, buf) ← if ← lift msg.isEncrypted then encryptMessage A msg else addressUnencrypted msg
  transmit buf
  return msg

/-- `sendMessage(msg)`; it answers the message as it was changed. -/
def sendMessage (A : Aead) (msg : Message) : SendM Message := do
  let msg ← lift ((← get).session.address msg)
  let counter := (← get).session.messageCounter
  modify fun st => { st with session.messageCounter := counter + 1 }
  let msg ← lift (msg.setMessageCounter (.nat counter))
  modify fun st => { st with session.metricTxCount := st.session.metricTxCount + 1 }
  sendStamped A msg

/-! ## 4. Decrypting -/

/-- `decryptMessage(msg)`: the answer, and the message, which takes the plaintext. -/
def decryptMessage (A : Aead) (s : Session) (msg : Message) :
    Except JsError (Option Bytes × Message) := do
  if ← msg.isUnencrypted then return (none, msg)
  match s.cryptoContext, msg.encrypted with
  | some c, some buf =>
    match MsgCodec.decrypt A buf (c.keys (if s.initiator then 1 else 0)) with
    | none => return (none, msg)
    | some dmsg => return (some dmsg, { msg with buffer := dmsg })
  | _, _ => throw .typeError

end Session

end Matternode.Messaging
