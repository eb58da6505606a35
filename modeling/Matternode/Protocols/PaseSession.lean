/-
  File:      Matternode/Protocols/PaseSession.lean
  Subject:   PaseSession: the handshake that makes a secure session from a passcode.

  A handler that awaits is cut where it waits: what it goes on with is a `Pending` entry, and an
  event of the machine resumes one. Between, any message, timeout or other event may come. The
  packages for curves and hashes are parameters (`Packages`).

  * `PaseSession` -- the object; `PaseHost` -- with its node, timers, pending handlers, and the
    record of what it handed to its exchange and of the sessions it made;
  * the handlers `onPbkdfParamRequest`, `onPbkdfParamResponse`, `onPake1`, `onPake2`, `onPake3`;
  * `resume` -- what an awaiting handler does next;
  * `PaseEvent`, `PaseHost.step` -- the machine.
-/
import Matternode.Messaging.Exchange
import Matternode.Tlv.Parser

namespace Matternode.Protocols

open Base Js Messaging Tlv

/-! ## 1. Packages -/

/-- What `finish` of spake2 answers. -/
structure SharedSecret where
  Ka : Bytes
  Ke : Bytes
  KcA : Bytes
  KcB : Bytes
  verifyHash : JsValue → Except JsError Unit

/-- A client or server of spake2. -/
structure Party where
  getMessage : Bytes
  finish : JsValue → Except JsError SharedSecret

/-- The packages, and the hashes of Node; `V` is a verifier of spake2. -/
structure Packages (V : Type) where
  aead : Aead
  hkdf : SessionCryptoContext.Hkdf
  sha256 : Bytes → Bytes
  pbkdf2 : (password salt : Bytes) → (iterations keyLen : Nat) → Bytes
  /-- The uncompressed encoding of a point, as elliptic answers it. -/
  encodePoint : Bytes → Except JsError Bytes
  computeVerifierFromSecret : (w0s w1s : Bytes) → Except JsError V
  startClient : (context : Bytes) → V → (coin : Nat) → Except JsError Party
  startServer : (context : Bytes) → V → (coin : Nat) → Except JsError Party
  /-- `cipherSuite.mac(content, secret)`. -/
  mac : (content : JsValue) → (secret : Bytes) → Except JsError Bytes

/-- `crypto.pbkdf2Sync(password, salt, iterations, keyLen, 'sha256')`. -/
def pbkdf2Sync {V : Type} (P : Packages V) (password : Bytes) (salt iterations : JsValue)
    (keyLen : Nat) : Except JsError Bytes := do
  let salt ← match salt with
    | .string s => .ok (utf8Encode s.toList)
    | .buffer bs => .ok bs
    | _ => .error .typeError
  match iterations with
  | .number x =>
    if x.isInteger ∧ 1 ≤ x.toInteger ∧ x.toInteger ≤ 2147483647 then
      return P.pbkdf2 password salt x.toInteger.toNat keyLen
    else .error .rangeError
  | _ => .error .typeError

/-! ## 2. Messages -/

/-- SessionProtocolConst. -/
def secureChannel : Nat := 0x0000
def opParamRequest : Nat := 0x20
def opParamResponse : Nat := 0x21
def opPake1 : Nat := 0x22
def opPake2 : Nat := 0x23
def opPake3 : Nat := 0x24
def opStatusReport : Nat := 0x40

/-- `new Message()` with the protocol id, an opcode and a payload. -/
def protocolMessage (opcode : Nat) (payload : Bytes) : Except JsError Message := do
  let msg : Message := {}
  let msg ← msg.setProtocolId (.nat secureChannel)
  let msg ← msg.setProtocolOpcode (.nat opcode)
  return msg.setAppPayload payload

/-- A field of a template. -/
def field (tag : Int) (type : TypeLabel) (value : JsValue) : Entry JsValue :=
  { tag := some tag, type := some type, value }

/-- `{ "type": "struct", "value": [...] }`. -/
def structOf (fields : List (Entry JsValue)) : JsValue :=
  .object { type := some .struct, value := .array fields }

/-- `hasPbkdfParameters` is asked for a field that `params` spells `havePbkdfParameters`. -/
def templateMsgPasePbkdfParamRequest (initiatorRandom initiatorSessionId passcodeId : JsValue)
    (sleepyIdleInterval sleepyActiveInterval : Nat) : JsValue :=
  structOf [
    field 1 .buffer initiatorRandom,
    field 2 .uint16 initiatorSessionId,
    field 3 .uint16 passcodeId,
    field 4 .boolean .undefined,
    field 5 .struct (.array [
      field 1 .uint32 (.nat sleepyIdleInterval),
      field 2 .uint32 (.nat sleepyActiveInterval)])]

def mapMsgPasePbkdfParamRequest : Parser.TagNames :=
  [(1, "initiatorRandom"), (2, "initiatorSessionId"), (3, "passcodeId"), (4, "hasPbkdfParameters"),
   (5, "initiatorSedParameters")]

def templateMsgPasePbkdfParamResponse
    (initiatorRandom responderRandom responderSessionId iterations salt : JsValue) : JsValue :=
  structOf [
    field 1 .buffer initiatorRandom,
    field 2 .buffer responderRandom,
    field 3 .uint16 responderSessionId,
    field 4 .struct (.array [
      field 1 .uint16 iterations,
      field 2 .buffer salt])]

def mapMsgPasePbkdfParamResponse : Parser.TagNames :=
  [(1, "initiatorRandom"), (2, "responderRandom"), (3, "responderSessionId"),
   (4, "pbkdfParameters")]

def templateMsgPasePake1 (pA : JsValue) : JsValue := structOf [field 1 .buffer pA]

def templateMsgPasePake2 (pB cB : JsValue) : JsValue :=
  structOf [field 1 .buffer pB, field 2 .buffer cB]

def templateMsgPasePake3 (cA : JsValue) : JsValue := structOf [field 1 .buffer cA]

/-- `sendStatus` writes its three fields at the start of the payload, one over the other. -/
def statusPayload (generalCode protocolId protocolCode : Nat) : Except JsError Bytes := do
  let payload ← writeUInt16LE (bufferAlloc 8) (.nat generalCode) 0
  let payload ← writeUInt32LE payload (.nat protocolId) 0
  writeUInt16LE payload (.nat protocolCode) 0

/-- `reader.decode(tlv).Json[0].value`, the fields of the outer structure. -/
def decodeFields (tlv : Bytes) (tagNames : Parser.TagNames) : Except JsError JsValue := do
  let tlvJson ← decode tlv
  Parser.mapFields (← (JsValue.array tlvJson).valueAt 0) tagNames

/-- `reader.decode(tlv).Json[0].value[i].value`. -/
def decodeAt (tlv : Bytes) (i : Nat) : Except JsError JsValue := do
  (← (JsValue.array (← decode tlv)).valueAt 0).valueAt i

/-- The hexadecimal text of bytes. -/
def hexText (bs : Bytes) : JsValue := .string (String.ofList (toHex bs))

/-! ## 3. The object -/

/-- PaseSession.State. -/
inductive PaseState where
  | idle | awaitPbkdfParamRsp | awaitPake1 | awaitPake2 | awaitPake3
  deriving DecidableEq, Repr

/-- PaseSession.Role. -/
inductive Role where
  | initiator | responder
  deriving DecidableEq, Repr

/-- PaseSession.PASE_CONTEXT_SALT. -/
def paseContextSalt : String := "CHIP PAKE V1 Commissioning"

/-- The PBKDF parameters, typically set by Joiner init; else those of the constructor. -/
structure PbkdfParams where
  paircode : JsValue := .nat 20202021
  iterations : JsValue := .nat 1000
  salt : JsValue := .string "SPAKE2P Key Salt"
  saltHex : JsValue := hexText (utf8Encode "SPAKE2P Key Salt".toList)

structure PaseSession (V : Type) where
  state : PaseState := .idle
  stateTimeout : Option Nat := none
  paramPaircode : JsValue
  paramIterations : JsValue
  paramSalt : JsValue
  paramSaltHex : JsValue
  localRole : Role := .initiator
  initiatorRandom : JsValue := .undefined
  initiatorSessionId : JsValue := .undefined
  passcodeId : JsValue := .undefined
  responderRandom : JsValue := .undefined
  responderSessionId : JsValue := .undefined
  pA : JsValue := .undefined
  pB : JsValue := .undefined
  cA : JsValue := .undefined
  cB : JsValue := .undefined
  pbkdfRequest : Option Bytes := none
  pbkdfResponse : Option Bytes := none
  /-- The context `_spake2` was made with. -/
  spake2 : Option Bytes := none
  spakeContext : Option Bytes := none
  spakeVerifier : Option V := none
  spakeServer : Option Party := none
  spakeClient : Option Party := none
  secret : Option SharedSecret := none

/-- `new PaseSession(sessionMgr)`. -/
def PaseSession.new {V : Type} (params : PbkdfParams) : PaseSession V where
  paramPaircode := params.paircode
  paramIterations := params.iterations
  paramSalt := params.salt
  paramSaltHex := params.saltHex

/-- Which handler awaits: `onPbkdfParamResponse` or `onPake1`. -/
inductive Side where
  | client | server
  deriving DecidableEq, Repr

/-- What an awaiting handler goes on with. -/
inductive Pending (V : Type) where
  /-- `generateVerifier` has its verifier. -/
  | verifier (side : Side) (v : V)
  /-- The handler has what `generateVerifier` answered. -/
  | generated (side : Side) (v : V)
  /-- The handler has its client or server. -/
  | started (side : Side) (party : Party)

def Pending.side {V : Type} : Pending V → Side
  | .verifier side _ | .generated side _ | .started side _ => side

/-- A call of `createSecureSession`: the message being handled, the place of the new session, and
    the object as it was. -/
structure Creation (V : Type) where
  handling : Nat
  session : Nat
  pase : PaseSession V

/-- A PaseSession in its node. `sent` and `created` record the messages handed to the exchange and
    the sessions made. -/
structure PaseHost (V : Type) where
  pase : PaseSession V
  node : Node
  exchange : Nat
  timers : List Nat := []
  nextTimer : Nat := 1
  pending : List (Pending V) := []
  sent : List Message := []
  created : List (Creation V) := []

abbrev PaseM (V : Type) := EStateM JsError (PaseHost V)

/-- `PaseSession.create(exchange, sessionMgr)`. -/
def PaseHost.create {V : Type} (n : Node) (exchange : Nat) (params : PbkdfParams) : PaseHost V where
  pase := .new params
  node := n.modifyExchange exchange fun ex => { ex with isReliable := true }
  exchange := exchange

namespace PaseSession

variable {V : Type} (P : Packages V)

/-- An assignment to fields of the object. -/
def assign (f : PaseSession V → PaseSession V) : PaseM V Unit :=
  modify fun h => { h with pase := f h.pase }

def onNode {α : Type} (m : NodeM α) : PaseM V α :=
  zoom PaseHost.node (fun n h => { h with node := n }) m

/-- Bytes drawn by the node. -/
def draw {α : Type} (m : EStateM JsError Outside α) : PaseM V α :=
  onNode (Node.onSessions (zoom SessionManager.outside (fun o h => { h with outside := o }) m))

/-! ## 4. The state and its timer -/

/-- `clearTimeout()`: the handle stays in the field. -/
def clearTimeout : PaseM V Unit :=
  modify fun h =>
    match h.pase.stateTimeout with
    | none => h
    | some handle => { h with timers := h.timers.filter (· ≠ handle) }

def setTimeout : PaseM V Unit := do
  clearTimeout
  modify fun h => { h with
    pase := { h.pase with stateTimeout := some h.nextTimer }
    timers := h.timers ++ [h.nextTimer]
    nextTimer := h.nextTimer + 1 }

def setState (state : PaseState) : PaseM V Unit := do
  assign fun p => { p with state := state }
  if state = .idle then clearTimeout else setTimeout

/-- `this.Exchange.sendMessage(msg)`. -/
def sendMessage (msg : Message) : PaseM V Unit := do
  modify fun h => { h with sent := h.sent ++ [msg] }
  let _ ← onNode (Node.sendMessage P.aead (← get).exchange msg)

/-! ## 5. The verifier -/

/-- `computeContext()`. -/
def computeContext : PaseM V Bytes := do
  let p := (← get).pase
  match p.pbkdfRequest, p.pbkdfResponse with
  | some request, some response =>
    let context := P.sha256 (utf8Encode paseContextSalt.toList ++ request ++ response)
    assign fun p => { p with spakeContext := some context }
    return context
  | _, _ => throw .typeError

/-- `this._spake2 = spake2Plus({ …, context: this.computeContext() })`. -/
def newSpake2 : PaseM V Unit := do
  let context ← computeContext P
  assign fun p => { p with spake2 := some context }

/-- The length of the derived secret, both halves. -/
def keyLen : Nat := 80

/-- `generateVerifier(iterations, salt)`, up to where it awaits its verifier. -/
def generateVerifier (side : Side) (iterations : JsValue := .undefined)
    (salt : JsValue := .undefined) : PaseM V Unit := do
  assign fun p => { p with
    paramIterations := match iterations with | .undefined => p.paramIterations | v => v
    paramSalt := match salt with | .undefined => p.paramSalt | v => v }
  let p := (← get).pase
  let passcode ← lift (writeUInt32LE (bufferAlloc 4) p.paramPaircode 0)
  let w0sw1s ← lift (pbkdf2Sync P passcode p.paramSalt p.paramIterations keyLen)
  let w0s := subarray w0sw1s 0 (keyLen / 2 : Nat)
  let w1s := subarray w0sw1s (keyLen / 2 : Nat) keyLen
  let v ← lift (P.computeVerifierFromSecret w0s w1s)
  modify fun h => { h with pending := h.pending ++ [.verifier side v] }

/-! ## 6. The initiator -/

/-- `sendPbkdfParamRequest()`. -/
def sendPbkdfParamRequest : PaseM V Unit := do
  assign fun p => { p with localRole := .initiator }
  let id ← draw randomU16
  assign fun p => { p with initiatorSessionId := .nat id }
  let random ← draw (randomBytes 32)
  assign fun p => { p with initiatorRandom := .buffer random, passcodeId := .nat 0 }
  let payload ← lift (encodeBuffer
    (templateMsgPasePbkdfParamRequest (.buffer random) (.nat id) (.nat 0) 4000 300))
  assign fun p => { p with pbkdfRequest := some payload }
  let msg ← lift (protocolMessage opParamRequest payload)
  setState .awaitPbkdfParamRsp
  sendMessage P msg

/-- `startPase(host, port, passcode)`; it reads none of its arguments. -/
def startPase : PaseM V Unit := do
  if (← get).pase.state ≠ .idle then return
  else sendPbkdfParamRequest P

/-- `onPbkdfParamResponse(msg)`, up to where it awaits; it does not look at the state. -/
def onPbkdfParamResponse (msg : Message) : PaseM V Unit := do
  let tlv ← lift msg.appPayload
  assign fun p => { p with pbkdfResponse := some tlv }
  let tlvJson ← lift (decodeFields tlv mapMsgPasePbkdfParamResponse)
  let responderSessionId ← lift (Parser.get tlvJson "responderSessionId")
  assign fun p => { p with responderSessionId := responderSessionId }
  let pbkdfParameters ← lift (Parser.get tlvJson "pbkdfParameters")
  let iterations ← lift (pbkdfParameters.valueAt 0)
  let salt ← lift (pbkdfParameters.valueAt 1)
  newSpake2 P
  generateVerifier P .client iterations salt

def sendPake1 : PaseM V Unit := do
  let payload ← lift (encodeBuffer (templateMsgPasePake1 (← get).pase.pA))
  let msg ← lift (protocolMessage opPake1 payload)
  setState .awaitPake2
  modify fun h => { h with
    node := h.node.modifyExchange h.exchange fun ex => { ex with isAck := true } }
  sendMessage P msg

/-- `createSecureSession()`, called while a message with the opcode is handled. -/
def createSecureSession (handling : Nat) : PaseM V Unit := do
  let h ← get
  let p := h.pase
  let creation : Creation V :=
    { handling, session := h.node.sessions.sessionsSecured.length, pase := p }
  modify fun h => { h with created := h.created ++ [creation] }
  let (localId, peerId) := match p.localRole with
    | .initiator => (p.initiatorSessionId, p.responderSessionId)
    | .responder => (p.responderSessionId, p.initiatorSessionId)
  match p.secret with
  | some secret =>
    onNode (Node.onSessions (SessionManager.createSecureSession P.hkdf localId peerId secret.Ke))
  | none => do
    let _ ← onNode (Node.onSessions (SessionManager.newSession localId peerId))
    throw .typeError

def sendPake3 : PaseM V Unit := do
  let payload ← lift (encodeBuffer (templateMsgPasePake3 (← get).pase.cA))
  let msg ← lift (protocolMessage opPake3 payload)
  setState .idle
  sendMessage P msg
  createSecureSession P opPake2

/-- `onPake2(msg)`: it traces the confirmation it received, and compares it with nothing. -/
def onPake2 (msg : Message) : PaseM V Unit := do
  if (← get).pase.state ≠ .awaitPake2 then return
  else do
    let tlv ← lift msg.appPayload
    let pB ← lift (decodeAt tlv 0)
    assign fun p => { p with pB := pB }
    let cB ← lift (decodeAt tlv 1)
    assign fun p => { p with cB := cB }
    match (← get).pase.spakeClient with
    | none => throw .typeError
    | some client =>
      let secret ← lift (client.finish pB)
      assign fun p => { p with secret := some secret }
      let mac ← lift (P.mac pB secret.KcA)
      assign fun p => { p with cA := hexText mac }
      let _ ← lift pB.toStringHex
      let _ ← lift cB.toStringHex
      let _ ← lift (← get).pase.pA.toStringHex
      sendPake3 P

/-! ## 7. The responder -/

def sendPbkdfParamResponse : PaseM V Unit := do
  let responderRandom ← draw (randomBytes 32)
  assign fun p => { p with responderRandom := .buffer responderRandom }
  let id ← draw randomU16
  assign fun p => { p with responderSessionId := .nat id }
  let p := (← get).pase
  let initiatorRandom ← lift p.initiatorRandom.toStringHex
  let payload ← lift (encodeBuffer
    (templateMsgPasePbkdfParamResponse (.string initiatorRandom) (hexText responderRandom) (.nat id)
      p.paramIterations p.paramSaltHex))
  let msg ← lift (protocolMessage opParamResponse payload)
  assign fun p => { p with pbkdfResponse := some payload }
  setState .awaitPake1
  sendMessage P msg

def onPbkdfParamRequest (msg : Message) : PaseM V Unit := do
  if (← get).pase.state ≠ .idle then return
  else do
    let tlv ← lift msg.appPayload
    let tlvJson ← lift (decodeFields tlv mapMsgPasePbkdfParamRequest)
    let initiatorRandom ← lift (Parser.get tlvJson "initiatorRandom")
    let initiatorSessionId ← lift (Parser.get tlvJson "initiatorSessionId")
    let passcodeId ← lift (Parser.get tlvJson "passcodeId")
    assign fun p => { p with
      initiatorRandom := initiatorRandom
      initiatorSessionId := initiatorSessionId
      passcodeId := passcodeId
      localRole := .responder
      pbkdfRequest := some tlv }
    let _ ← lift initiatorRandom.toStringHex
    sendPbkdfParamResponse P

/-- `onPake1(msg)`, up to where it awaits. -/
def onPake1 (msg : Message) : PaseM V Unit := do
  if (← get).pase.state ≠ .awaitPake1 then return
  else do
    let tlv ← lift msg.appPayload
    let pA ← lift (decodeAt tlv 0)
    assign fun p => { p with pA := pA }
    newSpake2 P
    let _ ← lift pA.toStringHex
    generateVerifier P .server

def sendPake2 : PaseM V Unit := do
  let p := (← get).pase
  let payload ← lift (encodeBuffer (templateMsgPasePake2 p.pB p.cB))
  let msg ← lift (protocolMessage opPake2 payload)
  setState .awaitPake3
  sendMessage P msg

/-- `onPake3(msg)`: `verifyHash` throws on a confirmation it does not accept. -/
def onPake3 (msg : Message) : PaseM V Unit := do
  if (← get).pase.state ≠ .awaitPake3 then return
  else do
    let tlv ← lift msg.appPayload
    let cA ← lift (decodeAt tlv 0)
    assign fun p => { p with cA := cA }
    let _ ← lift cA.toStringHex
    match (← get).pase.secret with
    | none => throw .typeError
    | some secret =>
      lift (secret.verifyHash cA)
      let payload ← lift (statusPayload 0 secureChannel 0)
      let report ← lift (protocolMessage opStatusReport payload)
      sendMessage P report
      createSecureSession P opPake3
      setState .idle

/-! ## 8. Handlers that awaited -/

/-- `generateVerifier` after its verifier came. -/
def resumeVerifier (side : Side) (v : V) : PaseM V Unit := do
  assign fun p => { p with spakeVerifier := some v }
  modify fun h => { h with pending := h.pending ++ [.generated side v] }

/-- `await this._spake2.startClient(verifier)`, or the server. -/
def resumeGenerated (side : Side) (v : V) (coin : Nat) : PaseM V Unit := do
  match (← get).pase.spake2 with
  | none => throw .typeError
  | some context =>
    let party ← lift (match side with
      | .client => P.startClient context v coin
      | .server => P.startServer context v coin)
    modify fun h => { h with pending := h.pending ++ [.started side party] }

/-- The rest of `onPbkdfParamResponse`. -/
def resumeClient (client : Party) : PaseM V Unit := do
  assign fun p => { p with spakeClient := some client }
  let point ← lift (P.encodePoint client.getMessage)
  assign fun p => { p with pA := hexText point }
  sendPake1 P

/-- The rest of `onPake1`. -/
def resumeServer (server : Party) : PaseM V Unit := do
  assign fun p => { p with spakeServer := some server }
  let point ← lift (P.encodePoint server.getMessage)
  assign fun p => { p with pB := hexText point }
  let pA := (← get).pase.pA
  let secret ← lift (server.finish pA)
  assign fun p => { p with secret := some secret }
  let mac ← lift (P.mac pA secret.KcB)
  assign fun p => { p with cB := hexText mac }
  sendPake2 P

def resume (coin : Nat) : Pending V → PaseM V Unit
  | .verifier side v => resumeVerifier side v
  | .generated side v => resumeGenerated P side v coin
  | .started .client party => resumeClient P party
  | .started .server party => resumeServer P party

/-! ## 9. Messages of the exchange -/

/-- `onExchangeMessage(msg, exchange)`. -/
def onExchangeMessage (msg : Message) : PaseM V Unit := do
  let opcode ← lift msg.protocolOpcode
  let _ ← lift msg.exchangeId
  if opcode = opParamRequest then onPbkdfParamRequest P msg
  else if opcode = opParamResponse then onPbkdfParamResponse P msg
  else if opcode = opPake1 then onPake1 P msg
  else if opcode = opPake2 then onPake2 P msg
  else if opcode = opPake3 then onPake3 P msg
  else return

/-- `exchange.AckCounter = msg.MessageCounter`, before the exchange emits the message. -/
def acknowledge (msg : Message) : PaseM V Unit := do
  let counter ← lift msg.messageCounter
  modify fun h => { h with
    node := h.node.modifyExchange h.exchange fun ex => { ex with ackCounter := counter } }

end PaseSession

/-! ## 10. The machine -/

inductive PaseEvent where
  /-- `startPase()`. -/
  | start
  /-- A message of the exchange. -/
  | message (msg : Message)
  /-- What the pending handler with this place awaited has come. -/
  | resume (i coin : Nat)
  /-- The timer with this handle runs out. -/
  | timeout (handle : Nat)
  /-- Anything else of the node. -/
  | node (e : NodeEvent)

namespace PaseHost

open PaseSession

variable {V : Type} (P : Packages V)

/-- One event; what threw leaves what it changed. -/
def step (h : PaseHost V) : PaseEvent → PaseHost V
  | .start => final ((startPase P).run h)
  | .message msg => final ((do acknowledge msg; onExchangeMessage P msg : PaseM V Unit).run h)
  | .resume i coin =>
    match h.pending[i]? with
    | none => h
    | some pending =>
      final ((resume P coin pending).run { h with pending := h.pending.eraseIdx i })
  | .timeout handle =>
    if handle ∈ h.timers then
      final ((setState .idle).run { h with timers := h.timers.filter (· ≠ handle) })
    else h
  | .node e => { h with node := h.node.step P.aead P.hkdf e }

/-- Nothing waits at the place. -/
theorem step_resume_none {h : PaseHost V} {i : Nat} (hp : h.pending[i]? = none) (coin : Nat) :
    h.step P (.resume i coin) = h := by
  simp only [step, hp]

theorem step_resume_some {h : PaseHost V} {i : Nat} {pending : Pending V}
    (hp : h.pending[i]? = some pending) (coin : Nat) :
    h.step P (.resume i coin) =
      final ((resume P coin pending).run { h with pending := h.pending.eraseIdx i }) := by
  simp only [step, hp]

end PaseHost

/-! ## 11. Samples -/

/-- A code that looks at its key only. -/
def sampleMac (secret : Bytes) : Bytes := (secret ++ bufferAlloc 32).take 32

/-- A party whose secret is its context and verifier. -/
def sampleParty (context verifier : Bytes) (coin : Nat) : Party where
  getMessage := 4 :: List.replicate 64 (UInt8.ofNat coin)
  finish _ := .ok
    { Ka := context, Ke := context, KcA := 0 :: verifier, KcB := 1 :: verifier
      verifyHash
        | .buffer bs => if bs = sampleMac (0 :: verifier) then .ok () else .error (.thrown "invalid")
        | _ => .error .typeError }

/-- Packages for sample runs. -/
def samplePackages : Packages Bytes where
  aead := Aead.keyTag
  hkdf _ _ _ len := List.replicate len 7
  sha256 bs := (bs ++ bufferAlloc 32).take 32
  pbkdf2 password salt _ keyLen := (password ++ salt ++ bufferAlloc keyLen).take keyLen
  encodePoint := .ok
  computeVerifierFromSecret w0s w1s := .ok (w0s ++ w1s)
  startClient context v coin := .ok (sampleParty context v coin)
  startServer context v coin := .ok (sampleParty context v coin)
  mac _ secret := .ok (sampleMac secret)

/-- A node with one exchange, on an unsecured session to a node it knows. -/
def sampleNode (isInitiator : Bool) : Node where
  sessions :=
    { outside := { entropy := fun i => UInt8.ofNat (i + 1) }
      sessionsUnsecured := [
        { localSessionId := .nat unsecuredSessionId
          peerSessionId := .nat unsecuredSessionId
          peerNodeId := some 1
          peerInfo := some ⟨"::1", 5540⟩
          secure := false
          messageCounter := 1
          cryptoContext := none
          context := rfl }] }
  exchanges := [{ exchangeId := 1, session := .unsecured 0, isInitiator }]

/-- A message with a template's bytes. -/
def sampleMessage (opcode : Nat) (json : JsValue) : Message :=
  (do protocolMessage opcode (← encodeBuffer json)).toOption.getD {}

def sampleRequest (initiatorSessionId : Nat) : Message :=
  sampleMessage opParamRequest
    (templateMsgPasePbkdfParamRequest (.buffer [1]) (.nat initiatorSessionId) (.nat 0) 4000 300)

def sampleResponse (responderSessionId : Nat) : Message :=
  sampleMessage opParamResponse
    (templateMsgPasePbkdfParamResponse (.buffer [1]) (.buffer [2]) (.nat responderSessionId)
      (.nat 1000) (.buffer [3]))

/-- The code a responder with the default parameters accepts. -/
def sampleCode : Bytes :=
  sampleMac (0 :: samplePackages.pbkdf2 [0x25, 0x42, 0x34, 0x01]
    (utf8Encode "SPAKE2P Key Salt".toList) 1000 80)

/-- A handshake of a responder with an initiator that has the id. -/
def responderRun (initiatorSessionId : Nat) : List PaseEvent :=
  [.message (sampleRequest initiatorSessionId),
    .message (sampleMessage opPake1 (templateMsgPasePake1 (.buffer [4]))),
    .resume 0 0, .resume 0 0, .resume 0 0,
    .message (sampleMessage opPake3 (templateMsgPasePake3 (.buffer sampleCode)))]

end Matternode.Protocols
