/-
  File:      Matternode/Protocols/ImCommand.lean
  Subject:   ImCommandMixin: the commands of an InvokeRequest, and the cluster servers' handlers.

  A handler reads its own data by position from the payload, which it decodes again. `Answer` says
  what it does: the data it works on, and the payload it sends or what goes on later.

  * `CommandPath`, `templateMsgCommandResponseStatus`, `templateMsgCommandResponseData`;
  * `onAttestationRequest`, … -- the handlers of the operational credentials cluster;
  * `ClusterServer.onCommand` -- the handler of a command;
  * `commandAnswer` -- what is done for an entry of CommandList;
  * `onInvokeCommandRequest`, `onReadRequest` -- the two handlers of InteractionModel;
  * `resumeCsr` -- what goes on when a certificate request is there.
-/
import Matternode.Clusters.ExampleCerts
import Matternode.Protocols.ImRead
import Matternode.Protocols.InteractionModel
import Matternode.Protocols.PaseSession

namespace Matternode.Protocols.InteractionModel

open Base Js Tlv Messaging Clusters

/-! ## 1. Responses -/

structure CommandPath where
  endpointId : JsValue := .undefined
  clusterId : JsValue := .undefined
  commandId : JsValue := .undefined

namespace CommandPath

/-- `new CommandPath(pathTlv)`. -/
def ofTlv : JsValue → Except JsError CommandPath
  | .undefined => .ok {}
  | pathTlv => do
    return {
      endpointId := ← findTag pathTlv 0
      clusterId := ← findTag pathTlv 1
      commandId := ← findTag pathTlv 2 }

/-- `path.template(tag)`. -/
def template (path : CommandPath) (tag : Int := 0) : DeterministicJson :=
  field tag .list (.array [
    field 0 .uint16 path.endpointId,
    field 1 .uint16 path.clusterId,
    field 2 .uint16 path.commandId])

/-- `path.CommandId = id`. -/
def withCommand (path : CommandPath) (id : Nat) : CommandPath := { path with commandId := .nat id }

end CommandPath

/-- An entry of an array: it has no tag. -/
def arrayEntry (fields : List DeterministicJson) : DeterministicJson :=
  { type := some .struct, value := .array fields }

/-- `params.supressedResponse` is a field that no caller sets. -/
def templateMsgCommandResponseStatus (commandPath : CommandPath) (commandStatus : Nat) : JsValue :=
  structOf [
    field 0 .boolean .undefined,
    field 1 .array (.array [arrayEntry [
      field 1 .struct (.array [
        commandPath.template 0,
        field 1 .struct (.array [{ tag := some 0, value := .nat commandStatus }])])]]),
    field 0xFF .uint8 (.nat 1)]

def templateMsgCommandResponseData (commandPath : CommandPath)
    (commandData : List DeterministicJson) : JsValue :=
  structOf [
    field 0 .boolean (.boolean false),
    field 1 .array (.array [arrayEntry [
      field 0 .struct (.array [
        commandPath.template 0,
        field 1 .struct (.array commandData)])]]),
    field 0xFF .uint8 (.nat 1)]

/-- The payload of a response; its JSON goes to the log. -/
def responsePayload (json : JsValue) : Except JsError Bytes := do
  let payload ← encodeBuffer json
  stringify json
  return payload

/-- `sendInvokeCommandResponseStatus(exchange, commandPath, statusCode)`: what is sent. -/
def invokeCommandResponseStatus (commandPath : CommandPath) (statusCode : Nat) :
    Except JsError Bytes :=
  responsePayload (templateMsgCommandResponseStatus commandPath statusCode)

/-- `sendInvokeCommandResponseData(exchange, commandPath, commandData)`: what is sent. -/
def invokeCommandResponseData (commandPath : CommandPath) (commandData : List DeterministicJson) :
    Except JsError Bytes :=
  responsePayload (templateMsgCommandResponseData commandPath commandData)

/-! ## 2. Handlers -/

/-- What a handler does: nothing, send a response, wait for a certificate request, or send a response
    and read an operational certificate. The first value is the data it works on. -/
inductive Answer where
  | silent
  | response (data : JsValue) (payload : Bytes)
  | csr (csrNonce : JsValue) (commandPath : CommandPath)
  | noc (nocTlv : JsValue) (payload : Bytes)

/-- ECDSA by RFC6979, of a message with a private key. -/
abbrev Sign := (message privateKey : Bytes) → ByteString

/-- A response whose JSON the handler writes to the log first. -/
def loggedResponse (commandPath : CommandPath) (commandData : List DeterministicJson) :
    Except JsError Bytes := do
  stringify (.array commandData)
  invokeCommandResponseData commandPath commandData

namespace GeneralCommissioning

/-- ArmFailSafe and SetRegulatoryConfig: ErrorCode and DebugText. -/
def commissioningResponse (commandPath : CommandPath) (commandId : Nat) : Except JsError Answer := do
  let payload ← loggedResponse (commandPath.withCommand commandId) [
    field 0 (.other "uint8_t") (.nat 0),
    field 1 (.other "string") (.string "")]
  return .response .undefined payload

def onArmFailSafe (commandPath : CommandPath) : Except JsError Answer :=
  commissioningResponse commandPath 1

def onSetRegulatoryConfig (commandPath : CommandPath) : Except JsError Answer :=
  commissioningResponse commandPath 3

def onCommissioningComplete (commandPath : CommandPath) : Except JsError Answer := do
  return .response .undefined (← invokeCommandResponseStatus commandPath 0)

def onCommand (path : CommandPath) : Except JsError Answer :=
  if path.commandId.strictEqNat 0 then onArmFailSafe path
  else if path.commandId.strictEqNat 2 then onSetRegulatoryConfig path
  else if path.commandId.strictEqNat 4 then onCommissioningComplete path
  else return .silent

end GeneralCommissioning

namespace OperationalCredentials

/-- `result[0].value[2].value[0].value[1].value` of the decoded payload. -/
def commandData (tlv : Bytes) : Except JsError JsValue := do
  let result ← decode tlv
  let params ← (JsValue.array result).valueAt 0
  let commandList ← params.valueAt 2
  let command ← commandList.valueAt 0
  command.valueAt 1

/-- `result[0].value[2].value[0].value[1].value[0].value`. -/
def firstField (tlv : Bytes) : Except JsError JsValue := do
  (← commandData tlv).valueAt 0

def templateAttestationElements (attestationNonce : JsValue) : JsValue :=
  structOf [
    field 1 .buffer (.buffer ExampleCerts.TEST_CERTIFICATION_DECLARATION.bytes),
    field 2 .buffer attestationNonce,
    field 3 .uint32 (.nat 0)]

/-- What is answered for a nonce. -/
def attest (sign : Sign) (challenge : Except JsError Bytes) (commandPath : CommandPath)
    (attestationNonce : JsValue) : Except JsError Answer := do
  let _ ← attestationNonce.toStringHex
  let attestationElements ← encodeBuffer (templateAttestationElements attestationNonce)
  let attestationSignature :=
    sign (attestationElements ++ (← challenge)) ExampleCerts.TEST_DAC_PRIVKEY
  let payload ← invokeCommandResponseData (commandPath.withCommand 1) [
    field 0 .buffer (.buffer attestationElements),
    field 1 .buffer (.buffer attestationSignature.bytes)]
  return .response attestationNonce payload

def onAttestationRequest (sign : Sign) (challenge : Except JsError Bytes) (tlv : Bytes)
    (commandPath : CommandPath) : Except JsError Answer := do
  attest sign challenge commandPath (← firstField tlv)

/-- `v == n` for a number `n`. -/
def looseEqNat (v : JsValue) (n : Nat) : Bool := v.numeric.eqInt n

/-- What is answered for a certificate type: PaiCertificate is 2. -/
def certificateChain (commandPath : CommandPath) (certificateType : JsValue) :
    Except JsError Answer := do
  let certificate := if looseEqNat certificateType 2 then ExampleCerts.TEST_PAI_CERTIFICATE
    else ExampleCerts.TEST_DAC_CERTIFICATE
  let payload ← loggedResponse (commandPath.withCommand 3) [
    field 0 .buffer (.buffer certificate.bytes)]
  return .response certificateType payload

def onCertificateChainRequest (tlv : Bytes) (commandPath : CommandPath) : Except JsError Answer := do
  stringify (.array (← decode tlv))
  certificateChain commandPath (← firstField tlv)

def onCsrRequest (tlv : Bytes) (commandPath : CommandPath) : Except JsError Answer := do
  return .csr (← firstField tlv) commandPath

def templateNocsrElements (csr : Bytes) (csrNonce : JsValue) : JsValue :=
  structOf [field 1 .buffer (.buffer csr), field 2 .buffer csrNonce]

/-- What `sendCsrResponse` sends once its certificate request is generated. -/
def csrResponse (sign : Sign) (challenge : Except JsError Bytes) (daPrivateKey csr : Bytes)
    (commandPath : CommandPath) (csrNonce : JsValue) : Except JsError Bytes := do
  let nocsrElements ← encodeBuffer (templateNocsrElements csr csrNonce)
  let attestationSignature := sign (nocsrElements ++ (← challenge)) daPrivateKey
  invokeCommandResponseData (commandPath.withCommand 5) [
    field 0 .buffer (.buffer nocsrElements),
    field 1 .buffer (.buffer attestationSignature.bytes)]

def onAddTrustedRootCertificate (tlv : Bytes) (commandPath : CommandPath) :
    Except JsError Answer := do
  let rootCaTlv ← firstField tlv
  return .response rootCaTlv (← invokeCommandResponseStatus commandPath 0)

/-- What is answered for an operational certificate: StatusCode and FabricIndex. -/
def acceptNoc (commandPath : CommandPath) (nocTlv : JsValue) : Except JsError Answer := do
  let _ ← nocTlv.toStringHex
  let payload ← loggedResponse (commandPath.withCommand 8) [
    field 0 .uint8 (.nat 0),
    field 1 .uint8 (.nat 1)]
  return .noc nocTlv payload

/-- Of the ICAC, the IPK and the administrator's ids, read from three more places, nothing is used. -/
def onAddNoc (tlv : Bytes) (commandPath : CommandPath) : Except JsError Answer := do
  let addNocData ← commandData tlv
  let nocTlv ← addNocData.valueAt 0
  let _icac ← addNocData.valueAt 1
  let _ipk ← addNocData.valueAt 2
  let _adminSubjectId ← addNocData.valueAt 3
  acceptNoc commandPath nocTlv

def onCommand (sign : Sign) (challenge : Except JsError Bytes) (tlv : Bytes)
    (path : CommandPath) : Except JsError Answer :=
  if path.commandId.strictEqNat 0 then onAttestationRequest sign challenge tlv path
  else if path.commandId.strictEqNat 2 then onCertificateChainRequest tlv path
  else if path.commandId.strictEqNat 4 then onCsrRequest tlv path
  else if path.commandId.strictEqNat 11 then onAddTrustedRootCertificate tlv path
  else if path.commandId.strictEqNat 6 then onAddNoc tlv path
  else return .silent

end OperationalCredentials

/-- `cluster.onCommand(msg, path)`. ClusterBasicServer answers with an `exchange` it does not
    declare, and ClusterNetworkCommissioningServer compares with a class it does not. -/
def onCommand (sign : Sign) (challenge : Except JsError Bytes) (tlv : Bytes)
    (path : CommandPath) : ClusterServer → Except JsError Answer
  | .basic => if path.commandId.strictEqNat 0 then .error .referenceError else .ok .silent
  | .generalCommissioning => GeneralCommissioning.onCommand path
  | .networkCommissioning => .error .referenceError
  | .operationalCredentials => OperationalCredentials.onCommand sign challenge tlv path

/-! ## 3. Requests -/

/-- What is done for an entry of CommandList. -/
def commandAnswer (sign : Sign) (challenge : Except JsError Bytes) (tlv : Bytes)
    (command : JsValue) : Except JsError Answer := do
  let path ← CommandPath.ofTlv (← findTag command 0)
  stringify (← findTag command 1)
  match lookup endpoints path.endpointId with
  | none => throw .typeError
  | some clusters =>
    match (lookup clusters path.clusterId).bind clusterMap with
    | none => return .silent
    | some cluster => onCommand sign challenge tlv path cluster

/-- The values of CommandList. -/
def commandList (tlv : Bytes) : Except JsError (List JsValue) := do
  let result ← decode tlv
  stringify (.array result)
  let params ← (JsValue.array result).valueAt 0
  let _suppressResponse ← findTag params 0
  let _timedRequest ← findTag params 1
  entryValues (← findTag params 2)

/-- A node, the certificate requests that are awaited, each with its exchange, and the operational
    certificates that are read. -/
structure ImState where
  node : Node
  csrRequests : List (Nat × CommandPath × JsValue) := []
  nocs : List JsValue := []

abbrev ImM := EStateM JsError ImState

/-- `exchange.sendMessage(msg)` of a new message. -/
def send (A : Aead) (i : Nat) (opcode : Nat) (payload : Bytes) : ImM Unit := do
  let msg : Message := {}
  let msg ← lift (msg.setProtocolId (.nat protocolId))
  let msg ← lift (msg.setProtocolOpcode (.nat opcode))
  let _ ← zoom ImState.node (fun n st => { st with node := n })
    (Node.sendMessage A i (msg.setAppPayload payload))

/-- ImConst.Command.CommandResponse. -/
def commandResponse : Nat := 9

/-- ImConst.Command.ReportData. -/
def reportDataOpcode : Nat := 5

def carryOut (A : Aead) (i : Nat) : Answer → ImM Unit
  | .silent => pure ()
  | .response _ payload => send A i commandResponse payload
  | .csr csrNonce commandPath =>
    modify fun st => { st with csrRequests := st.csrRequests ++ [(i, commandPath, csrNonce)] }
  | .noc nocTlv payload => do
    send A i commandResponse payload
    modify fun st => { st with nocs := st.nocs ++ [nocTlv] }

/-- `exchange.Session.AttestationChallenge`. -/
def attestationChallenge (n : Node) (i : Nat) : Except JsError Bytes :=
  match (n.exchanges[i]?).bind fun ex => n.sessions.session? ex.session with
  | none => .error .typeError
  | some s => s.attestationChallenge

/-- The first certificate request that is awaited is generated, and answered with the device's
    key. -/
def resumeCsr (A : Aead) (sign : Sign) (daPrivateKey csr : Bytes) : ImM Unit := do
  match (← get).csrRequests with
  | [] => pure ()
  | (i, commandPath, csrNonce) :: requests =>
    modify fun st => { st with csrRequests := requests }
    let challenge := attestationChallenge (← get).node i
    send A i commandResponse (← lift (OperationalCredentials.csrResponse sign challenge
      daPrivateKey csr commandPath csrNonce))

/-- `commandList.forEach(…)`. -/
def handleCommands (A : Aead) (sign : Sign) (i : Nat) (tlv : Bytes) : List JsValue → ImM Unit
  | [] => pure ()
  | command :: commands => do
    let challenge := attestationChallenge (← get).node i
    carryOut A i (← lift (commandAnswer sign challenge tlv command))
    handleCommands A sign i tlv commands

/-- `onInvokeCommandRequest(msg)`, with the place of `msg.Exchange`. -/
def onInvokeCommandRequest (A : Aead) (sign : Sign) (msg : Message) (i : Nat) : ImM Unit := do
  let tlv ← lift msg.appPayload
  handleCommands A sign i tlv (← lift (commandList tlv))

/-- `onReadRequest(msg)`. -/
def onReadRequest (A : Aead) (msg : Message) (i : Nat) : ImM Unit := do
  let tlv ← lift msg.appPayload
  send A i reportDataOpcode (← lift (reportData tlv))

end Matternode.Protocols.InteractionModel
