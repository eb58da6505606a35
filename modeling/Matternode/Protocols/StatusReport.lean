/-
  File:      Matternode/Protocols/StatusReport.lean
  Subject:   StatusReport: the payload that reports a status, and the one that is documented.

  `sendStatus` writes its three fields without an offset, so each is written at the start of the
  buffer: of the general code nothing is left, of the protocol id its upper half.

  * `statusReport`, `sendStatus`, `sendSuccess` -- as the code sends them;
  * `layout` -- the documented payload; `layout_injective` -- two reports have two of them;
  * `statusPayload_eq` -- the payload that is sent; `run_sendStatus` -- the message that is handed
    over;
  * `Reports.told_apart` -- documented payloads tell their reports apart;
  * `reports_iff` -- **it is the documented one exactly if** the three fields are zero.
-/
import Matternode.Messaging.ClearFrames
import Matternode.Protocols.PaseEffect

namespace Matternode.Protocols.StatusReport

open Base Js Messaging

/-! ## 1. Reports -/

/-- The message that `sendStatus(…, generalCode, protocolId, protocolCode, protocolData)` sends. -/
def statusReport (generalCode protocolId protocolCode : Nat) (protocolData : Option Bytes) :
    Except JsError Message := do
  let payload ← statusPayload generalCode protocolId protocolCode
  protocolMessage opStatusReport (payload ++ protocolData.getD [])

def sendStatus (A : Aead) (i : Nat) (generalCode protocolId protocolCode : Nat)
    (protocolData : Option Bytes) : NodeM Unit := do
  let msg ← lift (statusReport generalCode protocolId protocolCode protocolData)
  let _ ← Node.sendMessage A i msg

/-- The general code is GeneralCode.SUCCESS. -/
def sendSuccess (A : Aead) (i : Nat) (protocolId protocolCode : Nat)
    (protocolData : Option Bytes) : NodeM Unit :=
  sendStatus A i 0 protocolId protocolCode protocolData

/-- The documented payload: GeneralCode, ProtocolId, ProtocolCode and ProtocolData. -/
def layout (generalCode : UInt16) (protocolId : UInt32) (protocolCode : UInt16)
    (protocolData : Option Bytes) : Bytes :=
  toLE 2 generalCode.toNat ++ (toLE 4 protocolId.toNat ++ (toLE 2 protocolCode.toNat ++
    protocolData.getD []))

/-- The report that is sent has the documented payload. -/
def Reports (generalCode : UInt16) (protocolId : UInt32) (protocolCode : UInt16)
    (protocolData : Option Bytes) : Prop :=
  ∃ msg, statusReport generalCode.toNat protocolId.toNat protocolCode.toNat protocolData = .ok msg ∧
    msg.appPayload = .ok (layout generalCode protocolId protocolCode protocolData)

/-! ## 2. Payloads -/

section Payloads

variable {generalCode protocolCode generalCode' protocolCode' : UInt16}
  {protocolId protocolId' : UInt32} {protocolData protocolData' : Option Bytes}

/-- **Two reports have two documented payloads**: no data and empty data are one. -/
theorem layout_injective (h : layout generalCode protocolId protocolCode protocolData =
      layout generalCode' protocolId' protocolCode' protocolData') :
    generalCode = generalCode' ∧ protocolId = protocolId' ∧ protocolCode = protocolCode' ∧
      protocolData.getD [] = protocolData'.getD [] := by
  unfold layout at h
  obtain ⟨hgeneral, h⟩ := List.append_inj h (by simp)
  obtain ⟨hprotocol, h⟩ := List.append_inj h (by simp)
  obtain ⟨hcode, hdata⟩ := List.append_inj h (by simp)
  exact ⟨UInt16.toNat_inj.mp (toLE_injective generalCode.toNat_lt generalCode'.toNat_lt hgeneral),
    UInt32.toNat_inj.mp (toLE_injective protocolId.toNat_lt protocolId'.toNat_lt hprotocol),
    UInt16.toNat_inj.mp (toLE_injective protocolCode.toNat_lt protocolCode'.toNat_lt hcode), hdata⟩

/-- **What is left of the three writes**: the protocol code over the protocol id. -/
theorem statusPayload_eq (generalCode : UInt16) (protocolId : UInt32) (protocolCode : UInt16) :
    statusPayload generalCode.toNat protocolId.toNat protocolCode.toNat =
      .ok (toLE 2 protocolCode.toNat ++ ((toLE 4 protocolId.toNat).drop 2 ++ [0, 0, 0, 0])) := by
  have hgeneral : writeUInt16LE (bufferAlloc 8) (.nat generalCode.toNat) 0 =
      .ok (toLE 2 generalCode.toNat ++ (bufferAlloc 8).drop 2) :=
    writeUIntLE_start generalCode.toNat_lt (by decide)
  have hprotocol : writeUInt32LE (toLE 2 generalCode.toNat ++ (bufferAlloc 8).drop 2)
      (.nat protocolId.toNat) 0 = .ok (toLE 4 protocolId.toNat ++ [0, 0, 0, 0]) :=
    writeUIntLE_start protocolId.toNat_lt (by simp [bufferAlloc])
  have hcode : writeUInt16LE (toLE 4 protocolId.toNat ++ [0, 0, 0, 0]) (.nat protocolCode.toNat) 0 =
      .ok (toLE 2 protocolCode.toNat ++ ((toLE 4 protocolId.toNat).drop 2 ++ [0, 0, 0, 0])) :=
    writeUIntLE_start protocolCode.toNat_lt (by simp)
  unfold statusPayload
  simp only [hgeneral, hprotocol, hcode, bind, Except.bind]

/-- A protocol message, as the content of an exchange. -/
theorem protocolMessage_content {opcode : Nat} (h : opcode < 256) (payload : Bytes) :
    protocolMessage opcode payload = .ok (⟨secureChannel, opcode, payload⟩ : Content).message := by
  have hprotocol : (newMessage 0 0 0 0 []).setProtocolId (.nat secureChannel) =
      .ok (newMessage 0 0 0 secureChannel []) := setProtocolId_new (by decide)
  have hopcode : (newMessage 0 0 0 secureChannel []).setProtocolOpcode (.nat opcode) =
      .ok (newMessage 0 opcode 0 secureChannel []) := setProtocolOpcode_new h
  unfold protocolMessage
  rw [← newMessage_zero]
  simp only [hprotocol, hopcode, bind, Except.bind, setAppPayload_new]
  rfl

/-- What a status report says. -/
theorem statusReport_appPayload (generalCode : UInt16) (protocolId : UInt32) (protocolCode : UInt16)
    (protocolData : Option Bytes) : ∃ msg,
      statusReport generalCode.toNat protocolId.toNat protocolCode.toNat protocolData = .ok msg ∧
      msg.appPayload = .ok (toLE 2 protocolCode.toNat ++ ((toLE 4 protocolId.toNat).drop 2 ++
        ([0, 0, 0, 0] ++ protocolData.getD []))) := by
  refine ⟨_, ?_, Content.appPayload_message ⟨secureChannel, opStatusReport, _⟩⟩
  unfold statusReport
  rw [statusPayload_eq]
  simp only [bind, Except.bind]
  rw [protocolMessage_content (by decide)]
  simp only [List.append_assoc]

/-- **What `sendStatus` does**: the message of the report is handed to the exchange. -/
theorem run_sendStatus (A : Aead) (n : Node) (i : Nat) (generalCode : UInt16) (protocolId : UInt32)
    (protocolCode : UInt16) (protocolData : Option Bytes) : ∃ msg,
      statusReport generalCode.toNat protocolId.toNat protocolCode.toNat protocolData = .ok msg ∧
      (sendStatus A i generalCode.toNat protocolId.toNat protocolCode.toNat protocolData).run n =
        (do let _ ← Node.sendMessage A i msg : NodeM Unit).run n := by
  obtain ⟨msg, hmsg, -⟩ := statusReport_appPayload generalCode protocolId protocolCode protocolData
  refine ⟨msg, hmsg, ?_⟩
  unfold sendStatus
  rw [hmsg, run_bind_ok (run_lift_ok msg n)]

/-- `sendSuccess` hands over the report of the general code 0. -/
theorem run_sendSuccess (A : Aead) (n : Node) (i : Nat) (protocolId : UInt32)
    (protocolCode : UInt16) (protocolData : Option Bytes) : ∃ msg,
      statusReport 0 protocolId.toNat protocolCode.toNat protocolData = .ok msg ∧
      (sendSuccess A i protocolId.toNat protocolCode.toNat protocolData).run n =
        (do let _ ← Node.sendMessage A i msg : NodeM Unit).run n :=
  run_sendStatus A n i 0 protocolId protocolCode protocolData

/-- **Documented payloads tell their reports apart**: two reports that have them and say the same are
    of one status. -/
theorem Reports.told_apart (h : Reports generalCode protocolId protocolCode protocolData)
    (h' : Reports generalCode' protocolId' protocolCode' protocolData')
    (hsame : statusReport generalCode.toNat protocolId.toNat protocolCode.toNat protocolData >>=
        Message.appPayload =
      statusReport generalCode'.toNat protocolId'.toNat protocolCode'.toNat protocolData' >>=
        Message.appPayload) :
    generalCode = generalCode' ∧ protocolId = protocolId' ∧ protocolCode = protocolCode' ∧
      protocolData.getD [] = protocolData'.getD [] := by
  obtain ⟨msg, hmsg, hpayload⟩ := h
  obtain ⟨msg', hmsg', hpayload'⟩ := h'
  rw [hmsg, hmsg'] at hsame
  exact layout_injective (Except.ok.inj (hpayload.symm.trans (hsame.trans hpayload')))

/-- An upper half that repeats the lower one, and is zero, leaves nothing. -/
theorem zero_of_upper_half {n m : Nat} {data : Bytes} (hn : n < 256 ^ 4) (hm : m < 256 ^ 2)
    (h : (toLE 4 n).drop 2 ++ ([0, 0, 0, 0] ++ data) = toLE 4 n ++ (toLE 2 m ++ data)) :
    n = 0 ∧ m = 0 := by
  simp only [toLE, List.drop_succ_cons, List.drop_zero, List.cons_append, List.nil_append,
    List.cons.injEq] at h
  obtain ⟨h2, h3, hlow, hhigh, hm0, hm1, -⟩ := h
  constructor
  · refine toLE_injective hn (by decide) ?_
    simp only [toLE, h2.symm, h3.symm, hlow.symm, hhigh.symm]
    rfl
  · refine toLE_injective hm (by decide) ?_
    simp only [toLE, hm0.symm, hm1.symm]
    rfl

/-- **A report has its documented payload exactly if** its three fields are zero. -/
theorem reports_iff (generalCode : UInt16) (protocolId : UInt32) (protocolCode : UInt16)
    (protocolData : Option Bytes) :
    Reports generalCode protocolId protocolCode protocolData ↔
      generalCode = 0 ∧ protocolId = 0 ∧ protocolCode = 0 := by
  obtain ⟨msg, hmsg, hpayload⟩ := statusReport_appPayload generalCode protocolId protocolCode
    protocolData
  constructor
  · rintro ⟨msg', hmsg', hlayout⟩
    cases hmsg.symm.trans hmsg'
    have hsame := Except.ok.inj (hpayload.symm.trans hlayout)
    unfold layout at hsame
    obtain ⟨hgeneral, hrest⟩ := List.append_inj hsame (by simp)
    obtain ⟨hprotocol, hcode⟩ := zero_of_upper_half protocolId.toNat_lt protocolCode.toNat_lt hrest
    have hsuccess : protocolCode.toNat = generalCode.toNat :=
      toLE_injective protocolCode.toNat_lt generalCode.toNat_lt hgeneral
    exact ⟨UInt16.toNat_inj.mp (hsuccess.symm.trans hcode), UInt32.toNat_inj.mp hprotocol,
      UInt16.toNat_inj.mp hcode⟩
  · rintro ⟨rfl, rfl, rfl⟩
    refine ⟨msg, hmsg, ?_⟩
    rw [hpayload]
    rfl

end Payloads

/-- **A failure report that is not the documented one**: of FAILURE, protocol 1 and code 2 only the
    code is sent. -/
theorem failureReport_lost : ¬ Reports 1 1 2 none := by
  rintro ⟨msg, hmsg, hpayload⟩
  obtain ⟨msg', hmsg', hpayload'⟩ := statusReport_appPayload 1 1 2 none
  cases hmsg.symm.trans hmsg'
  exact absurd (Except.ok.inj (hpayload.symm.trans hpayload')) (by decide)

end Matternode.Protocols.StatusReport
