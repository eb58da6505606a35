/-
  File:      Matternode/Protocols/ImAnswers.lean
  Subject:   The commands that are answered, and those whose handler throws.

  * `Reaction` -- a response, a wait for a certificate request, or nothing;
  * `CommandIds`, `NamesCommand` -- the commands of a request, by the ids they name;
  * `StandsAt`, `HeldAt`, `DataAt` -- the places in a request that the handlers of operational
    credentials walk to; `commandData_iff`, `firstField_iff` -- what they find is what stands there;
  * `Served` -- the commands that no handler throws for;
  * `Answer.Sized` -- how long what is sent is: only the response to AttestationRequest can be long;
  * `CommandIds.ReplyFits` -- there is room for it;
  * `commandAnswer_ok`, `commandAnswer_error` -- **an entry is answered as its ids say exactly when**
    its endpoint is in the table and its command is served there.
-/
import Matternode.Protocols.ImResponses
import Matternode.Tlv.Sizes

namespace Matternode.Protocols.InteractionModel

open Base Js Tlv Messaging Clusters

/-! ## 1. Reactions -/

/-- What a command is for. -/
inductive Reaction where
  | skip | respond | wait
  deriving DecidableEq, Repr

def Answer.reaction : Answer → Reaction
  | .silent => .skip
  | .response .. | .noc .. => .respond
  | .csr .. => .wait

/-- What a server's `onCommand` has a case for. -/
def reactionOf : ClusterServer → Nat → Reaction
  | .basic, k => if k = 0 then .respond else .skip
  | .generalCommissioning, k => if k ∈ [0, 2, 4] then .respond else .skip
  | .networkCommissioning, k => if k ∈ [0, 1, 2] then .respond else .skip
  | .operationalCredentials, k =>
    if k = 4 then .wait else if k ∈ [0, 2, 6, 11] then .respond else .skip

/-- The ids of a command path. -/
structure CommandIds where
  endpointId : Option Nat := none
  clusterId : Option Nat := none
  commandId : Option Nat := none

namespace CommandIds

/-- The path with these ids. -/
def path (p : CommandIds) : CommandPath :=
  ⟨idValue p.endpointId, idValue p.clusterId, idValue p.commandId⟩

/-- No id needs eight bytes. -/
structure Small (p : CommandIds) : Prop where
  endpointId : ∀ n ∈ p.endpointId, n < 2 ^ 32
  clusterId : ∀ n ∈ p.clusterId, n < 2 ^ 32
  commandId : ∀ n ∈ p.commandId, n < 2 ^ 32

/-- The server of the path's cluster. -/
def server (p : CommandIds) : Option ClusterServer := do
  serverAt (← p.endpointId) (← p.clusterId)

/-- What the command is for: nothing, where its endpoint, cluster or id is unknown. -/
def reaction (p : CommandIds) : Reaction :=
  match p.server, p.commandId with
  | some server, some k => reactionOf server k
  | _, _ => .skip

end CommandIds

/-- An entry of CommandList with these ids, and any data. -/
structure NamesCommand (entry : DeterministicJson) (p : CommandIds) : Prop where
  fields : ∃ fields path, entry.value = .array fields ∧ tagged fields 0 = .array path ∧
    IsId (tagged path 0) p.endpointId ∧ IsId (tagged path 1) p.clusterId ∧
    IsId (tagged path 2) p.commandId

/-- The payload of an InvokeRequest with these commands. -/
def IsInvokeRequest (tlv : Bytes) (commands : List CommandIds) : Prop :=
  ∃ top rest params entries, decode tlv = .ok (top :: rest) ∧ top.value = .array params ∧
    tagged params 2 = .array entries ∧ List.Forall₂ NamesCommand entries commands

/-! ## 2. The data that handlers read -/

/-- A value that `toString('hex')` and `Buffer.from` take. -/
def IsNonce : JsValue → Prop
  | .buffer _ | .string _ | .array _ => True
  | _ => False

/-- A value that `toString('hex')` takes. -/
def HasText : JsValue → Prop
  | .undefined | .number _ | .bigint _ => False
  | _ => True

/-- A value that has a first element; that of a buffer or of a string has no `value`. -/
def HasFirst : JsValue → Prop
  | .array entries => entries ≠ []
  | .buffer bs => bs ≠ []
  | .string s => s ≠ ""
  | _ => False

/-- `entries[i].value` is there. -/
def StandsAt (entries : List DeterministicJson) (i : Nat) (v : JsValue) : Prop :=
  ∃ e, entries[i]? = some e ∧ e.value = v

/-- The value that the handlers walk to: that of the second field of the first entry in the third
    field of the request. -/
def HeldAt (result : List DeterministicJson) (v : JsValue) : Prop :=
  ∃ params commands fields, StandsAt result 0 (.array params) ∧
    StandsAt params 2 (.array commands) ∧ StandsAt commands 0 (.array fields) ∧
    StandsAt fields 1 v

/-- The data that the handlers read: that of the first entry in the third field of the request, in
    that entry's second field. -/
def DataAt (result data : List DeterministicJson) : Prop := HeldAt result (.array data)

namespace OperationalCredentials

/-- What stands at the places that a command's handler reads is of a kind that it can use, whichever
    command it belongs to. -/
def Usable (tlv : Bytes) (command : Nat) : Prop :=
  if command = 0 then ∃ result data v, decode tlv = .ok result ∧ DataAt result data ∧
    StandsAt data 0 v ∧ IsNonce v
  else if command = 6 then ∃ result data v, decode tlv = .ok result ∧ DataAt result data ∧
    StandsAt data 0 v ∧ 4 ≤ data.length ∧ HasText v
  else if command = 2 ∨ command = 4 ∨ command = 11 then ∃ result v, decode tlv = .ok result ∧
    HeldAt result v ∧ HasFirst v
  else True

end OperationalCredentials

/-- The commands of a server that its handlers answer. -/
def Served (tlv : Bytes) : ClusterServer → Option Nat → Prop
  | .basic, command => command ≠ some 0
  | .generalCommissioning, _ => True
  | .networkCommissioning, _ => False
  | .operationalCredentials, command => ∀ k ∈ command, OperationalCredentials.Usable tlv k

section Places

variable {tlv : Bytes} {result data : List DeterministicJson}

theorem valueAt_array_iff {entries : List DeterministicJson} {i : Nat} {v : JsValue} :
    (JsValue.array entries).valueAt i = .ok v ↔ StandsAt entries i v := by
  unfold StandsAt
  rw [JsValue.valueAt]
  cases entries[i]? with
  | none => simp
  | some e => simp

/-- Only an array has an element with a value. -/
theorem array_of_valueAt {v w : JsValue} {i : Nat} (h : v.valueAt i = .ok w) (hne : w ≠ .undefined) :
    ∃ entries, v = .array entries ∧ StandsAt entries i w := by
  cases v with
  | array entries => exact ⟨entries, rfl, valueAt_array_iff.mp h⟩
  | buffer bs =>
    simp only [JsValue.valueAt] at h
    split at h
    · cases h
      exact absurd rfl hne
    · cases h
  | string s =>
    simp only [JsValue.valueAt] at h
    split at h
    · cases h
      exact absurd rfl hne
    · cases h
  | undefined | boolean _ | number _ | bigint _ | object _ => cases h

theorem StandsAt.unique {entries : List DeterministicJson} {i : Nat} {v w : JsValue}
    (h : StandsAt entries i v) (h' : StandsAt entries i w) : v = w := by
  obtain ⟨e, he, rfl⟩ := h
  obtain ⟨e', he', rfl⟩ := h'
  cases he.symm.trans he'
  rfl

/-- There is one place. -/
theorem HeldAt.unique {v w : JsValue} (h : HeldAt result v) (h' : HeldAt result w) : v = w := by
  obtain ⟨params, commands, fields, h1, h2, h3, h4⟩ := h
  obtain ⟨params', commands', fields', h1', h2', h3', h4'⟩ := h'
  cases h1.unique h1'
  cases h2.unique h2'
  cases h3.unique h3'
  exact h4.unique h4'

theorem hasFirst_iff {v : JsValue} : (∃ w, v.valueAt 0 = .ok w) ↔ HasFirst v := by
  have hnone {P : Prop} {e : JsError} (h : v.valueAt 0 = .error e) (hv : ¬ P) :
      (∃ w, v.valueAt 0 = .ok w) ↔ P := by
    refine iff_of_false ?_ hv
    rintro ⟨w, hw⟩
    cases h.symm.trans hw
  have hsome {P : Prop} {w : JsValue} (h : v.valueAt 0 = .ok w) (hv : P) :
      (∃ w, v.valueAt 0 = .ok w) ↔ P := iff_of_true ⟨w, h⟩ hv
  cases v with
  | array entries =>
    cases entries with
    | nil => exact hnone rfl fun h => h rfl
    | cons e entries => exact hsome rfl (List.cons_ne_nil e entries)
  | buffer bs =>
    cases bs with
    | nil => exact hnone rfl fun h => h rfl
    | cons b bs => exact hsome rfl (List.cons_ne_nil b bs)
  | string s =>
    show _ ↔ s ≠ ""
    rw [JsValue.valueAt, ne_eq, ← String.toList_eq_nil_iff]
    cases s.toList with
    | nil => simp
    | cons c cs =>
      have hpos : 0 < ((c :: cs).map fun c => if c.toNat < 0x10000 then 1 else 2).sum := by
        rw [List.map_cons, List.sum_cons]
        split <;> omega
      rw [if_pos hpos]
      exact iff_of_true ⟨.undefined, rfl⟩ (List.cons_ne_nil c cs)
  | undefined | boolean _ | number _ | bigint _ | object _ => exact hnone rfl id

/-- **The handlers' walk** ends at the value that stands at their places. -/
theorem commandData_iff (hdecode : decode tlv = .ok result) {v : JsValue} (hne : v ≠ .undefined) :
    OperationalCredentials.commandData tlv = .ok v ↔ HeldAt result v := by
  unfold OperationalCredentials.commandData
  rw [hdecode]
  constructor
  · intro h
    obtain ⟨_, hresult, h⟩ := bind_eq_ok h
    cases hresult
    obtain ⟨params, hparams, h⟩ := bind_eq_ok h
    obtain ⟨list, hlist, h⟩ := bind_eq_ok h
    obtain ⟨command, hcommand, h⟩ := bind_eq_ok h
    obtain ⟨fields, rfl, hfields⟩ := array_of_valueAt h hne
    obtain ⟨commands, rfl, hcommands⟩ := array_of_valueAt hcommand (by simp)
    obtain ⟨params, rfl, hthird⟩ := array_of_valueAt hlist (by simp)
    exact ⟨params, commands, fields, valueAt_array_iff.mp hparams, hthird, hcommands, hfields⟩
  · rintro ⟨params, commands, fields, hparams, hlist, hcommand, hfields⟩
    simp only [bind, Except.bind, valueAt_array_iff.mpr hparams, valueAt_array_iff.mpr hlist,
      valueAt_array_iff.mpr hcommand, valueAt_array_iff.mpr hfields]

theorem commandData_array_iff (hdecode : decode tlv = .ok result) :
    OperationalCredentials.commandData tlv = .ok (.array data) ↔ DataAt result data :=
  commandData_iff hdecode (by simp)

theorem firstField_eq (hdecode : decode tlv = .ok result) (hdata : DataAt result data)
    {v : JsValue} (hv : StandsAt data 0 v) : OperationalCredentials.firstField tlv = .ok v := by
  unfold OperationalCredentials.firstField
  rw [(commandData_array_iff hdecode).mpr hdata]
  exact valueAt_array_iff.mpr hv

/-- A first field that is read stands in the data. -/
theorem dataAt_of_firstField (hdecode : decode tlv = .ok result) {v : JsValue}
    (h : OperationalCredentials.firstField tlv = .ok v) (hne : v ≠ .undefined) :
    ∃ data, DataAt result data ∧ StandsAt data 0 v := by
  obtain ⟨w, hw, h⟩ := bind_eq_ok h
  obtain ⟨data, rfl, hv⟩ := array_of_valueAt h hne
  exact ⟨data, (commandData_array_iff hdecode).mp hw, hv⟩

/-- A first field is read where there is a first element at the handlers' place. -/
theorem firstField_iff (hdecode : decode tlv = .ok result) :
    (∃ v, OperationalCredentials.firstField tlv = .ok v) ↔ ∃ v, HeldAt result v ∧ HasFirst v := by
  have hne {v : JsValue} (h : HasFirst v) : v ≠ .undefined := by
    rintro rfl
    exact h
  constructor
  · rintro ⟨w, hw⟩
    obtain ⟨v, hv, hfirst⟩ := bind_eq_ok hw
    have hfirst := hasFirst_iff.mp ⟨w, hfirst⟩
    exact ⟨v, (commandData_iff hdecode (hne hfirst)).mp hv, hfirst⟩
  · rintro ⟨v, hheld, hfirst⟩
    obtain ⟨w, hw⟩ := hasFirst_iff.mpr hfirst
    unfold OperationalCredentials.firstField
    rw [(commandData_iff hdecode (hne hfirst)).mpr hheld]
    exact ⟨w, hw⟩

end Places

/-! ## 3. The handlers -/

theorem idValue_strictEqNat (command : Option Nat) (n : Nat) :
    (idValue command).strictEqNat n = decide (command = some n) := by
  cases command with
  | none => rfl
  | some k => simp [idValue]

/-- What an answer sends. -/
def Answer.payloads : Answer → List Bytes
  | .silent | .csr .. => []
  | .response _ payload | .noc _ payload => [payload]

namespace OperationalCredentials

/-- The element of the attestation elements. -/
def attestationElement (nonce : ByteString) : Element :=
  .container none .struct [
    .leaf (some 1) (.bytes ExampleCerts.TEST_CERTIFICATION_DECLARATION),
    .leaf (some 2) (.bytes nonce),
    .leaf (some 3) (.unsigned 0)]

/-- The response to AttestationRequest: the elements for the nonce, and their signature. -/
def attestationResponseSize (sign : Sign) (challenge : Bytes) (endpoint cluster : Nat)
    (nonce : ByteString) : Nat :=
  let elements := (attestationElement nonce).wire
  responseSize endpoint cluster 1 (bytesSize elements.length +
    bytesSize (sign (elements ++ challenge) ExampleCerts.TEST_DAC_PRIVKEY).bytes.length)

/-- The bytes that stand first in the data that the handlers read. -/
def NonceAt (tlv : Bytes) (nonce : ByteString) : Prop :=
  ∃ result data v, decode tlv = .ok result ∧ DataAt result data ∧ StandsAt data 0 v ∧
    bufferOfEntry v = .ok nonce.bytes

theorem NonceAt.unique {tlv : Bytes} {nonce nonce' : ByteString} (h : NonceAt tlv nonce)
    (h' : NonceAt tlv nonce') : nonce = nonce' := by
  obtain ⟨result, data, v, hdecode, hdata, hv, hnonce⟩ := h
  obtain ⟨result', data', v', hdecode', hdata', hv', hnonce'⟩ := h'
  cases hdecode.symm.trans hdecode'
  cases HeldAt.unique hdata hdata'
  cases hv.unique hv'
  obtain ⟨bytes, short⟩ := nonce
  cases hnonce.symm.trans hnonce'
  rfl

end OperationalCredentials

/-- The command is AttestationRequest, at its server. -/
def Attests (server : ClusterServer) (command : Option Nat) : Prop :=
  server = .operationalCredentials ∧ command = some 0

/-- **How long what is sent is**: short, but for the response to AttestationRequest, whose length
    depends on the nonce. -/
structure Answer.Sized (a : Answer) (sign : Sign) (challenge tlv : Bytes) (server : ClusterServer)
    (endpoint cluster : Nat) (command : Option Nat) : Prop where
  short : ¬ Attests server command → ∀ payload ∈ a.payloads, payload.length ≤ 1024
  attested : Attests server command → ∃ nonce payload,
    OperationalCredentials.NonceAt tlv nonce ∧ a.payloads = [payload] ∧ payload.length =
      OperationalCredentials.attestationResponseSize sign challenge endpoint cluster nonce

section Handlers

variable {path : CommandPath} {endpoint cluster : Nat} {command : Option Nat}

theorem Answer.sized_short {a : Answer} {sign : Sign} {challenge tlv : Bytes}
    {server : ClusterServer} (hno : ¬ Attests server command)
    (h : ∀ payload ∈ a.payloads, payload.length ≤ 1024) :
    a.Sized sign challenge tlv server endpoint cluster command :=
  ⟨fun _ => h, fun hattests => absurd hattests hno⟩

theorem Answer.short_of_length {payload : Bytes} {data : Nat} {id : Nat}
    (hlength : payload.length = responseSize endpoint cluster id data) (hdata : data ≤ 900) :
    ∀ p ∈ [payload], p.length ≤ 1024 := by
  have hle := responseSize_le endpoint cluster id data
  rw [List.forall_mem_singleton]
  omega

/-- What is done for a command of a server, where it has an id. -/
def reactionTo (server : ClusterServer) (command : Option Nat) : Reaction :=
  command.elim .skip (reactionOf server)

namespace GeneralCommissioning

theorem commissioningResponse_ok (h : path.HasIds endpoint cluster command) {id : Nat}
    (hid : id < 2 ^ 32) :
    ∃ payload, commissioningResponse path id = .ok (.response .undefined payload) ∧
      payload.length = responseSize endpoint cluster id 6 := by
  have hempty : Writable 3 (field 1 (.other "string") (.string "")) :=
    ⟨.leaf (some 1) (.text ⟨[], by simp [IsAscii], by decide⟩),
      performEntry_given (.leaf none (.text rfl)), rfl⟩
  have hcode : Writable (numberSize 0) (field 0 (.other "uint8_t") (.nat 0)) := by
    refine ⟨.leaf (some 0) (.unsigned (UInt64.ofNat 0)), ?_, length_unsigned 0 (by decide)⟩
    unfold field
    rw [performEntry_autoDetect rfl]
    exact putNat_appends 0 (by decide)
  obtain ⟨payload, hpayload, hlength⟩ :=
    loggedResponse_ok (h.withCommand hid) (.cons hcode (.cons hempty .nil)) rfl
  refine ⟨payload, ?_, hlength⟩
  unfold commissioningResponse
  rw [hpayload]
  rfl

/-- **Every command of general commissioning is answered.** -/
theorem onCommand_ok (h : path.HasIds endpoint cluster command) :
    ∃ a, onCommand path = .ok a ∧ a.reaction = reactionTo .generalCommissioning command ∧
      ∀ payload ∈ a.payloads, payload.length ≤ 1024 := by
  unfold onCommand
  simp only [h.commandId, idValue_strictEqNat, decide_eq_true_eq]
  by_cases h0 : command = some 0
  · obtain ⟨payload, hpayload, hlength⟩ := commissioningResponse_ok h (show 1 < 2 ^ 32 by decide)
    rw [if_pos h0]
    exact ⟨_, hpayload, by rw [h0]; rfl, Answer.short_of_length hlength (by decide)⟩
  by_cases h2 : command = some 2
  · obtain ⟨payload, hpayload, hlength⟩ := commissioningResponse_ok h (show 3 < 2 ^ 32 by decide)
    rw [if_neg h0, if_pos h2]
    exact ⟨_, hpayload, by rw [h2]; rfl, Answer.short_of_length hlength (by decide)⟩
  by_cases h4 : command = some 4
  · subst h4
    obtain ⟨payload, hpayload, hlength⟩ :=
      invokeCommandResponseStatus_ok h (show 0 < 2 ^ 64 by decide)
    rw [if_neg h0, if_neg h2, if_pos rfl]
    refine ⟨.response .undefined payload, ?_, rfl, Answer.short_of_length hlength (by decide)⟩
    unfold onCommissioningComplete
    rw [hpayload]
    rfl
  · rw [if_neg h0, if_neg h2, if_neg h4]
    refine ⟨.silent, rfl, ?_, List.forall_mem_nil _⟩
    cases command with
    | none => rfl
    | some k =>
      have hk : k ∉ [0, 2, 4] := by
        simp only [Option.some.injEq] at h0 h2 h4
        simp [h0, h2, h4]
      rw [reactionTo, Option.elim_some, reactionOf, if_neg hk]
      rfl

end GeneralCommissioning

namespace OperationalCredentials

variable {sign : Sign} {challenge : Except JsError Bytes} {tlv : Bytes} {v : JsValue}

theorem encodeBuffer_attestationElements {nonce : ByteString}
    (h : bufferOfEntry v = .ok nonce.bytes) :
    encodeBuffer (templateAttestationElements v) = .ok (attestationElement nonce).wire := by
  have hdeclaration := appends_buffer 1 (show bufferOfEntry
    (.buffer ExampleCerts.TEST_CERTIFICATION_DECLARATION.bytes) =
      .ok ExampleCerts.TEST_CERTIFICATION_DECLARATION.bytes from rfl)
  have hnonce := appends_buffer 2 h
  have htimestamp := performEntry_leaf (some 3) none
    (show Leaf.IsGivenBy (.unsigned 0) (some .uint32) (.nat 0) from
      .unsigned (by simp) (.number _) fun k hk => by cases hk)
  have hentries : Appends (performEntries [
      field 1 .buffer (.buffer ExampleCerts.TEST_CERTIFICATION_DECLARATION.bytes),
      field 2 .buffer v, field 3 .uint32 (.nat 0)]) (forestWire [
        .leaf (some 1) (.bytes ExampleCerts.TEST_CERTIFICATION_DECLARATION),
        .leaf (some 2) (.bytes nonce), .leaf (some 3) (.unsigned 0)]) := by
    simp only [performEntries, forestWire]
    exact hdeclaration.bind (hnonce.bind (htimestamp.bind appends_pure))
  unfold templateAttestationElements
  rw [encodeBuffer_structOf_appends hentries]
  simp only [attestationElement, Element.wire]
  rfl

/-- The elements are little longer than the nonce. -/
theorem length_attestationElement (nonce : ByteString) :
    (attestationElement nonce).wire.length ≤ nonce.bytes.length + 1024 := by
  have hlen : ExampleCerts.TEST_CERTIFICATION_DECLARATION.bytes.length = 541 := by
    simp [ExampleCerts.TEST_CERTIFICATION_DECLARATION, ExampleCerts.words, toBE]
  have h1 := width_le 541
  have h2 := width_le nonce.bytes.length
  have h3 := width_le (0 : UInt64).toNat
  simp only [attestationElement, Element.wire, forestWire, Leaf.payload, Tlv.header,
    List.length_append, List.length_cons, List.length_nil, length_shortest, hlen, Option.toList]
  omega

/-- A nonce has a text and bytes. -/
theorem IsNonce.reads (h : IsNonce v) :
    (∃ text, v.toStringHex = .ok text) ∧ ∃ bs, bufferOfEntry v = .ok bs := by
  cases v with
  | buffer bs => exact ⟨⟨_, rfl⟩, _, rfl⟩
  | string s => exact ⟨⟨_, rfl⟩, _, rfl⟩
  | array entries => exact ⟨⟨_, rfl⟩, _, rfl⟩
  | undefined | boolean _ | number _ | bigint _ | object _ => exact h.elim

/-- **A nonce is attested.** -/
theorem attest_ok (sign : Sign) (h : path.HasIds endpoint cluster command) {bytes : Bytes}
    (hchallenge : challenge = .ok bytes) (hnonce : IsNonce v) (hshort : v.weight < 2 ^ 31) :
    ∃ (nonce : ByteString) (payload : Bytes), bufferOfEntry v = .ok nonce.bytes ∧
      attest sign challenge path v = .ok (.response v payload) ∧
      payload.length = attestationResponseSize sign bytes endpoint cluster nonce := by
  obtain ⟨⟨text, htext⟩, bs, hbs⟩ := IsNonce.reads hnonce
  have hle := length_bufferOfEntry_le hbs
  let nonce : ByteString := ⟨bs, by omega⟩
  have helements := encodeBuffer_attestationElements (show bufferOfEntry v = .ok nonce.bytes from hbs)
  have hlength : (attestationElement nonce).wire.length ≤ bs.length + 1024 :=
    length_attestationElement nonce
  have hsize (elements : ByteString) (helements : elements.bytes = (attestationElement nonce).wire) :
      ∃ payload, invokeCommandResponseData (path.withCommand 1) [
        field 0 .buffer (.buffer elements.bytes),
        field 1 .buffer (.buffer (sign (elements.bytes ++ bytes) ExampleCerts.TEST_DAC_PRIVKEY).bytes)] =
          .ok payload ∧
        payload.length = attestationResponseSize sign bytes endpoint cluster nonce := by
    have hentries : List.Forall₂ Writable
        [bytesSize elements.bytes.length,
          bytesSize (sign (elements.bytes ++ bytes) ExampleCerts.TEST_DAC_PRIVKEY).bytes.length]
        [field 0 .buffer (.buffer elements.bytes),
          field 1 .buffer (.buffer (sign (elements.bytes ++ bytes)
            ExampleCerts.TEST_DAC_PRIVKEY).bytes)] :=
      .cons (writable_buffer 0 rfl) (.cons (writable_buffer 1 rfl) .nil)
    obtain ⟨payload, hpayload, hsize⟩ := invokeCommandResponseData_ok
      (h.withCommand (show 1 < 2 ^ 32 by decide)) hentries rfl
    refine ⟨payload, hpayload, ?_⟩
    rw [hsize, helements]
    rfl
  obtain ⟨payload, hpayload, hsize⟩ := hsize ⟨(attestationElement nonce).wire, by omega⟩ rfl
  refine ⟨nonce, payload, hbs, ?_, hsize⟩
  unfold attest
  rw [htext, helements, hchallenge]
  simp only [bind, Except.bind, hpayload]
  rfl

theorem attest_error (hno : ¬ IsNonce v) : ∃ e, attest sign challenge path v = .error e := by
  have hthrows {e : JsError} (hv : bufferOfEntry v = .error e) :
      encodeBuffer (templateAttestationElements v) = .error e := by
    have hdeclaration : bufferOfEntry (.buffer ExampleCerts.TEST_CERTIFICATION_DECLARATION.bytes) =
        .ok ExampleCerts.TEST_CERTIFICATION_DECLARATION.bytes := rfl
    refine encodeBuffer_structOf_error (writable_buffer 1 hdeclaration) ?_
    unfold field performEntry
    dsimp only
    rw [hv]
  cases v with
  | undefined => exact ⟨_, rfl⟩
  | number x => exact ⟨_, rfl⟩
  | bigint n => exact ⟨_, rfl⟩
  | boolean b =>
    refine ⟨.typeError, ?_⟩
    unfold attest
    rw [hthrows rfl]
    rfl
  | object entry =>
    refine ⟨.typeError, ?_⟩
    unfold attest
    rw [hthrows rfl]
    rfl
  | buffer bs => exact absurd trivial hno
  | string s => exact absurd trivial hno
  | array entries => exact absurd trivial hno

/-- The certificates of the chain. -/
theorem length_certificates : ExampleCerts.TEST_PAI_CERTIFICATE.bytes.length ≤ 512 ∧
    ExampleCerts.TEST_DAC_CERTIFICATE.bytes.length ≤ 512 := by
  constructor
  · simp [ExampleCerts.TEST_PAI_CERTIFICATE, ExampleCerts.words, toBE]
  · simp [ExampleCerts.TEST_DAC_CERTIFICATE, ExampleCerts.words, toBE]

theorem certificateChain_ok (h : path.HasIds endpoint cluster command) (v : JsValue) :
    ∃ payload, certificateChain path v = .ok (.response v payload) ∧
      ∀ p ∈ [payload], p.length ≤ 1024 := by
  have hshort : (if looseEqNat v 2 then ExampleCerts.TEST_PAI_CERTIFICATE
      else ExampleCerts.TEST_DAC_CERTIFICATE).bytes.length ≤ 512 := by
    split
    · exact length_certificates.1
    · exact length_certificates.2
  unfold certificateChain
  generalize (if looseEqNat v 2 then ExampleCerts.TEST_PAI_CERTIFICATE
    else ExampleCerts.TEST_DAC_CERTIFICATE) = certificate at hshort
  have hentries : List.Forall₂ Writable [bytesSize certificate.bytes.length]
      [field 0 .buffer (.buffer certificate.bytes)] := .cons (writable_buffer 0 rfl) .nil
  obtain ⟨payload, hpayload, hlength⟩ :=
    loggedResponse_ok (h.withCommand (show 3 < 2 ^ 32 by decide)) hentries rfl
  have hdata : [bytesSize certificate.bytes.length].sum ≤ 900 := by
    have hle := bytesSize_le certificate.bytes.length
    rw [List.sum_cons, List.sum_nil]
    omega
  refine ⟨payload, ?_, Answer.short_of_length hlength hdata⟩
  dsimp only
  rw [hpayload]
  rfl

theorem acceptNoc_ok (h : path.HasIds endpoint cluster command) (hv : HasText v) :
    ∃ payload, acceptNoc path v = .ok (.noc v payload) ∧ ∀ p ∈ [payload], p.length ≤ 1024 := by
  have htext : ∃ text, v.toStringHex = .ok text := by
    cases v with
    | undefined | number _ | bigint _ => exact hv.elim
    | boolean _ | string _ | buffer _ | array _ | object _ => exact ⟨_, rfl⟩
  obtain ⟨text, htext⟩ := htext
  have hentries : List.Forall₂ Writable [numberSize 0, numberSize 1]
      [field 0 .uint8 (.nat 0), field 1 .uint8 (.nat 1)] :=
    .cons (writable_number 0 (by simp) (by decide))
      (.cons (writable_number 1 (by simp) (by decide)) .nil)
  obtain ⟨payload, hpayload, hlength⟩ :=
    loggedResponse_ok (h.withCommand (show 8 < 2 ^ 32 by decide)) hentries rfl
  refine ⟨payload, ?_, Answer.short_of_length hlength (by decide)⟩
  unfold acceptNoc
  rw [htext]
  simp only [bind, Except.bind, hpayload]
  rfl

theorem acceptNoc_error (path : CommandPath) (hv : ¬ HasText v) : ∃ e, acceptNoc path v = .error e := by
  cases v with
  | undefined | number _ | bigint _ => exact ⟨_, rfl⟩
  | boolean _ | string _ | buffer _ | array _ | object _ => exact absurd trivial hv

/-- What is read from a payload is no larger than it. -/
theorem weight_commandData (h : commandData tlv = .ok v) : v.weight ≤ tlv.length := by
  obtain ⟨result, hdecode, h⟩ := bind_eq_ok h
  obtain ⟨params, hparams, h⟩ := bind_eq_ok h
  obtain ⟨list, hlist, h⟩ := bind_eq_ok h
  obtain ⟨entry, hentry, h⟩ := bind_eq_ok h
  exact (weight_valueAt h).trans ((weight_valueAt hentry).trans ((weight_valueAt hlist).trans
    ((weight_valueAt hparams).trans (weight_decode hdecode))))

theorem weight_firstField (h : firstField tlv = .ok v) : v.weight ≤ tlv.length := by
  obtain ⟨data, hdata, h⟩ := bind_eq_ok h
  exact (weight_valueAt h).trans (weight_commandData hdata)

/-- A payload whose data is read was decoded. -/
theorem decode_of_commandData (h : commandData tlv = .ok v) : ∃ result, decode tlv = .ok result := by
  obtain ⟨result, hdecode, -⟩ := bind_eq_ok h
  exact ⟨result, hdecode⟩

theorem decode_of_firstField (h : firstField tlv = .ok v) : ∃ result, decode tlv = .ok result := by
  obtain ⟨data, hdata, -⟩ := bind_eq_ok h
  exact decode_of_commandData hdata

/-- The four places that AddNoc reads. -/
theorem onAddNoc_eq {entries : List DeterministicJson} (h : commandData tlv = .ok (.array entries))
    (hlen : 4 ≤ entries.length) (hv : (JsValue.array entries).valueAt 0 = .ok v) :
    onAddNoc tlv path = acceptNoc path v := by
  have hread (i : Nat) (hi : i < 4) : ∃ w, (JsValue.array entries).valueAt i = .ok w := by
    refine ⟨(entries.get ⟨i, by omega⟩).value, ?_⟩
    rw [JsValue.valueAt, List.getElem?_eq_getElem (by omega)]
    rfl
  obtain ⟨w1, h1⟩ := hread 1 (by decide)
  obtain ⟨w2, h2⟩ := hread 2 (by decide)
  obtain ⟨w3, h3⟩ := hread 3 (by decide)
  unfold onAddNoc
  simp only [h, bind, Except.bind, hv, h1, h2, h3]

/-- A handler of AddNoc that answers found four entries, and a certificate in the first. -/
theorem onAddNoc_error (hno : ¬ ∃ result data v, decode tlv = .ok result ∧ DataAt result data ∧
      StandsAt data 0 v ∧ 4 ≤ data.length ∧ HasText v) :
    ∃ e, onAddNoc tlv path = .error e := by
  cases hrun : onAddNoc tlv path with
  | error e => exact ⟨e, rfl⟩
  | ok a =>
    exfalso
    obtain ⟨data, hdata, hrest⟩ := bind_eq_ok hrun
    obtain ⟨nocTlv, hnoc, hrest⟩ := bind_eq_ok hrest
    obtain ⟨_, -, hrest⟩ := bind_eq_ok hrest
    obtain ⟨_, -, hrest⟩ := bind_eq_ok hrest
    obtain ⟨w, hw, hrest⟩ := bind_eq_ok hrest
    have htext : HasText nocTlv := by
      by_contra hnone
      obtain ⟨e, he⟩ := acceptNoc_error path hnone
      rw [he] at hrest
      cases hrest
    cases data with
    | array entries =>
      obtain ⟨result, hdecode⟩ := decode_of_commandData hdata
      refine hno ⟨result, entries, nocTlv, hdecode, (commandData_array_iff hdecode).mp hdata,
        valueAt_array_iff.mp hnoc, ?_, htext⟩
      by_contra hlen
      rw [JsValue.valueAt, List.getElem?_eq_none (by omega)] at hw
      cases hw
    | buffer bs =>
      simp only [JsValue.valueAt] at hnoc
      split at hnoc
      · cases hnoc
        exact htext
      · cases hnoc
    | string s =>
      simp only [JsValue.valueAt] at hnoc
      split at hnoc
      · cases hnoc
        exact htext
      · cases hnoc
    | undefined | boolean _ | number _ | bigint _ | object _ => cases hnoc

/-- **Every command of operational credentials whose data is usable is answered.** -/
theorem onCommand_ok (h : path.HasIds endpoint cluster command) {bytes : Bytes}
    (hchallenge : challenge = .ok bytes) (hno : NoBigint tlv) (hshort : tlv.length < 2 ^ 31)
    (husable : ∀ k ∈ command, Usable tlv k) :
    ∃ a, onCommand sign challenge tlv path = .ok a ∧
      a.reaction = reactionTo .operationalCredentials command ∧
      a.Sized sign bytes tlv .operationalCredentials endpoint cluster command := by
  have hother {k : Nat} (hk : k ≠ 0) : ¬ Attests .operationalCredentials (some k) := fun h =>
    hk (Option.some.inj h.2)
  unfold onCommand
  simp only [h.commandId, idValue_strictEqNat, decide_eq_true_eq]
  by_cases h0 : command = some 0
  · subst h0
    obtain ⟨result, data, v, hdecode, hdata, hfirst, hnonce⟩ := husable 0 rfl
    have hv := firstField_eq hdecode hdata hfirst
    have hle := weight_firstField hv
    obtain ⟨nonce, payload, hbytes, hpayload, hlength⟩ :=
      attest_ok sign h hchallenge hnonce (by omega)
    refine ⟨.response v payload, ?_, rfl, fun hno => absurd ⟨rfl, rfl⟩ hno, fun _ =>
      ⟨nonce, payload, ⟨result, data, v, hdecode, hdata, hfirst, hbytes⟩, rfl, hlength⟩⟩
    rw [if_pos rfl, onAttestationRequest, hv]
    exact hpayload
  by_cases h2 : command = some 2
  · subst h2
    obtain ⟨result, held, hdecode, hheld⟩ := husable 2 rfl
    obtain ⟨v, hv⟩ := (firstField_iff hdecode).mpr ⟨held, hheld⟩
    obtain ⟨payload, hpayload, hlength⟩ := certificateChain_ok h v
    refine ⟨.response v payload, ?_, rfl, Answer.sized_short (hother (by decide)) hlength⟩
    rw [if_neg h0, if_pos rfl, onCertificateChainRequest, hdecode, hv]
    simp only [bind, Except.bind, stringify, hno result hdecode]
    exact hpayload
  by_cases h4 : command = some 4
  · subst h4
    obtain ⟨result, held, hdecode, hheld⟩ := husable 4 rfl
    obtain ⟨v, hv⟩ := (firstField_iff hdecode).mpr ⟨held, hheld⟩
    refine ⟨.csr v path, ?_, rfl,
      Answer.sized_short (hother (by decide)) (List.forall_mem_nil _)⟩
    rw [if_neg h0, if_neg h2, if_pos rfl, onCsrRequest, hv]
    rfl
  by_cases h11 : command = some 11
  · subst h11
    obtain ⟨result, held, hdecode, hheld⟩ := husable 11 rfl
    obtain ⟨v, hv⟩ := (firstField_iff hdecode).mpr ⟨held, hheld⟩
    obtain ⟨payload, hpayload, hlength⟩ :=
      invokeCommandResponseStatus_ok h (show 0 < 2 ^ 64 by decide)
    refine ⟨.response v payload, ?_, rfl, Answer.sized_short (hother (by decide))
      (Answer.short_of_length hlength (by decide))⟩
    rw [if_neg h0, if_neg h2, if_neg h4, if_pos rfl, onAddTrustedRootCertificate, hv]
    simp only [bind, Except.bind, hpayload]
    rfl
  by_cases h6 : command = some 6
  · subst h6
    obtain ⟨result, entries, v, hdecode, hdata, hfirst, hlen, htext⟩ := husable 6 rfl
    have haddNoc : onAddNoc tlv path = acceptNoc path v :=
      onAddNoc_eq ((commandData_array_iff hdecode).mpr hdata) hlen (valueAt_array_iff.mpr hfirst)
    obtain ⟨payload, hpayload, hlength⟩ := acceptNoc_ok h htext
    refine ⟨.noc v payload, ?_, rfl, Answer.sized_short (hother (by decide)) hlength⟩
    rw [if_neg h0, if_neg h2, if_neg h4, if_neg h11, if_pos rfl, haddNoc]
    exact hpayload
  · rw [if_neg h0, if_neg h2, if_neg h4, if_neg h11, if_neg h6]
    refine ⟨.silent, rfl, ?_, Answer.sized_short (fun h => h0 h.2) (List.forall_mem_nil _)⟩
    cases command with
    | none => rfl
    | some k =>
      simp only [Option.some.injEq] at h0 h2 h4 h6 h11
      have hk : k ∉ [0, 2, 6, 11] := by simp [h0, h2, h6, h11]
      rw [reactionTo, Option.elim_some, reactionOf, if_neg h4, if_neg hk]
      rfl

/-- **A command whose data is not usable makes its handler throw.** -/
theorem onCommand_error {k : Nat} (h : path.commandId = .nat k) (hno : ¬ Usable tlv k) :
    ∃ e, onCommand sign challenge tlv path = .error e := by
  have hread {α : Type} (f : JsValue → Except JsError α)
      (hall : ¬ ∃ result v, decode tlv = .ok result ∧ HeldAt result v ∧ HasFirst v) :
      ∃ e, (firstField tlv >>= f) = .error e := by
    cases hv : firstField tlv with
    | error e => exact ⟨e, rfl⟩
    | ok v =>
      obtain ⟨result, hdecode⟩ := decode_of_firstField hv
      obtain ⟨held, hheld⟩ := (firstField_iff hdecode).mp ⟨v, hv⟩
      exact absurd ⟨result, held, hdecode, hheld⟩ hall
  unfold onCommand
  simp only [h, JsValue.strictEqNat_nat, decide_eq_true_eq]
  unfold Usable at hno
  by_cases h0 : k = 0
  · rw [if_pos h0] at hno ⊢
    cases hv : firstField tlv with
    | error e =>
      rw [onAttestationRequest, hv]
      exact ⟨e, rfl⟩
    | ok v =>
      rw [onAttestationRequest, hv]
      refine attest_error fun hnonce => hno ?_
      have hne : v ≠ .undefined := by
        rintro rfl
        exact hnonce
      obtain ⟨result, hdecode⟩ := decode_of_firstField hv
      obtain ⟨data, hdata, hfirst⟩ := dataAt_of_firstField hdecode hv hne
      exact ⟨result, data, v, hdecode, hdata, hfirst, hnonce⟩
  rw [if_neg h0] at hno ⊢
  by_cases h6 : k = 6
  · subst h6
    rw [if_pos rfl] at hno
    simp only [Nat.reduceEqDiff, if_false, if_true]
    exact onAddNoc_error hno
  rw [if_neg h6] at hno ⊢
  by_cases h2 : k = 2
  · subst h2
    rw [if_pos (by simp)] at hno
    rw [if_pos rfl, onCertificateChainRequest]
    cases hdecode : decode tlv with
    | error e => exact ⟨e, rfl⟩
    | ok result =>
      cases hs : stringify (.array result) with
      | error e =>
        simp only [bind, Except.bind, hs]
        exact ⟨e, rfl⟩
      | ok u =>
        simp only [bind, Except.bind, hs]
        exact hread _ hno
  rw [if_neg h2]
  by_cases h4 : k = 4
  · subst h4
    rw [if_pos (by simp)] at hno
    rw [if_pos rfl]
    exact hread _ hno
  rw [if_neg h4]
  by_cases h11 : k = 11
  · subst h11
    rw [if_pos (by simp)] at hno
    rw [if_pos rfl]
    exact hread _ hno
  · rw [if_neg (by simp [h2, h4, h11])] at hno
    exact absurd trivial hno

end OperationalCredentials

/-- **A command that is served is answered**, by any server. -/
theorem onCommand_ok (sign : Sign) {challenge : Except JsError Bytes} {tlv : Bytes}
    {server : ClusterServer} (h : path.HasIds endpoint cluster command) {bytes : Bytes}
    (hchallenge : challenge = .ok bytes) (hno : NoBigint tlv) (hshort : tlv.length < 2 ^ 31)
    (hserved : Served tlv server command) :
    ∃ a, onCommand sign challenge tlv path server = .ok a ∧
      a.reaction = reactionTo server command ∧
      a.Sized sign bytes tlv server endpoint cluster command := by
  cases server with
  | basic =>
    have hne : command ≠ some 0 := hserved
    refine ⟨.silent, ?_, ?_, Answer.sized_short (fun h => hne h.2) (List.forall_mem_nil _)⟩
    · unfold onCommand
      simp only [h.commandId, idValue_strictEqNat, decide_eq_true_eq]
      rw [if_neg hne]
    · cases command with
      | none => rfl
      | some k =>
        rw [reactionTo, Option.elim_some, reactionOf, if_neg fun hk => hne (congrArg some hk)]
        rfl
  | generalCommissioning =>
    obtain ⟨a, ha, hreaction, hlength⟩ := GeneralCommissioning.onCommand_ok h
    exact ⟨a, ha, hreaction, Answer.sized_short (fun h => by cases h.1) hlength⟩
  | networkCommissioning => exact hserved.elim
  | operationalCredentials =>
    exact OperationalCredentials.onCommand_ok h hchallenge hno hshort hserved

/-- A command that is not served makes its handler throw. -/
theorem onCommand_error {sign : Sign} {challenge : Except JsError Bytes} {tlv : Bytes}
    {server : ClusterServer} (h : path.HasIds endpoint cluster command)
    (hno : ¬ Served tlv server command) :
    ∃ e, onCommand sign challenge tlv path server = .error e := by
  cases server with
  | basic =>
    have hzero : command = some 0 := not_not.mp hno
    refine ⟨.referenceError, ?_⟩
    unfold onCommand
    simp only [h.commandId, hzero, idValue_strictEqNat, decide_true, if_true]
  | generalCommissioning => exact absurd trivial hno
  | networkCommissioning => exact ⟨.referenceError, rfl⟩
  | operationalCredentials =>
    have hk : ∃ k, command = some k ∧ ¬ OperationalCredentials.Usable tlv k := by
      by_contra hall
      exact hno fun k hk => not_not.mp fun hu => hall ⟨k, hk, hu⟩
    obtain ⟨k, hk, hu⟩ := hk
    exact OperationalCredentials.onCommand_error (by rw [h.commandId, hk, idValue]; rfl) hu

end Handlers

/-! ## 4. Entries of CommandList -/

/-- The endpoint of the command is in the table, and the command is served there. -/
structure CommandIds.Answered (tlv : Bytes) (p : CommandIds) : Prop where
  known : ∃ endpoint ∈ p.endpointId, endpoint ∈ endpointIds
  served : ∀ server, p.server = some server → Served tlv server p.commandId

/-- The response to the command is no longer than there is room for: that to AttestationRequest, with
    the nonce that stands first in the data. -/
def CommandIds.ReplyFits (sign : Sign) (challenge tlv : Bytes) (room : Nat) (p : CommandIds) : Prop :=
  ∀ server, p.server = some server → Attests server p.commandId →
    ∀ endpoint, p.endpointId = some endpoint → ∀ cluster, p.clusterId = some cluster →
    ∀ nonce, OperationalCredentials.NonceAt tlv nonce →
      OperationalCredentials.attestationResponseSize sign challenge endpoint cluster nonce ≤ room

section Entries

variable {sign : Sign} {challenge : Except JsError Bytes} {tlv : Bytes}
  {entry : DeterministicJson} {p : CommandIds}

theorem lookup_endpoints_unknown {id : Option Nat} (hsmall : ∀ n ∈ id, n < 2 ^ 32)
    (hunknown : ¬ ∃ endpoint ∈ id, endpoint ∈ endpointIds) :
    lookup endpoints (idValue id) = none := by
  cases id with
  | none =>
    rw [idValue, Option.elim_none, lookup, List.lookup_eq_none_iff]
    intro row hrow
    simp only [endpoints, List.mem_cons, List.not_mem_nil, or_false] at hrow
    rcases hrow with rfl | rfl | rfl | rfl <;> rfl
  | some n =>
    have hlt := hsmall n rfl
    rw [idValue, Option.elim_some, lookup_nat _ (by omega), ← Option.not_isSome_iff_eq_none,
      known_iff]
    exact fun hn => hunknown ⟨n, rfl, hn⟩

/-- An entry without a bigint is read as its ids. -/
theorem NamesCommand.ofTlv (h : NamesCommand entry p) (hbig : entry.value.hasBigint = false) :
    p.Small ∧ ∃ pathTlv data, findTag entry.value 0 = .ok pathTlv ∧
      CommandPath.ofTlv pathTlv = .ok p.path ∧ findTag entry.value 1 = .ok data ∧
      stringify data = .ok () := by
  obtain ⟨fields, pathFields, hv, hpath, hendpoint, hcluster, hcommand⟩ := h.fields
  rw [hv] at hbig ⊢
  have hids := tagged_hasBigint hbig 0
  rw [hpath] at hids
  obtain ⟨he, hes⟩ := hendpoint.eq (tagged_hasBigint hids 0)
  obtain ⟨hc, hcs⟩ := hcluster.eq (tagged_hasBigint hids 1)
  obtain ⟨hk, hks⟩ := hcommand.eq (tagged_hasBigint hids 2)
  refine ⟨⟨hes, hcs, hks⟩, _, _, rfl, ?_, rfl, ?_⟩
  · unfold CommandIds.path
    rw [hpath, ← he, ← hc, ← hk]
    rfl
  · unfold stringify
    rw [if_neg (by rw [tagged_hasBigint hbig 1]; decide)]

theorem NamesCommand.small (h : NamesCommand entry p) (hbig : entry.value.hasBigint = false) :
    p.Small := (h.ofTlv hbig).1

/-- **What is done for an entry without a bigint**: its path is looked up by its ids. -/
theorem NamesCommand.commandAnswer_eq (h : NamesCommand entry p)
    (hbig : entry.value.hasBigint = false) :
    commandAnswer sign challenge tlv entry.value =
      (lookup endpoints (idValue p.endpointId)).elim (.error .typeError) fun clusters =>
        ((lookup clusters (idValue p.clusterId)).bind clusterMap).elim (.ok .silent)
          (onCommand sign challenge tlv p.path) := by
  obtain ⟨-, pathTlv, data, hpath, hids, hdata, htext⟩ := h.ofTlv hbig
  unfold commandAnswer
  rw [hpath, hdata]
  simp only [bind, Except.bind, hids, htext]
  rw [show p.path.endpointId = idValue p.endpointId from rfl]
  cases lookup endpoints (idValue p.endpointId) with
  | none => rfl
  | some clusters =>
    dsimp only [Option.elim_some]
    rw [show p.path.clusterId = idValue p.clusterId from rfl]
    cases (lookup clusters (idValue p.clusterId)).bind clusterMap <;> rfl

/-- The path of a command that has a server. -/
theorem CommandIds.Small.hasIds (h : p.Small) {server : ClusterServer}
    (hserver : p.server = some server) :
    ∃ endpoint cluster, p.endpointId = some endpoint ∧ p.clusterId = some cluster ∧
      p.path.HasIds endpoint cluster p.commandId := by
  obtain ⟨endpoint, hendpoint, hrest⟩ := Option.bind_eq_some_iff.mp hserver
  obtain ⟨cluster, hcluster, -⟩ := Option.bind_eq_some_iff.mp hrest
  exact ⟨endpoint, cluster, hendpoint, hcluster, by unfold path; rw [hendpoint, idValue]; rfl,
    by unfold path; rw [hcluster, idValue]; rfl, rfl, h.endpointId endpoint hendpoint,
    h.clusterId cluster hcluster, h.commandId⟩

/-- What is done for an entry of an endpoint of the table. -/
theorem commandAnswer_known (h : NamesCommand entry p) (hbig : entry.value.hasBigint = false)
    (hknown : ∃ endpoint ∈ p.endpointId, endpoint ∈ endpointIds) :
    commandAnswer sign challenge tlv entry.value =
      p.server.elim (.ok .silent) (onCommand sign challenge tlv p.path) := by
  obtain ⟨endpoint, hendpoint, hmem⟩ := hknown
  obtain ⟨rows, hrows, hlookup⟩ := hosts_of_known hmem
  rw [Option.mem_def] at hendpoint
  have hserver : p.server = p.clusterId.bind (serverAt endpoint) := by
    unfold CommandIds.server
    rw [hendpoint]
    rfl
  have hfound : lookup endpoints (idValue p.endpointId) = some (hosts rows) := by
    rw [hendpoint]
    exact hlookup
  rw [h.commandAnswer_eq hbig, hfound, Option.elim_some,
    lookup_server hrows (h.small hbig).clusterId, hserver]

/-- **An entry that is answered**, as its ids say. -/
theorem commandAnswer_ok (sign : Sign) (h : NamesCommand entry p) (hbig : entry.value.hasBigint = false)
    {bytes : Bytes} (hchallenge : challenge = .ok bytes) (hno : NoBigint tlv)
    (hshort : tlv.length < 2 ^ 31) (hp : p.Answered tlv) :
    ∃ a, commandAnswer sign challenge tlv entry.value = .ok a ∧ a.reaction = p.reaction ∧
      ∀ room, 1024 ≤ room →
        ((∀ payload ∈ a.payloads, payload.length ≤ room) ↔ p.ReplyFits sign bytes tlv room) := by
  rw [commandAnswer_known h hbig hp.known]
  cases hs : p.server with
  | none =>
    refine ⟨.silent, rfl, ?_, fun room _ => ⟨fun _ => ?_, fun _ => List.forall_mem_nil _⟩⟩
    · unfold CommandIds.reaction
      rw [hs]
      rfl
    · intro server hserver
      cases hs.symm.trans hserver
  | some server =>
    obtain ⟨endpoint, cluster, hendpoint, hcluster, hpath⟩ := (h.small hbig).hasIds hs
    obtain ⟨a, ha, hreaction, hsized⟩ :=
      onCommand_ok sign hpath hchallenge hno hshort (hp.served server hs)
    refine ⟨a, ha, ?_, fun room hroom => ?_⟩
    · unfold CommandIds.reaction
      rw [hs, hreaction]
      cases p.commandId <;> rfl
    · by_cases hattests : Attests server p.commandId
      · obtain ⟨nonce, payload, hnonce, hpayloads, hlength⟩ := hsized.attested hattests
        rw [hpayloads, List.forall_mem_singleton, hlength]
        constructor
        · intro hfits server' hserver' _ endpoint' hendpoint' cluster' hcluster' nonce' hnonce'
          cases hendpoint.symm.trans hendpoint'
          cases hcluster.symm.trans hcluster'
          cases hnonce.unique hnonce'
          exact hfits
        · intro hfits
          exact hfits server hs hattests endpoint hendpoint cluster hcluster nonce hnonce
      · refine ⟨fun _ server' hserver' hattests' => ?_, fun _ payload hpayload =>
          (hsized.short hattests payload hpayload).trans hroom⟩
        cases hs.symm.trans hserver'
        exact absurd hattests' hattests

/-- **An entry that is not answered makes the request throw.** -/
theorem commandAnswer_error (sign : Sign) (challenge : Except JsError Bytes)
    (h : NamesCommand entry p) (hbig : entry.value.hasBigint = false)
    (hp : ¬ p.Answered tlv) : ∃ e, commandAnswer sign challenge tlv entry.value = .error e := by
  by_cases hknown : ∃ endpoint ∈ p.endpointId, endpoint ∈ endpointIds
  · rw [commandAnswer_known h hbig hknown]
    have hserver : ∃ server, p.server = some server ∧ ¬ Served tlv server p.commandId := by
      by_contra hall
      exact hp ⟨hknown, fun server hs => not_not.mp fun hserved => hall ⟨server, hs, hserved⟩⟩
    obtain ⟨server, hs, hserved⟩ := hserver
    obtain ⟨endpoint, cluster, -, -, hpath⟩ := (h.small hbig).hasIds hs
    rw [hs]
    exact onCommand_error hpath hserved
  · refine ⟨.typeError, ?_⟩
    rw [h.commandAnswer_eq hbig, lookup_endpoints_unknown (h.small hbig).endpointId hknown]
    rfl

end Entries

end Matternode.Protocols.InteractionModel
