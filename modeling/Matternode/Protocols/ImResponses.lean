/-
  File:      Matternode/Protocols/ImResponses.lean
  Subject:   What the writer makes of a response, and how long it is.

  * `Writable` -- an entry that the writer writes, with the length of its bytes;
  * `numberSize`, `bytesSize`, `responseSize` -- the lengths;
  * `invokeCommandResponseData_ok`, `invokeCommandResponseStatus_ok` -- **a response is written**,
    and is as long as its ids and its data make it.
-/
import Matternode.Protocols.ImCommand

namespace Matternode.Protocols.InteractionModel

open Base Js Tlv Messaging Clusters

/-! ## 1. What the writer takes -/

/-- The writer writes the entry, as an element of so many bytes. -/
def Writable (size : Nat) (entry : DeterministicJson) : Prop :=
  ∃ e : Element, Appends (performEntry entry.tag entry.profile entry) e.wire ∧ e.wire.length = size

/-- An unsigned integer under a tag. -/
def numberSize (n : Nat) : Nat := 2 + 2 ^ unsignedWidth n

/-- An octet string under a tag. -/
def bytesSize (length : Nat) : Nat := 2 + 2 ^ unsignedWidth length + length

theorem width_le (n : Nat) : 2 ^ unsignedWidth n ≤ 8 := by
  have hlt := unsignedWidth_lt n
  exact (Nat.pow_le_pow_right (by decide) (Nat.le_of_lt_succ hlt)).trans (by decide)

theorem numberSize_le (n : Nat) : numberSize n ≤ 10 := Nat.add_le_add_left (width_le n) 2

theorem bytesSize_le (length : Nat) : bytesSize length ≤ length + 10 := by
  have hle := width_le length
  unfold bytesSize
  omega

theorem length_unsigned (tag : UInt8) {n : Nat} (hn : n < 2 ^ 64) :
    (Element.leaf (some tag) (.unsigned (UInt64.ofNat n))).wire.length = numberSize n := by
  have hnat : (UInt64.ofNat n).toNat = n := by
    rw [UInt64.toNat_ofNat', Nat.mod_eq_of_lt hn]
  simp only [Element.wire, Leaf.payload, Tlv.header, List.length_append, List.length_cons,
    Option.toList_some, List.length_nil, length_shortest, hnat, numberSize]

theorem length_bytes (tag : UInt8) (bs : ByteString) :
    (Element.leaf (some tag) (.bytes bs)).wire.length = bytesSize bs.bytes.length := by
  simp only [Element.wire, Leaf.payload, Tlv.header, List.length_append, List.length_cons,
    Option.toList_some, List.length_nil, length_shortest, bytesSize]
  omega

theorem length_container (tag : Option UInt8) (kind : ContainerKind) (children : List Element) :
    (Element.container tag kind children).wire.length =
      2 + tag.toList.length + (forestWire children).length := by
  simp only [Element.wire, Tlv.header, List.length_append, List.length_cons, Option.toList_none,
    List.length_nil]
  omega

theorem writable_number (tag : UInt8) {label : TypeLabel} {n : Nat}
    (hlabel : label ∈ [TypeLabel.uint8, .uint16, .uint32, .uint64]) (hn : n < 2 ^ 64) :
    Writable (numberSize n) (field tag.toNat label (.nat n)) := by
  have hnat : (UInt64.ofNat n).toNat = n := by
    rw [UInt64.toNat_ofNat', Nat.mod_eq_of_lt hn]
  have hgiven : (Element.leaf (some tag) (.unsigned (UInt64.ofNat n))).IsGivenBy
      (field tag.toNat label (.nat n)) :=
    .leaf none (.unsigned hlabel (by rw [hnat]; exact .number _) fun k hk => by cases hk)
  exact ⟨_, performEntry_given hgiven, length_unsigned tag hn⟩

theorem appends_buffer (tag : UInt8) {v : JsValue} {bs : ByteString}
    (h : bufferOfEntry v = .ok bs.bytes) :
    Appends (performEntry (some (tag.toNat : Int)) none (field tag.toNat .buffer v))
      (Element.leaf (some tag) (.bytes bs)).wire := by
  unfold field performEntry
  dsimp only
  rw [h]
  exact putBytes_given bs (some tag)

theorem writable_buffer (tag : UInt8) {v : JsValue} {bs : ByteString}
    (h : bufferOfEntry v = .ok bs.bytes) :
    Writable (bytesSize bs.bytes.length) (field tag.toNat .buffer v) :=
  ⟨_, appends_buffer tag h, length_bytes tag bs⟩

theorem writable_boolean (tag : UInt8) (v : JsValue) :
    Writable 2 (field tag.toNat .boolean v) := by
  refine ⟨.leaf (some tag) (.boolean v.truthy), ?_, by
    simp [Element.wire, Tlv.header, Leaf.payload]⟩
  have hput : putBoolean v (jsonTag (some tag)) none =
      putBoolean (.boolean v.truthy) (jsonTag (some tag)) none := rfl
  have hgiven := putBoolean_given v.truthy (some tag)
  rw [← hput] at hgiven
  unfold field performEntry
  exact hgiven

theorem appends_entries {sizes : List Nat} {entries : List DeterministicJson}
    (h : List.Forall₂ Writable sizes entries) :
    ∃ es : List Element, Appends (performEntries entries) (forestWire es) ∧
      (forestWire es).length = sizes.sum := by
  induction h with
  | nil =>
    refine ⟨[], ?_, rfl⟩
    unfold performEntries
    exact appends_pure
  | cons hentry _ ih =>
    obtain ⟨e, he, hlength⟩ := hentry
    obtain ⟨es, hes, hlengths⟩ := ih
    refine ⟨e :: es, ?_, ?_⟩
    · unfold performEntries forestWire
      exact he.bind hes
    · rw [forestWire, List.length_append, hlength, hlengths, List.sum_cons]

theorem writable_container (tag : Option UInt8) (kind : ContainerKind) {sizes : List Nat}
    {entries : List DeterministicJson} (h : List.Forall₂ Writable sizes entries) :
    Writable (2 + tag.toList.length + sizes.sum)
      { tag := jsonTag tag, type := some kind.label, value := .array entries } := by
  obtain ⟨es, hes, hlength⟩ := appends_entries h
  refine ⟨.container tag kind es, ?_, by rw [length_container, hlength]⟩
  unfold Element.wire
  exact performEntry_container tag kind _ _ none hes

theorem writable_field (tag : UInt8) (kind : ContainerKind) {sizes : List Nat}
    {entries : List DeterministicJson} (h : List.Forall₂ Writable sizes entries) :
    Writable (3 + sizes.sum) (field tag.toNat kind.label (.array entries)) :=
  writable_container (some tag) kind h

/-- What the writer does with a structure. -/
theorem encodeBuffer_structOf_eq (fields : List DeterministicJson) :
    encodeBuffer (structOf fields) = bufferOf
      (performEntry none none { type := some .struct, value := .array fields }) := by
  unfold encodeBuffer encode structOf perform
  rfl

theorem encodeBuffer_structOf_appends {fields : List DeterministicJson} {bs : Bytes}
    (h : Appends (performEntries fields) bs) : encodeBuffer (structOf fields) =
      .ok (Tlv.header tlvTypeStructure none ++ (bs ++ Tlv.header tlvTypeEnd none)) := by
  rw [encodeBuffer_structOf_eq]
  exact bufferOf_appends (performEntry_container none .struct none none none h)

/-- A structure with writable fields has an encoding. -/
theorem encodeBuffer_structOf {sizes : List Nat} {fields : List DeterministicJson}
    (h : List.Forall₂ Writable sizes fields) :
    ∃ bs, encodeBuffer (structOf fields) = .ok bs ∧ bs.length = 2 + sizes.sum := by
  obtain ⟨es, hes, hlength⟩ := appends_entries h
  refine ⟨_, encodeBuffer_structOf_appends hes, ?_⟩
  simp only [Tlv.header, List.length_append, List.length_cons, Option.toList_none, List.length_nil,
    hlength]
  omega

/-- A field that throws after a writable one leaves a structure without an encoding. -/
theorem encodeBuffer_structOf_error {size : Nat} {first entry : DeterministicJson}
    {entries : List DeterministicJson} {e : JsError} (hfirst : Writable size first)
    (hentry : performEntry entry.tag entry.profile entry = throw e) :
    encodeBuffer (structOf (first :: entry :: entries)) = .error e := by
  obtain ⟨element, helement, -⟩ := hfirst
  have hbody (w : TlvWriter) : ∃ w', (performEntries (first :: entry :: entries)).run w =
      .error e w' := by
    refine ⟨{ w with buf := w.buf ++ element.wire }, ?_⟩
    unfold performEntries performEntries
    rw [run_bind_ok (helement w), hentry]
    exact run_bind_error (run_throw e _)
  have hstart : Appends (putStructStart none none) (header tlvTypeStructure none) :=
    appends_append (encodeControlByte_plain none (by decide))
  rw [encodeBuffer_structOf_eq]
  unfold bufferOf performEntry
  dsimp only
  rw [run_bind_ok (hstart {})]
  obtain ⟨w', hw'⟩ := hbody { buf := [] ++ header tlvTypeStructure none }
  have hthrows : (perform .encode (.array (first :: entry :: entries))).run
      { buf := [] ++ header tlvTypeStructure none } = .error e w' := by
    unfold perform
    exact hw'
  rw [run_bind_error hthrows]

/-! ## 2. Responses -/

/-- The path has the ids of a command on an endpoint, or of none there. -/
structure CommandPath.HasIds (path : CommandPath) (endpoint cluster : Nat)
    (command : Option Nat) : Prop where
  endpointId : path.endpointId = .nat endpoint
  clusterId : path.clusterId = .nat cluster
  commandId : path.commandId = idValue command
  endpoint_lt : endpoint < 2 ^ 32
  cluster_lt : cluster < 2 ^ 32
  command_lt : ∀ k ∈ command, k < 2 ^ 32

/-- The response to a command, whose data has so many bytes. -/
def responseSize (endpoint cluster command data : Nat) : Nat :=
  21 + numberSize endpoint + numberSize cluster + numberSize command + data

theorem responseSize_le (endpoint cluster command data : Nat) :
    responseSize endpoint cluster command data ≤ data + 51 := by
  have hendpoint := numberSize_le endpoint
  have hcluster := numberSize_le cluster
  have hcommand := numberSize_le command
  unfold responseSize
  omega

section Responses

variable {path : CommandPath} {endpoint cluster k : Nat} {command : Option Nat} {sizes : List Nat}
  {data : List DeterministicJson}

theorem CommandPath.HasIds.withCommand (h : path.HasIds endpoint cluster command) {id : Nat}
    (hid : id < 2 ^ 32) : (path.withCommand id).HasIds endpoint cluster (some id) :=
  ⟨h.endpointId, h.clusterId, rfl, h.endpoint_lt, h.cluster_lt, by simpa using hid⟩

theorem CommandPath.HasIds.writable (h : path.HasIds endpoint cluster (some k)) (tag : UInt8) :
    Writable (3 + [numberSize endpoint, numberSize cluster, numberSize k].sum)
      (path.template tag.toNat) := by
  have he := h.endpoint_lt
  have hc := h.cluster_lt
  have hk := h.command_lt k rfl
  unfold CommandPath.template
  rw [h.endpointId, h.clusterId, h.commandId]
  exact writable_field tag .list (.cons (writable_number 0 (by simp) (by omega))
    (.cons (writable_number 1 (by simp) (by omega))
    (.cons (writable_number 2 (by simp) (by omega)) .nil)))

theorem CommandPath.HasIds.hasBigint (h : path.HasIds endpoint cluster (some k)) (tag : Int) :
    (path.template tag).value.hasBigint = false := by
  unfold CommandPath.template
  rw [h.endpointId, h.clusterId, h.commandId]
  rfl

/-- A response has a payload, whatever its one entry holds. -/
theorem responsePayload_ok {suppress : JsValue} {ib : DeterministicJson} {size : Nat}
    (hs : suppress.hasBigint = false) (hib : Writable size ib) (hno : ib.value.hasBigint = false) :
    ∃ payload, responsePayload (structOf [
      field 0 .boolean suppress,
      field 1 .array (.array [arrayEntry [ib]]),
      field 0xFF .uint8 (.nat 1)]) = .ok payload ∧ payload.length = 12 + size := by
  have hentry : Writable (2 + [size].sum) (arrayEntry [ib]) :=
    writable_container none .struct (.cons hib .nil)
  have hfields : List.Forall₂ Writable
      [2, 3 + [2 + [size].sum].sum, numberSize 1] [
      field 0 .boolean suppress,
      field 1 .array (.array [arrayEntry [ib]]),
      field 0xFF .uint8 (.nat 1)] :=
    .cons (writable_boolean 0 _) (.cons (writable_field 1 .array (.cons hentry .nil))
      (.cons (writable_number 0xFF (by simp) (by decide)) .nil))
  obtain ⟨payload, hpayload, hlength⟩ := encodeBuffer_structOf hfields
  refine ⟨payload, ?_, ?_⟩
  · obtain ⟨profile, tag, type, value, tagName⟩ := ib
    unfold responsePayload
    rw [hpayload]
    simp only [bind, Except.bind, stringify]
    rw [if_neg (by simpa [structOf, field, arrayEntry, JsValue.hasBigint, entriesHaveBigint, hs]
      using hno)]
    rfl
  · rw [hlength, show numberSize 1 = 3 from rfl]
    simp only [List.sum_cons, List.sum_nil]
    omega

/-- What stands in a response: a path, and a structure beside it. -/
theorem writable_besidePath (h : path.HasIds endpoint cluster (some k)) (tag : UInt8)
    (hdata : List.Forall₂ Writable sizes data) :
    Writable (9 + numberSize endpoint + numberSize cluster + numberSize k + sizes.sum)
      (field tag.toNat .struct (.array [path.template 0, field 1 .struct (.array data)])) := by
  have hsize : 9 + numberSize endpoint + numberSize cluster + numberSize k + sizes.sum =
      3 + [3 + [numberSize endpoint, numberSize cluster, numberSize k].sum, 3 + sizes.sum].sum := by
    simp only [List.sum_cons, List.sum_nil]
    omega
  rw [hsize]
  exact writable_field tag .struct
    (.cons (h.writable 0) (.cons (writable_field 1 .struct hdata) .nil))

theorem hasBigint_besidePath (h : path.HasIds endpoint cluster (some k)) (tag : Int)
    (hno : entriesHaveBigint data = false) :
    (field tag .struct (.array [path.template 0,
      field 1 .struct (.array data)])).value.hasBigint = false := by
  have hpath := h.hasBigint 0
  unfold CommandPath.template at hpath ⊢
  simpa [field, JsValue.hasBigint, entriesHaveBigint, hno] using hpath

/-- **A response with writable data is sent**, of its length. -/
theorem invokeCommandResponseData_ok (h : path.HasIds endpoint cluster (some k))
    (hdata : List.Forall₂ Writable sizes data) (hno : entriesHaveBigint data = false) :
    ∃ payload, invokeCommandResponseData path data = .ok payload ∧
      payload.length = responseSize endpoint cluster k sizes.sum := by
  obtain ⟨payload, hpayload, hlength⟩ := responsePayload_ok
    (show (JsValue.boolean false).hasBigint = false from rfl)
    (writable_besidePath h 0 hdata) (hasBigint_besidePath h 0 hno)
  refine ⟨payload, hpayload, ?_⟩
  rw [hlength, responseSize]
  omega

theorem invokeCommandResponseStatus_ok (h : path.HasIds endpoint cluster (some k)) {status : Nat}
    (hstatus : status < 2 ^ 64) :
    ∃ payload, invokeCommandResponseStatus path status = .ok payload ∧
      payload.length = responseSize endpoint cluster k (numberSize status) := by
  have hcode : Writable (numberSize status)
      ({ tag := some 0, value := .nat status } : DeterministicJson) := by
    refine ⟨.leaf (some 0) (.unsigned (UInt64.ofNat status)), ?_, length_unsigned 0 hstatus⟩
    rw [performEntry_autoDetect rfl]
    exact putNat_appends 0 hstatus
  obtain ⟨payload, hpayload, hlength⟩ := responsePayload_ok
    (show JsValue.undefined.hasBigint = false from rfl)
    (writable_besidePath h 1 (.cons hcode .nil)) (hasBigint_besidePath h 1 rfl)
  refine ⟨payload, hpayload, ?_⟩
  rw [hlength, responseSize, List.sum_cons, List.sum_nil]
  omega

theorem loggedResponse_ok (h : path.HasIds endpoint cluster (some k))
    (hdata : List.Forall₂ Writable sizes data) (hno : entriesHaveBigint data = false) :
    ∃ payload, loggedResponse path data = .ok payload ∧
      payload.length = responseSize endpoint cluster k sizes.sum := by
  obtain ⟨payload, hpayload, hlength⟩ := invokeCommandResponseData_ok h hdata hno
  refine ⟨payload, ?_, hlength⟩
  unfold loggedResponse stringify
  rw [if_neg (by simp [JsValue.hasBigint, hno])]
  exact hpayload

end Responses

end Matternode.Protocols.InteractionModel
