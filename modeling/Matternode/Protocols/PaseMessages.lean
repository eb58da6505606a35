/-
  File:      Matternode/Protocols/PaseMessages.lean
  Subject:   The five messages of a PASE handshake, written and read.

  A message is a structure without a tag of its own. The handlers of the two parameter messages find
  their fields by name, the others by place.

  * `encodeBuffer_structOf_given`, `decodeFields_structure`, `decodeAt_structure` -- a structure on
    the wire;
  * `request_readsBack`, `response_readsBack`, `pake1_readsBack`, `pake2_readsBack`,
    `pake3_readsBack` -- **what a handler reads is what its peer wrote**.
-/
import Matternode.Protocols.StatusReport
import Matternode.Tlv.Leaves

namespace Matternode.Protocols

open Base Js Messaging Tlv

/-! ## 1. Structures -/

section Structures

variable {fields : List DeterministicJson}

/-- A structure is written as its element. -/
theorem encodeBuffer_structOf_given {es : List Element} (h : ForestIsGivenBy es fields) :
    encodeBuffer (structOf fields) = .ok (Element.container none .struct es).wire := by
  have hgiven : Element.IsGivenBy (.container none .struct es)
      ⟨none, none, some .struct, .array fields, none⟩ := .container none h
  have hw : (performEntry none none ⟨none, none, some .struct, .array fields, none⟩).run {} =
      .ok () { buf := [] ++ (Element.container none .struct es).wire } :=
    performEntry_given hgiven {}
  unfold encodeBuffer encode structOf perform
  rw [hw]
  rfl

theorem decode_structure (es : List Element) :
    decode (Element.container none .struct es).wire =
      .ok [{ type := some .struct, value := .array (forestJson es) }] := by
  have h := decode_forestWire [.container none .struct es]
  rw [forestWire, forestWire, List.append_nil] at h
  rw [h]
  simp only [forestJson, Element.json]
  rfl

/-- The fields of a structure, named by their tags. -/
theorem decodeFields_structure (es : List Element) (tagNames : Parser.TagNames) :
    decodeFields (Element.container none .struct es).wire tagNames =
      .ok (.array ((forestJson es).map (Parser.nameField tagNames))) := by
  unfold decodeFields
  rw [decode_structure]
  rfl

/-- A field of a structure, by its place. -/
theorem decodeAt_structure (es : List Element) (i : Nat) :
    decodeAt (Element.container none .struct es).wire i =
      (JsValue.array (forestJson es)).valueAt i := by
  unfold decodeAt
  rw [decode_structure]
  rfl

/-- A number that fits four bytes reads back as a number. -/
theorem value_unsigned {n : Nat} (h : n < 2 ^ 32) :
    (Leaf.unsigned (UInt64.ofNat n)).value = .nat n := by
  have hnat : (UInt64.ofNat n).toNat = n := by
    rw [UInt64.toNat_ofNat', Nat.mod_eq_of_lt (by omega)]
  have hwidth := unsignedWidth_short h
  simp only [Leaf.value, hnat, integerValue]
  rw [if_neg (by omega)]

/-- A number is what a field of an unsigned type is given by. -/
theorem given_unsigned (tag : UInt8) {label : TypeLabel} {n : Nat}
    (hlabel : label ∈ [TypeLabel.uint8, .uint16, .uint32, .uint64]) (h : n < 2 ^ 64) :
    Element.IsGivenBy (.leaf (some tag) (.unsigned (UInt64.ofNat n)))
      (field tag.toNat label (.nat n)) := by
  have hnat : (UInt64.ofNat n).toNat = n := by
    rw [UInt64.toNat_ofNat', Nat.mod_eq_of_lt h]
  exact .leaf none (.unsigned hlabel (by rw [hnat]; exact .number _) fun k hk => by cases hk)

theorem given_buffer (tag : UInt8) (bs : ByteString) :
    Element.IsGivenBy (.leaf (some tag) (.bytes bs)) (field tag.toNat .buffer (.buffer bs.bytes)) :=
  .leaf none .bytes

theorem given_hex (tag : UInt8) (bs : ByteString) :
    Element.IsGivenBy (.leaf (some tag) (.bytes bs)) (field tag.toNat .buffer (hexText bs.bytes)) :=
  .leaf none .hexadecimal

end Structures

/-! ## 2. The parameters -/

/-- What is written for the flag that nobody sets. -/
theorem encodeBuffer_request (random id passcodeId : JsValue) (idle active : Nat) :
    encodeBuffer (templateMsgPasePbkdfParamRequest random id passcodeId idle active) =
      encodeBuffer (structOf [
        field 1 .buffer random,
        field 2 .uint16 id,
        field 3 .uint16 passcodeId,
        field 4 .boolean (.boolean false),
        field 5 .struct (.array [
          field 1 .uint32 (.nat idle),
          field 2 .uint32 (.nat active)])]) := by
  have hflag : performEntry (field 4 .boolean .undefined).tag (field 4 .boolean .undefined).profile
      (field 4 .boolean .undefined) = performEntry (field 4 .boolean (.boolean false)).tag
        (field 4 .boolean (.boolean false)).profile (field 4 .boolean (.boolean false)) := by
    unfold field performEntry
    rfl
  unfold templateMsgPasePbkdfParamRequest encodeBuffer encode structOf perform
  simp only [performEntry, perform, performEntries, hflag]

/-- **A ParamRequest reads as it was written.** -/
theorem request_readsBack (random : ByteString) {id : Nat} (hid : id < 65536) :
    ∃ payload tlvJson,
      encodeBuffer (templateMsgPasePbkdfParamRequest (.buffer random.bytes) (.nat id) (.nat 0)
        4000 300) = .ok payload ∧
      decodeFields payload mapMsgPasePbkdfParamRequest = .ok tlvJson ∧
      Parser.get tlvJson "initiatorRandom" = .ok (.buffer random.bytes) ∧
      Parser.get tlvJson "initiatorSessionId" = .ok (.nat id) ∧
      Parser.get tlvJson "passcodeId" = .ok (.nat 0) := by
  let es : List Element := [
    .leaf (some 1) (.bytes random),
    .leaf (some 2) (.unsigned (UInt64.ofNat id)),
    .leaf (some 3) (.unsigned (UInt64.ofNat 0)),
    .leaf (some 4) (.boolean false),
    .container (some 5) .struct [
      .leaf (some 1) (.unsigned (UInt64.ofNat 4000)),
      .leaf (some 2) (.unsigned (UInt64.ofNat 300))]]
  have hgiven : ForestIsGivenBy es [
      field 1 .buffer (.buffer random.bytes),
      field 2 .uint16 (.nat id),
      field 3 .uint16 (.nat 0),
      field 4 .boolean (.boolean false),
      field 5 .struct (.array [
        field 1 .uint32 (.nat 4000),
        field 2 .uint32 (.nat 300)])] := by
    refine .cons (given_buffer 1 random) (.cons (given_unsigned 2 (by simp) (by omega))
      (.cons (given_unsigned 3 (by simp) (by omega)) (.cons (.leaf none (.boolean (.inl rfl)))
      (.cons (.container none ?_) .nil))))
    exact .cons (given_unsigned 1 (by simp) (by omega))
      (.cons (given_unsigned 2 (by simp) (by omega)) .nil)
  refine ⟨_, _, (encodeBuffer_request ..).trans (encodeBuffer_structOf_given hgiven),
    decodeFields_structure es _, rfl, ?_, ?_⟩
  · rw [← value_unsigned (show id < 2 ^ 32 by omega)]
    rfl
  · rw [← value_unsigned (show 0 < 2 ^ 32 by omega)]
    rfl

/-- **A ParamResponse reads as it was written**; its parameters are read by place, an iteration count
    of eight bytes as a bigint. -/
theorem response_readsBack (initiatorRandom responderRandom salt : ByteString) {id iterations : Nat}
    (hid : id < 65536) (hiterations : iterations < 2 ^ 64) :
    ∃ payload tlvJson pbkdfParameters,
      encodeBuffer (templateMsgPasePbkdfParamResponse (hexText initiatorRandom.bytes)
        (hexText responderRandom.bytes) (.nat id) (.nat iterations) (hexText salt.bytes)) =
          .ok payload ∧
      decodeFields payload mapMsgPasePbkdfParamResponse = .ok tlvJson ∧
      Parser.get tlvJson "responderSessionId" = .ok (.nat id) ∧
      Parser.get tlvJson "pbkdfParameters" = .ok pbkdfParameters ∧
      pbkdfParameters.valueAt 0 = .ok (Leaf.unsigned (UInt64.ofNat iterations)).value ∧
      pbkdfParameters.valueAt 1 = .ok (.buffer salt.bytes) := by
  let parameters : List Element := [
    .leaf (some 1) (.unsigned (UInt64.ofNat iterations)),
    .leaf (some 2) (.bytes salt)]
  let es : List Element := [
    .leaf (some 1) (.bytes initiatorRandom),
    .leaf (some 2) (.bytes responderRandom),
    .leaf (some 3) (.unsigned (UInt64.ofNat id)),
    .container (some 4) .struct parameters]
  have hgiven : ForestIsGivenBy es [
      field 1 .buffer (hexText initiatorRandom.bytes),
      field 2 .buffer (hexText responderRandom.bytes),
      field 3 .uint16 (.nat id),
      field 4 .struct (.array [
        field 1 .uint16 (.nat iterations),
        field 2 .buffer (hexText salt.bytes)])] := by
    refine .cons (given_hex 1 initiatorRandom) (.cons (given_hex 2 responderRandom)
      (.cons (given_unsigned 3 (by simp) (by omega)) (.cons (.container none ?_) .nil)))
    exact .cons (given_unsigned 1 (by simp) hiterations) (.cons (given_hex 2 salt) .nil)
  refine ⟨_, _, .array (forestJson parameters), encodeBuffer_structOf_given hgiven,
    decodeFields_structure es _, ?_, rfl, rfl, rfl⟩
  rw [← value_unsigned (show id < 2 ^ 32 by omega)]
  rfl

/-- A writer method that throws. -/
def Throws (m : WriterM Unit) : Prop := ∀ w, ∃ e w', m.run w = .error e w'

theorem Throws.first {m m' : WriterM Unit} (h : Throws m) : Throws (do m; m') := by
  intro w
  obtain ⟨e, w', hw⟩ := h w
  exact ⟨e, w', run_bind_error hw⟩

theorem Throws.after {m m' : WriterM Unit} {bs : Bytes} (h : Appends m bs) (h' : Throws m') :
    Throws (do m; m') := by
  intro w
  obtain ⟨e, w', hw⟩ := h' { w with buf := w.buf ++ bs }
  exact ⟨e, w', (run_bind_ok (h w)).trans hw⟩

/-- A ParamResponse has no place for an iteration count of more than eight bytes. -/
theorem response_throws (initiatorRandom responderRandom salt : ByteString) {id iterations : Nat}
    (hid : id < 65536) (hiterations : 2 ^ 64 ≤ iterations) : ∃ e,
    encodeBuffer (templateMsgPasePbkdfParamResponse (hexText initiatorRandom.bytes)
      (hexText responderRandom.bytes) (.nat id) (.nat iterations) (hexText salt.bytes)) =
        .error e := by
  obtain ⟨e, he⟩ := encodeUnsignedInt_big (.number (iterations : Int)) hiterations
  have hcount : Throws (performEntry (some 1) none (field 1 .uint16 (.nat iterations))) := by
    intro w
    refine ⟨e, w, ?_⟩
    unfold field performEntry putUnsignedInt
    rw [show encodeUnsignedInt (.nat iterations) = .error e from he]
    rfl
  have hparameters : Throws (performEntry (some 4) none (field 4 .struct (.array [
      field 1 .uint16 (.nat iterations), field 2 .buffer (hexText salt.bytes)]))) := by
    unfold performEntry
    refine Throws.after (appends_append (encodeControlByte_plain (some 4) (by decide))) ?_
    unfold perform performEntries
    exact hcount.first.first
  have hfields : Throws (performEntries [
      field 1 .buffer (hexText initiatorRandom.bytes), field 2 .buffer (hexText responderRandom.bytes),
      field 3 .uint16 (.nat id), field 4 .struct (.array [
        field 1 .uint16 (.nat iterations), field 2 .buffer (hexText salt.bytes)])]) := by
    simp only [performEntries]
    exact Throws.after (performEntry_given (given_hex 1 initiatorRandom)) (Throws.after
      (performEntry_given (given_hex 2 responderRandom)) (Throws.after
      (performEntry_given (given_unsigned 3 (by simp) (by omega))) hparameters.first))
  have hall : Throws (encode (templateMsgPasePbkdfParamResponse (hexText initiatorRandom.bytes)
      (hexText responderRandom.bytes) (.nat id) (.nat iterations) (hexText salt.bytes))) := by
    unfold encode templateMsgPasePbkdfParamResponse structOf perform performEntry
    refine Throws.after (appends_append (encodeControlByte_plain none (by decide))) ?_
    unfold perform
    exact hfields.first
  obtain ⟨e', w', hw⟩ := hall {}
  refine ⟨e', ?_⟩
  unfold encodeBuffer
  rw [hw]

/-! ## 3. The points and their codes -/

theorem pake1_readsBack (pA : ByteString) : ∃ payload,
    encodeBuffer (templateMsgPasePake1 (hexText pA.bytes)) = .ok payload ∧
      decodeAt payload 0 = .ok (.buffer pA.bytes) :=
  ⟨_, encodeBuffer_structOf_given (.cons (given_hex 1 pA) .nil), decodeAt_structure _ 0⟩

theorem pake2_readsBack (pB cB : ByteString) : ∃ payload,
    encodeBuffer (templateMsgPasePake2 (hexText pB.bytes) (hexText cB.bytes)) = .ok payload ∧
      decodeAt payload 0 = .ok (.buffer pB.bytes) ∧ decodeAt payload 1 = .ok (.buffer cB.bytes) :=
  ⟨_, encodeBuffer_structOf_given (.cons (given_hex 1 pB) (.cons (given_hex 2 cB) .nil)),
    decodeAt_structure _ 0, decodeAt_structure _ 1⟩

theorem pake3_readsBack (cA : ByteString) : ∃ payload,
    encodeBuffer (templateMsgPasePake3 (hexText cA.bytes)) = .ok payload ∧
      decodeAt payload 0 = .ok (.buffer cA.bytes) :=
  ⟨_, encodeBuffer_structOf_given (.cons (given_hex 1 cA) .nil), decodeAt_structure _ 0⟩

end Matternode.Protocols
