/-
  File:      Matternode/Tlv/RoundTrip.lean
  Subject:   Writer and reader agree with the bytes of an element.

  * `performEntry_given` -- the writer appends `Element.wire`, whatever entry it is given for the
    element;
  * `decodeLoop_forest` -- the reader takes exactly the bytes of a forest and pushes its entries,
    under any containers and before any further bytes;
  * `decode_encodeBuffer` -- the two together.
-/
import Matternode.Tlv.Element

namespace Matternode.Tlv

open Base Js

/-! ## 1. Widths -/

theorem signedWidth_lt (n : Int) : signedWidth n < 4 := by
  unfold signedWidth
  repeat' split
  all_goals omega

theorem unsignedWidth_lt (n : Nat) : unsignedWidth n < 4 := by
  unfold unsignedWidth
  repeat' split
  all_goals omega

/-- The range of each signed width. -/
theorem signedWidth_cases (n : Int) :
    signedWidth n = 0 ∧ -128 ≤ n ∧ n ≤ 127 ∨
    signedWidth n = 1 ∧ ¬ (-128 ≤ n ∧ n ≤ 127) ∧ -32768 ≤ n ∧ n ≤ 32767 ∨
    signedWidth n = 2 ∧ ¬ (-32768 ≤ n ∧ n ≤ 32767) ∧ -2147483648 ≤ n ∧ n ≤ 2147483647 ∨
    signedWidth n = 3 ∧ ¬ (-2147483648 ≤ n ∧ n ≤ 2147483647) := by
  unfold signedWidth
  repeat' split
  all_goals simp_all

/-- The range of each unsigned width. -/
theorem unsignedWidth_cases (n : Nat) :
    unsignedWidth n = 0 ∧ n ≤ 255 ∨
    unsignedWidth n = 1 ∧ 255 < n ∧ n ≤ 65535 ∨
    unsignedWidth n = 2 ∧ 65535 < n ∧ n ≤ 4294967295 ∨
    unsignedWidth n = 3 ∧ 4294967295 < n := by
  unfold unsignedWidth
  repeat' split
  all_goals simp_all

/-- The shortest width holds the integer. -/
theorem signedWidth_fits {n : Int} (hlo : -2 ^ 63 ≤ n) (hhi : n < 2 ^ 63) :
    -(256 ^ 2 ^ signedWidth n : Nat) ≤ n * 2 ∧ n * 2 < (256 ^ 2 ^ signedWidth n : Nat) := by
  unfold signedWidth
  repeat' split
  all_goals norm_num
  all_goals omega

theorem unsignedWidth_fits {n : Nat} (h : n < 2 ^ 64) : n < 256 ^ 2 ^ unsignedWidth n := by
  unfold unsignedWidth
  repeat' split
  all_goals norm_num
  all_goals omega

theorem unsignedWidth_short {n : Nat} (h : n < 2 ^ 32) : unsignedWidth n < 3 := by
  unfold unsignedWidth
  repeat' split
  all_goals omega

theorem lengthBits_width {k : Nat} (h : k < 4) : lengthBits (2 ^ k) = .ok k := by
  match k, h with
  | 0, _ => rfl
  | 1, _ => rfl
  | 2, _ => rfl
  | 3, _ => rfl

/-! ## 2. The writer -/

theorem writeInt_alloc {w : Nat} {n : Int} (hw : w = 1 ∨ w = 2 ∨ w = 4)
    (hlo : -(256 ^ w : Nat) ≤ n * 2) (hhi : n * 2 < (256 ^ w : Nat)) :
    writeIntLE w (bufferAlloc w) (.int n) 0 = .ok (toLEInt w n) := by
  have hhalf : ((256 ^ w / 2 : Nat) : Int) * 2 = (256 ^ w : Nat) := by
    rcases hw with rfl | rfl | rfl <;> norm_num
  rw [writeIntLE_int (by omega) (by omega) (by simp), overwrite_bufferAlloc (length_toLEInt w n)]

theorem writeUInt_alloc {w n : Nat} (h : n < 256 ^ w) :
    writeUIntLE w (bufferAlloc w) (.nat n) 0 = .ok (toLE w n) := by
  rw [writeUIntLE_nat h (by simp), overwrite_bufferAlloc (length_toLE w n)]

theorem writeBigInt_alloc {n : Int} (hlo : -2 ^ 63 ≤ n) (hhi : n < 2 ^ 63) :
    writeBigInt64LE (bufferAlloc 8) n 0 = .ok (toLEInt 8 n) := by
  unfold writeBigInt64LE
  rw [if_neg (by omega), writeBytes_of_le (by simp), overwrite_bufferAlloc (length_toLEInt 8 n)]

theorem writeBigUInt_alloc {n : Nat} (h : n < 2 ^ 64) :
    writeBigUInt64LE (bufferAlloc 8) n 0 = .ok (toLE 8 n) := by
  unfold writeBigUInt64LE
  rw [if_neg (by omega), writeBytes_of_le (by simp), Int.toNat_natCast,
    overwrite_bufferAlloc (length_toLE 8 n)]

theorem toNumberCall_of_isInteger {v : JsValue} {n : Int} (h : IsInteger v n)
    (hlo : -2 ^ 53 ≤ n) (hhi : n ≤ 2 ^ 53) (hz : v ≠ .number (.double 0x8000000000000000)) :
    v.toNumberCall = .ok (.int n) := by
  cases h with
  | number => rfl
  | minusZero => exact absurd rfl hz
  | bigint =>
    show Except.ok (if n.natAbs ≤ 2 ^ 53 then Number.int n else _) = _
    rw [if_pos (by omega)]

theorem toBigInt_of_isInteger {v : JsValue} {n : Int} (h : IsInteger v n) :
    v.toBigInt = .ok n := by
  cases h with
  | number => simp [JsValue.toBigInt]
  | minusZero => decide +kernel
  | bigint => rfl

theorem numeric_of_isInteger {v : JsValue} {n : Int} (h : IsInteger v n)
    (hz : v ≠ .number (.double 0x8000000000000000)) : v.numeric = .int n := by
  cases h with
  | number => rfl
  | minusZero => exact absurd rfl hz
  | bigint => rfl

/-- A signed integer is encoded in its shortest width. -/
theorem encodeSignedInt_given {v : JsValue} {n : Int} (h : IsInteger v n)
    (hlo : -2 ^ 63 ≤ n) (hhi : n < 2 ^ 63) :
    encodeSignedInt v = .ok (toLEInt (2 ^ signedWidth n) n) := by
  by_cases hz : v = .number (.double 0x8000000000000000)
  · subst hz
    cases h
    decide +kernel
  · have hfit := signedWidth_fits hlo hhi
    simp only [encodeSignedInt, numeric_of_isInteger h hz, Number.int_ge, Number.int_le,
      Bool.and_eq_true, decide_eq_true_eq, int64Max]
    rcases signedWidth_cases n with ⟨hw, hr⟩ | ⟨hw, h0, hr⟩ | ⟨hw, h1, hr⟩ | ⟨hw, h2⟩ <;>
      rw [hw] at hfit ⊢
    · rw [if_pos hr, toNumberCall_of_isInteger h (by omega) (by omega) hz]
      exact writeInt_alloc (.inl rfl) hfit.1 hfit.2
    · rw [if_neg h0, if_pos hr, toNumberCall_of_isInteger h (by omega) (by omega) hz]
      exact writeInt_alloc (.inr (.inl rfl)) hfit.1 hfit.2
    · rw [if_neg (by omega), if_neg h1, if_pos hr,
        toNumberCall_of_isInteger h (by omega) (by omega) hz]
      exact writeInt_alloc (.inr (.inr rfl)) hfit.1 hfit.2
    · rw [if_neg (by omega), if_neg (by omega), if_neg h2, if_pos (by omega),
        toBigInt_of_isInteger h]
      exact writeBigInt_alloc hlo hhi

/-- An unsigned integer is encoded in its shortest width. -/
theorem encodeUnsignedInt_given {v : JsValue} {n : Nat} (h : IsInteger v n)
    (hbig : ∀ k, v = .bigint k → 2 ^ 32 ≤ n) (hn : n < 2 ^ 64) :
    encodeUnsignedInt v = .ok (shortest n) := by
  unfold shortest
  by_cases hz : v = .number (.double 0x8000000000000000)
  · subst hz
    have h0 : (n : Int) = 0 := by
      generalize (n : Int) = m at h
      cases h
      rfl
    obtain rfl : n = 0 := by omega
    decide +kernel
  · have hfit := unsignedWidth_fits hn
    have hnum : n < 2 ^ 32 → v = .nat n := by
      intro hlt
      generalize hm : (n : Int) = m at h
      cases h with
      | number => rw [← hm]
      | minusZero => exact absurd rfl hz
      | bigint => exact absurd (hbig _ rfl) (by omega)
    simp only [encodeUnsignedInt, numeric_of_isInteger h hz, Number.int_lt, Number.int_le,
      decide_eq_true_eq, uint64Max]
    rw [if_neg (by omega)]
    rcases unsignedWidth_cases n with ⟨hw, hr⟩ | ⟨hw, h0, hr⟩ | ⟨hw, h1, hr⟩ | ⟨hw, h2⟩ <;>
      rw [hw] at hfit ⊢
    · rw [if_pos (by omega), hnum (by omega)]
      exact writeUInt_alloc hfit
    · rw [if_neg (by omega), if_pos (by omega), hnum (by omega)]
      exact writeUInt_alloc hfit
    · rw [if_neg (by omega), if_neg (by omega), if_pos (by omega), hnum (by omega)]
      exact writeUInt_alloc hfit
    · rw [if_neg (by omega), if_neg (by omega), if_neg (by omega), if_pos (by omega),
        toBigInt_of_isInteger h]
      exact writeBigUInt_alloc hn

/-- The control byte and the tag come out as the header. -/
theorem encodeControlByte_header {type k : Nat} (tag : Option UInt8) (htype : type < 32)
    (hk : k < 4) (hwidth : type % 4 = 0 ∨ k = 0) (lenOfLenOrVal : Nat)
    (hlen : lengthBits lenOfLenOrVal = .ok k) :
    encodeControlByte type lenOfLenOrVal (jsonTag tag) none = .ok (header (type + k) tag) := by
  -- the width and the tag control are bits the element type leaves clear
  have hbits : ∀ t < 32, ∀ k < 4, t % 4 = 0 ∨ k = 0 → ∀ c ∈ [tagControlAnonymous,
      tagControlContextSpecific], t ||| k ||| c = t + k + c ∧ t + k + c < 256 := by decide
  have hcontrol : encodeTagControl (jsonTag tag) none = .ok (tagControl tag, tag.toList) := by
    cases tag with
    | none => rfl
    | some t =>
      have ht : t.toNat < 256 := t.toNat_lt
      have hw : writeUInt8 (bufferAlloc 1) (.number (.int (t.toNat : Int))) 0 =
          .ok (toLE 1 t.toNat) := writeUInt_alloc (by omega)
      simp only [jsonTag, Option.map_some, encodeTagControl]
      rw [if_neg (by omega), hw]
      simp [toLE, bind, Except.bind, pure, Except.pure, tagControl]
  have hmem : tagControl tag ∈ [tagControlAnonymous, tagControlContextSpecific] := by
    cases tag <;> simp [tagControl]
  obtain ⟨hor, hlt⟩ := hbits type htype k hk hwidth _ hmem
  have hw : writeUInt8 (bufferAlloc 1) (.nat (type + k + tagControl tag)) 0 =
      .ok (toLE 1 (type + k + tagControl tag)) := writeUInt_alloc (by omega)
  simp only [encodeControlByte, hlen, hcontrol, bind, Except.bind, hor, hw]
  rfl

/-- A writer method appends the bytes. -/
def Appends (m : WriterM Unit) (bs : Bytes) : Prop :=
  ∀ w : TlvWriter, m.run w = .ok () { w with buf := w.buf ++ bs }

theorem appends_append {parts : Except JsError Bytes} {bs : Bytes} (h : parts = .ok bs) :
    Appends (append parts) bs := by
  subst h
  intro w
  rfl

theorem Appends.bind {m m' : WriterM Unit} {bs bs' : Bytes} (h : Appends m bs)
    (h' : Appends m' bs') : Appends (do m; m') (bs ++ bs') := by
  intro w
  show EStateM.bind m (fun _ => m') w = _
  unfold EStateM.bind
  rw [show m w = _ from h w]
  show m' _ = _
  rw [show m' _ = _ from h' _]
  simp only [List.append_assoc]

/-- The bytes of an element whose control byte says how long `encoded` is. -/
theorem sizedElement_shortest {type k : Nat} {encoded : Bytes} (tag : Option UInt8)
    (htype : type < 32) (hmod : type % 4 = 0) (hk : k < 4) (hlen : encoded.length = 2 ^ k) :
    sizedElement type encoded (jsonTag tag) none = .ok (header (type + k) tag ++ encoded) := by
  unfold sizedElement
  rw [hlen, encodeControlByte_header tag htype hk (.inl hmod) _ (lengthBits_width hk)]
  rfl

theorem encodeControlByte_plain {type : Nat} (tag : Option UInt8) (htype : type < 32) :
    encodeControlByte type 0 (jsonTag tag) none = .ok (header type tag) :=
  encodeControlByte_header tag htype (by decide) (.inr rfl) 0 rfl

theorem putSignedInt_given {v : JsValue} {n : Int64} (tag : Option UInt8)
    (h : IsInteger v n.toInt) :
    Appends (putSignedInt v (jsonTag tag) none) (Element.leaf tag (.signed n)).wire := by
  have hk := signedWidth_lt n.toInt
  apply appends_append
  rw [encodeSignedInt_given h (Int64.le_toInt n) (Int64.toInt_lt n)]
  exact sizedElement_shortest tag (by decide) rfl hk (length_toLEInt _ _)

theorem putUnsignedInt_given {v : JsValue} {n : UInt64} (tag : Option UInt8)
    (h : IsInteger v n.toNat) (hbig : ∀ k, v = .bigint k → 2 ^ 32 ≤ n.toNat) :
    Appends (putUnsignedInt v (jsonTag tag) none) (Element.leaf tag (.unsigned n)).wire := by
  apply appends_append
  rw [encodeUnsignedInt_given h hbig n.toNat_lt]
  exact sizedElement_shortest tag (by decide) rfl (unsignedWidth_lt _) (length_shortest _)

theorem putBytes_given (bs : ByteString) (tag : Option UInt8) :
    Appends (putBytes bs.bytes (jsonTag tag) none) (Element.leaf tag (.bytes bs)).wire := by
  have hs := bs.short
  apply appends_append
  rw [encodeUnsignedInt_given (.number _) (fun k hk => by cases hk) (by omega)]
  show (do return (← sizedElement tlvTypeByteString _ _ none) ++ bs.bytes) = _
  rw [sizedElement_shortest tag (by decide) rfl (unsignedWidth_lt _) (length_shortest _)]
  simp [Element.wire, Leaf.payload, Leaf.elementType, bind, Except.bind, pure, Except.pure]

theorem utf16Length_ofList (cs : List Char) : utf16Length (String.ofList cs) = utf16Units cs := by
  unfold utf16Length utf16Units
  rw [String.toList_ofList]

theorem putString_given (t : AsciiText) (tag : Option UInt8) :
    Appends (putString (String.ofList t.chars) (jsonTag tag) none)
      (Element.leaf tag (.text t)).wire := by
  have hs := t.short
  apply appends_append
  rw [utf16Length_ofList, utf16Units_ascii t.ascii,
    encodeUnsignedInt_given (.number _) (fun k hk => by cases hk) (by omega)]
  show (do return (← sizedElement tlvTypeUtf8String _ _ none) ++ _) = _
  rw [sizedElement_shortest tag (by decide) rfl (unsignedWidth_lt _) (length_shortest _)]
  simp [Element.wire, Leaf.payload, Leaf.elementType, bind, Except.bind, pure, Except.pure]

theorem putBoolean_given (b : Bool) (tag : Option UInt8) :
    Appends (putBoolean (.boolean b) (jsonTag tag) none) (Element.leaf tag (.boolean b)).wire := by
  have htype : (if b then tlvTypeBooleanTrue else tlvTypeBooleanFalse) < 32 := by
    cases b <;> decide
  apply appends_append
  refine (encodeControlByte_plain tag htype).trans ?_
  simp only [Element.wire, Leaf.elementType, Leaf.payload, List.append_nil]

theorem putNull_given (tag : Option UInt8) :
    Appends (putNull (jsonTag tag) none) (Element.leaf tag .null).wire := by
  apply appends_append
  simp only [encodeControlByte_plain tag (show tlvTypeNull < 32 by decide), Element.wire,
    Leaf.elementType, Leaf.payload, List.append_nil]

/-- A label without a branch of its own leaves the choice to `put`. -/
theorem performEntry_autoDetect {type : Option TypeLabel} (h : autoDetect type = true)
    (tag profile p t : Option Int) (value : JsValue) (tagName : Option String) :
    performEntry tag profile ⟨p, t, type, value, tagName⟩ = perform (.put tag profile) value := by
  unfold performEntry
  cases type with
  | none => rfl
  | some label => cases label <;> first | rfl | cases h

/-- A leaf is written as the element it is given for. -/
theorem performEntry_leaf {v : Leaf} {type : Option TypeLabel} {value : JsValue}
    (tag : Option UInt8) (tagName : Option String) (h : v.IsGivenBy type value) :
    Appends (performEntry (jsonTag tag) none ⟨none, jsonTag tag, type, value, tagName⟩)
      (Element.leaf tag v).wire := by
  cases h with
  | signed hlabel hv =>
    have := putSignedInt_given tag hv
    simp only [List.mem_cons, List.not_mem_nil, or_false] at hlabel
    rcases hlabel with rfl | rfl | rfl | rfl <;> simpa only [performEntry]
  | unsigned hlabel hv hbig =>
    have := putUnsignedInt_given tag hv hbig
    simp only [List.mem_cons, List.not_mem_nil, or_false] at hlabel
    rcases hlabel with rfl | rfl | rfl | rfl <;> simpa only [performEntry]
  | boolean htype =>
    rename_i b
    have := putBoolean_given b tag
    rcases htype with rfl | rfl | hauto
    · simpa only [performEntry]
    · simpa only [performEntry]
    · rw [performEntry_autoDetect hauto]
      simpa only [perform, Call.tag, Call.profile]
  | null htype =>
    rw [performEntry_autoDetect htype]
    simpa only [perform] using putNull_given tag
  | bytes => simpa only [performEntry, bufferOfEntry, bufferFrom] using putBytes_given _ tag
  | hexadecimal =>
    simpa only [performEntry, bufferOfEntry, String.toList_ofList, fromHex_toHex]
      using putBytes_given _ tag
  | text htype =>
    rw [performEntry_autoDetect htype]
    simpa only [perform, Call.tag, Call.profile] using putString_given _ tag

/-- The branch of a container: its header, its entries, its end marker. -/
theorem performEntry_container {bs : Bytes} {entries : List DeterministicJson}
    (tag : Option UInt8) (kind : ContainerKind) (t p : Option Int) (tagName : Option String)
    (h : Appends (performEntries entries) bs) :
    Appends (performEntry (jsonTag tag) none ⟨p, t, some kind.label, .array entries, tagName⟩)
      (header kind.elementType tag ++ (bs ++ header tlvTypeEnd none)) := by
  have hend : Appends putContainerEnd (header tlvTypeEnd none) :=
    appends_append (encodeControlByte_plain none (show tlvTypeEnd < 32 by decide))
  have hbody : Appends (do perform .encode (.array entries); putContainerEnd)
      (bs ++ header tlvTypeEnd none) := by
    unfold perform
    exact h.bind hend
  cases kind with
  | struct =>
    unfold performEntry
    exact (appends_append (encodeControlByte_plain tag (by decide))).bind hbody
  | array =>
    unfold performEntry
    exact (appends_append (encodeControlByte_plain tag (by decide))).bind hbody
  | list =>
    unfold performEntry
    exact (appends_append (encodeControlByte_plain tag (by decide))).bind hbody

mutual

/-- **The writer appends the bytes of the element** an entry is given for. -/
theorem performEntry_given {e : Element} {entry : DeterministicJson} (h : e.IsGivenBy entry) :
    Appends (performEntry entry.tag entry.profile entry) e.wire := by
  cases h with
  | leaf tagName hv => exact performEntry_leaf _ tagName hv
  | container tagName hs =>
    unfold Element.wire
    exact performEntry_container _ _ _ _ tagName (performEntries_given hs)

theorem performEntries_given {es : List Element} {entries : List DeterministicJson}
    (h : ForestIsGivenBy es entries) : Appends (performEntries entries) (forestWire es) := by
  cases h with
  | nil =>
    intro w
    simp [performEntries, forestWire]
  | cons he hs =>
    unfold performEntries forestWire
    exact (performEntry_given he).bind (performEntries_given hs)

end

/-! ## 3. The reader -/

theorem readUIntLE_toLE {w n : Nat} (h : n < 256 ^ w) (rest : Bytes) :
    readUIntLE w (toLE w n ++ rest) 0 = .ok n := by
  have hread := readBytes_append [] (toLE w n) rest
  rw [length_toLE] at hread
  show (readBytes w ([] ++ toLE w n ++ rest) ([] : Bytes).length).map ofLE = _
  rw [hread]
  simp only [Except.map, ofLE_toLE_of_lt h]

theorem readIntLE_toLEInt {w : Nat} {n : Int} (hlo : -(256 ^ w : Nat) ≤ n * 2)
    (hhi : n * 2 < (256 ^ w : Nat)) (rest : Bytes) :
    readIntLE w (toLEInt w n ++ rest) 0 = .ok n := by
  have hread := readBytes_append [] (toLEInt w n) rest
  rw [length_toLEInt] at hread
  show (readBytes w ([] ++ toLEInt w n ++ rest) ([] : Bytes).length).map ofLEInt = _
  rw [hread]
  simp only [Except.map, ofLEInt_toLEInt hlo hhi]

theorem readUIntLE_shortest {n k : Nat} (hw : unsignedWidth n = k) (hn : n < 2 ^ 64)
    (rest : Bytes) : readUIntLE (2 ^ k) (shortest n ++ rest) 0 = .ok n := by
  subst hw
  exact readUIntLE_toLE (unsignedWidth_fits hn) rest

theorem decodeValue_signed (n : Int64) (rest : Bytes) :
    decodeValueAndLength ((Leaf.signed n).payload ++ rest) (Leaf.signed n).elementType =
      .ok ⟨(Leaf.signed n).value, (Leaf.signed n).payload.length⟩ := by
  obtain ⟨hlo, hhi⟩ := signedWidth_fits (Int64.le_toInt n) (Int64.toInt_lt n)
  have hread := readIntLE_toLEInt hlo hhi rest
  simp only [Leaf.payload, Leaf.elementType, Leaf.value, length_toLEInt]
  rcases signedWidth_cases n.toInt with ⟨hw, _⟩ | ⟨hw, _⟩ | ⟨hw, _⟩ | ⟨hw, _⟩ <;>
    rw [hw] at hread ⊢
  · show (do return ValueLength.mk (.number (.int (← readIntLE (2 ^ 0) _ 0))) 1) = _
    rw [hread]
    rfl
  · show (do return ValueLength.mk (.number (.int (← readIntLE (2 ^ 1) _ 0))) 2) = _
    rw [hread]
    rfl
  · show (do return ValueLength.mk (.number (.int (← readIntLE (2 ^ 2) _ 0))) 4) = _
    rw [hread]
    rfl
  · show (do return ValueLength.mk (.bigint (← readIntLE (2 ^ 3) _ 0)) 8) = _
    rw [hread]
    rfl

theorem decodeValue_unsigned (n : UInt64) (rest : Bytes) :
    decodeValueAndLength ((Leaf.unsigned n).payload ++ rest) (Leaf.unsigned n).elementType =
      .ok ⟨(Leaf.unsigned n).value, (Leaf.unsigned n).payload.length⟩ := by
  have hread := readUIntLE_shortest (n := n.toNat) rfl n.toNat_lt rest
  simp only [Leaf.payload, Leaf.elementType, Leaf.value, length_shortest]
  rcases unsignedWidth_cases n.toNat with ⟨hw, _⟩ | ⟨hw, _⟩ | ⟨hw, _⟩ | ⟨hw, _⟩ <;>
    rw [hw] at hread ⊢
  · show (do return stringValue 4 _ (← readUIntLE (2 ^ 0) _ 0) 1) = _
    rw [hread]
    rfl
  · show (do return stringValue 5 _ (← readUIntLE (2 ^ 1) _ 0) 2) = _
    rw [hread]
    rfl
  · show (do return stringValue 6 _ (← readUIntLE (2 ^ 2) _ 0) 4) = _
    rw [hread]
    rfl
  · show (do return ValueLength.mk (.bigint (← readUIntLE (2 ^ 3) _ 0)) 8) = _
    rw [hread]
    rfl

/-- The content of a string stands behind its length prefix. -/
theorem subarray_content (p content rest : Bytes) :
    subarray (p ++ content ++ rest) p.length (p.length + content.length) = content := by
  have h : ((p.length : Int) + (content.length : Int)) = ((p.length + content.length : Nat) : Int) := by
    omega
  rw [h, subarray_nat, ← List.length_append, List.take_left, List.drop_left]

/-- The reads of a length prefix of at most four bytes, in one. -/
theorem decodeValue_string {type k n : Nat} (htype : type = tlvTypeUtf8String ∨
    type = tlvTypeByteString) (hn : n < 2 ^ 32) (hk : unsignedWidth n = k) (rest : Bytes) :
    decodeValueAndLength (shortest n ++ rest) (type + k) =
      .ok (stringValue (type + k) (shortest n ++ rest) n (2 ^ k)) := by
  have hread := readUIntLE_shortest hk (by omega) rest
  have hlt := unsignedWidth_short hn
  rw [hk] at hlt
  match k, hlt with
  | 0, _ =>
    rcases htype with rfl | rfl
    · show (do return stringValue 12 _ (← readUIntLE (2 ^ 0) _ 0) 1) = _
      rw [hread]
      rfl
    · show (do return stringValue 16 _ (← readUIntLE (2 ^ 0) _ 0) 1) = _
      rw [hread]
      rfl
  | 1, _ =>
    rcases htype with rfl | rfl
    · show (do return stringValue 13 _ (← readUIntLE (2 ^ 1) _ 0) 2) = _
      rw [hread]
      rfl
    · show (do return stringValue 17 _ (← readUIntLE (2 ^ 1) _ 0) 2) = _
      rw [hread]
      rfl
  | 2, _ =>
    rcases htype with rfl | rfl
    · show (do return stringValue 14 _ (← readUIntLE (2 ^ 2) _ 0) 4) = _
      rw [hread]
      rfl
    · show (do return stringValue 18 _ (← readUIntLE (2 ^ 2) _ 0) 4) = _
      rw [hread]
      rfl

theorem decodeValue_bytes (bs : ByteString) (rest : Bytes) :
    decodeValueAndLength ((Leaf.bytes bs).payload ++ rest) (Leaf.bytes bs).elementType =
      .ok ⟨(Leaf.bytes bs).value, (Leaf.bytes bs).payload.length⟩ := by
  have hk := unsignedWidth_short bs.short
  have hcontent := subarray_content (shortest bs.bytes.length) bs.bytes rest
  rw [length_shortest] at hcontent
  simp only [Leaf.payload, Leaf.elementType, Leaf.value, List.append_assoc] at hcontent ⊢
  rw [decodeValue_string (.inr rfl) bs.short rfl]
  unfold stringValue
  rw [hcontent, if_neg (by simp only [tlvTypeUtf8String, tlvTypeByteString]; omega),
    if_pos (by omega), List.length_append, length_shortest]

theorem decodeValue_text (t : AsciiText) (rest : Bytes) :
    decodeValueAndLength ((Leaf.text t).payload ++ rest) (Leaf.text t).elementType =
      .ok ⟨(Leaf.text t).value, (Leaf.text t).payload.length⟩ := by
  have hk := unsignedWidth_short t.short
  have hcontent := subarray_content (shortest t.chars.length) (utf8Encode t.chars) rest
  rw [length_shortest, length_utf8Encode_ascii t.ascii] at hcontent
  simp only [Leaf.payload, Leaf.elementType, Leaf.value, List.append_assoc] at hcontent ⊢
  rw [decodeValue_string (.inl rfl) t.short rfl]
  unfold stringValue
  rw [hcontent, if_pos (by omega), List.length_append, length_shortest,
    length_utf8Encode_ascii t.ascii, utf8Decode_utf8Encode]

/-- The value of a leaf is read from its payload, and nothing beyond. -/
theorem decodeValue_leaf (v : Leaf) (rest : Bytes) :
    decodeValueAndLength (v.payload ++ rest) v.elementType =
      .ok ⟨v.value, v.payload.length⟩ := by
  cases v with
  | signed n => exact decodeValue_signed n rest
  | unsigned n => exact decodeValue_unsigned n rest
  | boolean b => cases b <;> rfl
  | null => rfl
  | bytes bs => exact decodeValue_bytes bs rest
  | text t => exact decodeValue_text t rest

/-- The header of an element reads as its type and tag. -/
theorem decodeEntry_header {type : Nat} (htype : type < 32) (tag : Option UInt8) (body : Bytes)
    {v : ValueLength} (hv : decodeValueAndLength body type = .ok v) :
    decodeEntry (header type tag ++ body) =
      .ok (type, { tag := jsonTag tag, type := elementTypes type, value := v.value },
        body.drop v.length) := by
  have hbits : ∀ t < 32, ∀ c ∈ [tagControlAnonymous, tagControlContextSpecific],
      t + c < 256 ∧ (t + c) &&& 0x1F = t ∧ (t + c) &&& 0xE0 = c := by decide
  have hmem : tagControl tag ∈ [tagControlAnonymous, tagControlContextSpecific] := by
    cases tag <;> simp [tagControl]
  obtain ⟨hlt, htypeNum, htagType⟩ := hbits type htype _ hmem
  have hcontrol : decodeControlByte (header type tag ++ body) =
      .ok { typeNum := type, tagType := tagControl tag, type := elementTypes type } := by
    have hread := readUIntLE_toLE (w := 1) (n := type + tagControl tag) (by omega)
      (tag.toList ++ body)
    unfold decodeControlByte
    show (do
      let controlByte ← readUIntLE 1 (toLE 1 (type + tagControl tag) ++ (tag.toList ++ body)) 0
      _) = _
    rw [hread]
    simp only [bind, Except.bind, htypeNum, htagType]
    rfl
  have htag : decodeTagAndLength (tag.toList ++ body) (tagControl tag) =
      .ok { tag := jsonTag tag, tagLength := tag.toList.length } := by
    cases tag with
    | none => rfl
    | some t =>
      have hread := readUIntLE_toLE (w := 1) (n := t.toNat) t.toNat_lt body
      have ht : toLE 1 t.toNat = [t] := by simp [toLE]
      rw [ht] at hread
      show (do return DecodedTagLength.mk (some (← readUIntLE 1 ([t] ++ body) 0)) 1 none) = _
      rw [hread]
      rfl
  unfold decodeEntry
  simp only [hcontrol, bind, Except.bind, show (1 : Int) = ((1 : Nat) : Int) from rfl,
    subarrayFrom_nat]
  rw [show (header type tag ++ body).drop 1 = tag.toList ++ body from rfl, htag]
  simp only [List.drop_left, hv]
  rfl

/-! ## 4. The loop -/

/-- One turn of the loop. -/
theorem decodeLoop_step {tlv rest : Bytes} {type : Nat} {decoding : DeterministicJson}
    (h : decodeEntry tlv = .ok (type, decoding, rest)) (fuel : Nat) (r : TlvReader)
    (hr : 0 < r.containerDepth) :
    decodeLoop (fuel + 1) tlv r = decodeLoop fuel rest (r.step type decoding) := by
  have hlt := decodeEntry_lt h
  rw [decodeLoop, if_pos ⟨by omega, hr⟩, h]

theorem leaf_elementType_lt (v : Leaf) : v.elementType < tlvTypeNull + 1 := by
  cases v with
  | signed n =>
    have := signedWidth_lt n.toInt
    simp only [Leaf.elementType, tlvTypeSignedInteger, tlvTypeNull]
    omega
  | unsigned n =>
    have := unsignedWidth_lt n.toNat
    simp only [Leaf.elementType, tlvTypeUnsignedInteger, tlvTypeNull]
    omega
  | boolean b => cases b <;> decide
  | null => decide
  | bytes bs =>
    have := unsignedWidth_lt bs.bytes.length
    simp only [Leaf.elementType, tlvTypeByteString, tlvTypeNull]
    omega
  | text t =>
    have := unsignedWidth_lt t.chars.length
    simp only [Leaf.elementType, tlvTypeUtf8String, tlvTypeNull]
    omega

/-- The loop pushes the entry of a leaf. -/
theorem step_leaf (v : Leaf) (r : TlvReader) (decoding : DeterministicJson) :
    r.step v.elementType decoding = r.push decoding := by
  have hlt := leaf_elementType_lt v
  simp only [tlvTypeNull] at hlt
  unfold TlvReader.step
  rw [if_neg (by simp only [tlvTypeEnd]; omega),
    if_neg (by simp only [tlvTypeStructure, tlvTypeArray, tlvTypeList]; omega)]

/-- The loop opens a container. -/
theorem step_container (kind : ContainerKind) (r : TlvReader) (decoding : DeterministicJson) :
    r.step kind.elementType decoding =
      { container := []
        containerStack := ⟨r.container, decoding⟩ :: r.containerStack
        containerDepth := r.containerDepth + 1 } := by
  cases kind <;> rfl

/-- The reader after the entries of a forest. -/
def TlvReader.pushAll (r : TlvReader) (entries : List DeterministicJson) : TlvReader :=
  { r with container := r.container ++ entries }

mutual

/-- The turns of the loop an element takes. -/
def Element.turns : Element → Nat
  | .leaf _ _ => 1
  | .container _ _ children => forestTurns children + 2

def forestTurns : List Element → Nat
  | [] => 0
  | e :: es => e.turns + forestTurns es

end

mutual

/-- **The loop takes exactly the bytes of an element** and pushes its entry. -/
theorem decodeLoop_element (e : Element) (fuel : Nat) (rest : Bytes) (r : TlvReader)
    (hr : 0 < r.containerDepth) :
    decodeLoop (e.turns + fuel) (e.wire ++ rest) r = decodeLoop fuel rest (r.push e.json) := by
  match e with
  | .leaf tag v =>
    have hlt := leaf_elementType_lt v
    simp only [tlvTypeNull] at hlt
    have hd := decodeEntry_header (by omega) tag _ (decodeValue_leaf v rest)
    rw [Element.turns, Element.wire, Nat.add_comm 1 fuel, List.append_assoc,
      decodeLoop_step hd fuel r hr, step_leaf, List.drop_left, Element.json]
  | .container tag kind children =>
    have hstart : decodeValueAndLength (forestWire children ++ (header tlvTypeEnd none ++ rest))
        kind.elementType = .ok { value := .array [], length := 0 } := by
      cases kind <;> rfl
    have hend : decodeValueAndLength rest tlvTypeEnd =
        .ok { value := .undefined, length := 0 } := rfl
    have hkind : kind.elementType < 32 := by cases kind <;> decide
    rw [Element.turns, Element.wire,
      show forestTurns children + 2 + fuel = forestTurns children + (fuel + 1) + 1 by omega]
    simp only [List.append_assoc]
    rw [decodeLoop_step (decodeEntry_header hkind tag _ hstart) _ r hr, step_container,
      List.drop_zero, decodeLoop_forest children _ _ _ (Nat.succ_pos _),
      decodeLoop_step (decodeEntry_header (by decide) none _ hend) _ _ (Nat.succ_pos _)]
    simp [TlvReader.step, TlvReader.pushAll, TlvReader.push, OpenContainer.close, Element.json]

theorem decodeLoop_forest (es : List Element) (fuel : Nat) (rest : Bytes) (r : TlvReader)
    (hr : 0 < r.containerDepth) :
    decodeLoop (forestTurns es + fuel) (forestWire es ++ rest) r =
      decodeLoop fuel rest (r.pushAll (forestJson es)) := by
  match es with
  | [] => simp [forestTurns, forestWire, forestJson, TlvReader.pushAll]
  | e :: es =>
    rw [forestTurns, forestWire, Nat.add_assoc, List.append_assoc,
      decodeLoop_element e _ _ r hr, decodeLoop_forest es _ _ (r.push e.json) hr]
    simp only [TlvReader.pushAll, TlvReader.push, forestJson, List.append_assoc,
      List.singleton_append]

end

mutual

theorem turns_le_wire (e : Element) : e.turns ≤ e.wire.length := by
  match e with
  | .leaf tag v =>
    simp only [Element.turns, Element.wire, header, List.length_append, List.length_cons]
    omega
  | .container tag kind children =>
    have ih := forestTurns_le_wire children
    simp only [Element.turns, Element.wire, header, List.length_append, List.length_cons]
    omega

/-- Every turn takes a byte. -/
theorem forestTurns_le_wire (es : List Element) : forestTurns es ≤ (forestWire es).length := by
  match es with
  | [] => simp [forestTurns]
  | e :: es =>
    have ihe := turns_le_wire e
    have ihes := forestTurns_le_wire es
    simp only [forestTurns, forestWire, List.length_append]
    omega

end

/-- **The reader answers the forest an encoding holds.** -/
theorem decode_forestWire (es : List Element) : decode (forestWire es) = .ok (forestJson es) := by
  have hle := forestTurns_le_wire es
  have hloop := decodeLoop_forest es ((forestWire es).length - forestTurns es) [] {} Nat.one_pos
  rw [List.append_nil, Nat.add_sub_cancel' hle] at hloop
  unfold decode
  rw [hloop, decodeLoop_fuel (Nat.zero_le _)]
  simp [decodeLoop, Except.map, TlvReader.Json, TlvReader.pushAll]

/-- What is written for a forest of entries. -/
theorem encodeBuffer_forest {es : List Element} {entries : List DeterministicJson}
    (h : ForestIsGivenBy es entries) : encodeBuffer (.array entries) = .ok (forestWire es) := by
  have hw := performEntries_given h {}
  unfold encodeBuffer encode perform
  rw [hw]
  rfl

/-! ## 5. The round trip -/

/-- **Writing a forest and reading it back gives the forest**: whatever entries it is given by, the
    writer succeeds, and the reader answers the elements in their order and nesting, with their
    tags and values and the labels of the shortest widths. -/
theorem decode_encodeBuffer {es : List Element} {entries : List DeterministicJson}
    (h : ForestIsGivenBy es entries) :
    ∃ tlv, encodeBuffer (.array entries) = .ok tlv ∧ decode tlv = .ok (forestJson es) :=
  ⟨forestWire es, encodeBuffer_forest h, decode_forestWire es⟩

/-- A structure with a signed integer, a list with text, and a byte string given in hexadecimal. -/
theorem decode_encodeBuffer_sample :
    ∃ tlv, encodeBuffer (.array
        [⟨none, some 1, some .struct, .array
          [⟨none, some 0, some .int64, .number (.int (-300)), none⟩,
           ⟨none, none, some .list, .array [⟨none, none, none, .string "ok", none⟩], none⟩,
           ⟨none, some 255, some .buffer, .string "a0ff", none⟩], none⟩]) = .ok tlv ∧
      decode tlv = .ok (forestJson
        [.container (some 1) .struct
          [.leaf (some 0) (.signed (-300)),
           .container none .list [.leaf none (.text ⟨['o', 'k'], by simp [IsAscii], by decide⟩)],
           .leaf (some 255) (.bytes ⟨[0xA0, 0xFF], by decide⟩)]]) :=
  decode_encodeBuffer
    (.cons (.container none
      (.cons (.leaf none (.signed (by decide) (.number _)))
        (.cons (.container none (.cons (.leaf none (.text rfl)) .nil))
          (.cons (.leaf none .hexadecimal) .nil)))) .nil)

end Matternode.Tlv
