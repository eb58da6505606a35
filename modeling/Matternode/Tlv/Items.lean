/-
  File:      Matternode/Tlv/Items.lean
  Subject:   What the reader takes from a buffer in one turn: control byte, tag, field, content.

  A control byte is a tag control and an element type. The one says how many bytes the tag has, the
  other how many bytes of a fixed field follow; the field of a string is the length of its content.

  * `TagControl`, `ElementType` -- the two halves of a control byte, each with its widths and what
    the reader answers for the bytes;
  * `decodeTagAndLength_code`, `decodeValueAndLength_code` -- a read takes the whole field or throws;
  * `Item` -- one turn's bytes; only the end of the input cuts its content short;
  * **`decodeEntry_wire`**, **`decodeEntry_eq_ok`** -- `decodeEntry` reads exactly the items.
-/
import Matternode.Base.Script
import Matternode.Tlv.Element

namespace Matternode.Tlv

open Base Js

/-! ## 1. Control bytes -/

inductive TagControl where
  | anonymous | contextSpecific
  | commonProfile2Bytes | commonProfile4Bytes
  | implicitProfile2Bytes | implicitProfile4Bytes
  | fullyQualified6Bytes | fullyQualified8Bytes
  deriving DecidableEq, Repr

namespace TagControl

def code : TagControl → Nat
  | anonymous => tagControlAnonymous
  | contextSpecific => tagControlContextSpecific
  | commonProfile2Bytes => tagControlCommonProfile2Bytes
  | commonProfile4Bytes => tagControlCommonProfile4Bytes
  | implicitProfile2Bytes => tagControlImplicitProfile2Bytes
  | implicitProfile4Bytes => tagControlImplicitProfile4Bytes
  | fullyQualified6Bytes => tagControlFullyQualified6Bytes
  | fullyQualified8Bytes => tagControlFullyQualified8Bytes

/-- The tag control of the upper bits of a control byte. -/
def ofCode : Nat → TagControl
  | 0x20 => contextSpecific
  | 0x40 => commonProfile2Bytes
  | 0x60 => commonProfile4Bytes
  | 0x80 => implicitProfile2Bytes
  | 0xA0 => implicitProfile4Bytes
  | 0xC0 => fullyQualified6Bytes
  | 0xE0 => fullyQualified8Bytes
  | _ => anonymous

/-- The bytes of the tag. -/
def width : TagControl → Nat
  | anonymous => 0
  | contextSpecific => 1
  | commonProfile2Bytes | implicitProfile2Bytes => 2
  | commonProfile4Bytes | implicitProfile4Bytes => 4
  | fullyQualified6Bytes => 6
  | fullyQualified8Bytes => 8

/-- The tag the reader answers for the bytes. -/
def tag (c : TagControl) (bs : Bytes) : Option Int :=
  match c with
  | anonymous => none
  | fullyQualified6Bytes | fullyQualified8Bytes => some (ofLE (bs.drop 4))
  | _ => some (ofLE bs)

/-- The profile the reader answers. -/
def profile (c : TagControl) (bs : Bytes) : Option Int :=
  match c with
  | anonymous | contextSpecific => none
  | commonProfile2Bytes | commonProfile4Bytes => some 0
  | implicitProfile2Bytes | implicitProfile4Bytes => some (-1)
  | fullyQualified6Bytes | fullyQualified8Bytes => some (ofLE (bs.take 4))

end TagControl

/-- The type of an element; a width code `k` stands for `2 ^ k` bytes. -/
inductive ElementType where
  | signed (k : Fin 4)
  | unsigned (k : Fin 4)
  | boolean (b : Bool)
  | float
  | double
  | text (k : Fin 4)
  | bytes (k : Fin 4)
  | null
  | container (kind : ContainerKind)
  | endOfCollection
  | reserved (n : Fin 7)
  deriving DecidableEq, Repr

/-- The number of a single-precision pattern, as the double that holds it. -/
def floatOfBits (bits : Nat) : Number :=
  match decodeIeee 8 23 bits with
  | .finite negative m e => .ofRational negative (m * 2 ^ e.toNat) (2 ^ (-e).toNat)
  | .infinity negative => .double (if negative then 0xFFF0000000000000 else 0x7FF0000000000000)
  | .nan => .nan

namespace ElementType

def code : ElementType → Nat
  | signed k => tlvTypeSignedInteger + k
  | unsigned k => tlvTypeUnsignedInteger + k
  | boolean b => if b then tlvTypeBooleanTrue else tlvTypeBooleanFalse
  | float => tlvTypeFloat
  | double => tlvTypeDouble
  | text k => tlvTypeUtf8String + k
  | bytes k => tlvTypeByteString + k
  | null => tlvTypeNull
  | container kind => kind.elementType
  | endOfCollection => tlvTypeEnd
  | reserved n => 0x19 + n

/-- The element type of the lower five bits of a control byte. -/
def ofCode (n : Nat) : ElementType :=
  if n < 4 then signed (Fin.ofNat 4 n)
  else if n < 8 then unsigned (Fin.ofNat 4 n)
  else if n < 10 then boolean (n = 9)
  else if n = 10 then float
  else if n = 11 then double
  else if n < 16 then text (Fin.ofNat 4 n)
  else if n < 20 then bytes (Fin.ofNat 4 n)
  else if n = 20 then null
  else if n = 21 then container .struct
  else if n = 22 then container .array
  else if n = 23 then container .list
  else if n = 24 then endOfCollection
  else reserved (Fin.ofNat 7 (n - 25))

/-- The bytes of the fixed field. -/
def width : ElementType → Nat
  | signed k | unsigned k | text k | bytes k => 2 ^ k.val
  | float => 4
  | double => 8
  | _ => 0

/-- The bytes of content a string has by its length. -/
def declaredLength (t : ElementType) (field : Bytes) : Nat :=
  match t with
  | text _ | bytes _ => ofLE field
  | _ => 0

/-- A string with a length of eight bytes. -/
def Long (t : ElementType) : Prop := t = text 3 ∨ t = bytes 3

instance (t : ElementType) : Decidable t.Long := inferInstanceAs (Decidable (_ ∨ _))

/-- The bytes of content the reader takes: a length of eight bytes is no length to it. -/
def contentLength (t : ElementType) (field : Bytes) : Nat :=
  if t.Long then 0 else t.declaredLength field

/-- The value the reader answers. -/
def value (t : ElementType) (field content : Bytes) : JsValue :=
  match t with
  | signed k => integerValue k (ofLEInt field)
  | unsigned k => integerValue k (ofLE field)
  | boolean b => .boolean b
  | float => .number (floatOfBits (ofLE field))
  | double => .number (.ofBits (ofLE field))
  | text k => if k = 3 then .bigint (ofLE field) else .string (String.ofList (utf8Decode content))
  | bytes k => if k = 3 then .bigint (ofLE field) else .buffer content
  | container _ => .array []
  | null | endOfCollection | reserved _ => .undefined

def IsContainer (t : ElementType) : Prop := ∃ kind, t = container kind

end ElementType

def controlByte (c : TagControl) (t : ElementType) : UInt8 := UInt8.ofNat (t.code + c.code)

theorem TagControl.ofCode_code (c : TagControl) : ofCode c.code = c := by
  cases c <;> rfl

theorem ElementType.ofCode_code (t : ElementType) : ofCode t.code = t := by
  cases t with
  | signed k => revert k; decide
  | unsigned k => revert k; decide
  | boolean b => cases b <;> rfl
  | text k => revert k; decide
  | bytes k => revert k; decide
  | container kind => cases kind <;> rfl
  | reserved n => revert n; decide
  | float => rfl
  | double => rfl
  | null => rfl
  | endOfCollection => rfl

theorem ElementType.code_lt (t : ElementType) : t.code < 32 := by
  cases t with
  | signed k => exact Nat.lt_of_lt_of_le (Nat.add_lt_add_left k.isLt _) (by decide)
  | unsigned k => exact Nat.lt_of_lt_of_le (Nat.add_lt_add_left k.isLt _) (by decide)
  | boolean b => cases b <;> decide
  | text k => exact Nat.lt_of_lt_of_le (Nat.add_lt_add_left k.isLt _) (by decide)
  | bytes k => exact Nat.lt_of_lt_of_le (Nat.add_lt_add_left k.isLt _) (by decide)
  | container kind => cases kind <;> decide
  | reserved n => exact Nat.lt_of_lt_of_le (Nat.add_lt_add_left n.isLt _) (by decide)
  | float => decide
  | double => decide
  | null => decide
  | endOfCollection => decide

theorem ElementType.code_inj {t t' : ElementType} (h : t.code = t'.code) : t = t' := by
  rw [← ofCode_code t, h, ofCode_code]

theorem ElementType.code_eq_end {t : ElementType} : t.code = tlvTypeEnd ↔ t = .endOfCollection :=
  ⟨fun h => code_inj h, fun h => h ▸ rfl⟩

theorem ElementType.code_eq_container {t : ElementType} :
    t.code = tlvTypeStructure ∨ t.code = tlvTypeArray ∨ t.code = tlvTypeList ↔
      t.IsContainer := by
  constructor
  · intro h
    rcases h with h | h | h
    · exact ⟨.struct, code_inj h⟩
    · exact ⟨.array, code_inj h⟩
    · exact ⟨.list, code_inj h⟩
  · intro h
    obtain ⟨kind, rfl⟩ := h
    cases kind <;> decide

/-- The two halves of a control byte. -/
theorem controlByte_bits (c : TagControl) (t : ElementType) :
    (controlByte c t).toNat &&& 0x1F = t.code ∧ (controlByte c t).toNat &&& 0xE0 = c.code := by
  have hbits : ∀ n < 32, ∀ m ∈ [0x00, 0x20, 0x40, 0x60, 0x80, 0xA0, 0xC0, 0xE0],
      (n + m) % 256 &&& 0x1F = n ∧ (n + m) % 256 &&& 0xE0 = m := by decide
  have hmem : c.code ∈ [0x00, 0x20, 0x40, 0x60, 0x80, 0xA0, 0xC0, 0xE0] := by
    cases c <;> decide
  unfold controlByte
  rw [UInt8.toNat_ofNat']
  exact hbits _ t.code_lt _ hmem

/-- Every byte is a control byte. -/
theorem eq_controlByte (b : UInt8) :
    b = controlByte (.ofCode (b.toNat &&& 0xE0)) (.ofCode (b.toNat &&& 0x1F)) := by
  have hall : ∀ n < 256, (ElementType.ofCode (n &&& 0x1F)).code +
      (TagControl.ofCode (n &&& 0xE0)).code = n := by decide +kernel
  unfold controlByte
  rw [hall _ b.toNat_lt, UInt8.ofNat_toNat]

theorem decodeControlByte_cons (c : TagControl) (t : ElementType) (tlv : Bytes) :
    decodeControlByte (controlByte c t :: tlv) =
      .ok { typeNum := t.code, tagType := c.code, type := elementTypes t.code } := by
  obtain ⟨htype, htag⟩ := controlByte_bits c t
  have hread : readUInt8 (controlByte c t :: tlv) 0 = .ok (controlByte c t).toNat := by
    simp [readUInt8, readUIntLE, readBytes, Except.map, ofLE]
  unfold decodeControlByte
  rw [hread]
  simp only [bind, Except.bind, pure, Except.pure, htype, htag]

/-! ## 2. Tags and values -/

/-- Two reads next to each other, or one of both fields. -/
theorem readUIntLE_pair {α : Type} (v w : Nat) (bs : Bytes) (f : Nat → Nat → α) :
    (do let a ← readUIntLE v bs 0; let b ← readUIntLE w bs v; pure (f a b) : Except JsError α) =
      (readBytes (v + w) bs 0).map fun field => f (ofLE (field.take v)) (ofLE (field.drop v)) := by
  by_cases hv : v ≤ bs.length
  · rw [readUIntLE_of_le (show 0 + v ≤ bs.length by omega)]
    by_cases hw : v + w ≤ bs.length
    · rw [readUIntLE_of_le hw, readBytes_of_le (show 0 + (v + w) ≤ bs.length by omega)]
      simp only [bind, Except.bind, pure, Except.pure, Except.map, List.drop_zero,
        List.take_take, Nat.min_eq_left (Nat.le_add_right v w), List.drop_take,
        Nat.add_sub_cancel_left]
    · rw [readUIntLE_of_short (show bs.length < v + w by omega),
        readBytes_of_short (show bs.length < 0 + (v + w) by omega)]
      rfl
  · rw [readUIntLE_of_short (show bs.length < 0 + v by omega),
      readBytes_of_short (show bs.length < 0 + (v + w) by omega)]
    rfl

/-- One read. -/
theorem readUIntLE_single {α : Type} (w : Nat) (bs : Bytes) (f : Nat → α) :
    (do let a ← readUIntLE w bs 0; pure (f a) : Except JsError α) =
      (readBytes w bs 0).map fun field => f (ofLE field) := by
  unfold readUIntLE
  cases readBytes w bs 0 <;> rfl

theorem readIntLE_single {α : Type} (w : Nat) (bs : Bytes) (f : Int → α) :
    (do let a ← readIntLE w bs 0; pure (f a) : Except JsError α) =
      (readBytes w bs 0).map fun field => f (ofLEInt field) := by
  unfold readIntLE
  cases readBytes w bs 0 <;> rfl

/-- No field of no bytes is missing. -/
theorem readBytes_zero (bs : Bytes) : readBytes 0 bs 0 = .ok [] := by
  rw [readBytes_of_le (Nat.zero_le _), List.take_zero]

/-- **A tag is its field, all of it.** -/
theorem decodeTagAndLength_code (c : TagControl) (tlv : Bytes) :
    decodeTagAndLength tlv c.code = (readBytes c.width tlv 0).map fun field =>
      { tag := c.tag field, tagLength := c.width, profile := c.profile field } := by
  cases c with
  | anonymous =>
    show _ = (readBytes 0 tlv 0).map _
    rw [readBytes_zero]
    rfl
  | contextSpecific => exact readUIntLE_single 1 tlv _
  | commonProfile2Bytes => exact readUIntLE_single 2 tlv _
  | implicitProfile2Bytes => exact readUIntLE_single 2 tlv _
  | commonProfile4Bytes => exact readUIntLE_single 4 tlv _
  | implicitProfile4Bytes => exact readUIntLE_single 4 tlv _
  | fullyQualified6Bytes => exact readUIntLE_pair 4 2 tlv _
  | fullyQualified8Bytes => exact readUIntLE_pair 4 4 tlv _

theorem widthCode_cases : ∀ k : Fin 4, k = 0 ∨ k = 1 ∨ k = 2 ∨ k = 3 := by decide

/-- The bytes of a string are those after its length. -/
theorem subarray_after (tlv : Bytes) (lenSize valSize : Nat) :
    subarray tlv lenSize (lenSize + valSize : Nat) = (tlv.drop lenSize).take valSize := by
  rw [subarray_nat, List.drop_take, Nat.add_sub_cancel_left]

theorem stringValue_text {k : Nat} (hk : k ≤ 3) (tlv : Bytes) (valSize lenSize : Nat) :
    stringValue (tlvTypeUtf8String + k) tlv valSize lenSize =
      { value := .string (String.ofList (utf8Decode ((tlv.drop lenSize).take valSize)))
        length := lenSize + valSize } := by
  unfold stringValue
  rw [if_pos ⟨by omega, by omega⟩, ← subarray_after]
  rfl

theorem stringValue_bytes {k : Nat} (hk : k ≤ 3) (tlv : Bytes) (valSize lenSize : Nat) :
    stringValue (tlvTypeByteString + k) tlv valSize lenSize =
      { value := .buffer ((tlv.drop lenSize).take valSize), length := lenSize + valSize } := by
  unfold stringValue
  have htext : ¬ (tlvTypeUtf8String ≤ tlvTypeByteString + k ∧
      tlvTypeByteString + k ≤ tlvTypeUtf8String + 3) := by
    unfold tlvTypeUtf8String tlvTypeByteString
    omega
  rw [if_neg htext, if_pos ⟨by omega, by omega⟩, ← subarray_after]
  rfl

/-- **A value is its fixed field, all of it, and what there is of its content.** -/
theorem decodeValueAndLength_code (t : ElementType) (tlv : Bytes) :
    decodeValueAndLength tlv t.code = (readBytes t.width tlv 0).map fun field =>
      { value := t.value field ((tlv.drop t.width).take (t.contentLength field))
        length := t.width + t.contentLength field } := by
  have hnone {v : ValueLength} : (readBytes 0 tlv 0).map (fun _ => v) = .ok v := by
    rw [readBytes_zero]
    rfl
  have hstring {type w : Nat} {g : Bytes → ValueLength}
      (hg : ∀ field, stringValue type tlv (ofLE field) w = g field) :
      (do let n ← readUIntLE w tlv 0; pure (stringValue type tlv n w) : Except JsError _) =
        (readBytes w tlv 0).map g :=
    (readUIntLE_single w tlv _).trans (congrArg (Except.map · _) (funext hg))
  cases t with
  | signed k =>
    rcases widthCode_cases k with rfl | rfl | rfl | rfl
    · exact readIntLE_single 1 tlv _
    · exact readIntLE_single 2 tlv _
    · exact readIntLE_single 4 tlv _
    · exact readIntLE_single 8 tlv _
  | unsigned k =>
    rcases widthCode_cases k with rfl | rfl | rfl | rfl
    · exact readUIntLE_single 1 tlv _
    · exact readUIntLE_single 2 tlv _
    · exact readUIntLE_single 4 tlv _
    · exact readUIntLE_single 8 tlv _
  | text k =>
    rcases widthCode_cases k with rfl | rfl | rfl | rfl
    · exact hstring fun field => stringValue_text (k := 0) (by decide) tlv (ofLE field) 1
    · exact hstring fun field => stringValue_text (k := 1) (by decide) tlv (ofLE field) 2
    · exact hstring fun field => stringValue_text (k := 2) (by decide) tlv (ofLE field) 4
    · exact readUIntLE_single 8 tlv _
  | bytes k =>
    rcases widthCode_cases k with rfl | rfl | rfl | rfl
    · exact hstring fun field => stringValue_bytes (k := 0) (by decide) tlv (ofLE field) 1
    · exact hstring fun field => stringValue_bytes (k := 1) (by decide) tlv (ofLE field) 2
    · exact hstring fun field => stringValue_bytes (k := 2) (by decide) tlv (ofLE field) 4
    · exact readUIntLE_single 8 tlv _
  | boolean b =>
    cases b with
    | false => exact hnone.symm
    | true => exact hnone.symm
  | float =>
    show (do let x ← readFloatLE tlv 0; pure { value := .number x, length := 4 } :
      Except JsError ValueLength) = (readBytes 4 tlv 0).map _
    unfold readFloatLE readUIntLE
    cases readBytes 4 tlv 0 <;> rfl
  | double =>
    show (do let x ← readDoubleLE tlv 0; pure { value := .number x, length := 8 } :
      Except JsError ValueLength) = (readBytes 8 tlv 0).map _
    unfold readDoubleLE readUIntLE
    cases readBytes 8 tlv 0 <;> rfl
  | container kind =>
    cases kind with
    | struct => exact hnone.symm
    | array => exact hnone.symm
    | list => exact hnone.symm
  | null => exact hnone.symm
  | endOfCollection => exact hnone.symm
  | reserved n =>
    have hn : ∀ n : Fin 7, n = 0 ∨ n = 1 ∨ n = 2 ∨ n = 3 ∨ n = 4 ∨ n = 5 ∨ n = 6 := by decide
    rcases hn n with rfl | rfl | rfl | rfl | rfl | rfl | rfl <;> exact hnone.symm

/-- A field at the start of a buffer is its first bytes. -/
theorem readBytes_split {w : Nat} {bs field : Bytes} (h : readBytes w bs 0 = .ok field) :
    ∃ rest, bs = field ++ rest ∧ field.length = w := by
  unfold readBytes at h
  split at h
  · rename_i hle
    cases h
    refine ⟨bs.drop w, ?_, List.length_take_of_le (by simpa using hle)⟩
    rw [List.drop_zero, List.take_append_drop]
  · cases h

/-! ## 3. Items -/

/-- The bytes of one turn. A container's entries and its end marker are turns of their own. -/
structure Item where
  control : TagControl
  type : ElementType
  tag : Bytes
  field : Bytes
  content : Bytes
  length_tag : tag.length = control.width
  length_field : field.length = type.width

namespace Item

/-- The content is what the reader takes for it. -/
def Full (i : Item) : Prop := i.content.length = i.type.contentLength i.field

/-- There is less of it. -/
def CutShort (i : Item) : Prop := i.content.length < i.type.contentLength i.field

def wire (i : Item) : Bytes := controlByte i.control i.type :: (i.tag ++ i.field ++ i.content)

/-- The entry the reader answers. -/
def entry (i : Item) : DeterministicJson :=
  { profile := i.control.profile i.tag
    tag := i.control.tag i.tag
    type := elementTypes i.type.code
    value := i.type.value i.field i.content }

end Item

/-- What is read of the bytes after a control byte. -/
theorem decodeEntry_cons (c : TagControl) (t : ElementType) (tlv : Bytes) :
    decodeEntry (controlByte c t :: tlv) = do
      let tag ← readBytes c.width tlv 0
      let field ← readBytes t.width (tlv.drop c.width) 0
      let after := tlv.drop (c.width + t.width)
      return (t.code,
        { profile := c.profile tag
          tag := c.tag tag
          type := elementTypes t.code
          value := t.value field (after.take (t.contentLength field)) },
        after.drop (t.contentLength field)) := by
  have hrest : subarrayFrom (controlByte c t :: tlv) 1 = tlv :=
    subarrayFrom_nat (controlByte c t :: tlv) 1
  unfold decodeEntry
  rw [decodeControlByte_cons, hrest]
  dsimp only [bind, Except.bind]
  rw [decodeTagAndLength_code]
  cases readBytes c.width tlv 0 with
  | error e => rfl
  | ok tag =>
    dsimp only [Except.map]
    rw [subarrayFrom_nat, decodeValueAndLength_code]
    cases readBytes t.width (tlv.drop c.width) 0 with
    | error e => rfl
    | ok field =>
      simp only [Except.map, pure, Except.pure, subarrayFrom_nat, List.drop_drop, Nat.add_assoc]

/-- **An item is read as its entry**, and only the end of the input cuts its content short. -/
theorem decodeEntry_wire (i : Item) {rest : Bytes} (h : i.Full ∨ i.CutShort ∧ rest = []) :
    decodeEntry (i.wire ++ rest) = .ok (i.type.code, i.entry, rest) := by
  have htag : readBytes i.control.width (i.tag ++ (i.field ++ (i.content ++ rest))) 0 =
      .ok i.tag := by
    rw [← i.length_tag]
    exact readBytes_append [] i.tag _
  have hfield : readBytes i.type.width (i.field ++ (i.content ++ rest)) 0 = .ok i.field := by
    rw [← i.length_field]
    exact readBytes_append [] i.field _
  have hcontent : (i.content ++ rest).take (i.type.contentLength i.field) = i.content ∧
      (i.content ++ rest).drop (i.type.contentLength i.field) = rest := by
    rcases h with hfull | ⟨hcut, rfl⟩
    · rw [← show i.content.length = _ from hfull, List.take_left, List.drop_left]
      exact ⟨rfl, rfl⟩
    · have hle := Nat.le_of_lt hcut
      rw [List.append_nil, List.take_of_length_le hle, List.drop_eq_nil_of_le hle]
      exact ⟨rfl, rfl⟩
  have hdrop : (i.tag ++ (i.field ++ (i.content ++ rest))).drop i.control.width =
      i.field ++ (i.content ++ rest) := by
    rw [← i.length_tag, List.drop_left]
  have hdrop' : (i.tag ++ (i.field ++ (i.content ++ rest))).drop (i.control.width + i.type.width) =
      i.content ++ rest := by
    rw [← List.drop_drop, hdrop, ← i.length_field, List.drop_left]
  rw [Item.wire, List.cons_append, List.append_assoc, List.append_assoc, decodeEntry_cons]
  simp only [htag, hdrop, hdrop', hfield, hcontent.1, hcontent.2, bind, Except.bind]
  rfl

/-- **What is read is an item.** -/
theorem decodeEntry_eq_ok {tlv rest : Bytes} {type : Nat} {decoding : DeterministicJson}
    (h : decodeEntry tlv = .ok (type, decoding, rest)) :
    ∃ i : Item, tlv = i.wire ++ rest ∧ type = i.type.code ∧ decoding = i.entry ∧
      (i.Full ∨ i.CutShort ∧ rest = []) := by
  cases tlv with
  | nil => cases h
  | cons b tlv =>
    rw [eq_controlByte b] at h ⊢
    generalize TagControl.ofCode (b.toNat &&& 0xE0) = c at h ⊢
    generalize ElementType.ofCode (b.toNat &&& 0x1F) = t at h ⊢
    rw [decodeEntry_cons] at h
    obtain ⟨tag, htag, h⟩ := bind_eq_ok h
    obtain ⟨field, hfield, h⟩ := bind_eq_ok h
    obtain ⟨after, rfl, hlt⟩ := readBytes_split htag
    obtain ⟨rest', hrest', hlf⟩ := readBytes_split hfield
    rw [← hlt, List.drop_left] at hrest'
    subst hrest'
    have hafter : (tag ++ (field ++ rest')).drop (c.width + t.width) = rest' := by
      rw [← hlt, ← hlf, ← List.drop_drop, List.drop_left, List.drop_left]
    dsimp only at h
    rw [hafter] at h
    simp only [pure, Except.pure, Except.ok.injEq, Prod.mk.injEq] at h
    obtain ⟨rfl, rfl, rfl⟩ := h
    refine ⟨⟨c, t, tag, field, rest'.take (t.contentLength field), hlt, hlf⟩, ?_, rfl, rfl, ?_⟩
    · simp only [Item.wire, List.cons_append, List.append_assoc, List.take_append_drop]
    · rcases Nat.lt_or_ge rest'.length (t.contentLength field) with hshort | hlong
      · exact .inr ⟨Nat.lt_of_le_of_lt (List.length_take_le' ..) hshort,
          List.drop_eq_nil_of_le (Nat.le_of_lt hshort)⟩
      · exact .inl (List.length_take_of_le hlong)

end Matternode.Tlv
