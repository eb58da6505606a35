/-
  File:      Matternode/Tlv/Codec.lean
  Subject:   TlvCodec: control bytes, tags and values of TLV elements.

  * the element types and tag controls, under the source's names;
  * `encodeSignedInt`, `encodeUnsignedInt` -- the shortest of 1, 2, 4, 8 bytes;
  * `encodeControlByte` -- the control byte with its tag bytes, or the error it throws;
  * `decodeControlByte`, `decodeTagAndLength`, `decodeValueAndLength` -- the three reads of an
    element. A length prefix of eight bytes reads as a bigint, which the post-processing of strings
    does not take for a length: the value is then the prefix itself.
-/
import Matternode.Js.Buffer

namespace Matternode.Tlv

open Base Js

/-! ## 1. Element types and tag controls -/

def tlvTypeSignedInteger : Nat := 0x00
def tlvTypeUnsignedInteger : Nat := 0x04
def tlvTypeBooleanFalse : Nat := 0x08
def tlvTypeBooleanTrue : Nat := 0x09
def tlvTypeFloat : Nat := 0x0A
def tlvTypeDouble : Nat := 0x0B
def tlvTypeUtf8String : Nat := 0x0C
def tlvTypeByteString : Nat := 0x10
def tlvTypeNull : Nat := 0x14
def tlvTypeStructure : Nat := 0x15
def tlvTypeArray : Nat := 0x16
def tlvTypeList : Nat := 0x17
def tlvTypeEnd : Nat := 0x18

def tagControlAnonymous : Nat := 0x00
def tagControlContextSpecific : Nat := 0x20
def tagControlCommonProfile2Bytes : Nat := 0x40
def tagControlCommonProfile4Bytes : Nat := 0x60
def tagControlImplicitProfile2Bytes : Nat := 0x80
def tagControlImplicitProfile4Bytes : Nat := 0xA0
def tagControlFullyQualified6Bytes : Nat := 0xC0
def tagControlFullyQualified8Bytes : Nat := 0xE0

/-- TlvCodec.INT64_MAX: the literal 9223372036854775807 rounds to this double. -/
def int64Max : Int := 2 ^ 63

/-- TlvCodec.UINT64_MAX: the literal 18446744073709551615 rounds to this double. -/
def uint64Max : Int := 2 ^ 64

/-- TlvCodec.ElementTypes. -/
def elementTypes : Nat → Option TypeLabel
  | 0x00 => some .int8
  | 0x01 => some .int16
  | 0x02 => some .int32
  | 0x03 => some .int64
  | 0x04 => some .uint8
  | 0x05 => some .uint16
  | 0x06 => some .uint32
  | 0x07 => some .uint64
  | 0x08 => some .boolean
  | 0x09 => some .boolean
  | 0x0A => some .float
  | 0x0B => some .double
  | 0x0C => some .stringUint8Len
  | 0x0D => some .stringUint16Len
  | 0x0E => some .stringUint32Len
  | 0x0F => some .stringUint64Len
  | 0x10 => some .bufferUint8Len
  | 0x11 => some .bufferUint16Len
  | 0x12 => some .bufferUint32Len
  | 0x13 => some .bufferUint64Len
  | 0x14 => some .null
  | 0x15 => some .struct
  | 0x16 => some .array
  | 0x17 => some .list
  | 0x18 => some .endOfCollection
  | _ => none

/-! ## 2. Encoding -/

def encodeSignedInt (val : JsValue) : Except JsError Bytes := do
  let x := val.numeric
  if x.ge (-128) && x.le 127 then
    writeInt8 (bufferAlloc 1) (← val.toNumberCall) 0
  else if x.ge (-32768) && x.le 32767 then
    writeInt16LE (bufferAlloc 2) (← val.toNumberCall) 0
  else if x.ge (-2147483648) && x.le 2147483647 then
    writeInt32LE (bufferAlloc 4) (← val.toNumberCall) 0
  else if x.ge (-9223372036854775808) && x.le int64Max then
    writeBigInt64LE (bufferAlloc 8) (← val.toBigInt) 0
  else throw (.thrown "TLV: Integer value out of range")

def encodeUnsignedInt (val : JsValue) : Except JsError Bytes := do
  let x := val.numeric
  if x.lt 0 then throw (.thrown "TLV: Integer value out of range")
  else if x.le 255 then writeUInt8 (bufferAlloc 1) val 0
  else if x.le 65535 then writeUInt16LE (bufferAlloc 2) val 0
  else if x.le 4294967295 then writeUInt32LE (bufferAlloc 4) val 0
  else if x.le uint64Max then writeBigUInt64LE (bufferAlloc 8) (← val.toBigInt) 0
  else throw (.thrown "TLV: Integer value out of range")

def encodeFloat (val : JsValue) : Except JsError Bytes := writeFloatLE (bufferAlloc 4) val 0

def encodeDouble (val : JsValue) : Except JsError Bytes := writeDoubleLE (bufferAlloc 8) val 0

/-- The width bits of a control byte. -/
def lengthBits : Nat → Except JsError Nat
  | 0 => .ok 0
  | 1 => .ok 0
  | 2 => .ok 1
  | 4 => .ok 2
  | 8 => .ok 3
  | _ => .error (.thrown "TLV: Illegal control value length")

/-- A tag of a profile: the control bits and bytes of its 2-byte or its 4-byte form. -/
def encodeProfileTag (tag2 tag4 : Nat) : Option Int → Except JsError (Nat × Bytes)
  | none => .error (.thrown "TLV: tag undefined")
  | some tag =>
    if 0 ≤ tag ∧ tag ≤ 65535 then do
      return (tag2, ← writeUInt16LE (bufferAlloc 2) (.number (.int tag)) 0)
    else if 65535 < tag ∧ tag ≤ 4294967295 then do
      return (tag4, ← writeUInt32LE (bufferAlloc 4) (.number (.int tag)) 0)
    else .error (.thrown "TLV: Illegal tag length")

/-- A fully-qualified tag; a number outside 32 bits gets neither control bits nor bytes. -/
def encodeFullyQualifiedTag (profile : Int) : Option Int → Except JsError (Nat × Bytes)
  | none => .error (.thrown "TLV: tag undefined")
  | some tag =>
    if 0 ≤ tag ∧ tag ≤ 65535 then do
      let encoded ← writeUInt32LE (bufferAlloc 6) (.number (.int profile)) 0
      return (tagControlFullyQualified6Bytes, ← writeUInt16LE encoded (.number (.int tag)) 4)
    else if 65535 < tag ∧ tag ≤ 4294967295 then do
      let encoded ← writeUInt32LE (bufferAlloc 8) (.number (.int profile)) 0
      return (tagControlFullyQualified8Bytes, ← writeUInt32LE encoded (.number (.int tag)) 4)
    else .ok (0, [])

/-- The control bits and bytes of a tag. -/
def encodeTagControl (tag profile : Option Int) : Except JsError (Nat × Bytes) :=
  match profile with
  | none =>
    match tag with
    | none => .ok (tagControlAnonymous, [])
    | some tag =>
      if tag < 0 ∨ 255 < tag then .error (.thrown "TLV: Context-specific tag number out of range")
      else do
        return (tagControlContextSpecific, ← writeUInt8 (bufferAlloc 1) (.number (.int tag)) 0)
  | some profile =>
    if profile = 0 ∨ profile = 0x40 ∨ profile = 0x60 then
      encodeProfileTag tagControlCommonProfile2Bytes tagControlCommonProfile4Bytes tag
    else if profile = -1 ∨ profile = 0x80 ∨ profile = 0xA0 then
      encodeProfileTag tagControlImplicitProfile2Bytes tagControlImplicitProfile4Bytes tag
    else encodeFullyQualifiedTag profile tag

/-- `encodeControlByte(type, lenOfLenOrVal, tag, profile)`. -/
def encodeControlByte (type : Nat) (lenOfLenOrVal : Nat := 0) (tag : Option Int := none)
    (profile : Option Int := none) : Except JsError Bytes := do
  let width ← lengthBits lenOfLenOrVal
  let (control, encoded) ← encodeTagControl tag profile
  let encodedControl ← writeUInt8 (bufferAlloc 1) (.nat (type ||| width ||| control)) 0
  return encodedControl ++ encoded

/-! ## 3. Decoding -/

/-- TlvType.DecodedControlByte; the name of the tag control is not read. -/
structure DecodedControlByte where
  typeNum : Nat
  tagType : Nat
  type : Option TypeLabel

def decodeControlByte (tlv : Bytes) : Except JsError DecodedControlByte := do
  let controlByte ← readUInt8 tlv 0
  let elementType := controlByte &&& 0x1F
  let tagControl := controlByte &&& 0xE0
  return { typeNum := elementType, tagType := tagControl, type := elementTypes elementType }

/-- TlvType.ValueLength. -/
structure ValueLength where
  value : JsValue
  length : Nat

/-- What the post-processing of strings makes of a length prefix of `lenSize` bytes. -/
def stringValue (elementType : Nat) (tlv : Bytes) (valSize lenSize : Nat) : ValueLength :=
  let content := subarray tlv lenSize (lenSize + valSize)
  if tlvTypeUtf8String ≤ elementType ∧ elementType ≤ tlvTypeUtf8String + 3 then
    { value := .string (String.ofList (utf8Decode content)), length := lenSize + valSize }
  else if tlvTypeByteString ≤ elementType ∧ elementType ≤ tlvTypeByteString + 3 then
    { value := .buffer content, length := lenSize + valSize }
  else { value := .nat valSize, length := lenSize }

def decodeValueAndLength (tlv : Bytes) (elementType : Nat) : Except JsError ValueLength := do
  if elementType = tlvTypeNull then return { value := .undefined, length := 0 }
  else if elementType = tlvTypeBooleanTrue then return { value := .boolean true, length := 0 }
  else if elementType = tlvTypeBooleanFalse then return { value := .boolean false, length := 0 }
  else if elementType = tlvTypeUtf8String ∨ elementType = tlvTypeByteString ∨
      elementType = tlvTypeUnsignedInteger then
    return stringValue elementType tlv (← readUInt8 tlv 0) 1
  else if elementType = tlvTypeUtf8String + 1 ∨ elementType = tlvTypeByteString + 1 ∨
      elementType = tlvTypeUnsignedInteger + 1 then
    return stringValue elementType tlv (← readUInt16LE tlv 0) 2
  else if elementType = tlvTypeUtf8String + 2 ∨ elementType = tlvTypeByteString + 2 ∨
      elementType = tlvTypeUnsignedInteger + 2 then
    return stringValue elementType tlv (← readUInt32LE tlv 0) 4
  else if elementType = tlvTypeUtf8String + 3 ∨ elementType = tlvTypeByteString + 3 ∨
      elementType = tlvTypeUnsignedInteger + 3 then
    -- a bigint: the post-processing of strings asks for a number and leaves it alone
    return { value := .bigint (← readBigUInt64LE tlv 0), length := 8 }
  else if elementType = tlvTypeSignedInteger then
    return { value := .number (.int (← readInt8 tlv 0)), length := 1 }
  else if elementType = tlvTypeSignedInteger + 1 then
    return { value := .number (.int (← readInt16LE tlv 0)), length := 2 }
  else if elementType = tlvTypeSignedInteger + 2 then
    return { value := .number (.int (← readInt32LE tlv 0)), length := 4 }
  else if elementType = tlvTypeSignedInteger + 3 then
    return { value := .bigint (← readBigInt64LE tlv 0), length := 8 }
  else if elementType = tlvTypeFloat then
    return { value := .number (← readFloatLE tlv 0), length := 4 }
  else if elementType = tlvTypeDouble then
    return { value := .number (← readDoubleLE tlv 0), length := 8 }
  else if elementType = tlvTypeStructure ∨ elementType = tlvTypeArray ∨
      elementType = tlvTypeList then
    return { value := .array [], length := 0 }
  else return { value := .undefined, length := 0 }

/-- TlvType.DecodedTagLength. -/
structure DecodedTagLength where
  tag : Option Int
  tagLength : Nat
  profile : Option Int := none

def decodeTagAndLength (tlv : Bytes) (tagType : Nat) : Except JsError DecodedTagLength := do
  if tagType = tagControlAnonymous then return { tag := none, tagLength := 0 }
  else if tagType = tagControlContextSpecific then
    return { tag := some (← readUInt8 tlv 0), tagLength := 1 }
  else if tagType = tagControlCommonProfile2Bytes then
    return { tag := some (← readUInt16LE tlv 0), tagLength := 2, profile := some 0 }
  else if tagType = tagControlImplicitProfile2Bytes then
    return { tag := some (← readUInt16LE tlv 0), tagLength := 2, profile := some (-1) }
  else if tagType = tagControlCommonProfile4Bytes then
    return { tag := some (← readUInt32LE tlv 0), tagLength := 4, profile := some 0 }
  else if tagType = tagControlImplicitProfile4Bytes then
    return { tag := some (← readUInt32LE tlv 0), tagLength := 4, profile := some (-1) }
  else if tagType = tagControlFullyQualified6Bytes then
    let profile ← readUInt32LE tlv 0
    return { tag := some (← readUInt16LE tlv 4), tagLength := 6, profile := some profile }
  else if tagType = tagControlFullyQualified8Bytes then
    let profile ← readUInt32LE tlv 0
    return { tag := some (← readUInt32LE tlv 4), tagLength := 8, profile := some profile }
  else return { tag := some 0, tagLength := 0 }

end Matternode.Tlv
