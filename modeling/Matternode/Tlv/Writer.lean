/-
  File:      Matternode/Tlv/Writer.lean
  Subject:   TlvWriter: TLV elements appended to a buffer.

  A call either appends the bytes of its element or throws and leaves the buffer as it was; a walk
  that throws keeps what was appended before (`WriterM` keeps the state of a throw).

  `put` and `encode` of the source call each other on the same value, so they are one recursion over
  the value here (`perform`), told by a `Call` which of the two is meant:

  * `performEntry` -- the chain over `type` in `encode`, for one entry;
  * `put`, `encode` -- the two methods.
-/
import Matternode.Tlv.Codec

namespace Matternode.Tlv

open Base Js

structure TlvWriter where
  buf : Bytes := []

/-- Writer methods: the state is the writer, and a throw keeps it. -/
abbrev WriterM := EStateM JsError TlvWriter

/-- `this.buf = Buffer.concat([this.buf, …])`, the parts computed first. -/
def append (parts : Except JsError Bytes) : WriterM Unit :=
  match parts with
  | .ok bs => modify fun w => { w with buf := w.buf ++ bs }
  | .error e => throw e

/-! ## 1. Leaves -/

/-- An element whose control byte says how long `encoded` is. -/
def sizedElement (type : Nat) (encoded : Bytes) (tag profile : Option Int) :
    Except JsError Bytes := do
  return (← encodeControlByte type encoded.length tag profile) ++ encoded

def putUnsignedInt (val : JsValue) (tag profile : Option Int := none) : WriterM Unit :=
  append do sizedElement tlvTypeUnsignedInteger (← encodeUnsignedInt val) tag profile

def putSignedInt (val : JsValue) (tag profile : Option Int := none) : WriterM Unit :=
  append do sizedElement tlvTypeSignedInteger (← encodeSignedInt val) tag profile

def putFloat (val : JsValue) (tag profile : Option Int := none) : WriterM Unit :=
  append do
    let encoded ← encodeFloat val
    return (← encodeControlByte tlvTypeFloat 0 tag profile) ++ encoded

def putDouble (val : JsValue) (tag profile : Option Int := none) : WriterM Unit :=
  append do
    let encoded ← encodeDouble val
    return (← encodeControlByte tlvTypeDouble 0 tag profile) ++ encoded

def putBoolean (val : JsValue) (tag profile : Option Int := none) : WriterM Unit :=
  append (encodeControlByte (if val.truthy then tlvTypeBooleanTrue else tlvTypeBooleanFalse) 0
    tag profile)

def putNull (tag profile : Option Int := none) : WriterM Unit :=
  append (encodeControlByte tlvTypeNull 0 tag profile)

def putBytes (val : Bytes) (tag profile : Option Int := none) : WriterM Unit :=
  append do
    let valLen ← encodeUnsignedInt (.nat val.length)
    return (← sizedElement tlvTypeByteString valLen tag profile) ++ val

/-- `s.length`: the UTF-16 units of a string. -/
def utf16Length (s : String) : Nat :=
  (s.toList.map fun c => if c.toNat < 0x10000 then 1 else 2).sum

/-- The prefix is `val.length`, which counts UTF-16 units and not the encoded bytes. -/
def putString (val : String) (tag profile : Option Int := none) : WriterM Unit :=
  append do
    let valLen ← encodeUnsignedInt (.nat (utf16Length val))
    return (← sizedElement tlvTypeUtf8String valLen tag profile) ++ utf8Encode val.toList

/-! ## 2. Containers -/

def putStructStart (tag profile : Option Int := none) : WriterM Unit :=
  append (encodeControlByte tlvTypeStructure 0 tag profile)

def putArrayStart (tag profile : Option Int := none) : WriterM Unit :=
  append (encodeControlByte tlvTypeArray 0 tag profile)

def putListStart (tag profile : Option Int := none) : WriterM Unit :=
  append (encodeControlByte tlvTypeList 0 tag profile)

def putContainerEnd : WriterM Unit := append (encodeControlByte tlvTypeEnd)

/-! ## 3. Generic values -/

/-- `put` of an integral value: the sign picks the element type. -/
def putInteger (val : JsValue) (tag profile : Option Int) : WriterM Unit :=
  if val.numeric.lt 0 then putSignedInt val tag profile else putUnsignedInt val tag profile

/-- The value an entry of type "Buffer" is written with: text is read as hexadecimal. -/
def bufferOfEntry : JsValue → Except JsError Bytes
  | .string s => .ok (fromHex s.toList)
  | v => bufferFrom v

/-- Which method walks a value: `put` under a tag, or `encode`. -/
inductive Call where
  | put (tag profile : Option Int)
  | encode

/-- The tag a raw value is put under. -/
def Call.tag : Call → Option Int
  | .put tag _ => tag
  | .encode => none

def Call.profile : Call → Option Int
  | .put _ profile => profile
  | .encode => none

mutual

/-- `put(val, tag, profile)` or `encode(val)`. An array takes the tag as a property nobody reads,
    and its entries are encoded where it stands. -/
def perform (call : Call) : JsValue → WriterM Unit
  | .undefined =>
    match call with
    | .put tag profile => putNull tag profile
    | .encode => throw .typeError
  | .string s => putString s call.tag call.profile
  | .buffer bs =>
    match call with
    | .put tag profile => putBytes bs tag profile
    | .encode => putNull
  | .number x =>
    if x.isInteger then putInteger (.number x) call.tag call.profile
    else putDouble (.number x) call.tag call.profile
  | .bigint n => putInteger (.bigint n) call.tag call.profile
  | .boolean b => putBoolean (.boolean b) call.tag call.profile
  | .array entries => performEntries entries
  | .object entry =>
    match call with
    | .put tag profile => performEntry tag profile entry
    | .encode => performEntry entry.tag entry.profile entry

/-- The branches of `encode` over the type of an entry, under the given tag. -/
def performEntry (tag profile : Option Int) : Entry JsValue → WriterM Unit
  | ⟨_, _, type, value, _⟩ =>
    match type with
    | some .struct => do
      putStructStart tag profile
      perform .encode value
      putContainerEnd
    | some .array => do
      putArrayStart tag profile
      perform .encode value
      putContainerEnd
    | some .list => do
      putListStart tag profile
      perform .encode value
      putContainerEnd
    | some .int8 | some .int16 | some .int32 | some .int64 => putSignedInt value tag profile
    | some .uint8 | some .uint16 | some .uint32 | some .uint64 => putUnsignedInt value tag profile
    | some .float => putFloat value tag profile
    | some .boolean | some .bool => putBoolean value tag profile
    | some .buffer =>
      match bufferOfEntry value with
      | .ok bs => putBytes bs tag profile
      | .error e => throw e
    | _ => perform (.put tag profile) value

/-- `json.forEach(entry => { this.encode(entry) })`. -/
def performEntries : List (Entry JsValue) → WriterM Unit
  | [] => pure ()
  | entry :: entries => do
    performEntry entry.tag entry.profile entry
    performEntries entries

end

def put (val : JsValue) (tag profile : Option Int := none) : WriterM Unit :=
  perform (.put tag profile) val

def encode (json : JsValue) : WriterM Unit := perform .encode json

/-- `new TlvWriter().encode(json).Buffer`. -/
def encodeBuffer (json : JsValue) : Except JsError Bytes :=
  match (encode json).run {} with
  | .ok _ w => .ok w.buf
  | .error e _ => .error e

end Matternode.Tlv
