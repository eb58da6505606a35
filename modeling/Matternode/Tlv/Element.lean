/-
  File:      Matternode/Tlv/Element.lean
  Subject:   TLV elements as trees, and their bytes.

  What an encoding is for, apart from the JSON that carries it: a forest of elements. A value that
  no element can have cannot be built (`ByteString`, `AsciiText` carry their bounds).

  * `Leaf`, `ContainerKind`, `Element` -- the trees;
  * `Element.wire` -- the bytes of an element, in the shortest widths;
  * `Element.json` -- the entry the reader answers for it;
  * `Element.IsGivenBy` -- the entries the writer may be given for it.
-/
import Matternode.Tlv.Reader

namespace Matternode.Tlv

open Base Js

/-! ## 1. Trees -/

/-- Bytes with a length of 32 bits. -/
structure ByteString where
  bytes : Bytes
  short : bytes.length < 2 ^ 32

/-- ASCII text with a length of 32 bits. -/
structure AsciiText where
  chars : List Char
  ascii : IsAscii chars
  short : chars.length < 2 ^ 32

inductive Leaf where
  | signed (n : Int64)
  | unsigned (n : UInt64)
  | boolean (b : Bool)
  | null
  | bytes (bs : ByteString)
  | text (t : AsciiText)

inductive ContainerKind where
  | struct | array | list
  deriving DecidableEq, Repr

/-- An element, anonymous or under a context-specific tag. -/
inductive Element where
  | leaf (tag : Option UInt8) (v : Leaf)
  | container (tag : Option UInt8) (kind : ContainerKind) (children : List Element)

/-! ## 2. Bytes -/

/-- The code of the shortest width of a signed integer; code `k` stands for `2 ^ k` bytes. -/
def signedWidth (n : Int) : Nat :=
  if -128 ≤ n ∧ n ≤ 127 then 0
  else if -32768 ≤ n ∧ n ≤ 32767 then 1
  else if -2147483648 ≤ n ∧ n ≤ 2147483647 then 2
  else 3

/-- The code of the shortest width of an unsigned integer. -/
def unsignedWidth (n : Nat) : Nat :=
  if n ≤ 255 then 0 else if n ≤ 65535 then 1 else if n ≤ 4294967295 then 2 else 3

/-- The element type of a leaf, its width included. -/
def Leaf.elementType : Leaf → Nat
  | .signed n => tlvTypeSignedInteger + signedWidth n.toInt
  | .unsigned n => tlvTypeUnsignedInteger + unsignedWidth n.toNat
  | .boolean b => if b then tlvTypeBooleanTrue else tlvTypeBooleanFalse
  | .null => tlvTypeNull
  | .bytes bs => tlvTypeByteString + unsignedWidth bs.bytes.length
  | .text t => tlvTypeUtf8String + unsignedWidth t.chars.length

/-- A natural in its shortest width. -/
def shortest (n : Nat) : Bytes := toLE (2 ^ unsignedWidth n) n

@[simp] theorem length_shortest (n : Nat) : (shortest n).length = 2 ^ unsignedWidth n :=
  length_toLE _ _

/-- What stands after the tag of a leaf. -/
def Leaf.payload : Leaf → Bytes
  | .signed n => toLEInt (2 ^ signedWidth n.toInt) n.toInt
  | .unsigned n => shortest n.toNat
  | .boolean _ => []
  | .null => []
  | .bytes bs => shortest bs.bytes.length ++ bs.bytes
  | .text t => shortest t.chars.length ++ utf8Encode t.chars

def ContainerKind.elementType : ContainerKind → Nat
  | .struct => tlvTypeStructure
  | .array => tlvTypeArray
  | .list => tlvTypeList

/-- The bits of the control byte that say how an element is tagged. -/
def tagControl : Option UInt8 → Nat
  | none => tagControlAnonymous
  | some _ => tagControlContextSpecific

/-- The control byte and the tag of an element. -/
def header (elementType : Nat) (tag : Option UInt8) : Bytes :=
  UInt8.ofNat (elementType + tagControl tag) :: tag.toList

mutual

def Element.wire : Element → Bytes
  | .leaf tag v => header v.elementType tag ++ v.payload
  | .container tag kind children =>
    header kind.elementType tag ++ (forestWire children ++ header tlvTypeEnd none)

def forestWire : List Element → Bytes
  | [] => []
  | e :: es => e.wire ++ forestWire es

end

/-! ## 3. What the reader answers -/

/-- The tag of an entry. -/
def jsonTag (tag : Option UInt8) : Option Int := tag.map fun t => (t.toNat : Int)

/-- An integer the reader answers: eight bytes read as a bigint. -/
def integerValue (width : Nat) (n : Int) : JsValue :=
  if width = 3 then .bigint n else .number (.int n)

def Leaf.value : Leaf → JsValue
  | .signed n => integerValue (signedWidth n.toInt) n.toInt
  | .unsigned n => integerValue (unsignedWidth n.toNat) n.toNat
  | .boolean b => .boolean b
  | .null => .undefined
  | .bytes bs => .buffer bs.bytes
  | .text t => .string (String.ofList t.chars)

mutual

def Element.json : Element → DeterministicJson
  | .leaf tag v =>
    { tag := jsonTag tag, type := elementTypes v.elementType, value := v.value }
  | .container tag kind children =>
    { tag := jsonTag tag, type := elementTypes kind.elementType, value := .array (forestJson children) }

def forestJson : List Element → List DeterministicJson
  | [] => []
  | e :: es => e.json :: forestJson es

end

/-! ## 4. What the writer is given -/

/-- The labels `encode` has no branch for: the value says what is written. -/
def autoDetect : Option TypeLabel → Bool
  | some .struct | some .array | some .list => false
  | some .int8 | some .int16 | some .int32 | some .int64 => false
  | some .uint8 | some .uint16 | some .uint32 | some .uint64 => false
  | some .float | some .boolean | some .bool | some .buffer => false
  | _ => true

/-- A value that is the integer: a number (minus zero is zero) or a bigint. -/
inductive IsInteger : JsValue → Int → Prop where
  | number (n : Int) : IsInteger (.number (.int n)) n
  | minusZero : IsInteger (.number (.double 0x8000000000000000)) 0
  | bigint (n : Int) : IsInteger (.bigint n) n

/-- The labels and values the writer is given for a leaf. -/
inductive Leaf.IsGivenBy : Leaf → Option TypeLabel → JsValue → Prop where
  | signed {n : Int64} {label : TypeLabel} {v : JsValue}
      (hlabel : label ∈ [TypeLabel.int8, .int16, .int32, .int64]) (hv : IsInteger v n.toInt) :
      Leaf.IsGivenBy (.signed n) (some label) v
  | unsigned {n : UInt64} {label : TypeLabel} {v : JsValue}
      (hlabel : label ∈ [TypeLabel.uint8, .uint16, .uint32, .uint64])
      (hv : IsInteger v n.toNat)
      (hbig : ∀ k, v = .bigint k → 2 ^ 32 ≤ n.toNat) :
      Leaf.IsGivenBy (.unsigned n) (some label) v
  | boolean {b : Bool} {type : Option TypeLabel}
      (htype : type = some .boolean ∨ type = some .bool ∨ autoDetect type = true) :
      Leaf.IsGivenBy (.boolean b) type (.boolean b)
  | null {type : Option TypeLabel} (htype : autoDetect type = true) :
      Leaf.IsGivenBy .null type .undefined
  | bytes {bs : ByteString} : Leaf.IsGivenBy (.bytes bs) (some .buffer) (.buffer bs.bytes)
  | hexadecimal {bs : ByteString} :
      Leaf.IsGivenBy (.bytes bs) (some .buffer) (.string (String.ofList (toHex bs.bytes)))
  | text {t : AsciiText} {type : Option TypeLabel} (htype : autoDetect type = true) :
      Leaf.IsGivenBy (.text t) type (.string (String.ofList t.chars))

def ContainerKind.label : ContainerKind → TypeLabel
  | .struct => .struct
  | .array => .array
  | .list => .list

mutual

/-- The entries the writer is given for an element; the name of a tag is not read. -/
inductive Element.IsGivenBy : Element → DeterministicJson → Prop where
  | leaf {tag : Option UInt8} {v : Leaf} {type : Option TypeLabel} {value : JsValue}
      (tagName : Option String) (h : v.IsGivenBy type value) :
      Element.IsGivenBy (.leaf tag v) ⟨none, jsonTag tag, type, value, tagName⟩
  | container {tag : Option UInt8} {kind : ContainerKind} {children : List Element}
      {entries : List DeterministicJson} (tagName : Option String)
      (h : ForestIsGivenBy children entries) :
      Element.IsGivenBy (.container tag kind children)
        ⟨none, jsonTag tag, some kind.label, .array entries, tagName⟩

inductive ForestIsGivenBy : List Element → List DeterministicJson → Prop where
  | nil : ForestIsGivenBy [] []
  | cons {e : Element} {es : List Element} {entry : DeterministicJson}
      {entries : List DeterministicJson} (h : e.IsGivenBy entry)
      (hs : ForestIsGivenBy es entries) : ForestIsGivenBy (e :: es) (entry :: entries)

end

end Matternode.Tlv
