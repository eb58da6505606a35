/-
  File:      Matternode/Js/Value.lean
  Subject:   The JavaScript values the code passes around, and how they convert.

  * `JsError` -- what a throwing operation throws;
  * `TypeLabel`, `Entry`, `JsValue` -- values, with the one object shape that nests in them, an
    entry `{ profile, tag, type, value, tagName }` of TlvType.DeterministicJson;
  * `JsValue.toNumber` (unary plus), `toBigInt`, `truthy`, `numeric` (the operand of `<` against a
    number), `strictEqNat` (`===` against a number);
  * `JsValue.valueAt` -- `v[i].value`, the positional read of the handshake handlers;
  * `JsValue.toStringHex` -- `v.toString("hex")`.
-/
import Matternode.Js.Number

namespace Matternode.Js

open Base

/-- What is thrown. `thrown` carries the text of a `throw("…")` of the code. -/
inductive JsError where
  | typeError
  | rangeError
  | referenceError
  | syntaxError
  | thrown (message : String)
  deriving DecidableEq, Repr

/-- The type labels of an entry: the names of TlvCodec.ElementTypes, the two more that
    TlvWriter.encode compares with (`bool`, `Buffer`), and any other text. -/
inductive TypeLabel where
  | int8 | int16 | int32 | int64
  | uint8 | uint16 | uint32 | uint64
  | boolean | float | double
  | stringUint8Len | stringUint16Len | stringUint32Len | stringUint64Len
  | bufferUint8Len | bufferUint16Len | bufferUint32Len | bufferUint64Len
  | null | struct | array | list | endOfCollection
  | bool | buffer
  | other (text : String)
  deriving DecidableEq, Repr

/-- An entry of deterministic JSON with values in `V`. `tag` and `profile` are numbers; the reader
    answers -1 for the implicit profile. -/
structure Entry (V : Type) where
  profile : Option Int := none
  tag : Option Int := none
  type : Option TypeLabel := none
  value : V
  tagName : Option String := none
  deriving Repr

/-- A value. `object` is an entry standing where a value may. -/
inductive JsValue where
  | undefined
  | boolean (b : Bool)
  | number (x : Number)
  | bigint (n : Int)
  | string (s : String)
  | buffer (bs : Bytes)
  | array (entries : List (Entry JsValue))
  | object (entry : Entry JsValue)

/-- TlvType.DeterministicJson. -/
abbrev DeterministicJson := Entry JsValue

namespace JsValue

/-- A whole number. -/
abbrev nat (n : Nat) : JsValue := .number (.int n)

/-- `!!v`. -/
def truthy : JsValue → Bool
  | .undefined => false
  | .boolean b => b
  | .number x => x.truthy
  | .bigint n => n ≠ 0
  | .string s => s ≠ ""
  | .buffer _ | .array _ | .object _ => true

/-- `+v`. An array of entries and an entry read as text that is no number, the empty array as the
    empty text. -/
def toNumber : JsValue → Except JsError Number
  | .undefined => .ok .nan
  | .boolean b => .ok (.int (if b then 1 else 0))
  | .number x => .ok x
  | .bigint _ => .error .typeError
  | .string s => .ok (.ofString s.toList)
  | .buffer bs => .ok (.ofString (utf8Decode bs))
  | .array [] => .ok (.int 0)
  | .array _ | .object _ => .ok .nan

/-- The number `v` compares as with a number constant. -/
def numeric : JsValue → Number
  | .bigint n => .int n
  | v => (v.toNumber).toOption.getD .nan

/-- `Number(v)`; a bigint that a double holds exactly becomes that number. -/
def toNumberCall : JsValue → Except JsError Number
  | .bigint n =>
    .ok (if n.natAbs ≤ 2 ^ 53 then .int n else .ofRational (n < 0) n.natAbs 1)
  | v => v.toNumber

/-- `BigInt(v)`. -/
def toBigInt : JsValue → Except JsError Int
  | .undefined => .error .typeError
  | .boolean b => .ok (if b then 1 else 0)
  | .number x => if x.isInteger then .ok x.toInteger else .error .rangeError
  | .bigint n => .ok n
  | .string s => (bigIntOfString? s.toList).elim (.error .syntaxError) .ok
  | .buffer bs => (bigIntOfString? (utf8Decode bs)).elim (.error .syntaxError) .ok
  | .array [] => .ok 0
  | .array _ | .object _ => .error .syntaxError

/-- `v === n` for a number `n`. -/
def strictEqNat : JsValue → Nat → Bool
  | .number x, n => x.eqInt n
  | _, _ => false

@[simp] theorem strictEqNat_nat (m n : Nat) : (nat m).strictEqNat n = decide (m = n) := by
  simp [strictEqNat]

/-- `v[i].value`. -/
def valueAt : JsValue → Nat → Except JsError JsValue
  | .array entries, i => (entries[i]?).elim (.error .typeError) fun e => .ok e.value
  | .buffer bs, i => if i < bs.length then .ok .undefined else .error .typeError
  | .string s, i =>
    -- indices count UTF-16 units
    if i < (s.toList.map fun c => if c.toNat < 0x10000 then 1 else 2).sum then .ok .undefined
    else .error .typeError
  | _, _ => .error .typeError

/-- `v.toString("hex")`: only a buffer reads its argument as an encoding; a number takes it for a
    radix. -/
def toStringHex : JsValue → Except JsError String
  | .undefined => .error .typeError
  | .boolean b => .ok (if b then "true" else "false")
  | .number _ | .bigint _ => .error .rangeError
  | .string s => .ok s
  | .buffer bs => .ok (String.ofList (toHex bs))
  | .array entries => .ok (String.intercalate "," (entries.map fun _ => "[object Object]"))
  | .object _ => .ok "[object Object]"

end JsValue

end Matternode.Js
