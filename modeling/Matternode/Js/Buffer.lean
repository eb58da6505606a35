/-
  File:      Matternode/Js/Buffer.lean
  Subject:   Node's Buffer: views, reads and writes at an offset, conversions.

  A buffer is a byte string. A read or write that leaves the buffer throws a RangeError, as does a
  value outside the field; an integer write coerces its value with unary plus, so `undefined` and
  NaN pass the range check and write zero, and a bigint throws a TypeError.

  * `subarray` -- a view, with negative positions counted from the end;
  * `readUIntLE`, `readIntLE`, `readFloatLE`, `readDoubleLE`;
  * `writeUIntLE`, `writeIntLE`, `writeBigUInt64LE`, `writeBigInt64LE`, `writeFloatLE`,
    `writeDoubleLE`, `writeUInt16BE`, `fill`;
  * `bufferFrom` -- `Buffer.from(v)` of a value.
-/
import Matternode.Js.Value

namespace Matternode.Js

open Base

/-! ## 1. Views -/

/-- A position of `subarray` as an index. -/
def relativeIndex (len : Nat) (i : Int) : Nat :=
  if i < 0 then (len + i).toNat else min i.toNat len

/-- `bs.subarray(start, stop)`. -/
def subarray (bs : Bytes) (start stop : Int) : Bytes :=
  (bs.take (relativeIndex bs.length stop)).drop (relativeIndex bs.length start)

/-- `bs.subarray(start)`. -/
def subarrayFrom (bs : Bytes) (start : Int) : Bytes := bs.drop (relativeIndex bs.length start)

@[simp] theorem subarray_nat (bs : Bytes) (start stop : Nat) :
    subarray bs start stop = (bs.take stop).drop start := by
  have htake : bs.take (min stop bs.length) = bs.take stop := by
    rcases Nat.le_total stop bs.length with h | h
    · rw [Nat.min_eq_left h]
    · rw [Nat.min_eq_right h, List.take_length, List.take_of_length_le h]
  simp only [subarray, relativeIndex, Int.toNat_natCast,
    show ¬ ((stop : Int) < 0) by omega, show ¬ ((start : Int) < 0) by omega, if_false, htake]
  rcases Nat.le_total start bs.length with h | h
  · rw [Nat.min_eq_left h]
  · rw [Nat.min_eq_right h, List.drop_eq_nil_of_le (by simp), List.drop_eq_nil_of_le (by simp; omega)]

@[simp] theorem subarrayFrom_nat (bs : Bytes) (start : Nat) :
    subarrayFrom bs start = bs.drop start := by
  simp only [subarrayFrom, relativeIndex, Int.toNat_natCast, show ¬ ((start : Int) < 0) by omega,
    if_false]
  rcases Nat.le_total start bs.length with h | h
  · rw [Nat.min_eq_left h]
  · rw [Nat.min_eq_right h, List.drop_length, List.drop_eq_nil_of_le h]

theorem length_subarrayFrom_le (bs : Bytes) (start : Int) :
    (subarrayFrom bs start).length ≤ bs.length := by
  unfold subarrayFrom
  rw [List.length_drop]
  omega

/-! ## 2. Reads -/

/-- The bytes of a field of `w` bytes at an offset. -/
def readBytes (w : Nat) (bs : Bytes) (off : Nat) : Except JsError Bytes :=
  if off + w ≤ bs.length then .ok ((bs.drop off).take w) else .error .rangeError

def readUIntLE (w : Nat) (bs : Bytes) (off : Nat) : Except JsError Nat :=
  (readBytes w bs off).map ofLE

def readIntLE (w : Nat) (bs : Bytes) (off : Nat) : Except JsError Int :=
  (readBytes w bs off).map ofLEInt

def readUInt8 := readUIntLE 1
def readUInt16LE := readUIntLE 2
def readUInt32LE := readUIntLE 4
def readBigUInt64LE := readUIntLE 8
def readInt8 := readIntLE 1
def readInt16LE := readIntLE 2
def readInt32LE := readIntLE 4
def readBigInt64LE := readIntLE 8

/-- A single-precision number, as the double that holds it. -/
def readFloatLE (bs : Bytes) (off : Nat) : Except JsError Number :=
  (readUIntLE 4 bs off).map fun bits =>
    match decodeIeee 8 23 bits with
    | .finite negative m e =>
      .ofRational negative (m * 2 ^ e.toNat) (2 ^ (-e).toNat)
    | .infinity negative => .double (if negative then 0xFFF0000000000000 else 0x7FF0000000000000)
    | .nan => .nan

def readDoubleLE (bs : Bytes) (off : Nat) : Except JsError Number :=
  (readUIntLE 8 bs off).map Number.ofBits

/-- A field that is present reads as its bytes. -/
theorem readBytes_append (pre v post : Bytes) :
    readBytes v.length (pre ++ v ++ post) pre.length = .ok v := by
  unfold readBytes
  rw [if_pos (by simp), List.append_assoc, List.drop_left, List.take_left]

theorem readBytes_of_short {w off : Nat} {bs : Bytes} (h : bs.length < off + w) :
    readBytes w bs off = .error .rangeError :=
  if_neg (by omega)

theorem readBytes_of_le {w off : Nat} {bs : Bytes} (h : off + w ≤ bs.length) :
    readBytes w bs off = .ok ((bs.drop off).take w) :=
  if_pos h

theorem readUIntLE_of_short {w off : Nat} {bs : Bytes} (h : bs.length < off + w) :
    readUIntLE w bs off = .error .rangeError := by
  unfold readUIntLE
  rw [readBytes_of_short h]
  rfl

theorem readUIntLE_of_le {w off : Nat} {bs : Bytes} (h : off + w ≤ bs.length) :
    readUIntLE w bs off = .ok (ofLE ((bs.drop off).take w)) := by
  unfold readUIntLE
  rw [readBytes_of_le h]
  rfl

/-- A field that was read is there. -/
theorem readUIntLE_eq_ok {w off n : Nat} {bs : Bytes} (h : readUIntLE w bs off = .ok n) :
    off + w ≤ bs.length := by
  by_contra hlt
  rw [readUIntLE_of_short (by omega)] at h
  cases h

/-- A field within the first part of a buffer. -/
theorem readUIntLE_append_left {w off : Nat} {a b : Bytes} (h : off + w ≤ a.length) :
    readUIntLE w (a ++ b) off = readUIntLE w a off := by
  have hab : off + w ≤ (a ++ b).length := by
    rw [List.length_append]
    omega
  rw [readUIntLE_of_le h, readUIntLE_of_le hab, List.drop_append_of_le_length (by omega),
    List.take_append_of_le_length (by rw [List.length_drop]; omega)]

/-- A field of `w` bytes reads below `256 ^ w`. -/
theorem readUIntLE_lt {w off n : Nat} {bs : Bytes} (h : readUIntLE w bs off = .ok n) :
    n < 256 ^ w := by
  unfold readUIntLE readBytes at h
  split at h
  · rename_i hlen
    simp only [Except.map, Except.ok.injEq] at h
    subst h
    have hlt := ofLE_lt ((bs.drop off).take w)
    rwa [List.length_take, List.length_drop, Nat.min_eq_left (by omega)] at hlt
  · cases h

/-! ## 3. Writes -/

/-- The bytes `v` over offset `off`, which must hold them. -/
def writeBytes (bs : Bytes) (v : Bytes) (off : Nat) : Except JsError Bytes :=
  if off + v.length ≤ bs.length then .ok (overwrite bs off v) else .error .rangeError

/-- `bs.writeUIntNLE(v, off)` for `w` bytes of at most 32 bits. -/
def writeUIntLE (w : Nat) (bs : Bytes) (v : JsValue) (off : Nat) : Except JsError Bytes := do
  let x ← v.toNumber
  if x.gt (256 ^ w - 1 : Nat) || x.lt 0 then .error .rangeError
  else writeBytes bs (toLE w x.toInteger.toNat) off

/-- `bs.writeIntNLE(v, off)` for `w` bytes of at most 32 bits. -/
def writeIntLE (w : Nat) (bs : Bytes) (v : Number) (off : Nat) : Except JsError Bytes :=
  if v.gt (256 ^ w / 2 - 1 : Nat) || v.lt (-(256 ^ w / 2 : Nat)) then .error .rangeError
  else writeBytes bs (toLEInt w v.toInteger) off

def writeUInt8 := writeUIntLE 1
def writeUInt16LE := writeUIntLE 2
def writeUInt32LE := writeUIntLE 4
def writeInt8 := writeIntLE 1
def writeInt16LE := writeIntLE 2
def writeInt32LE := writeIntLE 4

def writeUInt16BE (bs : Bytes) (v : JsValue) (off : Nat) : Except JsError Bytes := do
  let x ← v.toNumber
  if x.gt (256 ^ 2 - 1 : Nat) || x.lt 0 then .error .rangeError
  else writeBytes bs (toBE 2 x.toInteger.toNat) off

/-- `bs.fill(value, off)` of a buffer, repeated up to the end. -/
def fill (bs value : Bytes) (off : Nat) : Except JsError Bytes :=
  if value = [] then .error .typeError
  else .ok (bs.take off ++
    (List.range (bs.length - off)).map fun i => value.getD (i % value.length) 0)

def writeBigUInt64LE (bs : Bytes) (v : Int) (off : Nat) : Except JsError Bytes :=
  if v < 0 ∨ 2 ^ 64 ≤ v then .error .rangeError else writeBytes bs (toLE 8 v.toNat) off

def writeBigInt64LE (bs : Bytes) (v : Int) (off : Nat) : Except JsError Bytes :=
  if v < -(2 ^ 63) ∨ 2 ^ 63 ≤ v then .error .rangeError else writeBytes bs (toLEInt 8 v) off

/-- The bits of a number rounded to a binary format. -/
def ieeeBits (expBits fracBits : Nat) (x : Number) : Nat :=
  match x.value with
  | .finite negative m e => encodeIeee expBits fracBits negative (m * 2 ^ e.toNat) (2 ^ (-e).toNat)
  | .infinity negative =>
    (if negative then 2 ^ (expBits + fracBits) else 0) + (2 ^ expBits - 1) * 2 ^ fracBits
  | .nan => (2 ^ expBits - 1) * 2 ^ fracBits + 2 ^ (fracBits - 1)

def writeFloatLE (bs : Bytes) (v : JsValue) (off : Nat) : Except JsError Bytes := do
  writeBytes bs (toLE 4 (ieeeBits 8 23 (← v.toNumber))) off

def writeDoubleLE (bs : Bytes) (v : JsValue) (off : Nat) : Except JsError Bytes := do
  match ← v.toNumber with
  | .double bits => writeBytes bs (toLE 8 bits) off
  | x => writeBytes bs (toLE 8 (ieeeBits 11 52 x)) off

theorem writeBytes_of_le {bs v : Bytes} {off : Nat} (h : off + v.length ≤ bs.length) :
    writeBytes bs v off = .ok (overwrite bs off v) :=
  if_pos h

/-- A whole number in range is written as its bytes, where there is room. -/
theorem writeUIntLE_bytes {w n off : Nat} {bs : Bytes} (hn : n < 256 ^ w) :
    writeUIntLE w bs (.nat n) off = writeBytes bs (toLE w n) off := by
  have hgt : (Number.int n).gt (256 ^ w - 1 : Nat) = false := by
    rw [Number.int_gt, decide_eq_false_iff_not]
    omega
  have hlt : (Number.int n).lt 0 = false := by
    rw [Number.int_lt, decide_eq_false_iff_not]
    omega
  show (if (Number.int n).gt (256 ^ w - 1 : Nat) || (Number.int n).lt 0 then _ else _) = _
  rw [hgt, hlt, Bool.or_false, if_neg (by decide), Number.int_toInteger, Int.toNat_natCast]

/-- **A whole number in range is written as its bytes.** -/
theorem writeUIntLE_nat {w n off : Nat} {bs : Bytes} (hn : n < 256 ^ w)
    (hoff : off + w ≤ bs.length) :
    writeUIntLE w bs (.nat n) off = .ok (overwrite bs off (toLE w n)) := by
  rw [writeUIntLE_bytes hn]
  exact writeBytes_of_le (by simpa using hoff)

/-- One that is written at the start. -/
theorem writeUIntLE_start {w n : Nat} {bs : Bytes} (hn : n < 256 ^ w) (hw : w ≤ bs.length) :
    writeUIntLE w bs (.nat n) 0 = .ok (toLE w n ++ bs.drop w) := by
  rw [writeUIntLE_nat hn (by omega), overwrite, List.take_zero, List.nil_append, length_toLE,
    Nat.zero_add]

/-- A whole number that was written is in range. -/
theorem lt_of_writeUIntLE_nat {w n off : Nat} {bs bs' : Bytes}
    (h : writeUIntLE w bs (.nat n) off = .ok bs') : n < 256 ^ w := by
  by_contra hge
  have hgt : (Number.int n).gt (256 ^ w - 1 : Nat) = true := by
    rw [Number.int_gt, decide_eq_true_eq]
    have hpos : 0 < 256 ^ w := Nat.pow_pos (by decide)
    omega
  simp only [writeUIntLE, JsValue.toNumber, bind, Except.bind, hgt, Bool.true_or, if_true] at h
  cases h

theorem writeIntLE_int {w off : Nat} {n : Int} {bs : Bytes} (hlo : -(256 ^ w / 2 : Nat) ≤ n)
    (hhi : n < (256 ^ w / 2 : Nat)) (hoff : off + w ≤ bs.length) :
    writeIntLE w bs (.int n) off = .ok (overwrite bs off (toLEInt w n)) := by
  have hgt : (Number.int n).gt (256 ^ w / 2 - 1 : Nat) = false := by
    rw [Number.int_gt, decide_eq_false_iff_not]
    omega
  have hlt : (Number.int n).lt (-(256 ^ w / 2 : Nat)) = false := by
    rw [Number.int_lt, decide_eq_false_iff_not]
    omega
  unfold writeIntLE
  rw [hgt, hlt, Bool.or_false, if_neg (by decide), Number.int_toInteger]
  exact writeBytes_of_le (by simpa using hoff)

/-! ## 4. Conversions -/

/-- `Buffer.alloc(n)`. -/
def bufferAlloc (n : Nat) : Bytes := List.replicate n 0

@[simp] theorem length_bufferAlloc (n : Nat) : (bufferAlloc n).length = n := List.length_replicate

/-- A write over a whole new buffer gives the written bytes. -/
theorem overwrite_bufferAlloc {w : Nat} {v : Bytes} (h : v.length = w) :
    overwrite (bufferAlloc w) 0 v = v := by
  simp [overwrite, bufferAlloc, h]

/-- `Buffer.from(v)`: entries of an array count as NaN. -/
def bufferFrom : JsValue → Except JsError Bytes
  | .buffer bs => .ok bs
  | .string s => .ok (utf8Encode s.toList)
  | .array entries => .ok (bufferAlloc entries.length)
  | _ => .error .typeError

end Matternode.Js
