/-
  File:      Matternode/Tlv/Reader.lean
  Subject:   TlvReader.decode: the walk over an encoding with a stack of open containers.

  The source pushes an entry into the array of its container and then fills the array that the
  entry holds. Here the array being filled is `container`, and an open entry waits on
  `containerStack`, beside the array around it, until its end marker puts it back; `Json` closes
  what the encoding left open. The bottom of the source's stack is the top array itself, so an end
  marker with nothing open leaves `container` where it is and ends the loop.

  * `decodeEntry` -- one element: control byte, tag, value;
  * `TlvReader.step` -- what the loop does with it;
  * `decodeLoop`, `decode` -- the loop, with as much fuel as there are bytes;
  * `findTag` -- an entry's value by its tag;
  * `decodeLoop_fuel` -- that fuel is enough: every element takes at least its control byte.
-/
import Matternode.Tlv.Writer

namespace Matternode.Tlv

open Base Js

/-- A container being filled: the array around it, and the entry begun there. -/
structure OpenContainer where
  around : List DeterministicJson
  entry : DeterministicJson

/-- The array around an open container, its entry holding what the container was filled with. -/
def OpenContainer.close (o : OpenContainer) (filled : List DeterministicJson) :
    List DeterministicJson :=
  o.around ++ [{ o.entry with value := .array filled }]

structure TlvReader where
  container : List DeterministicJson := []
  containerStack : List OpenContainer := []
  containerDepth : Nat := 1

namespace TlvReader

/-- `_container.push(decoding)`. -/
def push (r : TlvReader) (decoding : DeterministicJson) : TlvReader :=
  { r with container := r.container ++ [decoding] }

/-- What the loop does with an element. -/
def step (r : TlvReader) (type : Nat) (decoding : DeterministicJson) : TlvReader :=
  if type = tlvTypeEnd then
    match r.containerStack with
    | [] => { r with containerDepth := r.containerDepth - 1 }
    | o :: stack =>
      { container := o.close r.container
        containerStack := stack
        containerDepth := r.containerDepth - 1 }
  else if type = tlvTypeStructure ∨ type = tlvTypeArray ∨ type = tlvTypeList then
    { container := []
      containerStack := ⟨r.container, decoding⟩ :: r.containerStack
      containerDepth := r.containerDepth + 1 }
  else r.push decoding

/-- `reader.Json`: the top array. -/
def Json (r : TlvReader) : List DeterministicJson :=
  r.containerStack.foldl (fun filled o => o.close filled) r.container

end TlvReader

/-- One element of the encoding: its type number, its entry, and the bytes after it. -/
def decodeEntry (tlv : Bytes) : Except JsError (Nat × DeterministicJson × Bytes) := do
  let control ← decodeControlByte tlv
  let tlv := subarrayFrom tlv 1
  let tag ← decodeTagAndLength tlv control.tagType
  let tlv := subarrayFrom tlv tag.tagLength
  let valueAndLength ← decodeValueAndLength tlv control.typeNum
  let decoding : DeterministicJson :=
    { profile := tag.profile
      tag := tag.tag
      type := control.type
      value := valueAndLength.value }
  return (control.typeNum, decoding, subarrayFrom tlv valueAndLength.length)

/-- The loop of `decode`; `fuel` bounds the elements. -/
def decodeLoop : Nat → Bytes → TlvReader → Except JsError TlvReader
  | 0, _, r => .ok r
  | fuel + 1, tlv, r =>
    if 0 < tlv.length ∧ 0 < r.containerDepth then
      match decodeEntry tlv with
      | .ok (type, decoding, rest) => decodeLoop fuel rest (r.step type decoding)
      | .error e => .error e
    else .ok r

/-- `new TlvReader().decode(tlv).Json`. -/
def decode (tlv : Bytes) : Except JsError (List DeterministicJson) :=
  (decodeLoop tlv.length tlv {}).map TlvReader.Json

/-- The value of the first entry with the tag. -/
def tagged (entries : List DeterministicJson) (tag : Nat) : JsValue :=
  (entries.find? fun e => e.tag = some (tag : Int)).elim .undefined (·.value)

/-- `TlvReader.findTag(tlvJson, tag)`. A buffer has a `find` too: its elements are numbers, and
    none has a tag. -/
def findTag (tlvJson : JsValue) (tag : Nat) : Except JsError JsValue :=
  match tlvJson with
  | .array entries => .ok (tagged entries tag)
  | .buffer _ => .ok .undefined
  | _ => .error .typeError

/-! ## The fuel -/

/-- An element takes its control byte at least. -/
theorem decodeEntry_lt {tlv rest : Bytes} {type : Nat} {decoding : DeterministicJson}
    (h : decodeEntry tlv = .ok (type, decoding, rest)) : rest.length < tlv.length := by
  unfold decodeEntry at h
  cases tlv with
  | nil => cases h
  | cons b bs =>
    simp only [bind, Except.bind, subarrayFrom_nat, show (1 : Int) = ((1 : Nat) : Int) from rfl] at h
    split at h
    · cases h
    · split at h
      · cases h
      · split at h
        · cases h
        · simp only [pure, Except.pure, Except.ok.injEq, Prod.mk.injEq] at h
          obtain ⟨_, _, rfl⟩ := h
          simp only [List.length_drop, List.length_cons]
          omega

/-- **The fuel of `decode` is enough**: more of it changes nothing. -/
theorem decodeLoop_fuel {fuel : Nat} {tlv : Bytes} (h : tlv.length ≤ fuel) (r : TlvReader) :
    decodeLoop fuel tlv r = decodeLoop tlv.length tlv r := by
  induction fuel using Nat.strong_induction_on generalizing tlv r with
  | _ fuel ih =>
    cases fuel with
    | zero =>
      rw [Nat.le_zero.mp h]
    | succ fuel =>
      cases tlv with
      | nil => simp [decodeLoop]
      | cons b bs =>
        simp only [List.length_cons, decodeLoop]
        split
        · split
          · rename_i type decoding rest hd
            have hlt : rest.length < (b :: bs).length := decodeEntry_lt hd
            simp only [List.length_cons] at hlt h
            rw [ih fuel (by omega) (by omega), ih bs.length (by omega) (by omega)]
          · rfl
        · rfl

end Matternode.Tlv
