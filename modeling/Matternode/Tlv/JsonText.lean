/-
  File:      Matternode/Tlv/JsonText.lean
  Subject:   TlvParser.JsonStringify, against the text that its comment promises.

  The replacer is an arrow function with a body in braces and no `return`: it works out the value
  that is meant and answers `undefined`, for the root too.

  * `JsonStringify` -- with the replacer of the source;
  * `withDecimals`, `decimalText` -- the text after each bigint is replaced by its decimal string;
  * `serialize_decimal` -- a replacer that returned what it works out would give that text;
  * `Faithful`, `jsonStringify_unfaithful` -- **JsonStringify gives it for no list.**
-/
import Matternode.Js.Json

namespace Matternode.Tlv.Parser

open Js

/-! ## 1. The replacer -/

/-- The value that the replacer works out. -/
def decimal : PlainValue → PlainValue
  | .bigint n => .string (toString n)
  | v => v

/-- The replacer: what its one statement works out is dropped. -/
def replacer : JSON.Replacer := fun _ value =>
  let _ := decimal value
  .undefined

/-- `JsonStringify(tlvJson)`, nothing for `undefined`. -/
def JsonStringify (stack : Nat) (tlvJson : List DeterministicJson) :
    Except JsError (Option String) :=
  JSON.stringify stack replacer (JsValue.array tlvJson).plain

/-! ## 2. The text -/

mutual

/-- Each bigint replaced by its decimal string. -/
def withDecimals : PlainValue → PlainValue
  | .bigint n => .string (toString n)
  | .array elements => .array (elementsWithDecimals elements)
  | .object properties => .object (propertiesWithDecimals properties)
  | .undefined => .undefined
  | .boolean b => .boolean b
  | .number x => .number x
  | .string s => .string s
  | .buffer bs => .buffer bs

def elementsWithDecimals : List PlainValue → List PlainValue
  | [] => []
  | v :: elements => withDecimals v :: elementsWithDecimals elements

def propertiesWithDecimals : List (String × PlainValue) → List (String × PlainValue)
  | [] => []
  | (key, v) :: properties => (key, withDecimals v) :: propertiesWithDecimals properties

end

/-- The text that `JSON.stringify` gives after that. -/
def decimalText (stack : Nat) (tlvJson : List DeterministicJson) :
    Except JsError (Option String) :=
  JSON.stringify stack JSON.keep (withDecimals (JsValue.array tlvJson).plain)

theorem elementsWithDecimals_eq (elements : List PlainValue) :
    elementsWithDecimals elements = elements.map withDecimals := by
  induction elements with
  | nil => rfl
  | cons v elements ih =>
    unfold elementsWithDecimals
    rw [ih, List.map_cons]

theorem propertiesWithDecimals_eq (properties : List (String × PlainValue)) :
    propertiesWithDecimals properties = properties.map fun p => (p.1, withDecimals p.2) := by
  induction properties with
  | nil => rfl
  | cons p properties ih =>
    unfold propertiesWithDecimals
    rw [ih, List.map_cons]

/-- A buffer is written from numbers. -/
theorem elementsWithDecimals_bytes (bs : Base.Bytes) :
    elementsWithDecimals (bs.map fun b => .number (.int b.toNat)) =
      bs.map fun b => .number (.int b.toNat) := by
  rw [elementsWithDecimals_eq, List.map_map]
  rfl

/-- **A replacer that returned its value would do**: it gives the text of the replaced tree. -/
theorem serialize_decimal (stack : Nat) (key : String) (v : PlainValue) :
    JSON.serializeProperty (fun _ => decimal) stack key v =
      JSON.serializeProperty JSON.keep stack key (withDecimals v) := by
  induction stack generalizing key v with
  | zero => rfl
  | succ stack ih =>
    have hobject : ∀ properties,
        JSON.writeProperties (JSON.serializeProperty (fun _ => decimal) stack) properties =
          JSON.writeProperties (JSON.serializeProperty JSON.keep stack)
            (propertiesWithDecimals properties) := by
      intro properties
      rw [propertiesWithDecimals_eq]
      exact JSON.writeProperties_map fun p _ => ih p.1 p.2
    cases v with
    | undefined => rfl
    | boolean b => rfl
    | number x => rfl
    | bigint n => rfl
    | string s => rfl
    | buffer bs =>
      refine (hobject _).trans ?_
      simp only [propertiesWithDecimals, withDecimals, elementsWithDecimals_bytes]
      rfl
    | array elements =>
      show JSON.writeElements (JSON.serializeProperty (fun _ => decimal) stack) elements =
        JSON.writeElements (JSON.serializeProperty JSON.keep stack)
          (elementsWithDecimals elements)
      rw [elementsWithDecimals_eq]
      exact JSON.writeElements_map fun v _ key => ih key v
    | object properties => exact hobject properties

mutual

/-- No bigint is left. -/
theorem noBigint_withDecimals (v : PlainValue) : (withDecimals v).NoBigint := by
  cases v with
  | array elements => exact noBigint_elements elements
  | object properties => exact noBigint_properties properties
  | undefined | boolean _ | number _ | bigint _ | string _ | buffer _ => exact trivial

theorem noBigint_elements (elements : List PlainValue) :
    PlainValue.NoBigintElements (elementsWithDecimals elements) := by
  cases elements with
  | nil => exact trivial
  | cons v elements => exact ⟨noBigint_withDecimals v, noBigint_elements elements⟩

theorem noBigint_properties (properties : List (String × PlainValue)) :
    PlainValue.NoBigintProperties (propertiesWithDecimals properties) := by
  cases properties with
  | nil => exact trivial
  | cons p properties => exact ⟨noBigint_withDecimals p.2, noBigint_properties properties⟩

end

/-- The promised text is there, on a stack that is deep enough. -/
theorem decimalText_exists {tlvJson : List DeterministicJson} {stack : Nat}
    (h : (withDecimals (JsValue.array tlvJson).plain).depth < stack) :
    ∃ text, decimalText stack tlvJson = .ok (some text) :=
  JSON.stringify_array (noBigint_withDecimals (JsValue.array tlvJson).plain) h

/-! ## 3. What JsonStringify answers -/

/-- The text is the promised one, and there is one. -/
def Faithful (stack : Nat) (tlvJson : List DeterministicJson) : Prop :=
  ∃ text, decimalText stack tlvJson = .ok (some text) ∧
    JsonStringify stack tlvJson = .ok (some text)

theorem jsonStringify_undefined (stack : Nat) (tlvJson : List DeterministicJson) :
    JsonStringify (stack + 1) tlvJson = .ok none := by
  have hroot : replacer "" (JsValue.array tlvJson).plain.toJSON = .undefined := rfl
  exact JSON.serialize_undefined hroot stack

/-- **JsonStringify is faithful for no list**: it answers no text, and the same for all. -/
theorem jsonStringify_unfaithful (stack : Nat) (tlvJson : List DeterministicJson) :
    ¬ Faithful stack tlvJson ∧ (∀ text, JsonStringify stack tlvJson ≠ .ok (some text)) ∧
      ∀ other, JsonStringify stack other = JsonStringify stack tlvJson := by
  have hno : ∀ text, JsonStringify stack tlvJson ≠ .ok (some text) := by
    intro text h
    cases stack with
    | zero => cases h
    | succ stack =>
      rw [jsonStringify_undefined] at h
      cases h
  refine ⟨?_, hno, ?_⟩
  · intro h
    obtain ⟨text, -, htext⟩ := h
    exact hno text htext
  · intro other
    cases stack with
    | zero => rfl
    | succ stack => rw [jsonStringify_undefined, jsonStringify_undefined]

/-- A list that has a text, and gets none. -/
theorem uint64_not_written :
    decimalText 4 [{ tag := some 1, type := some .uint64, value := .bigint 5 }] =
      .ok (some "[\x7b\"tag\":1,\"type\":\"uint64\",\"value\":\"5\"\x7d]") ∧
    JsonStringify 4 [{ tag := some 1, type := some .uint64, value := .bigint 5 }] = .ok none ∧
    ¬ Faithful 4 [{ tag := some 1, type := some .uint64, value := .bigint 5 }] := by
  refine ⟨?_, rfl, ?_⟩
  · decide +kernel
  · intro h
    obtain ⟨text, -, htext⟩ := h
    cases htext

end Matternode.Tlv.Parser
