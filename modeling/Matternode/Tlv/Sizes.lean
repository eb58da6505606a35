/-
  File:      Matternode/Tlv/Sizes.lean
  Subject:   What a buffer decodes to is no larger than the buffer.

  * `JsValue.weight` -- the entries, characters and bytes of a value;
  * `weight_decode` -- **the entries of a buffer weigh no more than its bytes**;
  * `weight_valueAt` -- nor does an element of a value.
-/
import Matternode.Tlv.Descent
import Matternode.Tlv.Items

namespace Matternode.Js

/-! ## 1. Weights -/

mutual

/-- The entries, characters and bytes of a value. -/
def JsValue.weight : JsValue → Nat
  | .string s => s.toList.length
  | .buffer bs => bs.length
  | .array entries => entriesWeight entries
  | .object ⟨_, _, _, value, _⟩ => value.weight
  | _ => 0

def entriesWeight : List (Entry JsValue) → Nat
  | [] => 0
  | ⟨_, _, _, value, _⟩ :: entries => value.weight + 1 + entriesWeight entries

end

theorem entriesWeight_cons (e : Entry JsValue) (es : List (Entry JsValue)) :
    entriesWeight (e :: es) = e.value.weight + 1 + entriesWeight es := by
  obtain ⟨profile, tag, type, value, tagName⟩ := e
  rw [entriesWeight]

theorem weight_le_of_mem {e : Entry JsValue} {es : List (Entry JsValue)} (h : e ∈ es) :
    e.value.weight + 1 ≤ entriesWeight es := by
  induction es with
  | nil => cases h
  | cons e' es ih =>
    rw [entriesWeight_cons]
    rcases List.mem_cons.mp h with rfl | hmem
    · omega
    · have hle := ih hmem
      omega

theorem length_le_entriesWeight (es : List (Entry JsValue)) : es.length ≤ entriesWeight es := by
  induction es with
  | nil => exact Nat.le_refl _
  | cons e es ih =>
    rw [entriesWeight_cons, List.length_cons]
    omega

/-- An element of a value weighs no more than the value. -/
theorem weight_valueAt {v w : JsValue} {i : Nat} (h : v.valueAt i = .ok w) : w.weight ≤ v.weight := by
  cases v with
  | array entries =>
    cases hget : entries[i]? with
    | none =>
      rw [JsValue.valueAt, hget] at h
      cases h
    | some e =>
      rw [JsValue.valueAt, hget] at h
      cases h
      have hle := weight_le_of_mem (List.mem_of_getElem? hget)
      rw [JsValue.weight.eq_def (.array entries)]
      dsimp only
      omega
  | buffer bs =>
    simp only [JsValue.valueAt] at h
    split at h
    · cases h
      exact Nat.zero_le _
    · cases h
  | string s =>
    simp only [JsValue.valueAt] at h
    split at h
    · cases h
      exact Nat.zero_le _
    · cases h
  | undefined | boolean _ | number _ | bigint _ | object _ => cases h

end Matternode.Js

namespace Matternode.Tlv

open Base Js

/-! ## 2. What is read -/

/-- The value that is found for a tag weighs no more than the fields. -/
theorem weight_tagged (fields : List DeterministicJson) (tag : Nat) :
    (tagged fields tag).weight ≤ entriesWeight fields := by
  unfold tagged
  cases hfind : fields.find? fun e => e.tag = some (tag : Int) with
  | none => exact Nat.zero_le _
  | some e =>
    have hle := weight_le_of_mem (List.mem_of_find?_eq_some hfind)
    exact (Nat.le_succ _).trans hle

theorem length_utf8Decode_le (bs : Bytes) : (utf8Decode bs).length ≤ bs.length := by
  have hunits : ∀ cs : List Char, cs.length ≤ utf16Units cs := by
    intro cs
    induction cs with
    | nil => exact Nat.le_refl _
    | cons c cs ih =>
      rw [utf16Units_cons, List.length_cons]
      split <;> omega
  have hle := utf16Units_decodeFrom_le .start bs
  exact (hunits _).trans hle

/-- The value of an item weighs no more than its content. -/
theorem weight_value (t : ElementType) (field content : Bytes) :
    (t.value field content).weight ≤ content.length := by
  have hinteger (k : Nat) (n : Int) : (integerValue k n).weight = 0 := by
    unfold integerValue
    split <;> rfl
  cases t with
  | signed k => exact (hinteger k _).le.trans (Nat.zero_le _)
  | unsigned k => exact (hinteger k _).le.trans (Nat.zero_le _)
  | text k =>
    unfold ElementType.value
    dsimp only
    split
    · exact Nat.zero_le _
    · rw [JsValue.weight, String.toList_ofList]
      exact length_utf8Decode_le content
  | bytes k =>
    unfold ElementType.value
    dsimp only
    split
    · exact Nat.zero_le _
    · exact Nat.le_refl _
  | boolean _ | float | double | container _ | null | endOfCollection | reserved _ =>
    exact Nat.zero_le _

/-- An entry and the bytes after it. -/
theorem weight_decodeEntry {tlv rest : Bytes} {type : Nat} {decoding : DeterministicJson}
    (h : decodeEntry tlv = .ok (type, decoding, rest)) :
    decoding.value.weight + 1 + rest.length ≤ tlv.length := by
  obtain ⟨i, rfl, -, rfl, -⟩ := decodeEntry_eq_ok h
  have hle := weight_value i.type i.field i.content
  rw [List.length_append, Item.wire, List.length_cons, List.length_append]
  show (i.type.value i.field i.content).weight + 1 + rest.length ≤ _
  omega

/-- **A forest weighs no more than the bytes it is read from.** -/
theorem weight_descend {fuel : Nat} {tlv rest : Bytes} {forest : List DeterministicJson}
    (h : descend fuel tlv = .ok (forest, rest)) :
    entriesWeight forest + rest.length ≤ tlv.length := by
  induction fuel generalizing tlv forest rest with
  | zero =>
    cases h
    exact (Nat.zero_add _).le
  | succ fuel ih =>
    unfold descend at h
    split at h
    · cases h
      exact (Nat.zero_add _).le
    · obtain ⟨⟨type, decoding, after⟩, hd, h⟩ := bind_eq_ok h
      have hentry := weight_decodeEntry hd
      dsimp only at h
      split at h
      · cases h
        rw [entriesWeight]
        omega
      · split at h
        · obtain ⟨⟨children, after'⟩, hc, h⟩ := bind_eq_ok h
          obtain ⟨⟨siblings, rest'⟩, hs, h⟩ := bind_eq_ok h
          cases h
          have hchildren := ih hc
          have hsiblings := ih hs
          rw [entriesWeight_cons]
          dsimp only at hchildren hsiblings ⊢
          rw [JsValue.weight]
          omega
        · obtain ⟨⟨siblings, rest'⟩, hs, h⟩ := bind_eq_ok h
          cases h
          have hsiblings := ih hs
          rw [entriesWeight_cons]
          dsimp only at hsiblings ⊢
          omega

theorem weight_decode {tlv : Bytes} {result : List DeterministicJson}
    (h : decode tlv = .ok result) : (JsValue.array result).weight ≤ tlv.length := by
  rw [decode_eq_recursiveDescent] at h
  cases hd : recursiveDescent tlv with
  | error e =>
    rw [hd] at h
    cases h
  | ok read =>
    rw [hd] at h
    cases h
    have hle := weight_descend (show descend _ tlv = .ok (read.1, read.2) from hd)
    rw [JsValue.weight]
    exact (Nat.le_add_right _ _).trans hle

theorem length_fromHex_le (cs : List Char) : (fromHex cs).length ≤ cs.length := by
  induction cs using fromHex.induct with
  | case1 hi lo rest h l hh hl ih =>
    rw [fromHex, hh, hl]
    simp only [List.length_cons]
    omega
  | case2 hi lo rest hno =>
    unfold fromHex
    split
    · rename_i h l hh hl
      exact absurd hl (hno h l hh)
    · exact Nat.zero_le _
  | case3 cs hshort =>
    unfold fromHex
    split
    · rename_i hi lo rest
      exact absurd rfl (hshort hi lo rest)
    · exact Nat.zero_le _

/-- The bytes an entry of type "Buffer" is written with. -/
theorem length_bufferOfEntry_le {v : JsValue} {bs : Bytes} (h : bufferOfEntry v = .ok bs) :
    bs.length ≤ v.weight := by
  cases v with
  | string s =>
    cases h
    exact length_fromHex_le _
  | buffer bs' =>
    cases h
    exact Nat.le_refl _
  | array entries =>
    cases h
    rw [length_bufferAlloc, JsValue.weight]
    exact length_le_entriesWeight entries
  | undefined | boolean _ | number _ | bigint _ | object _ => cases h

end Matternode.Tlv
