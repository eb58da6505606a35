/-
  File:      Matternode/Js/Property.lean
  Subject:   Values as property keys, and the values JSON.stringify refuses.

  * `PropertyKey`, `JsValue.propertyKey` -- the key an object is asked for by `o[v]`;
  * `lookup` -- an own property of a table. What every object inherits (`toString`, …) is not a row
    of a table; no number names it;
  * `JsValue.hasBigint`, `stringify` -- a bigint anywhere in a value makes JSON.stringify throw.
-/
import Matternode.Js.Value

namespace Matternode.Js

open Base

/-! ## 1. Keys -/

/-- A property key: an array index or another text. -/
inductive PropertyKey where
  | index (n : Nat)
  | name (s : String)
  deriving DecidableEq, Repr

/-- The key of a text: an index where the text is the decimal digits of one. -/
def PropertyKey.ofText (cs : List Char) : PropertyKey :=
  match digits? 10 cs with
  | some n => if Nat.toDigits 10 n = cs then .index n else .name (String.ofList cs)
  | none => .name (String.ofList cs)

/-- `Number(key)`. -/
def PropertyKey.toNumber : PropertyKey → Number
  | .index n => .int n
  | .name s => .ofString s.toList

/-- The key `v` is turned into. -/
def JsValue.propertyKey : JsValue → PropertyKey
  | .undefined => .name "undefined"
  | .boolean b => .name (if b then "true" else "false")
  | .number x =>
    if x.isInteger ∧ 0 ≤ x.toInteger ∧ x.toInteger < 2 ^ 53 then .index x.toInteger.toNat
    else .ofText x.text.toList
  | .bigint n => if 0 ≤ n then .index n.toNat else .name (toString n)
  | .string s => .ofText s.toList
  | .buffer bs => .ofText (utf8Decode bs)
  | .array entries => .ofText (String.intercalate "," (entries.map fun _ => "[object Object]")).toList
  | .object _ => .name "[object Object]"

theorem propertyKey_nat {n : Nat} (h : n < 2 ^ 53) : (JsValue.nat n).propertyKey = .index n := by
  dsimp only [JsValue.propertyKey]
  rw [Number.int_isInteger, Number.int_toInteger, if_pos ⟨rfl, by omega, by omega⟩,
    Int.toNat_natCast]

/-- `table[v]`. -/
def lookup {α : Type} (table : List (PropertyKey × α)) (v : JsValue) : Option α :=
  table.lookup v.propertyKey

theorem lookup_nat {α : Type} (table : List (PropertyKey × α)) {n : Nat} (h : n < 2 ^ 53) :
    lookup table (.nat n) = table.lookup (.index n) := by
  rw [lookup, propertyKey_nat h]

/-- What a table answers is one of its rows. -/
theorem mem_of_lookup {α : Type} {table : List (PropertyKey × α)} {key : PropertyKey} {a : α}
    (h : table.lookup key = some a) : (key, a) ∈ table := by
  obtain ⟨before, after, rfl, -⟩ := List.lookup_eq_some_iff.mp h
  simp

/-! ## 2. JSON.stringify -/

mutual

/-- There is a bigint in the value. -/
def JsValue.hasBigint : JsValue → Bool
  | .bigint _ => true
  | .array entries => entriesHaveBigint entries
  | .object ⟨_, _, _, value, _⟩ => value.hasBigint
  | _ => false

def entriesHaveBigint : List (Entry JsValue) → Bool
  | [] => false
  | ⟨_, _, _, value, _⟩ :: entries => value.hasBigint || entriesHaveBigint entries

end

/-- `JSON.stringify(v)`, whose text goes to the log only. -/
def stringify (v : JsValue) : Except JsError Unit :=
  if v.hasBigint then .error .typeError else .ok ()

theorem entriesHaveBigint_of_mem {entries : List (Entry JsValue)} {e : Entry JsValue}
    (h : e ∈ entries) (hno : entriesHaveBigint entries = false) : e.value.hasBigint = false := by
  induction entries with
  | nil => cases h
  | cons e' es ih =>
    obtain ⟨profile, tag, type, value, tagName⟩ := e'
    simp only [entriesHaveBigint, Bool.or_eq_false_iff] at hno
    rcases List.mem_cons.mp h with rfl | hmem
    · exact hno.1
    · exact ih hmem hno.2

theorem entriesHaveBigint_append (es fs : List (Entry JsValue)) :
    entriesHaveBigint (es ++ fs) = (entriesHaveBigint es || entriesHaveBigint fs) := by
  induction es with
  | nil => rfl
  | cons e es ih =>
    obtain ⟨profile, tag, type, value, tagName⟩ := e
    simp only [List.cons_append, entriesHaveBigint, ih, Bool.or_assoc]

end Matternode.Js
