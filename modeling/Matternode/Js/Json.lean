/-
  File:      Matternode/Js/Json.lean
  Subject:   JSON.stringify with a replacer function, as ECMAScript defines it.

  * `PlainValue` -- a value with the properties that `JSON.stringify` visits; `JsValue.plain`;
  * `JSON.quote` -- QuoteJSONString;
  * `JSON.serializeProperty`, `JSON.stringify` -- SerializeJSONProperty, from the root on; the stack
    of calls is bounded;
  * `JSON.writeElements_map`, `JSON.writeProperties_map` -- what a loop writes depends on what is
    written for its members;
  * `JSON.serialize_iff` -- **what is written**: a value without bigints that nests no deeper than
    the stack;
  * `stringify_iff` -- a value that is refused on no stack is one without bigints.
-/
import Matternode.Base.Script
import Matternode.Js.Property

namespace Matternode.Js

open Base

/-! ## 1. Values -/

/-- A value as `JSON.stringify` visits it: an object is its own properties, in their order. -/
inductive PlainValue where
  | undefined
  | boolean (b : Bool)
  | number (x : Number)
  | bigint (n : Int)
  | string (s : String)
  | buffer (bs : Bytes)
  | array (elements : List PlainValue)
  | object (properties : List (String × PlainValue))

/-- The text of a label. -/
def TypeLabel.text : TypeLabel → String
  | .int8 => "int8"
  | .int16 => "int16"
  | .int32 => "int32"
  | .int64 => "int64"
  | .uint8 => "uint8"
  | .uint16 => "uint16"
  | .uint32 => "uint32"
  | .uint64 => "uint64"
  | .boolean => "boolean"
  | .float => "float"
  | .double => "double"
  | .stringUint8Len => "string uint8 len"
  | .stringUint16Len => "string uint16 len"
  | .stringUint32Len => "string uint32 len"
  | .stringUint64Len => "string uint64 len"
  | .bufferUint8Len => "Buffer uint8 len"
  | .bufferUint16Len => "Buffer uint16 len"
  | .bufferUint32Len => "Buffer uint32 len"
  | .bufferUint64Len => "Buffer uint64 len"
  | .null => "null"
  | .struct => "struct"
  | .array => "array"
  | .list => "list"
  | .endOfCollection => "End of Collection"
  | .bool => "bool"
  | .buffer => "Buffer"
  | .other text => text

/-- The properties of an entry around its value; a name is there once it is set. -/
def entryProperties (profile tag : Option Int) (type : Option TypeLabel) (value : PlainValue)
    (tagName : Option String) : List (String × PlainValue) :=
  [("profile", profile.elim .undefined fun p => .number (.int p)),
    ("tag", tag.elim .undefined fun t => .number (.int t)),
    ("type", type.elim .undefined fun label => .string label.text), ("value", value)] ++
    tagName.toList.map fun name => ("tagName", .string name)

mutual

def JsValue.plain : JsValue → PlainValue
  | .undefined => .undefined
  | .boolean b => .boolean b
  | .number x => .number x
  | .bigint n => .bigint n
  | .string s => .string s
  | .buffer bs => .buffer bs
  | .array entries => .array (plainEntries entries)
  | .object ⟨profile, tag, type, value, tagName⟩ =>
    .object (entryProperties profile tag type value.plain tagName)

def plainEntries : List (Entry JsValue) → List PlainValue
  | [] => []
  | ⟨profile, tag, type, value, tagName⟩ :: entries =>
    .object (entryProperties profile tag type value.plain tagName) :: plainEntries entries

end

namespace PlainValue

/-- `v.toJSON()`, where `v` has one: a buffer has, and no other value here. -/
def toJSON : PlainValue → PlainValue
  | .buffer bs =>
    .object [("type", .string "Buffer"),
      ("data", .array (bs.map fun b => .number (.int b.toNat)))]
  | v => v

mutual

/-- How deep the calls go that write a value. -/
def depth : PlainValue → Nat
  | .buffer _ => 2
  | .array elements => elementsDepth elements + 1
  | .object properties => propertiesDepth properties + 1
  | _ => 0

def elementsDepth : List PlainValue → Nat
  | [] => 0
  | v :: elements => max v.depth (elementsDepth elements)

def propertiesDepth : List (String × PlainValue) → Nat
  | [] => 0
  | (_, v) :: properties => max v.depth (propertiesDepth properties)

end

mutual

/-- How many calls stand on each other when a value is written, its own among them. -/
def calls : PlainValue → Nat
  | .buffer bs => if bs = [] then 2 else 3
  | .array elements => elementsCalls elements + 1
  | .object properties => propertiesCalls properties + 1
  | _ => 1

def elementsCalls : List PlainValue → Nat
  | [] => 0
  | v :: elements => max v.calls (elementsCalls elements)

def propertiesCalls : List (String × PlainValue) → Nat
  | [] => 0
  | (_, v) :: properties => max v.calls (propertiesCalls properties)

end

mutual

/-- There is no bigint in the value. -/
def NoBigint : PlainValue → Prop
  | .bigint _ => False
  | .array elements => NoBigintElements elements
  | .object properties => NoBigintProperties properties
  | _ => True

def NoBigintElements : List PlainValue → Prop
  | [] => True
  | v :: elements => v.NoBigint ∧ NoBigintElements elements

def NoBigintProperties : List (String × PlainValue) → Prop
  | [] => True
  | (_, v) :: properties => v.NoBigint ∧ NoBigintProperties properties

end

section Members

variable {v : PlainValue} {elements : List PlainValue} {properties : List (String × PlainValue)}

theorem depth_le_of_mem (h : v ∈ elements) : v.depth ≤ elementsDepth elements := by
  induction elements with
  | nil => cases h
  | cons w elements ih =>
    unfold elementsDepth
    rcases List.mem_cons.mp h with rfl | hmem
    · omega
    · have hle := ih hmem
      omega

theorem depth_le_of_property {p : String × PlainValue} (h : p ∈ properties) :
    p.2.depth ≤ propertiesDepth properties := by
  induction properties with
  | nil => cases h
  | cons q properties ih =>
    unfold propertiesDepth
    rcases List.mem_cons.mp h with rfl | hmem
    · omega
    · have hle := ih hmem
      omega

theorem noBigint_of_mem (hno : NoBigintElements elements) (h : v ∈ elements) : v.NoBigint := by
  induction elements with
  | nil => cases h
  | cons w elements ih =>
    rcases List.mem_cons.mp h with rfl | hmem
    · exact hno.1
    · exact ih hno.2 hmem

theorem noBigint_of_property {p : String × PlainValue} (hno : NoBigintProperties properties)
    (h : p ∈ properties) : p.2.NoBigint := by
  induction properties with
  | nil => cases h
  | cons q properties ih =>
    rcases List.mem_cons.mp h with rfl | hmem
    · exact hno.1
    · exact ih hno.2 hmem

theorem noBigintElements_iff : NoBigintElements elements ↔ ∀ v ∈ elements, v.NoBigint := by
  constructor
  · intro h v hv
    exact noBigint_of_mem h hv
  · intro h
    induction elements with
    | nil => exact trivial
    | cons v elements ih =>
      exact ⟨h v List.mem_cons_self, ih fun w hw => h w (List.mem_cons_of_mem v hw)⟩

theorem noBigintProperties_iff : NoBigintProperties properties ↔ ∀ p ∈ properties, p.2.NoBigint := by
  constructor
  · intro h p hp
    exact noBigint_of_property h hp
  · intro h
    induction properties with
    | nil => exact trivial
    | cons p properties ih =>
      exact ⟨h p List.mem_cons_self, ih fun q hq => h q (List.mem_cons_of_mem p hq)⟩

theorem elementsCalls_le_iff {n : Nat} : elementsCalls elements ≤ n ↔ ∀ v ∈ elements, v.calls ≤ n := by
  induction elements with
  | nil => simp [elementsCalls]
  | cons v elements ih => rw [elementsCalls, Nat.max_le, ih, List.forall_mem_cons]

theorem propertiesCalls_le_iff {n : Nat} :
    propertiesCalls properties ≤ n ↔ ∀ p ∈ properties, p.2.calls ≤ n := by
  induction properties with
  | nil => simp [propertiesCalls]
  | cons p properties ih =>
    obtain ⟨key, v⟩ := p
    rw [propertiesCalls, Nat.max_le, ih, List.forall_mem_cons]

end Members

/-- The bytes of a buffer are numbers. -/
theorem depth_bytes (bs : Bytes) :
    elementsDepth (bs.map fun b => .number (.int b.toNat)) = 0 := by
  induction bs with
  | nil => rfl
  | cons b bs ih => exact (Nat.zero_max _).trans ih

theorem noBigint_bytes (bs : Bytes) :
    NoBigintElements (bs.map fun b => .number (.int b.toNat)) := by
  induction bs with
  | nil => exact trivial
  | cons b bs ih => exact ⟨trivial, ih⟩

theorem calls_bytes (bs : Bytes) :
    elementsCalls (bs.map fun b => .number (.int b.toNat)) = if bs = [] then 0 else 1 := by
  induction bs with
  | nil => rfl
  | cons b bs ih =>
    rw [List.map_cons, elementsCalls, ih, if_neg (List.cons_ne_nil b bs)]
    show max 1 _ = 1
    split <;> rfl

mutual

theorem calls_le_depth (v : PlainValue) : v.calls ≤ v.depth + 1 := by
  cases v with
  | array elements => exact Nat.succ_le_succ (elementsCalls_le_depth elements)
  | object properties => exact Nat.succ_le_succ (propertiesCalls_le_depth properties)
  | buffer bs =>
    unfold calls depth
    split <;> decide
  | undefined | boolean _ | number _ | bigint _ | string _ => exact Nat.le_refl 1

theorem elementsCalls_le_depth (elements : List PlainValue) :
    elementsCalls elements ≤ elementsDepth elements + 1 := by
  cases elements with
  | nil => exact Nat.zero_le _
  | cons v elements =>
    have hv := calls_le_depth v
    have hrest := elementsCalls_le_depth elements
    unfold elementsCalls elementsDepth
    omega

theorem propertiesCalls_le_depth (properties : List (String × PlainValue)) :
    propertiesCalls properties ≤ propertiesDepth properties + 1 := by
  cases properties with
  | nil => exact Nat.zero_le _
  | cons p properties =>
    have hp := calls_le_depth p.2
    have hrest := propertiesCalls_le_depth properties
    unfold propertiesCalls propertiesDepth
    omega

end

/-- `toJSON` makes no bigint and takes none away, and the calls stand as high. -/
theorem toJSON_calls (v : PlainValue) :
    (v.toJSON.NoBigint ↔ v.NoBigint) ∧ v.toJSON.calls = v.calls := by
  cases v with
  | buffer bs =>
    refine ⟨⟨fun _ => trivial, fun _ => ⟨trivial, noBigint_bytes bs, trivial⟩⟩, ?_⟩
    simp only [toJSON, calls, propertiesCalls, calls_bytes]
    split <;> rfl
  | _ => exact ⟨Iff.rfl, rfl⟩

/-- No value but a buffer is left as one. -/
theorem toJSON_ne_buffer (v : PlainValue) (bs : Bytes) : v.toJSON ≠ .buffer bs := by
  cases v <;> simp [toJSON]

end PlainValue

/-! ## 2. Texts -/

namespace JSON

/-- What a character of a string is written as: quotation mark (0x22), backslash (0x5C) and control
    characters are escaped. -/
def quoteChar (c : Char) : List Char :=
  let backslash := Char.ofNat 0x5C
  if c.toNat = 0x22 ∨ c.toNat = 0x5C then [backslash, c]
  else if c.toNat = 0x08 then [backslash, 'b']
  else if c.toNat = 0x09 then [backslash, 't']
  else if c.toNat = 0x0A then [backslash, 'n']
  else if c.toNat = 0x0C then [backslash, 'f']
  else if c.toNat = 0x0D then [backslash, 'r']
  else if c.toNat < 0x20 then
    [backslash, 'u', '0', '0', hexDigit (c.toNat / 16), hexDigit (c.toNat % 16)]
  else [c]

def quote (s : String) : String :=
  String.ofList (Char.ofNat 0x22 :: s.toList.flatMap quoteChar ++ [Char.ofNat 0x22])

/-- A number; NaN and the infinities have no text in JSON. -/
def numberText (x : Number) : String :=
  match x.value with
  | .finite .. => x.text
  | _ => "null"

/-- The text of an array. What has no text is `null` there. -/
def arrayText (elements : List (Option String)) : String :=
  "[" ++ String.intercalate "," (elements.map (·.getD "null")) ++ "]"

/-- The text of an object, without the properties that have none. -/
def objectText (members : List (Option String)) : String :=
  "\x7b" ++ String.intercalate "," (members.filterMap id) ++ "\x7d"

/-! ## 3. The traversal -/

/-- A replacer function: what it makes of a property's key and value. -/
abbrev Replacer := String → PlainValue → PlainValue

/-- What writes a property, given its key and value; nothing where the value has no text. -/
abbrev Write := String → PlainValue → Except JsError (Option String)

/-- SerializeJSONArray. -/
def writeElements (write : Write) (elements : List PlainValue) :
    Except JsError (Option String) := do
  let texts ← elements.zipIdx.mapM fun e => write (toString e.2) e.1
  return some (arrayText texts)

def writeMember (write : Write) (property : String × PlainValue) :
    Except JsError (Option String) := do
  let text ← write property.1 property.2
  return text.map fun t => quote property.1 ++ ":" ++ t

/-- SerializeJSONObject. -/
def writeProperties (write : Write) (properties : List (String × PlainValue)) :
    Except JsError (Option String) := do
  let texts ← properties.mapM (writeMember write)
  return some (objectText texts)

/-- SerializeJSONProperty. When the stack of calls is used up, a RangeError is thrown. -/
def serializeProperty (replacer : Replacer) : Nat → Write
  | 0, _, _ => .error .rangeError
  | stack + 1, key, v =>
    match replacer key v.toJSON with
    | .undefined => .ok none
    | .boolean b => .ok (some (if b then "true" else "false"))
    | .number x => .ok (some (numberText x))
    | .bigint _ => .error .typeError
    | .string s => .ok (some (quote s))
    -- a buffer that a replacer answers is not asked for `toJSON` any more
    | .buffer bs =>
      writeProperties (serializeProperty replacer stack)
        (bs.zipIdx.map fun b => (toString b.2, .number (.int b.1.toNat)))
    | .array elements => writeElements (serializeProperty replacer stack) elements
    | .object properties => writeProperties (serializeProperty replacer stack) properties

/-- `JSON.stringify(v, replacer)`: the root is the property with the empty key. -/
def stringify (stack : Nat) (replacer : Replacer) (v : PlainValue) :
    Except JsError (Option String) :=
  serializeProperty replacer stack "" v

/-- The replacer of `JSON.stringify(v)`. -/
def keep : Replacer := fun _ v => v

/-! ## 4. What is written -/

section Writing

variable {write write' : Write}

/-- A loop depends on what is done with the elements only. -/
theorem mapM_congr {α β : Type} {f g : α → Except JsError β} {l : List α}
    (h : ∀ x ∈ l, f x = g x) : l.mapM f = l.mapM g := by
  induction l with
  | nil => rfl
  | cons x l ih =>
    rw [List.mapM_cons, List.mapM_cons, h x (List.mem_cons_self ..),
      ih fun y hy => h y (List.mem_cons_of_mem x hy)]

/-- A loop comes through exactly if every step does. -/
theorem mapM_ok_iff {α β : Type} {f : α → Except JsError β} {l : List α} :
    (∃ ys, l.mapM f = .ok ys) ↔ ∀ x ∈ l, ∃ y, f x = .ok y := by
  induction l with
  | nil => exact ⟨fun _ _ hx => absurd hx List.not_mem_nil, fun _ => ⟨[], rfl⟩⟩
  | cons x l ih =>
    rw [List.forall_mem_cons, ← ih, List.mapM_cons]
    constructor
    · rintro ⟨zs, hzs⟩
      obtain ⟨y, hy, hzs⟩ := bind_eq_ok hzs
      obtain ⟨ys, hys, -⟩ := bind_eq_ok hzs
      exact ⟨⟨y, hy⟩, ys, hys⟩
    · rintro ⟨⟨y, hy⟩, ys, hys⟩
      refine ⟨y :: ys, ?_⟩
      rw [hy, hys]
      rfl

theorem writeElements_map {f : PlainValue → PlainValue} {elements : List PlainValue}
    (h : ∀ v ∈ elements, ∀ key, write key v = write' key (f v)) :
    writeElements write elements = writeElements write' (elements.map f) := by
  unfold writeElements
  rw [List.zipIdx_map, List.mapM_map]
  congr 1
  refine mapM_congr ?_
  intro e he
  exact h e.1 (List.fst_mem_of_mem_zipIdx he) (toString e.2)

theorem writeProperties_map {f : PlainValue → PlainValue}
    {properties : List (String × PlainValue)}
    (h : ∀ p ∈ properties, write p.1 p.2 = write' p.1 (f p.2)) :
    writeProperties write properties =
      writeProperties write' (properties.map fun p => (p.1, f p.2)) := by
  unfold writeProperties
  rw [List.mapM_map]
  congr 1
  refine mapM_congr ?_
  intro p hp
  unfold writeMember
  rw [h p hp]
  rfl

theorem writeElements_iff {elements : List PlainValue} :
    (∃ text, writeElements write elements = .ok text) ↔
      ∀ e ∈ elements.zipIdx, ∃ text, write (toString e.2) e.1 = .ok text := by
  rw [← mapM_ok_iff]
  unfold writeElements
  constructor
  · rintro ⟨text, htext⟩
    obtain ⟨texts, htexts, -⟩ := bind_eq_ok htext
    exact ⟨texts, htexts⟩
  · rintro ⟨texts, htexts⟩
    rw [htexts]
    exact ⟨_, rfl⟩

theorem writeProperties_iff {properties : List (String × PlainValue)} :
    (∃ text, writeProperties write properties = .ok text) ↔
      ∀ p ∈ properties, ∃ text, write p.1 p.2 = .ok text := by
  have hmember (p : String × PlainValue) :
      (∃ text, writeMember write p = .ok text) ↔ ∃ text, write p.1 p.2 = .ok text := by
    unfold writeMember
    cases write p.1 p.2 with
    | error e => exact ⟨fun ⟨_, h⟩ => (by cases h), fun ⟨_, h⟩ => by cases h⟩
    | ok text => exact ⟨fun _ => ⟨_, rfl⟩, fun _ => ⟨_, rfl⟩⟩
  simp only [← hmember, ← mapM_ok_iff]
  unfold writeProperties
  constructor
  · rintro ⟨text, htext⟩
    obtain ⟨texts, htexts, -⟩ := bind_eq_ok htext
    exact ⟨texts, htexts⟩
  · rintro ⟨texts, htexts⟩
    rw [htexts]
    exact ⟨_, rfl⟩

end Writing

/-- What the replacer makes nothing of has no text. -/
theorem serialize_undefined {replacer : Replacer} {key : String} {v : PlainValue}
    (h : replacer key v.toJSON = .undefined) (stack : Nat) :
    serializeProperty replacer (stack + 1) key v = .ok none := by
  unfold serializeProperty
  rw [h]

/-- **What is written without a replacer**: the values without bigints that nest no deeper than the
    stack. -/
theorem serialize_iff {v : PlainValue} {stack : Nat} {key : String} :
    (∃ text, serializeProperty keep stack key v = .ok text) ↔ v.NoBigint ∧ v.calls ≤ stack := by
  induction stack generalizing v key with
  | zero =>
    have hpos : 0 < v.calls := by
      cases v with
      | buffer bs =>
        unfold PlainValue.calls
        split <;> decide
      | _ => exact Nat.succ_pos _
    exact ⟨fun ⟨_, h⟩ => (by cases h), fun h => by omega⟩
  | succ stack ih =>
    obtain ⟨hno, hcalls⟩ := v.toJSON_calls
    rw [← hno, ← hcalls]
    unfold serializeProperty keep
    cases hv : v.toJSON with
    | buffer bs => exact absurd hv (v.toJSON_ne_buffer bs)
    | bigint n => exact ⟨fun ⟨_, h⟩ => (by cases h), fun h => h.1.elim⟩
    | undefined | boolean _ | number _ | string _ =>
      exact ⟨fun _ => ⟨trivial, Nat.succ_pos stack⟩, fun _ => ⟨_, rfl⟩⟩
    | array elements =>
      show (∃ text, writeElements (serializeProperty keep stack) elements = .ok text) ↔
        PlainValue.NoBigintElements elements ∧ PlainValue.elementsCalls elements + 1 ≤ stack + 1
      rw [writeElements_iff, Nat.add_le_add_iff_right, PlainValue.noBigintElements_iff,
        PlainValue.elementsCalls_le_iff, ← forall₂_and]
      constructor
      · intro h w hw
        obtain ⟨i, hi⟩ := List.getElem?_of_mem hw
        exact ih.mp (h (w, i) (List.mem_zipIdx_iff_getElem?.mpr hi))
      · intro h e he
        exact ih.mpr (h e.1 (List.fst_mem_of_mem_zipIdx he))
    | object properties =>
      show (∃ text, writeProperties (serializeProperty keep stack) properties = .ok text) ↔
        PlainValue.NoBigintProperties properties ∧
          PlainValue.propertiesCalls properties + 1 ≤ stack + 1
      rw [writeProperties_iff, Nat.add_le_add_iff_right, PlainValue.noBigintProperties_iff,
        PlainValue.propertiesCalls_le_iff, ← forall₂_and]
      exact forall₂_congr fun p _ => ih

/-- An array without bigints has a text. -/
theorem stringify_array {elements : List PlainValue} (hno : (PlainValue.array elements).NoBigint)
    {stack : Nat} (h : (PlainValue.array elements).depth < stack) :
    ∃ text, stringify stack keep (.array elements) = .ok (some text) := by
  obtain ⟨text, htext⟩ := serialize_iff.mpr
    ⟨hno, (PlainValue.calls_le_depth (.array elements)).trans h⟩
  cases stack with
  | zero => omega
  | succ stack =>
    obtain ⟨texts, -, hsome⟩ := bind_eq_ok (x := elements.zipIdx.mapM _) htext
    cases hsome
    exact ⟨_, htext⟩

end JSON

/-! ## 5. The values that are refused on every stack -/

theorem noBigint_entryProperties (profile tag : Option Int) (type : Option TypeLabel)
    (value : PlainValue) (tagName : Option String) :
    PlainValue.NoBigintProperties (entryProperties profile tag type value tagName) ↔
      value.NoBigint := by
  cases profile <;> cases tag <;> cases type <;> cases tagName <;>
    simp [entryProperties, PlainValue.NoBigintProperties, PlainValue.NoBigint]

mutual

theorem plain_noBigint (v : JsValue) : v.plain.NoBigint ↔ v.hasBigint = false := by
  cases v with
  | array entries =>
    rw [JsValue.plain, JsValue.hasBigint]
    exact plainEntries_noBigint entries
  | object entry =>
    obtain ⟨profile, tag, type, value, tagName⟩ := entry
    rw [JsValue.plain, JsValue.hasBigint, ← plain_noBigint value]
    exact noBigint_entryProperties ..
  | bigint n => simp [JsValue.plain, JsValue.hasBigint, PlainValue.NoBigint]
  | undefined | boolean _ | number _ | string _ | buffer _ =>
    simp [JsValue.plain, JsValue.hasBigint, PlainValue.NoBigint]

theorem plainEntries_noBigint (entries : List (Entry JsValue)) :
    PlainValue.NoBigintElements (plainEntries entries) ↔ entriesHaveBigint entries = false := by
  cases entries with
  | nil => simp [plainEntries, entriesHaveBigint, PlainValue.NoBigintElements]
  | cons entry entries =>
    obtain ⟨profile, tag, type, value, tagName⟩ := entry
    rw [plainEntries, entriesHaveBigint, Bool.or_eq_false_iff, ← plain_noBigint value,
      ← plainEntries_noBigint entries, ← noBigint_entryProperties profile tag type _ tagName]
    exact Iff.rfl

end

/-- **What `JSON.stringify` refuses on a stack**: a bigint, and what nests deeper than the stack. -/
theorem JSON.stringify_plain_iff {v : JsValue} {stack : Nat} :
    (∃ text, JSON.stringify stack JSON.keep v.plain = .ok text) ↔
      v.hasBigint = false ∧ v.plain.calls ≤ stack := by
  rw [← plain_noBigint]
  exact JSON.serialize_iff

/-- `stringify` is `JSON.stringify` where the stack is as deep as it takes. -/
theorem stringify_iff {v : JsValue} : stringify v = .ok () ↔
    ∃ stack text, JSON.stringify stack JSON.keep v.plain = .ok text := by
  have hstringify : stringify v = .ok () ↔ v.hasBigint = false := by
    unfold stringify
    cases v.hasBigint <;> simp
  rw [hstringify]
  constructor
  · intro h
    exact ⟨v.plain.calls, JSON.stringify_plain_iff.mpr ⟨h, Nat.le_refl _⟩⟩
  · rintro ⟨stack, h⟩
    exact (JSON.stringify_plain_iff.mp h).1

end Matternode.Js
