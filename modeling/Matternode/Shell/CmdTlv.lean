/-
  File:      Matternode/Shell/CmdTlv.lean
  Subject:   The shell's tlv command: TLV printed as JSON text, and JSON text encoded as TLV.

  The text is meant to be fed back. What a tree of JSON says as a value is modelled where the writer
  can be given it; `null` and arrays of anything but objects are outside.

  * `ofJson` -- the value that a tree of JSON is;
  * `doTlv` -- the command, with what it prints and what it throws;
  * `Printable`, `reread` -- the values that have a text, and what the text is read as;
  * `tree_value` -- **the text of a printable value is read as its reread**;
  * **`doTlv_decode_encode`** -- when what `--decode` prints is what `--encode` needs.
-/
import Matternode.Js.JsonTree
import Matternode.Tlv.Reencoding

namespace Matternode.Shell

open Base Js Tlv

/-! ## 1. Trees as values -/

/-- The labels that are told apart by `encode`. -/
def namedLabels : List TypeLabel :=
  [.int8, .int16, .int32, .int64, .uint8, .uint16, .uint32, .uint64, .boolean, .float, .double,
    .stringUint8Len, .stringUint16Len, .stringUint32Len, .stringUint64Len, .bufferUint8Len,
    .bufferUint16Len, .bufferUint32Len, .bufferUint64Len, .null, .struct, .array, .list,
    .endOfCollection, .bool, .buffer]

def labelOfText (text : String) : TypeLabel :=
  (namedLabels.find? fun label => label.text = text).getD (.other text)

def wholeOfJson : Json → Option Int
  | .number literal =>
    match Number.ofString literal.toList with
    | .int n => some n
    | .double _ => none
  | _ => none

def labelOfJson : Json → Option TypeLabel
  | .string s => some (labelOfText s)
  | _ => none

/-- An entry with one property more, given the value of the property. `encode` reads no other
    properties than these. -/
def withMember (entry : DeterministicJson) (key : String) (v : Json) (value : Option JsValue) :
    Option DeterministicJson :=
  if key = "profile" then (wholeOfJson v).map fun p => { entry with profile := some p }
  else if key = "tag" then (wholeOfJson v).map fun t => { entry with tag := some t }
  else if key = "type" then (labelOfJson v).map fun l => { entry with type := some l }
  else if key = "value" then value.map fun value => { entry with value := value }
  else some entry

mutual

/-- What `JSON.parse` answers, where the writer can be given it. -/
def ofJson : Json → Option JsValue
  | .null => none
  | .boolean b => some (.boolean b)
  | .number literal => some (.number (.ofString literal.toList))
  | .string s => some (.string s)
  | .array elements => (entriesOfJson elements).map .array
  | .object members => (entryOfJson { value := .undefined } members).map .object

def entriesOfJson : List Json → Option (List DeterministicJson)
  | [] => some []
  | .object members :: elements => do
    let entry ← entryOfJson { value := .undefined } members
    let entries ← entriesOfJson elements
    return entry :: entries
  | _ :: _ => none

/-- An object as an entry. A key that is there twice counts as it was last. -/
def entryOfJson (entry : DeterministicJson) : List (String × Json) → Option DeterministicJson
  | [] => some entry
  | (key, v) :: members => do
    let entry ← withMember entry key v (ofJson v)
    entryOfJson entry members

end

/-! ## 2. The command -/

/-- The options of the command line. -/
structure TlvArgs where
  help : Bool := false
  decode : Option String := none
  encode : Option String := none
  tab_width : Option Number := none

/-- A line on the console; a value is inspected, and not written as JSON. -/
inductive Printed where
  | text (s : String)
  | value (v : Json)
  | help

/-- What a run of the command prints, and what it returns or throws. -/
structure Output where
  printed : List Printed
  result : Except JsError Nat

/-- The gap of `JSON.stringify(v, null, width)`. -/
def gapOf (width : Number) : List Char :=
  match width.value with
  | .nan => []
  | .infinity negative => if negative then [] else List.replicate 10 ' '
  | .finite .. => List.replicate (min width.toInteger 10).toNat ' '

def doDecode (stack : Nat) (tabWidth : Number) (hex : String) : Except JsError (Option String) := do
  let json ← decode (fromHex hex.toList)
  let text ← JSON.stringifyGap stack (gapOf tabWidth) (JsValue.array json).plain
  return text.map String.ofList

/-- `argv.encode` parsed and encoded, in hexadecimal. -/
def doEncode (text : String) : Option Output :=
  match JSON.parse text.toList with
  | none => some ⟨[.text text], .error .syntaxError⟩
  | some json =>
    (ofJson json).map fun v =>
      match encodeBuffer v with
      | .ok tlv => ⟨[.text text, .value json, .text (String.ofList (toHex tlv))], .ok 0⟩
      | .error e => ⟨[.text text], .error e⟩

/-- `doTlv(args)`, after its options were parsed. -/
def doTlv (stack : Nat) (argv : TlvArgs) : Option Output :=
  if argv.help then some ⟨[], .ok 0⟩
  else
    match argv.decode, argv.encode with
    | some hex, _ =>
      match doDecode stack (argv.tab_width.getD (.int 2)) hex with
      | .ok text => some ⟨[.text (text.getD "undefined")], .ok 0⟩
      | .error e => some ⟨[], .error e⟩
    | none, some text => doEncode text
    | none, none => some ⟨[.help], .ok 0⟩

/-! ## 3. Values that are read back -/

mutual

/-- The value has a text that is read: its numbers are whole, and its labels have names. -/
def Printable : JsValue → Prop
  | .number x => ∃ n : Int, x = .int n ∧ n.natAbs < 2 ^ 53
  | .bigint _ => False
  | .array entries => PrintableEntries entries
  | .object ⟨profile, tag, type, value, _⟩ =>
    (∀ p ∈ profile, p.natAbs < 2 ^ 53) ∧ (∀ t ∈ tag, t.natAbs < 2 ^ 53) ∧
      (∀ l ∈ type, labelOfText l.text = l) ∧ Printable value
  | _ => True

def PrintableEntries : List (Entry JsValue) → Prop
  | [] => True
  | ⟨profile, tag, type, value, _⟩ :: entries =>
    ((∀ p ∈ profile, p.natAbs < 2 ^ 53) ∧ (∀ t ∈ tag, t.natAbs < 2 ^ 53) ∧
      (∀ l ∈ type, labelOfText l.text = l) ∧ Printable value) ∧ PrintableEntries entries

end

mutual

/-- What the text of a value is read as: the text of a buffer is an object that says its type and
    has no value, and the name of a tag is not read. -/
def reread : JsValue → JsValue
  | .buffer _ => .object { type := some .buffer, value := .undefined }
  | .array entries => .array (rereadEntries entries)
  | .object ⟨profile, tag, type, value, _⟩ => .object ⟨profile, tag, type, reread value, none⟩
  | .undefined => .undefined
  | .boolean b => .boolean b
  | .number x => .number x
  | .bigint n => .bigint n
  | .string s => .string s

def rereadEntries : List (Entry JsValue) → List (Entry JsValue)
  | [] => []
  | ⟨profile, tag, type, value, _⟩ :: entries =>
    ⟨profile, tag, type, reread value, none⟩ :: rereadEntries entries

end

/-- One entry of them. -/
def rereadEntry (entry : DeterministicJson) : DeterministicJson :=
  ⟨entry.profile, entry.tag, entry.type, reread entry.value, none⟩

theorem isBlank_gapOf (width : Number) : JSON.IsBlank (gapOf width) := by
  have hspaces : ∀ n, JSON.IsBlank (List.replicate n ' ') := by
    intro n c hc
    rw [List.eq_of_mem_replicate hc]
    rfl
  unfold gapOf
  split
  · exact hspaces 0
  · split
    · exact hspaces 0
    · exact hspaces 10
  · exact hspaces _

/-- What the text of a property is read as; one without a text is not there. -/
def ReadsAs (t : Option Json) (v : JsValue) : Prop :=
  match t with
  | none => v = .undefined
  | some json => ofJson json = some v

section Entries

variable {profile tag : Option Int} {type : Option TypeLabel} {tagName : Option String}

/-- The members of an entry; what is undefined is left out. -/
def entryMembers (profile tag : Option Int) (type : Option TypeLabel) (value : Option Json)
    (tagName : Option String) : List (String × Json) :=
  (profile.map fun p => ("profile", .number (Number.int p).text)).toList ++
    ((tag.map fun t => ("tag", .number (Number.int t).text)).toList ++
      ((type.map fun l => ("type", .string l.text)).toList ++
        ((value.map fun v => ("value", v)).toList ++
          (tagName.map fun name => ("tagName", .string name)).toList)))

theorem tree_entry {value : PlainValue} {stack : Nat} {t : Option Json}
    (h : value.tree (stack + 1) = .ok t) :
    (PlainValue.object (entryProperties profile tag type value tagName)).tree (stack + 2) =
      .ok (some (.object (entryMembers profile tag type t tagName))) := by
  have hprofile : (profile.elim .undefined fun p => PlainValue.number (.int p)).tree (stack + 1) =
      .ok (profile.map fun p => .number (Number.int p).text) := by cases profile <;> rfl
  have htag : (tag.elim .undefined fun t => PlainValue.number (.int t)).tree (stack + 1) =
      .ok (tag.map fun t => .number (Number.int t).text) := by cases tag <;> rfl
  have htype : (type.elim .undefined fun l => PlainValue.string l.text).tree (stack + 1) =
      .ok (type.map fun l => .string l.text) := by cases type <;> rfl
  unfold PlainValue.tree
  simp only [PlainValue.toJSON, entryProperties, List.cons_append, List.nil_append,
    List.mapM_cons, hprofile, htag, htype, h]
  cases profile <;> cases tag <;> cases type <;> cases t <;> cases tagName <;> rfl

theorem wholeOfJson_text {n : Int} (h : n.natAbs < 2 ^ 53) :
    wholeOfJson (.number (Number.int n).text) = some n := by
  unfold wholeOfJson
  dsimp only
  rw [Number.ofString_text h]

theorem entryOfJson_append (entry : DeterministicJson) (ms ms' : List (String × Json)) :
    entryOfJson entry (ms ++ ms') = (entryOfJson entry ms).bind fun e => entryOfJson e ms' := by
  induction ms generalizing entry with
  | nil => rfl
  | cons m ms ih =>
    obtain ⟨key, v⟩ := m
    show ((withMember entry key v (ofJson v)).bind fun e => entryOfJson e (ms ++ ms')) =
      ((withMember entry key v (ofJson v)).bind fun e => entryOfJson e ms).bind _
    simp only [ih, Option.bind_assoc]

theorem entryOfJson_members {value : JsValue} {t : Option Json}
    (hp : ∀ p ∈ profile, p.natAbs < 2 ^ 53) (ht : ∀ t ∈ tag, t.natAbs < 2 ^ 53)
    (hl : ∀ l ∈ type, labelOfText l.text = l) (hvalue : ReadsAs t value) :
    entryOfJson { value := .undefined } (entryMembers profile tag type t tagName) =
      some ⟨profile, tag, type, value, none⟩ := by
  have hprofile : entryOfJson { value := .undefined }
      (profile.map fun p => ("profile", .number (Number.int p).text)).toList =
        some ⟨profile, none, none, .undefined, none⟩ := by
    cases profile with
    | none => rfl
    | some p =>
      have hread := wholeOfJson_text (hp p rfl)
      simp [entryOfJson, withMember, hread]
  have htag : entryOfJson ⟨profile, none, none, .undefined, none⟩
      (tag.map fun t => ("tag", .number (Number.int t).text)).toList =
        some ⟨profile, tag, none, .undefined, none⟩ := by
    cases tag with
    | none => rfl
    | some t =>
      have hread := wholeOfJson_text (ht t rfl)
      simp [entryOfJson, withMember, hread]
  have htype : entryOfJson ⟨profile, tag, none, .undefined, none⟩
      (type.map fun l => ("type", .string l.text)).toList =
        some ⟨profile, tag, type, .undefined, none⟩ := by
    cases type with
    | none => rfl
    | some l =>
      have hread := hl l rfl
      simp [entryOfJson, withMember, labelOfJson, hread]
  have hmember : entryOfJson ⟨profile, tag, type, .undefined, none⟩
      (t.map fun v => ("value", v)).toList = some ⟨profile, tag, type, value, none⟩ := by
    cases t with
    | none =>
      obtain rfl : value = .undefined := hvalue
      rfl
    | some json =>
      have hread : ofJson json = some value := hvalue
      simp [entryOfJson, withMember, hread]
  have hname : entryOfJson ⟨profile, tag, type, value, none⟩
      (tagName.map fun name => ("tagName", .string name)).toList =
        some ⟨profile, tag, type, value, none⟩ := by
    cases tagName <;> rfl
  unfold entryMembers
  rw [entryOfJson_append, hprofile, Option.bind_some, entryOfJson_append, htag, Option.bind_some,
    entryOfJson_append, htype, Option.bind_some, entryOfJson_append, hmember, Option.bind_some,
    hname]

/-- An entry whose value is read back is read back. -/
theorem tree_object {value : JsValue} {stack : Nat}
    (hp : ∀ p ∈ profile, p.natAbs < 2 ^ 53) (ht : ∀ t ∈ tag, t.natAbs < 2 ^ 53)
    (hl : ∀ l ∈ type, labelOfText l.text = l) {t : Option Json}
    (htree : value.plain.tree (stack + 1) = .ok t) (hread : ReadsAs t (reread value)) :
    ∃ ms, (PlainValue.object (entryProperties profile tag type value.plain tagName)).tree (stack + 2) =
        .ok (some (.object ms)) ∧
      entryOfJson { value := .undefined } ms = some ⟨profile, tag, type, reread value, none⟩ :=
  ⟨_, tree_entry htree, entryOfJson_members hp ht hl hread⟩

theorem depth_value {value : PlainValue} :
    value.depth ≤ PlainValue.propertiesDepth (entryProperties profile tag type value tagName) :=
  PlainValue.depth_le_of_property (p := ("value", value)) (by simp [entryProperties])

theorem whole_properties {value : PlainValue} (hp : ∀ p ∈ profile, p.natAbs < 2 ^ 53)
    (ht : ∀ t ∈ tag, t.natAbs < 2 ^ 53) (hvalue : value.Whole) :
    (PlainValue.object (entryProperties profile tag type value tagName)).Whole := by
  have hname : ∀ name : Option String, PlainValue.WholeProperties
      (name.toList.map fun n => ("tagName", PlainValue.string n)) := by
    intro name
    cases name with
    | none => exact trivial
    | some n => exact ⟨trivial, trivial⟩
  refine ⟨?_, ?_, ?_, hvalue, hname tagName⟩
  · cases profile with
    | none => exact trivial
    | some p => exact ⟨p, rfl, hp p rfl⟩
  · cases tag with
    | none => exact trivial
    | some t => exact ⟨t, rfl, ht t rfl⟩
  · cases type <;> exact trivial

end Entries

/-- The text of a buffer is read as an object without a value. -/
theorem tree_buffer (bs : Bytes) (stack : Nat) :
    ∃ t, (PlainValue.buffer bs).tree (stack + 3) = .ok t ∧ ReadsAs t (reread (.buffer bs)) := by
  have hdepth : (PlainValue.array (bs.map fun b => .number (.int b.toNat))).depth < stack + 2 := by
    unfold PlainValue.depth
    rw [PlainValue.depth_bytes]
    omega
  rcases PlainValue.tree_cases hdepth with ⟨-, data, hdata⟩ | ⟨hbig, -⟩
  · have htype : (PlainValue.string "Buffer").tree (stack + 2) = .ok (some (.string "Buffer")) := rfl
    refine ⟨some (.object (("type", .string "Buffer") :: (data.map fun d => ("data", d)).toList)),
      ?_, ?_⟩
    · unfold PlainValue.tree
      simp only [PlainValue.toJSON, List.mapM_cons, htype, hdata]
      cases data <;> rfl
    · have hlabel : labelOfText "Buffer" = .buffer := by decide
      show (entryOfJson { value := .undefined } (("type", .string "Buffer") :: _)).map JsValue.object = _
      cases data with
      | none => simp [entryOfJson, withMember, labelOfJson, hlabel, reread]
      | some d => simp [entryOfJson, withMember, labelOfJson, hlabel, reread]
  · exact absurd (PlainValue.noBigint_bytes bs) hbig

mutual

/-- **The text of a printable value is read as its reread**, on a stack that is deep enough. -/
theorem tree_value (v : JsValue) (hv : Printable v) (stack : Nat) (h : v.plain.depth < stack) :
    ∃ t, v.plain.tree stack = .ok t ∧ ReadsAs t (reread v) := by
  obtain ⟨stack, rfl⟩ : ∃ s, stack = s + 1 := ⟨stack - 1, by omega⟩
  match v with
  | .undefined => exact ⟨none, rfl, rfl⟩
  | .boolean b => exact ⟨some (.boolean b), rfl, rfl⟩
  | .number x =>
    obtain ⟨n, rfl, hn⟩ := hv
    refine ⟨some (.number (Number.int n).text), rfl, ?_⟩
    show some (JsValue.number (Number.ofString (Number.int n).text.toList)) = _
    rw [Number.ofString_text hn]
    rfl
  | .bigint n => exact hv.elim
  | .string s => exact ⟨some (.string s), rfl, rfl⟩
  | .buffer bs =>
    have hdeep : 2 ≤ stack := by
      simp only [JsValue.plain, PlainValue.depth] at h
      omega
    obtain ⟨s, rfl⟩ : ∃ s, stack = s + 2 := ⟨stack - 2, by omega⟩
    exact tree_buffer bs s
  | .array entries =>
    obtain ⟨trees, htrees, hread⟩ := tree_entries entries hv stack (Nat.succ_lt_succ_iff.mp h)
    refine ⟨some (.array trees), ?_, ?_⟩
    · have hnull : (trees.map some).map (fun t => t.getD Json.null) = trees := by
        rw [List.map_map]
        exact List.map_id trees
      unfold PlainValue.tree
      simp only [JsValue.plain, PlainValue.toJSON, htrees, bind, Except.bind, hnull]
      rfl
    · show (entriesOfJson trees).map JsValue.array = _
      rw [hread]
      rfl
  | .object ⟨profile, tag, type, value, tagName⟩ =>
    obtain ⟨hp, ht, hl, hvalue⟩ := hv
    have hlt : value.plain.depth < stack :=
      Nat.lt_of_le_of_lt depth_value (Nat.succ_lt_succ_iff.mp h)
    obtain ⟨t, htree, hread⟩ := tree_value value hvalue stack hlt
    obtain ⟨stack, rfl⟩ : ∃ s, stack = s + 1 := ⟨stack - 1, by omega⟩
    obtain ⟨ms, hms, hentry⟩ := @tree_object profile tag type tagName _ _ hp ht hl _ htree hread
    refine ⟨some (.object ms), hms, ?_⟩
    show (entryOfJson { value := .undefined } ms).map JsValue.object = _
    rw [hentry]
    rfl

theorem tree_entries (entries : List DeterministicJson) (hv : PrintableEntries entries) (stack : Nat)
    (h : PlainValue.elementsDepth (plainEntries entries) < stack) :
    ∃ trees, (plainEntries entries).mapM (PlainValue.tree stack) = .ok (trees.map some) ∧
      entriesOfJson trees = some (rereadEntries entries) := by
  match entries with
  | [] => exact ⟨[], rfl, rfl⟩
  | ⟨profile, tag, type, value, tagName⟩ :: entries =>
    obtain ⟨⟨hp, ht, hl, hvalue⟩, hv⟩ := hv
    simp only [plainEntries, PlainValue.elementsDepth, PlainValue.depth] at h
    obtain ⟨stack, rfl⟩ : ∃ s, stack = s + 2 := ⟨stack - 2, by omega⟩
    have hle := @depth_value profile tag type tagName value.plain
    obtain ⟨t, htree, hread⟩ := tree_value value hvalue (stack + 1) (by omega)
    obtain ⟨ms, hms, hentry⟩ := @tree_object profile tag type tagName _ _ hp ht hl _ htree hread
    obtain ⟨trees, htrees, hrest⟩ := tree_entries entries hv (stack + 2) (by omega)
    refine ⟨.object ms :: trees, ?_, ?_⟩
    · rw [plainEntries, List.mapM_cons, hms, htrees]
      rfl
    · unfold entriesOfJson
      rw [hentry, hrest]
      rfl

end

mutual

theorem whole_plain (v : JsValue) (hv : Printable v) : v.plain.Whole := by
  match v with
  | .undefined | .boolean _ | .string _ | .buffer _ => exact trivial
  | .number x => exact hv
  | .bigint n => exact hv.elim
  | .array entries => exact whole_entries entries hv
  | .object ⟨profile, tag, type, value, tagName⟩ =>
    obtain ⟨hp, ht, -, hvalue⟩ := hv
    exact whole_properties hp ht (whole_plain value hvalue)

theorem whole_entries (entries : List DeterministicJson) (hv : PrintableEntries entries) :
    PlainValue.WholeElements (plainEntries entries) := by
  match entries with
  | [] => exact trivial
  | ⟨profile, tag, type, value, tagName⟩ :: entries =>
    obtain ⟨⟨hp, ht, -, hvalue⟩, hv⟩ := hv
    exact ⟨whole_properties hp ht (whole_plain value hvalue), whole_entries entries hv⟩

end

/-- **The text of printable entries is JSON, and it is read as their reread.** -/
theorem parse_text {entries : List DeterministicJson} (hv : PrintableEntries entries) {stack : Nat}
    (h : (JsValue.array entries).plain.depth < stack) (width : Number) :
    ∃ text json, JSON.stringifyGap stack (gapOf width) (JsValue.array entries).plain =
        .ok (some text) ∧
      JSON.parse text = some json ∧ ofJson json = some (.array (rereadEntries entries)) := by
  obtain ⟨t, htree, hread⟩ := tree_value (.array entries) hv stack h
  cases t with
  | none => cases hread
  | some json =>
    have hwellFormed := tree_wellFormed (whole_plain (.array entries) hv) htree
    refine ⟨json.render (gapOf width) [], json, ?_, ?_, hread⟩
    · unfold JSON.stringifyGap
      rw [htree]
      rfl
    · exact JSON.parse_render (isBlank_gapOf width) hwellFormed

/-! ## 4. The elements of an encoding -/

/-- An integer of eight bytes. -/
def isLong : Leaf → Bool
  | .signed n => signedWidth n.toInt = 3
  | .unsigned n => unsignedWidth n.toNat = 3
  | _ => false

def isByteString : Leaf → Bool
  | .bytes _ => true
  | _ => false

mutual

/-- There is a leaf of the kind in the element. -/
def elementAny (p : Leaf → Bool) : Element → Bool
  | .leaf _ v => p v
  | .container _ _ children => forestAny p children

def forestAny (p : Leaf → Bool) : List Element → Bool
  | [] => false
  | e :: es => elementAny p e || forestAny p es

end

/-- The names of the labels tell them apart. -/
theorem labelOfText_text : ∀ l ∈ namedLabels, labelOfText l.text = l := by decide

theorem label_elementTypes (n : Nat) : ∀ l ∈ elementTypes n, labelOfText l.text = l := by
  intro l hl
  refine labelOfText_text l ?_
  unfold elementTypes at hl
  split at hl
  all_goals first
    | (cases hl; decide)
    | cases hl

theorem printable_leaf {v : Leaf} (h : isLong v = false) : Printable v.value := by
  cases v with
  | signed n =>
    have hne : signedWidth n.toInt ≠ 3 := of_decide_eq_false h
    show Printable (integerValue _ _)
    rw [integerValue, if_neg hne]
    refine ⟨n.toInt, rfl, ?_⟩
    rcases signedWidth_cases n.toInt with hw | hw | hw | hw <;> omega
  | unsigned n =>
    have hne : unsignedWidth n.toNat ≠ 3 := of_decide_eq_false h
    show Printable (integerValue _ _)
    rw [integerValue, if_neg hne]
    refine ⟨n.toNat, rfl, ?_⟩
    rcases unsignedWidth_cases n.toNat with hw | hw | hw | hw <;> omega
  | boolean b => exact trivial
  | null => exact trivial
  | bytes bs => exact trivial
  | text t => exact trivial

theorem jsonTag_lt (tag : Option UInt8) : ∀ t ∈ jsonTag tag, t.natAbs < 2 ^ 53 := by
  intro t ht
  cases tag with
  | none => cases ht
  | some u =>
    obtain rfl : (u.toNat : Int) = t := Option.some.inj ht
    have hlt := u.toNat_lt
    omega

/-- The reader answers printable entries where there is no integer of eight bytes. -/
theorem printable_forest {es : List Element} (h : forestAny isLong es = false) :
    PrintableEntries (forestJson es) := by
  match es with
  | [] => exact trivial
  | e :: es =>
    obtain ⟨he, hes⟩ := Bool.or_eq_false_iff.mp h
    have hrest := printable_forest hes
    match e with
    | .leaf tag v =>
      exact ⟨⟨fun p hp => (by cases hp), jsonTag_lt tag, label_elementTypes _, printable_leaf he⟩,
        hrest⟩
    | .container tag kind children =>
      exact ⟨⟨fun p hp => (by cases hp), jsonTag_lt tag, label_elementTypes _,
        @printable_forest children he⟩, hrest⟩

theorem bigint_leaf {v : Leaf} (h : isLong v = true) : ¬ v.value.plain.NoBigint := by
  cases v with
  | signed n =>
    have hk : signedWidth n.toInt = 3 := of_decide_eq_true h
    show ¬ (integerValue _ _).plain.NoBigint
    rw [integerValue, if_pos hk]
    exact fun hno => hno
  | unsigned n =>
    have hk : unsignedWidth n.toNat = 3 := of_decide_eq_true h
    show ¬ (integerValue _ _).plain.NoBigint
    rw [integerValue, if_pos hk]
    exact fun hno => hno
  | boolean b => cases h
  | null => cases h
  | bytes bs => cases h
  | text t => cases h

/-- And a bigint where there is one. -/
theorem bigint_forest {es : List Element} (h : forestAny isLong es = true) :
    ¬ PlainValue.NoBigintElements (plainEntries (forestJson es)) := by
  match es with
  | [] => cases h
  | e :: es =>
    intro hno
    rcases Bool.or_eq_true_iff.mp h with he | hes
    · match e with
      | .leaf tag v => exact bigint_leaf he hno.1.2.2.2.1
      | .container tag kind children => exact @bigint_forest children he hno.1.2.2.2.1
    · exact bigint_forest hes hno.2

/-! ## 5. What is encoded again -/

theorem reread_integerValue (k : Nat) (n : Int) : reread (integerValue k n) = integerValue k n := by
  unfold integerValue
  split <;> rfl

/-- A leaf that is no byte string is given by what its text is read as. -/
theorem given_leaf {v : Leaf} (h : isByteString v = false) :
    v.IsGivenBy (elementTypes v.elementType) (reread v.value) := by
  cases v with
  | signed n =>
    have hlabel : ∀ k < 4, ∃ l, elementTypes (tlvTypeSignedInteger + k) = some l ∧
        l ∈ [TypeLabel.int8, .int16, .int32, .int64] := by decide
    obtain ⟨l, hl, hmem⟩ := hlabel _ (signedWidth_lt n.toInt)
    simp only [Leaf.elementType, Leaf.value, reread_integerValue, hl]
    exact .signed hmem (isInteger_integerValue _ _)
  | unsigned n =>
    have hlabel : ∀ k < 4, ∃ l, elementTypes (tlvTypeUnsignedInteger + k) = some l ∧
        l ∈ [TypeLabel.uint8, .uint16, .uint32, .uint64] := by decide
    obtain ⟨l, hl, hmem⟩ := hlabel _ (unsignedWidth_lt n.toNat)
    simp only [Leaf.elementType, Leaf.value, reread_integerValue, hl]
    refine .unsigned hmem (isInteger_integerValue _ _) ?_
    intro k hk
    unfold integerValue at hk
    split at hk
    · rename_i hw
      rcases unsignedWidth_cases n.toNat with hr | hr | hr | hr <;> omega
    · cases hk
  | boolean b => cases b <;> exact .boolean (.inl rfl)
  | null => exact .null rfl
  | bytes bs => cases h
  | text t =>
    have hlabel : ∀ k < 4, autoDetect (elementTypes (tlvTypeUtf8String + k)) = true := by decide
    exact .text (hlabel _ (unsignedWidth_lt t.chars.length))

mutual

/-- An element without byte strings is given by what its text is read as. -/
theorem given_element {e : Element} (h : elementAny isByteString e = false) :
    e.IsGivenBy (rereadEntry e.json) := by
  match e with
  | .leaf tag v => exact .leaf none (given_leaf h)
  | .container tag kind children =>
    have hlabel : elementTypes kind.elementType = some kind.label := by cases kind <;> rfl
    have hgiven := @Element.IsGivenBy.container tag kind children _ none (given_forest h)
    rw [← hlabel] at hgiven
    exact hgiven

theorem given_forest {es : List Element} (h : forestAny isByteString es = false) :
    ForestIsGivenBy es (rereadEntries (forestJson es)) := by
  match es with
  | [] => exact .nil
  | e :: es =>
    obtain ⟨he, hes⟩ := Bool.or_eq_false_iff.mp h
    exact .cons (given_element he) (given_forest hes)

end

/-- A walk that throws, whatever was written before. -/
def Throws (m : WriterM Unit) (e : JsError) : Prop := ∀ w, ∃ w', m.run w = .error e w'

theorem Throws.bind {m m' : WriterM Unit} {e : JsError} (h : Throws m e) : Throws (do m; m') e := by
  intro w
  obtain ⟨w', hw⟩ := h w
  exact ⟨w', run_bind_error hw⟩

theorem Throws.after {m m' : WriterM Unit} {bs : Bytes} {e : JsError} (h : Appends m bs)
    (h' : Throws m' e) : Throws (do m; m') e := by
  intro w
  obtain ⟨w', hw⟩ := h' { w with buf := w.buf ++ bs }
  exact ⟨w', (run_bind_ok (h w)).trans hw⟩

/-- The walk of what the text of a byte string is read as: there is no value to write. -/
theorem throws_leaf {v : Leaf} (h : isByteString v = true) (tag : Option Int) :
    Throws (performEntry tag none ⟨none, tag, elementTypes v.elementType, reread v.value, none⟩)
      .typeError := by
  cases v with
  | bytes bs =>
    have hlabel : ∀ k < 4, autoDetect (elementTypes (tlvTypeByteString + k)) = true := by decide
    intro w
    refine ⟨w, ?_⟩
    have hlabel' := hlabel _ (unsignedWidth_lt bs.bytes.length)
    exact congrArg (fun m : WriterM Unit => m.run w)
      (performEntry_autoDetect hlabel' tag none none tag (reread (.buffer bs.bytes)) none)
  | signed n => cases h
  | unsigned n => cases h
  | boolean b => cases h
  | null => cases h
  | text t => cases h

theorem throws_container {entries : List DeterministicJson} {e : JsError} (tag : Option UInt8)
    (kind : ContainerKind) (h : Throws (performEntries entries) e) :
    Throws (performEntry (jsonTag tag) none
      ⟨none, jsonTag tag, elementTypes kind.elementType, .array entries, none⟩) e := by
  have hbody : Throws (do perform .encode (.array entries); putContainerEnd) e := by
    unfold perform
    exact h.bind
  cases kind with
  | struct =>
    unfold performEntry
    exact .after (appends_append (encodeControlByte_plain tag (by decide))) hbody
  | array =>
    unfold performEntry
    exact .after (appends_append (encodeControlByte_plain tag (by decide))) hbody
  | list =>
    unfold performEntry
    exact .after (appends_append (encodeControlByte_plain tag (by decide))) hbody

mutual

theorem throws_element {e : Element} (h : elementAny isByteString e = true) :
    Throws (performEntry (rereadEntry e.json).tag (rereadEntry e.json).profile (rereadEntry e.json))
      .typeError := by
  match e with
  | .leaf tag v => exact throws_leaf h (jsonTag tag)
  | .container tag kind children => exact throws_container tag kind (throws_forest h)

/-- **The writer throws at the first byte string.** -/
theorem throws_forest {es : List Element} (h : forestAny isByteString es = true) :
    Throws (performEntries (rereadEntries (forestJson es))) .typeError := by
  match es with
  | [] => cases h
  | e :: es =>
    show Throws (performEntries (rereadEntry e.json :: rereadEntries (forestJson es))) .typeError
    unfold performEntries
    cases he : elementAny isByteString e with
    | true => exact (throws_element he).bind
    | false =>
      have hes : forestAny isByteString es = true :=
        (Bool.or_eq_true_iff.mp h).resolve_left (Bool.eq_false_iff.mp he)
      exact .after (performEntry_given (given_element he)) (throws_forest hes)

end

theorem encodeBuffer_reread (es : List Element) :
    encodeBuffer (.array (rereadEntries (forestJson es))) =
      if forestAny isByteString es then .error .typeError else .ok (forestWire es) := by
  cases h : forestAny isByteString es with
  | true =>
    obtain ⟨w, hw⟩ := throws_forest h {}
    unfold encodeBuffer encode perform
    rw [hw]
    rfl
  | false => exact encodeBuffer_forest (given_forest h)

/-! ## 6. The command fed with its own text -/

theorem doDecode_forest (es : List Element) (tabWidth : Number) (stack : Nat) :
    doDecode stack tabWidth (String.ofList (toHex (forestWire es))) =
      (JSON.stringifyGap stack (gapOf tabWidth) (JsValue.array (forestJson es)).plain).map
        (Option.map String.ofList) := by
  unfold doDecode
  rw [String.toList_ofList, fromHex_toHex, decode_forestWire]
  show (JSON.stringifyGap stack (gapOf tabWidth) (JsValue.array (forestJson es)).plain >>= fun text =>
    pure (text.map String.ofList)) = _
  cases JSON.stringifyGap stack (gapOf tabWidth) (JsValue.array (forestJson es)).plain <;> rfl

/-- **When what `tlv --decode` prints is what `tlv --encode` needs**, for every encoding and width
    of the gap: an integer of eight bytes has no text, a byte string is not read, and with neither
    the command gives back the bytes it was given. -/
theorem doTlv_decode_encode (es : List Element) (tabWidth : Option Number) {stack : Nat}
    (h : (JsValue.array (forestJson es)).plain.depth < stack) :
    let hex := String.ofList (toHex (forestWire es))
    (forestAny isLong es = true →
      doTlv stack { decode := some hex, tab_width := tabWidth } = some ⟨[], .error .typeError⟩) ∧
    (forestAny isLong es = false → ∃ text json,
      doTlv stack { decode := some hex, tab_width := tabWidth } = some ⟨[.text text], .ok 0⟩ ∧
      doTlv stack { encode := some text } = some
        (if forestAny isByteString es then ⟨[.text text], .error .typeError⟩
          else ⟨[.text text, .value json, .text hex], .ok 0⟩)) := by
  intro hex
  constructor
  · intro hlong
    rcases PlainValue.tree_cases h with ⟨hno, -⟩ | ⟨-, hthrow⟩
    · exact absurd hno (bigint_forest hlong)
    · have hout : doDecode stack (tabWidth.getD (.int 2)) hex = .error .typeError := by
        rw [doDecode_forest, JSON.stringifyGap, hthrow]
        rfl
      simp only [doTlv, Bool.false_eq_true, if_false, hout]
  · intro hshort
    obtain ⟨text, json, htext, hparse, hread⟩ :=
      parse_text (printable_forest hshort) h (tabWidth.getD (.int 2))
    refine ⟨String.ofList text, json, ?_, ?_⟩
    · have hout : doDecode stack (tabWidth.getD (.int 2)) hex = .ok (some (String.ofList text)) := by
        rw [doDecode_forest, htext]
        rfl
      simp only [doTlv, Bool.false_eq_true, if_false, hout, Option.getD_some]
    · show doEncode (String.ofList text) = _
      unfold doEncode
      rw [String.toList_ofList, hparse]
      dsimp only
      rw [hread, Option.map_some, encodeBuffer_reread]
      cases forestAny isByteString es <;> rfl

/-- A structure with a number and text comes back, and a stack of six calls is deep enough. -/
theorem doTlv_decode_encode_sample :
    let es : List Element := [.container none .struct
      [.leaf (some 1) (.unsigned 300),
        .leaf (some 2) (.text ⟨['o', 'k'], by simp [IsAscii], by decide⟩)]]
    let hex := String.ofList (toHex (forestWire es))
    ∃ text json, doTlv 6 { decode := some hex, tab_width := none } = some ⟨[.text text], .ok 0⟩ ∧
      doTlv 6 { encode := some text } = some ⟨[.text text, .value json, .text hex], .ok 0⟩ := by
  intro es hex
  exact (@doTlv_decode_encode es none 6 (by decide)).2 rfl

end Matternode.Shell
