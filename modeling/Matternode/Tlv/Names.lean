/-
  File:      Matternode/Tlv/Names.lean
  Subject:   Fields found by the names of their tags, against fields found by their tags.

  `mapFields` asks whether a tag is truthy before it looks it up, so a field with tag 0 gets no name.

  * `TagMap` -- a map from tags to names, one name a tag and one tag a name;
  * `nameField_tagName` -- which fields get which name;
  * `LooksUpAlike`, `looksUpAlike_iff` -- **when both look-ups find the same**;
  * `Unnamed`, `decode_unnamed` -- the reader gives no names, at any depth.
-/
import Mathlib.Data.List.Find
import Mathlib.Data.List.Nodup
import Matternode.Tlv.Items
import Matternode.Tlv.Parser

namespace Matternode.Tlv.Parser

open Base Js

/-! ## 1. Maps -/

/-- An injective map. -/
structure TagMap where
  rows : List (Nat × String)
  tagsDistinct : (rows.map Prod.fst).Nodup
  namesDistinct : (rows.map Prod.snd).Nodup

/-- The map as `mapFields` takes it. -/
def TagMap.names (m : TagMap) : TagNames := m.rows.map fun row => (row.1, row.2)

/-- Naming changes no tag and no value, and a name finds what its tag finds. -/
def LooksUpAlike (fields : List DeterministicJson) (m : TagMap) : Prop :=
  ∃ named, mapFields (.array fields) m.names = .ok (.array named) ∧
    named.map (·.tag) = fields.map (·.tag) ∧ named.map (·.value) = fields.map (·.value) ∧
    ∀ tag name, (tag, name) ∈ m.rows → get (.array named) name = findTag (.array fields) tag

section Rows

variable {m : TagMap} {tag : Nat} {name : String}

/-- A tag of the map has its name there, and no other tag has it. -/
theorem TagMap.nameOf_eq_iff (hrow : (tag, name) ∈ m.rows) (tag' : Int) :
    nameOf m.names tag' = some name ↔ tag' = tag := by
  unfold nameOf
  constructor
  · intro hname
    obtain ⟨found, hfound, hsecond⟩ := Option.map_eq_some_iff.mp hname
    obtain ⟨row, hmem, rfl⟩ := List.mem_map.mp (List.mem_of_find?_eq_some hfound)
    have htag : (row.1 : Int) = tag' := by simpa using List.find?_some hfound
    have heq : row = (tag, name) := List.inj_on_of_nodup_map m.namesDistinct hmem hrow hsecond
    rw [← htag, heq]
  · rintro rfl
    cases hfound : m.names.find? (·.1 = (tag : Int)) with
    | none =>
      have habsent := List.find?_eq_none.mp hfound _ (List.mem_map_of_mem hrow)
      exact absurd (decide_eq_true rfl) habsent
    | some found =>
      obtain ⟨row, hmem, rfl⟩ := List.mem_map.mp (List.mem_of_find?_eq_some hfound)
      have htag : (row.1 : Int) = tag := by simpa using List.find?_some hfound
      have heq : row = (tag, name) :=
        List.inj_on_of_nodup_map m.tagsDistinct hmem hrow (Int.ofNat_inj.mp htag)
      rw [heq]
      rfl

/-! ## 2. What naming does -/

theorem nameField_tag (tagNames : TagNames) (entry : DeterministicJson) :
    (nameField tagNames entry).tag = entry.tag := by
  unfold nameField
  split
  · rfl
  · split
    · rfl
    · split <;> rfl

theorem nameField_value (tagNames : TagNames) (entry : DeterministicJson) :
    (nameField tagNames entry).value = entry.value := by
  unfold nameField
  split
  · rfl
  · split
    · rfl
    · split <;> rfl

/-- **A field without a name gets one exactly when** its tag has it, and is not 0. -/
theorem nameField_tagName (hrow : (tag, name) ∈ m.rows) {entry : DeterministicJson}
    (hnew : entry.tagName = none) :
    (nameField m.names entry).tagName = some name ↔ entry.tag = some (tag : Int) ∧ tag ≠ 0 := by
  unfold nameField
  cases htag : entry.tag with
  | none =>
    dsimp only
    rw [hnew]
    exact iff_of_false nofun fun h => nomatch h.1
  | some tag' =>
    have hname := m.nameOf_eq_iff hrow tag'
    rw [Option.some.injEq]
    dsimp only
    by_cases hzero : tag' = 0
    · rw [if_pos hzero, hnew]
      refine iff_of_false nofun ?_
      intro h
      omega
    · rw [if_neg hzero]
      cases hfound : nameOf m.names tag' with
      | none =>
        dsimp only
        rw [hnew]
        refine iff_of_false nofun ?_
        intro h
        rw [hname.mpr h.1] at hfound
        cases hfound
      | some name' =>
        rw [hfound, Option.some.injEq] at hname
        dsimp only
        rw [Option.some.injEq, hname]
        refine ⟨fun h => ⟨h, ?_⟩, fun h => h.1⟩
        omega

/-! ## 3. Look-ups -/

/-- What is found by the name of a tag, once the fields are named. -/
theorem get_named (hrow : (tag, name) ∈ m.rows) {fields : List DeterministicJson}
    (hnew : ∀ entry ∈ fields, entry.tagName = none) :
    get (.array (fields.map (nameField m.names))) name =
      .ok (if tag = 0 then .undefined else tagged fields tag) := by
  have hfind : (fields.map (nameField m.names)).find? (·.tagName = some name) =
      (fields.find? fun entry => entry.tag = some (tag : Int) ∧ tag ≠ 0).map
        (nameField m.names) := by
    rw [List.find?_map]
    congr 1
    refine List.find?_congr ?_
    intro entry hentry
    exact decide_eq_decide.mpr (nameField_tagName hrow (hnew entry hentry))
  unfold get
  dsimp only
  rw [hfind]
  by_cases hzero : tag = 0
  · have hnone : (fields.find? fun entry => entry.tag = some (tag : Int) ∧ tag ≠ 0) = none := by
      refine List.find?_eq_none.mpr ?_
      intro entry _ h
      exact (of_decide_eq_true h).2 hzero
    rw [hnone, if_pos hzero]
    rfl
  · rw [if_neg hzero, tagged]
    have hsame : (fields.find? fun entry => entry.tag = some (tag : Int) ∧ tag ≠ 0) =
        fields.find? fun entry => entry.tag = some (tag : Int) := by
      refine List.find?_congr ?_
      intro entry _
      exact decide_eq_decide.mpr (and_iff_left hzero)
    rw [hsame]
    cases fields.find? fun entry => entry.tag = some (tag : Int) with
    | none => rfl
    | some entry => exact congrArg Except.ok (nameField_value m.names entry)

end Rows

/-- **Both look-ups find the same exactly when** the map does not name tag 0, or nothing else than
    `undefined` is found there. -/
theorem looksUpAlike_iff {fields : List DeterministicJson} (m : TagMap)
    (hnew : ∀ entry ∈ fields, entry.tagName = none) :
    LooksUpAlike fields m ↔ 0 ∉ m.rows.map Prod.fst ∨ tagged fields 0 = .undefined := by
  constructor
  · intro h
    obtain ⟨named, hnamed, -, -, hall⟩ := h
    obtain rfl : fields.map (nameField m.names) = named := by
      simpa only [mapFields, Except.ok.injEq, JsValue.array.injEq] using hnamed
    by_cases hmem : 0 ∈ m.rows.map Prod.fst
    · obtain ⟨row, hrow, hzero⟩ := List.mem_map.mp hmem
      obtain ⟨tag, name⟩ := row
      obtain rfl : tag = 0 := hzero
      have hfound := hall 0 name hrow
      rw [get_named hrow hnew, if_pos rfl] at hfound
      exact .inr (Except.ok.inj hfound).symm
    · exact .inl hmem
  · intro h
    refine ⟨fields.map (nameField m.names), rfl, ?_, ?_, ?_⟩
    · rw [List.map_map]
      exact List.map_congr_left fun entry _ => nameField_tag m.names entry
    · rw [List.map_map]
      exact List.map_congr_left fun entry _ => nameField_value m.names entry
    · intro tag name hrow
      rw [get_named hrow hnew, findTag]
      by_cases hzero : tag = 0
      · subst hzero
        rcases h with habsent | hundefined
        · exact absurd (List.mem_map_of_mem hrow) habsent
        · rw [if_pos rfl, hundefined]
      · rw [if_neg hzero]

/-- Names as the codec of a path with tags 0 and 1 would have them. -/
def samplePathMap : TagMap where
  rows := [(0, "EndpointId"), (1, "ClusterId")]
  tagsDistinct := by decide
  namesDistinct := by decide

theorem looksUpAlike_iff_sample :
    LooksUpAlike [{ tag := some 1, value := .nat 6 }] samplePathMap ↔
      0 ∉ samplePathMap.rows.map Prod.fst ∨
        tagged [{ tag := some 1, value := .nat 6 }] 0 = .undefined :=
  looksUpAlike_iff samplePathMap (by simp)

/-- The field with tag 0 is found by its tag only. -/
theorem tag_zero_unnamed :
    ¬ LooksUpAlike [{ tag := some 0, value := .nat 1 }] samplePathMap := by
  intro h
  obtain ⟨named, hnamed, -, -, hall⟩ := h
  have hfound := hall 0 "EndpointId" (by decide)
  simp only [mapFields, Except.ok.injEq, JsValue.array.injEq] at hnamed
  subst hnamed
  simp [nameField, get, findTag, tagged] at hfound

/-! ## 4. What the reader answers -/

mutual

/-- No entry in the value has a name. -/
def Unnamed : JsValue → Prop
  | .array entries => UnnamedEntries entries
  | .object ⟨_, _, _, value, tagName⟩ => tagName = none ∧ Unnamed value
  | _ => True

def UnnamedEntries : List DeterministicJson → Prop
  | [] => True
  | ⟨_, _, _, value, tagName⟩ :: entries =>
    (tagName = none ∧ Unnamed value) ∧ UnnamedEntries entries

end

theorem unnamedEntries_iff (entries : List DeterministicJson) :
    UnnamedEntries entries ↔ ∀ e ∈ entries, e.tagName = none ∧ Unnamed e.value := by
  induction entries with
  | nil => exact iff_of_true trivial (List.forall_mem_nil _)
  | cons e entries ih =>
    rw [List.forall_mem_cons, ← ih]
    rfl

theorem unnamedEntries_append {entries entries' : List DeterministicJson} :
    UnnamedEntries (entries ++ entries') ↔ UnnamedEntries entries ∧ UnnamedEntries entries' := by
  simp only [unnamedEntries_iff, List.forall_mem_append]

/-- What is found in unnamed entries is unnamed. -/
theorem unnamed_tagged {entries : List DeterministicJson} (h : UnnamedEntries entries)
    (tag : Nat) : Unnamed (tagged entries tag) := by
  unfold tagged
  cases hfound : entries.find? fun e => e.tag = some (tag : Int) with
  | none => exact trivial
  | some e => exact ((unnamedEntries_iff entries).mp h e (List.mem_of_find?_eq_some hfound)).2

/-- An item's entry has no name, and no entries yet. -/
theorem unnamed_entry (i : Item) : i.entry.tagName = none ∧ Unnamed i.entry.value := by
  refine ⟨rfl, ?_⟩
  show Unnamed (i.type.value i.field i.content)
  unfold ElementType.value integerValue
  cases i.type with
  | signed k => dsimp only; split <;> exact trivial
  | unsigned k => dsimp only; split <;> exact trivial
  | text k => dsimp only; split <;> exact trivial
  | bytes k => dsimp only; split <;> exact trivial
  | boolean _ | float | double | container _ | null | endOfCollection | reserved _ => exact trivial

/-- Neither the entries of a reader nor what it has open has names. -/
structure UnnamedReader (r : TlvReader) : Prop where
  container : UnnamedEntries r.container
  containerStack : ∀ o ∈ r.containerStack, UnnamedEntries o.around ∧ o.entry.tagName = none

theorem unnamed_close {o : OpenContainer} {filled : List DeterministicJson}
    (ho : UnnamedEntries o.around ∧ o.entry.tagName = none) (h : UnnamedEntries filled) :
    UnnamedEntries (o.close filled) :=
  unnamedEntries_append.mpr ⟨ho.1, ⟨ho.2, h⟩, trivial⟩

theorem UnnamedReader.step {r : TlvReader} (h : UnnamedReader r) (type : Nat)
    {decoding : DeterministicJson} (hnew : decoding.tagName = none ∧ Unnamed decoding.value) :
    UnnamedReader (r.step type decoding) := by
  unfold TlvReader.step
  split
  · split
    · exact ⟨h.container, h.containerStack⟩
    · rename_i o stack hstack
      have hall := h.containerStack
      rw [hstack] at hall
      exact ⟨unnamed_close (hall o (List.mem_cons_self ..)) h.container,
        fun o' ho' => hall o' (List.mem_cons_of_mem o ho')⟩
  · split
    · refine ⟨trivial, ?_⟩
      intro o ho
      rcases List.mem_cons.mp ho with rfl | hmem
      · exact ⟨h.container, hnew.1⟩
      · exact h.containerStack o hmem
    · exact ⟨unnamedEntries_append.mpr ⟨h.container, hnew, trivial⟩, h.containerStack⟩

theorem UnnamedReader.loop {fuel : Nat} {tlv : Bytes} {r r' : TlvReader} (h : UnnamedReader r)
    (hloop : decodeLoop fuel tlv r = .ok r') : UnnamedReader r' := by
  induction fuel generalizing tlv r with
  | zero =>
    cases hloop
    exact h
  | succ fuel ih =>
    unfold decodeLoop at hloop
    split at hloop
    · split at hloop
      · rename_i type decoding rest hentry
        obtain ⟨i, -, -, rfl, -⟩ := decodeEntry_eq_ok hentry
        exact ih (h.step type (unnamed_entry i)) hloop
      · cases hloop
    · cases hloop
      exact h

/-- What a reader answers while containers are open: each is closed in turn. -/
theorem unnamed_foldl (stack : List OpenContainer) {filled : List DeterministicJson}
    (hstack : ∀ o ∈ stack, UnnamedEntries o.around ∧ o.entry.tagName = none)
    (h : UnnamedEntries filled) :
    UnnamedEntries (stack.foldl (fun filled o => o.close filled) filled) := by
  induction stack generalizing filled with
  | nil => exact h
  | cons o stack ih =>
    exact ih (fun o' ho' => hstack o' (List.mem_cons_of_mem o ho'))
      (unnamed_close (hstack o (List.mem_cons_self ..)) h)

/-- **The reader gives no names.** -/
theorem decode_unnamed {tlv : Bytes} {result : List DeterministicJson}
    (h : decode tlv = .ok result) : UnnamedEntries result := by
  unfold decode at h
  cases hloop : decodeLoop tlv.length tlv {} with
  | error e =>
    rw [hloop] at h
    cases h
  | ok r =>
    rw [hloop] at h
    cases h
    have hfresh : UnnamedReader {} := ⟨trivial, List.forall_mem_nil _⟩
    have hread := hfresh.loop hloop
    exact unnamed_foldl r.containerStack hread.containerStack hread.container

/-- In entries without names, the name of a tag finds what the tag finds. -/
theorem get_mapFields {m : TagMap} {tag : Nat} {name : String} (hrow : (tag, name) ∈ m.rows)
    (hzero : tag ≠ 0) {fields : List DeterministicJson} (h : UnnamedEntries fields) :
    get (.array (fields.map (nameField m.names))) name = .ok (tagged fields tag) := by
  rw [get_named hrow fun entry hentry => ((unnamedEntries_iff fields).mp h entry hentry).1,
    if_neg hzero]

end Matternode.Tlv.Parser
