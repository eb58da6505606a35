/-
  File:      Matternode/Protocols/ImPaths.lean
  Subject:   AttributePath and CommandPath, written by their own methods and read back.

  A path is one list with an entry for each id that it has. Its `serialize` writes them through the
  writer's methods; a command path has a template too, which the generic encoder walks.

  * `GivenId` -- an id that a path is given: absent, or a whole number;
  * `fieldsElement`, `tagged_fields` -- the list that is written, and what is found in it;
  * `attributePath_comes_back` -- **an attribute path reads back as its ids**;
  * `CommandPath.serialize`, `template_comes_back`, `encoders_disagree` -- **the template reads back,
    and serialize throws**: it asks for an attribute id, which a command path has not.
-/
import Matternode.Protocols.ImCommand

namespace Matternode.Protocols.InteractionModel

open Base Js Tlv

/-! ## 1. Ids and the fields that hold them -/

/-- An id that a path is given: none, or a whole number below 2^53; a `wide` one may be a bigint of
    more than 32 bits. -/
inductive GivenId (wide : Bool) : JsValue → Option Nat → Prop where
  | absent : GivenId wide .undefined none
  | number {x : Number} {n : Nat} (hx : IsInteger (.number x) n) (hn : n < 2 ^ 53) :
      GivenId wide (.number x) (some n)
  | bigint {n : Nat} (hwide : wide = true) (hlow : 2 ^ 32 ≤ n) (hn : n < 2 ^ 64) :
      GivenId wide (.bigint n) (some n)

/-- The fields of a path, by their tags. -/
abbrev PathFields := List (UInt8 × Option Nat)

def fieldElements (fields : PathFields) : List Element :=
  fields.flatMap fun field => idElements field.1 field.2

/-- A list with the ids that are there. -/
def fieldsElement (tag : UInt8) (fields : PathFields) : Element :=
  .container (some tag) .list (fieldElements fields)

theorem GivenId.lt {wide : Bool} {v : JsValue} {id : Option Nat} (h : GivenId wide v id) :
    ∀ n ∈ id, n < 2 ^ 64 := by
  cases h with
  | absent => nofun
  | number hx hn =>
    intro n hmem
    cases hmem
    omega
  | bigint hwide hlow hn =>
    intro n hmem
    cases hmem
    exact hn

/-- An id is written as its field, if it is there. -/
theorem putId_given {wide : Bool} {v : JsValue} {id : Option Nat} (tag : UInt8)
    (h : GivenId wide v id) : Appends (putId v tag.toNat) (forestWire (idElements tag id)) := by
  have hlt := h.lt
  cases h with
  | absent => exact appends_pure
  | number hx hn =>
    refine putUnsignedInt_field tag hx (hlt _ rfl) ?_
    intro k hk
    cases hk
  | bigint hwide hlow hn =>
    refine putUnsignedInt_field tag (.bigint _) (hlt _ rfl) ?_
    intro k _
    exact hlow

/-- What the reader makes of an unsigned integer holds the id. -/
theorem isId_integerValue {n : Nat} (hn : n < 2 ^ 64) :
    IsId (integerValue (unsignedWidth n) n) (some n) := by
  by_cases hlong : unsignedWidth n = 3
  · rw [integerValue, if_pos hlong]
    exact .bigint hn
  · rw [integerValue, if_neg hlong]
    refine .number ?_
    unfold unsignedWidth at hlong
    split at hlong
    · omega
    · split at hlong
      · omega
      · split at hlong
        · omega
        · exact absurd rfl hlong

theorem tagged_cons (entry : DeterministicJson) (entries : List DeterministicJson) (tag : Nat) :
    tagged (entry :: entries) tag =
      if entry.tag = some (tag : Int) then entry.value else tagged entries tag := by
  unfold tagged
  rw [List.find?_cons]
  by_cases h : entry.tag = some (tag : Int)
  · rw [if_pos h, decide_eq_true h]
    rfl
  · rw [if_neg h, decide_eq_false h]

/-- A field that is written in front is found under its own tag only. -/
theorem tagged_field (tag tag' : UInt8) (n : Nat) (fields : PathFields) :
    tagged (forestJson (fieldElements ((tag, some n) :: fields))) tag'.toNat =
      if tag = tag' then integerValue (unsignedWidth (UInt64.ofNat n).toNat) (UInt64.ofNat n).toNat
      else tagged (forestJson (fieldElements fields)) tag'.toNat := by
  have htag : jsonTag (some tag) = some (tag'.toNat : Int) ↔ tag = tag' := by
    unfold jsonTag
    rw [Option.map_some, Option.some.injEq, Int.natCast_inj, UInt8.toNat_inj]
  refine (tagged_cons _ _ _).trans ?_
  show (if jsonTag (some tag) = some (tag'.toNat : Int) then _ else _) = _
  simp only [htag]
  rfl

theorem tagged_fields_absent (fields : PathFields) {tag : UInt8}
    (h : tag ∉ fields.map Prod.fst) :
    tagged (forestJson (fieldElements fields)) tag.toNat = .undefined := by
  induction fields with
  | nil => rfl
  | cons field fields ih =>
    obtain ⟨tag', id⟩ := field
    rw [List.map_cons, List.mem_cons, not_or] at h
    cases id with
    | none => exact ih h.2
    | some n => rw [tagged_field, if_neg (Ne.symm h.1), ih h.2]

/-- **What is found under a tag**: the id of its field, or nothing where the field has none. -/
theorem tagged_fields {fields : PathFields} (hdistinct : (fields.map Prod.fst).Nodup) (tag : UInt8)
    {id : Option Nat} (hmem : (tag, id) ∈ fields) (hlt : ∀ n ∈ id, n < 2 ^ 64) :
    IsId (tagged (forestJson (fieldElements fields)) tag.toNat) id := by
  induction fields with
  | nil => cases hmem
  | cons field fields ih =>
    rw [List.map_cons, List.nodup_cons] at hdistinct
    rcases List.mem_cons.mp hmem with rfl | hrest
    · cases id with
      | none =>
        have habsent := tagged_fields_absent fields hdistinct.1
        exact habsent ▸ .absent
      | some n =>
        rw [tagged_field, if_pos rfl, UInt64.toNat_ofNat', Nat.mod_eq_of_lt (hlt n rfl)]
        exact isId_integerValue (hlt n rfl)
    · have hne : field.1 ≠ tag := by
        intro heq
        exact hdistinct.1 (heq ▸ List.mem_map_of_mem hrest)
      obtain ⟨tag', id'⟩ := field
      cases id' with
      | none => exact ih hdistinct.2 hrest
      | some n =>
        rw [tagged_field, if_neg hne]
        exact ih hdistinct.2 hrest

/-! ## 2. Attribute paths -/

/-- The ids that an attribute path was given. -/
structure AttributePath.Given (path : AttributePath) (ids : PathIds) : Prop where
  nodeId : GivenId true path.nodeId ids.nodeId
  endpointId : GivenId false path.endpointId ids.endpointId
  clusterId : GivenId false path.clusterId ids.clusterId
  attributeId : GivenId false path.attributeId ids.attributeId

/-- A path holds the ids, as numbers or as bigints. -/
structure AttributePath.Holds (path : AttributePath) (ids : PathIds) : Prop where
  nodeId : IsId path.nodeId ids.nodeId
  endpointId : IsId path.endpointId ids.endpointId
  clusterId : IsId path.clusterId ids.clusterId
  attributeId : IsId path.attributeId ids.attributeId

/-- The fields of an AttributePathIB. -/
def PathIds.fields (ids : PathIds) : PathFields :=
  [(1, ids.nodeId), (2, ids.endpointId), (3, ids.clusterId), (4, ids.attributeId)]

section AttributePaths

variable {path : AttributePath} {ids : PathIds}

theorem serialize_given (h : path.Given ids) (tag : UInt8) :
    Appends (path.serialize tag.toNat) (fieldsElement tag ids.fields).wire := by
  have hstart : Appends (putListStart (some (tag.toNat : Int))) (header tlvTypeList (some tag)) :=
    appends_append (encodeControlByte_plain (some tag) (by decide))
  have hall := hstart.bind ((putId_given 1 h.nodeId).bind ((putId_given 2 h.endpointId).bind
    ((putId_given 3 h.clusterId).bind ((putId_given 4 h.attributeId).bind
      putContainerEnd_appends))))
  unfold fieldsElement PathIds.fields fieldElements Element.wire
  simp only [List.flatMap_cons, List.flatMap_nil, List.append_nil, forestWire_append,
    List.append_assoc]
  exact hall

/-- The list of a path with these ids is read as one. -/
theorem holds_of_fields (h : path.Given ids) :
    ∃ path', AttributePath.ofTlv (.array (forestJson (fieldElements ids.fields))) = .ok path' ∧
      path'.Holds ids := by
  have hdistinct : (ids.fields.map Prod.fst).Nodup :=
    show [1, 2, 3, 4].Nodup by decide
  refine ⟨_, rfl, ?_⟩
  exact {
    nodeId := tagged_fields hdistinct 1 (by simp [PathIds.fields]) h.nodeId.lt
    endpointId := tagged_fields hdistinct 2 (by simp [PathIds.fields]) h.endpointId.lt
    clusterId := tagged_fields hdistinct 3 (by simp [PathIds.fields]) h.clusterId.lt
    attributeId := tagged_fields hdistinct 4 (by simp [PathIds.fields]) h.attributeId.lt }

/-- **An attribute path reads back as its ids**: whatever the writer holds, one list with the tag
    is appended to it. -/
theorem attributePath_comes_back (h : path.Given ids) (tag : UInt8) :
    ∃ bs entry path', Appends (path.serialize tag.toNat) bs ∧ decode bs = .ok [entry] ∧
      entry.tag = some (tag.toNat : Int) ∧ entry.type = some .list ∧
      AttributePath.ofTlv entry.value = .ok path' ∧ path'.Holds ids := by
  obtain ⟨path', hread, hholds⟩ := holds_of_fields h
  have hdecode := decode_forestWire [fieldsElement tag ids.fields]
  rw [forestWire, forestWire, List.append_nil] at hdecode
  exact ⟨_, _, path', serialize_given h tag, hdecode, rfl, rfl, hread, hholds⟩

/-- A path on endpoint 0 of a node with a long id. -/
theorem attributePath_comes_back_sample :
    ∃ bs entry path',
      Appends (AttributePath.serialize
        { nodeId := .bigint (2 ^ 40), endpointId := .nat 0, attributeId := .nat 70000 }
          (7 : UInt8).toNat) bs ∧
      decode bs = .ok [entry] ∧ entry.tag = some ((7 : UInt8).toNat : Int) ∧
      entry.type = some .list ∧ AttributePath.ofTlv entry.value = .ok path' ∧
      path'.Holds { nodeId := some (2 ^ 40), endpointId := some 0, attributeId := some 70000 } :=
  attributePath_comes_back ⟨.bigint rfl (by decide) (by decide), .number (.number 0) (by decide),
    .absent, .number (.number 70000) (by decide)⟩ 7

end AttributePaths

/-! ## 3. Command paths -/

/-- `path.AttributeId`: the class has no such property. -/
def CommandPath.attributeIdProperty (_ : CommandPath) : JsValue := .undefined

/-- `if (this.CommandId != undefined) { writer.putUnsignedInt(this.AttributeId, …) }`. -/
def CommandPath.putCommandId (path : CommandPath) : WriterM Unit :=
  match path.commandId with
  | .undefined => pure ()
  | _ => putUnsignedInt path.attributeIdProperty (some 2)

/-- `path.serialize(writer, tag)`. -/
def CommandPath.serialize (path : CommandPath) (tag : Int := 0) : WriterM Unit := do
  putListStart (some tag)
  putId path.endpointId 0
  putId path.clusterId 1
  path.putCommandId
  putContainerEnd

/-- The ids of a command path. -/
structure CommandPathIds where
  endpointId : Nat
  clusterId : Nat
  commandId : Nat

/-- The ids that a command path was given. -/
structure CommandPath.Given (path : CommandPath) (ids : CommandPathIds) : Prop where
  endpointId : GivenId false path.endpointId (some ids.endpointId)
  clusterId : GivenId false path.clusterId (some ids.clusterId)
  commandId : GivenId false path.commandId (some ids.commandId)

/-- A path holds the ids, as numbers or as bigints. -/
structure CommandPath.Holds (path : CommandPath) (ids : CommandPathIds) : Prop where
  endpointId : IsId path.endpointId (some ids.endpointId)
  clusterId : IsId path.clusterId (some ids.clusterId)
  commandId : IsId path.commandId (some ids.commandId)

def CommandPathIds.fields (ids : CommandPathIds) : PathFields :=
  [(0, some ids.endpointId), (1, some ids.clusterId), (2, some ids.commandId)]

/-- The bytes are one list, which a command path reads its ids from. -/
def CommandPath.ReadsBack (ids : CommandPathIds) (bs : Bytes) : Prop :=
  ∃ entry path', decode bs = .ok [entry] ∧ CommandPath.ofTlv entry.value = .ok path' ∧
    path'.Holds ids

/-- Both encoders append the same bytes to every writer, and these read back. -/
def CommandPath.EncodersAgree (path : CommandPath) (ids : CommandPathIds) (tag : UInt8) : Prop :=
  ∃ bs, Appends (path.serialize tag.toNat) bs ∧
    Appends (encode (.object (path.template tag.toNat))) bs ∧ CommandPath.ReadsBack ids bs

section CommandPaths

variable {path : CommandPath} {ids : CommandPathIds}

/-- A number of a template, under the label of a short integer. -/
theorem GivenId.isGivenBy {v : JsValue} {n : Nat} (h : GivenId false v (some n)) (tag : UInt8) :
    (Element.leaf (some tag) (.unsigned (UInt64.ofNat n))).IsGivenBy (field tag.toNat .uint16 v) := by
  have hnat : (UInt64.ofNat n).toNat = n := by
    rw [UInt64.toNat_ofNat', Nat.mod_eq_of_lt (h.lt n rfl)]
  cases h with
  | number hx hn =>
    exact .leaf none (.unsigned (by simp) (by rw [hnat]; exact hx) nofun)
  | bigint hwide _ _ => cases hwide

/-- **The template is written and reads back.** -/
theorem template_comes_back (h : path.Given ids) (tag : UInt8) :
    ∃ bs, Appends (encode (.object (path.template tag.toNat))) bs ∧
      CommandPath.ReadsBack ids bs := by
  have hgiven : (fieldsElement tag ids.fields).IsGivenBy (path.template tag.toNat) :=
    .container none (.cons (h.endpointId.isGivenBy 0) (.cons (h.clusterId.isGivenBy 1)
      (.cons (h.commandId.isGivenBy 2) .nil)))
  have hwrite : Appends (encode (.object (path.template tag.toNat)))
      (fieldsElement tag ids.fields).wire := by
    unfold encode perform
    exact performEntry_given hgiven
  have hdecode := decode_forestWire [fieldsElement tag ids.fields]
  rw [forestWire, forestWire, List.append_nil] at hdecode
  have hdistinct : (ids.fields.map Prod.fst).Nodup :=
    show [0, 1, 2].Nodup by decide
  refine ⟨_, hwrite, _, _, hdecode, rfl, ?_⟩
  exact {
    endpointId := tagged_fields hdistinct 0 (by simp [CommandPathIds.fields]) h.endpointId.lt
    clusterId := tagged_fields hdistinct 1 (by simp [CommandPathIds.fields]) h.clusterId.lt
    commandId := tagged_fields hdistinct 2 (by simp [CommandPathIds.fields]) h.commandId.lt }

/-- **A path with a command id makes `serialize` throw.** -/
theorem serialize_throws (h : path.Given ids) (tag : UInt8) (w : TlvWriter) :
    ∃ e w', (path.serialize tag.toNat).run w = .error e w' := by
  have hstart : Appends (putListStart (some (tag.toNat : Int))) (header tlvTypeList (some tag)) :=
    appends_append (encodeControlByte_plain (some tag) (by decide))
  have hendpoint : Appends (putId path.endpointId 0) _ := putId_given 0 h.endpointId
  have hcluster : Appends (putId path.clusterId 1) _ := putId_given 1 h.clusterId
  have hcommand : path.putCommandId = putUnsignedInt path.attributeIdProperty (some 2) := by
    have hgiven := h.commandId
    unfold CommandPath.putCommandId
    cases hid : path.commandId with
    | undefined =>
      rw [hid] at hgiven
      cases hgiven
    | _ => rfl
  unfold CommandPath.serialize
  rw [run_bind_ok (hstart w), run_bind_ok (hendpoint _), run_bind_ok (hcluster _), hcommand]
  exact ⟨_, _, rfl⟩

/-- **The two encoders never agree** on a path with its three ids. -/
theorem encoders_disagree (h : path.Given ids) (tag : UInt8) : ¬ path.EncodersAgree ids tag := by
  intro hagree
  obtain ⟨bs, hserialize, -, -⟩ := hagree
  obtain ⟨e, w', hthrows⟩ := serialize_throws h tag {}
  rw [hserialize {}] at hthrows
  cases hthrows

/-- ArmFailSafe of the general commissioning cluster. -/
def armFailSafe : CommandPath where
  endpointId := .nat 0
  clusterId := .nat 48
  commandId := .nat 0

theorem armFailSafe_given : armFailSafe.Given ⟨0, 48, 0⟩ where
  endpointId := .number (.number 0) (by decide)
  clusterId := .number (.number 48) (by decide)
  commandId := .number (.number 0) (by decide)

theorem encoders_disagree_sample : ¬ armFailSafe.EncodersAgree ⟨0, 48, 0⟩ 1 :=
  encoders_disagree armFailSafe_given 1

/-- **No new writer takes the path.** -/
theorem armFailSafe_not_serialized :
    armFailSafe.Given ⟨0, 48, 0⟩ ∧ ¬ armFailSafe.EncodersAgree ⟨0, 48, 0⟩ 0 := by
  refine ⟨armFailSafe_given, ?_⟩
  intro hagree
  obtain ⟨bs, hserialize, -, -⟩ := hagree
  cases (hserialize {}).symm.trans rfl

end CommandPaths

end Matternode.Protocols.InteractionModel
