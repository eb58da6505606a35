/-
  File:      Matternode/Tlv/Grammar.lean
  Subject:   The grammar of element sequences, and the one the reader accepts.

  * `Sequence P` -- elements in a row, every container closed by an end marker of its own; `P` says
    which items may stand in it;
  * `Permitted` -- the items of the format: no reserved type, no tag on an end marker;
  * `Tail P` -- what the end of the input may leave: a string cut short, containers open;
  * `Accepted P` -- a sequence and its tail, or a sequence and one end marker more;
  * `Sequence.descend`, `Tail.descend`, `descend_parse` -- the descent takes exactly these;
  * **`accounts_iff`** -- the reader accounts for every byte of exactly the accepted buffers, as
    long as it meets no string with a length of eight bytes;
  * `accounts_malformed` -- so it takes buffers that are no sequence of permitted items.
-/
import Matternode.Tlv.Descent

namespace Matternode.Tlv

open Base Js

/-! ## 1. Sequences -/

namespace Item

/-- The content is as long as its length says. -/
def Whole (i : Item) : Prop := i.content.length = i.type.declaredLength i.field

/-- An element without entries. -/
def IsLeaf (i : Item) : Prop := ¬ i.type.IsContainer ∧ i.type ≠ .endOfCollection ∧ i.Whole

/-- The start of a container. -/
def Opens (i : Item) : Prop := i.type.IsContainer ∧ i.Whole

/-- An end marker. -/
def Closes (i : Item) : Prop := i.type = .endOfCollection ∧ i.Whole

/-- An item of the format: of no reserved type, and an end marker without a tag. -/
def Permitted (i : Item) : Prop :=
  (∀ n, i.type ≠ .reserved n) ∧ (i.type = .endOfCollection → i.control = .anonymous)

/-- Any item but a string with a length of eight bytes. -/
def Short (i : Item) : Prop := ¬ i.type.Long

end Item

/-- A sequence of elements, of items that meet `P`. -/
inductive Sequence (P : Item → Prop) : Bytes → Prop where
  | nil : Sequence P []
  | leaf {i : Item} {rest : Bytes} (hi : i.IsLeaf) (hp : P i) (hs : Sequence P rest) :
      Sequence P (i.wire ++ rest)
  | container {i closing : Item} {children rest : Bytes} (hi : i.Opens) (hp : P i)
      (hc : Sequence P children) (hclosing : closing.Closes) (hp' : P closing)
      (hs : Sequence P rest) :
      Sequence P (i.wire ++ (children ++ (closing.wire ++ rest)))

theorem Sequence.imp {P Q : Item → Prop} (h : ∀ i, P i → Q i) {s : Bytes} (hs : Sequence P s) :
    Sequence Q s := by
  induction hs with
  | nil => exact .nil
  | leaf hi hp _ ih => exact .leaf hi (h _ hp) ih
  | container hi hp _ hclosing hp' _ ihc ih => exact .container hi (h _ hp) ihc hclosing (h _ hp') ih

/-- What the end of the input may leave behind a sequence. -/
inductive Tail (P : Item → Prop) : Bytes → Prop where
  | done : Tail P []
  | cut {i : Item} (hi : i.CutShort) (hp : P i) : Tail P i.wire
  | opened {i : Item} {children tail : Bytes} (hi : i.Opens) (hp : P i) (hc : Sequence P children)
      (ht : Tail P tail) : Tail P (i.wire ++ (children ++ tail))

/-- A sequence, and behind it what the end of the input leaves, or an end marker. -/
def Accepted (P : Item → Prop) (b : Bytes) : Prop :=
  ∃ s t, Sequence P s ∧ b = s ++ t ∧ (Tail P t ∨ ∃ closing : Item, closing.Closes ∧ t = closing.wire)

/-! ## 2. What the reader takes for a string with a length of eight bytes -/

def longLabel (type : Option TypeLabel) : Prop :=
  type = some .stringUint64Len ∨ type = some .bufferUint64Len

mutual

/-- No entry in the value is of a type that `longLabel` names. -/
def valueShort : JsValue → Prop
  | .array entries => entriesShort entries
  | .object entry => entryShort entry
  | _ => True

def entryShort : Entry JsValue → Prop
  | ⟨_, _, type, value, _⟩ => ¬ longLabel type ∧ valueShort value

def entriesShort : List (Entry JsValue) → Prop
  | [] => True
  | entry :: entries => entryShort entry ∧ entriesShort entries

end

theorem entriesShort_append (es es' : List DeterministicJson) :
    entriesShort (es ++ es') ↔ entriesShort es ∧ entriesShort es' := by
  induction es with
  | nil => simp [entriesShort]
  | cons e es ih => simp [entriesShort, ih, and_assoc]

/-- The label of an item says whether it is long. -/
theorem longLabel_iff (t : ElementType) : longLabel (elementTypes t.code) ↔ t.Long := by
  unfold longLabel ElementType.Long
  cases t with
  | signed k => revert k; decide
  | unsigned k => revert k; decide
  | text k => revert k; decide
  | bytes k => revert k; decide
  | boolean b => cases b <;> decide
  | container kind => cases kind <;> decide
  | reserved n => revert n; decide
  | float => decide
  | double => decide
  | null => decide
  | endOfCollection => decide

/-! ## 3. The descent takes sequences -/

section Items

variable {i : Item} {rest : Bytes}

/-- An unsigned integer is an element of the format. -/
theorem isLeaf_unsigned (c : TagControl) (k : Fin 4) {tag field : Bytes}
    (htag : tag.length = c.width) (hfield : field.length = (ElementType.unsigned k).width) :
    Item.IsLeaf ⟨c, .unsigned k, tag, field, [], htag, hfield⟩ ∧
      Item.Permitted ⟨c, .unsigned k, tag, field, [], htag, hfield⟩ := by
  refine ⟨⟨?_, nofun, rfl⟩, nofun, nofun⟩
  rintro ⟨kind, hkind⟩
  cases hkind

theorem Item.Whole.full (h : i.Whole) (hshort : i.Short) : i.Full := by
  unfold Item.Full ElementType.contentLength
  rw [if_neg hshort]
  exact h

theorem Item.Full.whole (h : i.Full) (hshort : i.Short) : i.Whole := by
  unfold Item.Full ElementType.contentLength at h
  rw [if_neg hshort] at h
  exact h

/-- The start of a container and an end marker have no length, so none of eight bytes. -/
theorem Item.short_of_container (h : i.type.IsContainer) : i.Short := by
  obtain ⟨kind, hkind⟩ := h
  intro hlong
  rcases hlong with hlong | hlong <;> rw [hkind] at hlong <;> cases hlong

theorem Item.short_of_end (h : i.type = .endOfCollection) : i.Short := by
  intro hlong
  rcases hlong with hlong | hlong <;> rw [h] at hlong <;> cases hlong

/-- What has no length is not cut short. -/
theorem Item.whole_of_container (h : i.type.IsContainer)
    (hread : i.Full ∨ i.CutShort ∧ rest = []) : i.Whole := by
  rcases hread with hfull | ⟨hcut, _⟩
  · exact hfull.whole (short_of_container h)
  · obtain ⟨kind, hkind⟩ := h
    unfold Item.CutShort at hcut
    rw [hkind] at hcut
    exact absurd hcut (Nat.not_lt_zero _)

theorem Item.whole_of_end (h : i.type = .endOfCollection)
    (hread : i.Full ∨ i.CutShort ∧ rest = []) : i.Whole := by
  rcases hread with hfull | ⟨hcut, _⟩
  · exact hfull.whole (short_of_end h)
  · unfold Item.CutShort at hcut
    rw [h] at hcut
    exact absurd hcut (Nat.not_lt_zero _)

theorem not_end_of_container (h : i.type.IsContainer) : i.type ≠ .endOfCollection := by
  obtain ⟨kind, hkind⟩ := h
  rw [hkind]
  intro hend
  cases hend

/-- An element without entries is read and the descent goes on behind it. -/
theorem descend_leaf (hc : ¬ i.type.IsContainer) (hend : i.type ≠ .endOfCollection)
    (hread : i.Full ∨ i.CutShort ∧ rest = []) :
    recursiveDescent (i.wire ++ rest) = (do
      let (siblings, rest) ← recursiveDescent rest
      return (i.entry :: siblings, rest)) := by
  rw [descend_entry (decodeEntry_wire i hread), if_neg (mt ElementType.code_eq_end.mp hend),
    if_neg (mt ElementType.code_eq_container.mp hc)]

/-- A container is read, then its entries, then the descent goes on behind it. -/
theorem descend_opens (hi : i.Opens) :
    recursiveDescent (i.wire ++ rest) = (do
      let (children, rest) ← recursiveDescent rest
      let (siblings, rest) ← recursiveDescent rest
      return ({ i.entry with value := .array children } :: siblings, rest)) := by
  rw [descend_entry (decodeEntry_wire i (.inl (hi.2.full (Item.short_of_container hi.1)))),
    if_neg (mt ElementType.code_eq_end.mp (not_end_of_container hi.1)),
    if_pos (ElementType.code_eq_container.mpr hi.1)]

/-- An end marker ends the descent. -/
theorem descend_closes (hi : i.Closes) : recursiveDescent (i.wire ++ rest) = .ok ([], rest) := by
  rw [descend_entry (decodeEntry_wire i (.inl (hi.2.full (Item.short_of_end hi.1)))),
    if_pos (ElementType.code_eq_end.mpr hi.1)]

theorem entryShort_entry (h : i.Short) : entryShort i.entry := by
  have hvalue : valueShort (i.type.value i.field i.content) := by
    cases i.type with
    | signed k => unfold ElementType.value integerValue; dsimp only; split <;> trivial
    | unsigned k => unfold ElementType.value integerValue; dsimp only; split <;> trivial
    | text k => unfold ElementType.value; dsimp only; split <;> trivial
    | bytes k => unfold ElementType.value; dsimp only; split <;> trivial
    | boolean b => trivial
    | container kind => trivial
    | reserved n => trivial
    | float => trivial
    | double => trivial
    | null => trivial
    | endOfCollection => trivial
  exact ⟨mt (longLabel_iff i.type).mp h, hvalue⟩

theorem entryShort_container {children : List DeterministicJson} (h : i.Short)
    (hc : entriesShort children) : entryShort { i.entry with value := .array children } :=
  ⟨mt (longLabel_iff i.type).mp h, hc⟩

theorem short_of_entryShort (value : JsValue) (h : entryShort { i.entry with value := value }) :
    i.Short := mt (longLabel_iff i.type).mpr h.1

end Items

/-- **A sequence is read as a forest**, whatever stands behind it; and what each element adds to a
    relation between bytes and entries holds of the sequence and its forest. -/
theorem Sequence.read {P : Item → Prop} {Q : Bytes → List DeterministicJson → Prop}
    (hP : ∀ i, P i → i.Short) (hnil : Q [] [])
    (hleaf : ∀ (i : Item) (s : Bytes) (forest : List DeterministicJson), i.IsLeaf → P i →
      Q s forest → Q (i.wire ++ s) (i.entry :: forest))
    (hcontainer : ∀ (i closing : Item) (children s : Bytes)
      (entries forest : List DeterministicJson), i.Opens → P i → closing.Closes → P closing →
      Q children entries → Q s forest →
      Q (i.wire ++ (children ++ (closing.wire ++ s)))
        ({ i.entry with value := .array entries } :: forest))
    {s : Bytes} (h : Sequence P s) : ∃ forest, Q s forest ∧ ∀ rest,
      recursiveDescent (s ++ rest) = (do
        let (siblings, rest) ← recursiveDescent rest
        return (forest ++ siblings, rest)) := by
  induction h with
  | nil =>
    refine ⟨[], hnil, fun rest => ?_⟩
    show recursiveDescent rest = _
    cases recursiveDescent rest <;> rfl
  | @leaf i s hi hp _ ih =>
    obtain ⟨forest, hforest, hread⟩ := ih
    refine ⟨i.entry :: forest, hleaf i s forest hi hp hforest, fun rest => ?_⟩
    rw [List.append_assoc, descend_leaf hi.1 hi.2.1 (.inl (hi.2.2.full (hP _ hp))), hread]
    cases recursiveDescent rest <;> rfl
  | @container i closing children s hi hp _ hclosing hp' _ ihc ih =>
    obtain ⟨entries, hentries, hchildren⟩ := ihc
    obtain ⟨forest, hforest, hread⟩ := ih
    refine ⟨_, hcontainer i closing children s entries forest hi hp hclosing hp' hentries hforest,
      fun rest => ?_⟩
    simp only [List.append_assoc]
    rw [descend_opens hi, hchildren, descend_closes hclosing]
    dsimp only [bind, Except.bind, pure, Except.pure]
    rw [List.append_nil, hread]
    cases recursiveDescent rest <;> rfl

/-- A sequence without long strings is read without them. -/
theorem Sequence.descend {P : Item → Prop} (hP : ∀ i, P i → i.Short) {s : Bytes}
    (h : Sequence P s) : ∃ forest, entriesShort forest ∧ ∀ rest,
      recursiveDescent (s ++ rest) = (do
        let (siblings, rest) ← recursiveDescent rest
        return (forest ++ siblings, rest)) := by
  refine h.read (Q := fun _ forest => entriesShort forest) hP trivial ?_ ?_
  · intro i s forest _ hp hforest
    exact ⟨entryShort_entry (hP i hp), hforest⟩
  · intro i closing children s entries forest _ hp _ _ hentries hforest
    exact ⟨entryShort_container (hP i hp) hentries, hforest⟩

/-- A tail is read to its end. -/
theorem Tail.descend {P : Item → Prop} (hP : ∀ i, P i → i.Short) {t : Bytes} (h : Tail P t) :
    ∃ forest, entriesShort forest ∧ recursiveDescent t = .ok (forest, []) := by
  induction h with
  | done => exact ⟨[], trivial, rfl⟩
  | @cut i hi hp =>
    have hc : ¬ i.type.IsContainer := by
      intro hc
      obtain ⟨kind, hkind⟩ := hc
      unfold Item.CutShort at hi
      rw [hkind] at hi
      exact absurd hi (Nat.not_lt_zero _)
    have hend : i.type ≠ .endOfCollection := by
      intro hend
      unfold Item.CutShort at hi
      rw [hend] at hi
      exact absurd hi (Nat.not_lt_zero _)
    refine ⟨[i.entry], ⟨entryShort_entry (hP _ hp), trivial⟩, ?_⟩
    have hread := descend_leaf hc hend (.inr ⟨hi, rfl⟩)
    rw [List.append_nil] at hread
    exact hread
  | opened hi hp hc _ ih =>
    obtain ⟨entries, hentries, hchildren⟩ := hc.descend hP
    obtain ⟨forest, hforest, hread⟩ := ih
    have hall := (entriesShort_append entries forest).mpr ⟨hentries, hforest⟩
    refine ⟨[_], ⟨entryShort_container (hP _ hp) hall, trivial⟩, ?_⟩
    rw [descend_opens hi, hchildren, hread]
    rfl

/-! ## 4. What the descent takes is accepted -/

/-- **What was read is a sequence and its tail, or a sequence and its end marker**, where no long
    string was answered. -/
theorem descend_parse {tlv rest : Bytes} {forest : List DeterministicJson}
    (h : recursiveDescent tlv = .ok (forest, rest)) (hshort : entriesShort forest) :
    ∃ s t, Sequence Item.Short s ∧ tlv = s ++ (t ++ rest) ∧
      (Tail Item.Short t ∧ rest = [] ∨ ∃ closing : Item, closing.Closes ∧ t = closing.wire) := by
  induction hn : tlv.length using Nat.strong_induction_on generalizing tlv forest rest with
  | _ n ih =>
    subst hn
    by_cases hne : 0 < tlv.length
    · cases hd : decodeEntry tlv with
      | error e =>
        rw [descend_error hne hd] at h
        cases h
      | ok read =>
        obtain ⟨type, decoding, after⟩ := read
        have hlt := decodeEntry_lt hd
        obtain ⟨i, rfl, rfl, rfl, hread⟩ := decodeEntry_eq_ok hd
        by_cases hend : i.type = .endOfCollection
        · have hi : i.Closes := ⟨hend, Item.whole_of_end hend hread⟩
          rw [descend_closes hi] at h
          cases h
          exact ⟨[], i.wire, .nil, rfl, .inr ⟨i, hi, rfl⟩⟩
        · by_cases hc : i.type.IsContainer
          · have hi : i.Opens := ⟨hc, Item.whole_of_container hc hread⟩
            rw [descend_opens hi] at h
            obtain ⟨⟨children, after'⟩, hchildren, h⟩ := bind_eq_ok h
            obtain ⟨⟨siblings, after''⟩, hsiblings, h⟩ := bind_eq_ok h
            cases h
            have hp := Item.short_of_container hc
            obtain ⟨s, t, hs, rfl, ht⟩ := ih _ hlt hchildren hshort.1.2 rfl
            rcases ht with ⟨htail, rfl⟩ | ⟨closing, hclosing, rfl⟩
            · -- the input ended inside the container
              cases hsiblings
              exact ⟨[], _, .nil, by simp, .inl ⟨.opened hi hp hs htail, rfl⟩⟩
            · have hle : after'.length < (i.wire ++ (s ++ (closing.wire ++ after'))).length := by
                simp only [List.length_append] at hlt ⊢
                omega
              obtain ⟨s', t', hs', hst, ht'⟩ := ih _ hle hsiblings hshort.2 rfl
              have hp' := Item.short_of_end hclosing.1
              refine ⟨_, t', .container hi hp hs hclosing hp' hs', ?_, ht'⟩
              rw [hst]
              simp only [List.append_assoc]
          · rw [descend_leaf hc hend hread] at h
            obtain ⟨⟨siblings, after'⟩, hsiblings, h⟩ := bind_eq_ok h
            cases h
            have hi := short_of_entryShort i.entry.value hshort.1
            rcases hread with hfull | ⟨hcut, rfl⟩
            · obtain ⟨s, t, hs, hst, ht⟩ := ih _ hlt hsiblings hshort.2 rfl
              refine ⟨i.wire ++ s, t, .leaf ⟨hc, hend, hfull.whole hi⟩ hi hs, ?_, ht⟩
              rw [hst, List.append_assoc]
            · cases hsiblings
              exact ⟨[], i.wire, .nil, rfl, .inl ⟨.cut hcut hi, rfl⟩⟩
    · obtain rfl : tlv = [] := List.eq_nil_of_length_eq_zero (by omega)
      cases h
      exact ⟨[], [], .nil, rfl, .inl ⟨.done, rfl⟩⟩

/-! ## 5. What the reader accepts -/

/-- `decode` answers and leaves no byte. -/
def Accounts (b : Bytes) (json : List DeterministicJson) : Prop :=
  ∃ r, ArrayReader.decode b = .ok r ∧ r.tlv = [] ∧ r.Json = json

theorem accounts_iff_descent (b : Bytes) (json : List DeterministicJson) :
    Accounts b json ↔ recursiveDescent b = .ok (json, []) := by
  have h := (decode_descends b).1
  unfold Accounts
  rw [← h]
  cases ArrayReader.decode b with
  | error e =>
    constructor
    · intro hr
      obtain ⟨r, hr, _⟩ := hr
      cases hr
    · intro hr
      cases hr
  | ok r =>
    constructor
    · intro hr
      obtain ⟨r', hr, htlv, hjson⟩ := hr
      cases hr
      show Except.ok (r.Json, r.tlv) = _
      rw [htlv, hjson]
    · intro hr
      have hpair : (r.Json, r.tlv) = (json, []) := Except.ok.inj hr
      exact ⟨r, rfl, congrArg Prod.snd hpair, congrArg Prod.fst hpair⟩

/-- **What the reader accepts.** It answers, accounts for every byte and types no entry as a string
    with a length of eight bytes exactly on the sequences of elements (of reserved types too, which
    it answers without a value, and with tags on end markers) that may end in a string cut short,
    in containers still open, or in one end marker more. -/
theorem accounts_iff (b : Bytes) :
    (∃ json, Accounts b json ∧ entriesShort json) ↔ Accepted Item.Short b := by
  constructor
  · intro h
    obtain ⟨json, hread, hshort⟩ := h
    rw [accounts_iff_descent] at hread
    obtain ⟨s, t, hs, hst, ht⟩ := descend_parse hread hshort
    rw [List.append_nil] at hst
    refine ⟨s, t, hs, hst, ?_⟩
    rcases ht with ⟨htail, _⟩ | hclosing
    · exact .inl htail
    · exact .inr hclosing
  · intro h
    obtain ⟨s, t, hs, rfl, ht⟩ := h
    obtain ⟨forest, hforest, hread⟩ := hs.descend fun _ hi => hi
    rcases ht with htail | ⟨closing, hclosing, rfl⟩
    · obtain ⟨entries, hentries, htail⟩ := htail.descend fun _ hi => hi
      refine ⟨forest ++ entries, ?_, (entriesShort_append ..).mpr ⟨hforest, hentries⟩⟩
      rw [accounts_iff_descent, hread, htail]
      rfl
    · refine ⟨forest ++ [], ?_, (entriesShort_append ..).mpr ⟨hforest, trivial⟩⟩
      have hend : recursiveDescent (closing.wire ++ []) = .ok ([], []) := descend_closes hclosing
      rw [List.append_nil] at hend
      rw [accounts_iff_descent, hread, hend]
      rfl

/-- The first item of a sequence. -/
theorem Sequence.first {P : Item → Prop} {s : Bytes} (h : Sequence P s) (hne : s ≠ []) :
    ∃ (i : Item) (rest : Bytes), s = i.wire ++ rest ∧ P i ∧ i.Whole ∧
      (i.type.IsContainer → rest ≠ []) := by
  cases h with
  | nil => exact absurd rfl hne
  | leaf hi hp _ => exact ⟨_, _, rfl, hp, hi.2.2, fun hc => absurd hc hi.1⟩
  | container hi hp _ _ _ _ =>
    refine ⟨_, _, rfl, hp, hi.2, fun _ hnil => ?_⟩
    simp [Item.wire] at hnil

/-- The control byte of an item is its own. -/
theorem controlByte_inj {c c' : TagControl} {t t' : ElementType}
    (h : controlByte c t = controlByte c' t') : c = c' ∧ t = t' := by
  obtain ⟨htype, htag⟩ := controlByte_bits c t
  obtain ⟨htype', htag'⟩ := controlByte_bits c' t'
  rw [h] at htype htag
  refine ⟨?_, ElementType.code_inj (htype.symm.trans htype')⟩
  rw [← TagControl.ofCode_code c, ← htag, htag', TagControl.ofCode_code]

/-- The bytes of an item that starts a buffer, told by their control byte. -/
theorem Item.wire_cons (c : TagControl) (t : ElementType) (bs : Bytes) {i : Item} {rest : Bytes}
    (h : controlByte c t :: bs = i.wire ++ rest) :
    i.control = c ∧ i.type = t ∧ bs = i.tag ++ (i.field ++ (i.content ++ rest)) := by
  unfold Item.wire at h
  rw [List.cons_append, List.cons.injEq] at h
  obtain ⟨hcontrol, htype⟩ := controlByte_inj h.1
  exact ⟨hcontrol.symm, htype.symm, by rw [h.2]; simp only [List.append_assoc]⟩

/-- **The reader takes what the format does not have**: a string cut short, a container left open, a
    reserved element type. -/
theorem accounts_malformed :
    ((∃ json, Accounts [0x0C, 0x05, 0x61] json) ∧ ¬ Sequence Item.Permitted [0x0C, 0x05, 0x61]) ∧
    ((∃ json, Accounts [0x15] json) ∧ ¬ Sequence Item.Permitted [0x15]) ∧
    ((∃ json, Accounts [0x19] json) ∧ ¬ Sequence Item.Permitted [0x19]) := by
  refine ⟨⟨⟨_, _, rfl, rfl, rfl⟩, ?_⟩, ⟨⟨_, _, rfl, rfl, rfl⟩, ?_⟩, ⟨_, _, rfl, rfl, rfl⟩, ?_⟩
  · intro h
    obtain ⟨i, rest, hb, _, hwhole, _⟩ := h.first (by decide)
    obtain ⟨hcontrol, htype, hbs⟩ :=
      Item.wire_cons .anonymous (.text 0) [0x05, 0x61] hb
    have htag := i.length_tag
    have hfield := i.length_field
    unfold Item.Whole at hwhole
    rw [hcontrol] at htag
    rw [htype] at hfield hwhole
    -- the length is five, and one byte is left for the content
    rw [List.eq_nil_of_length_eq_zero htag, List.nil_append] at hbs
    have hfive := congrArg (List.take 1) hbs
    rw [List.take_left' (show i.field.length = 1 from hfield)] at hfive
    rw [← hfive] at hwhole
    have hlen := congrArg List.length hbs
    simp only [List.length_append, hwhole] at hlen
    have hdeclared : (ElementType.text 0).declaredLength ([0x05, 0x61].take 1) = 5 := by decide
    rw [hdeclared] at hlen
    simp at hlen
    omega
  · intro h
    obtain ⟨i, rest, hb, _, _, hopen⟩ := h.first (by decide)
    obtain ⟨_, htype, hbs⟩ := Item.wire_cons .anonymous (.container .struct) [] hb
    have hrest := hopen ⟨.struct, htype⟩
    simp_all
  · intro h
    obtain ⟨i, rest, hb, hp, _, _⟩ := h.first (by decide)
    obtain ⟨_, htype, _⟩ := Item.wire_cons .anonymous (.reserved 0) [] hb
    exact hp.1 0 htype

end Matternode.Tlv
