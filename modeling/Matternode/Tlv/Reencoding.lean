/-
  File:      Matternode/Tlv/Reencoding.lean
  Subject:   When the decoded JSON encodes to the bytes it was decoded from.

  The writer picks the type and the width of an element again from its value, and the form of a tag
  from its number. So it gives back an element only where the encoding had made the same choice.

  * `TagControl.Canonical`, `ElementType.Canonical`, `Item.Canonical` -- the choices of the writer;
  * `reencode` -- the decoded JSON, encoded;
  * `Sequence.reencodes` -- a sequence of canonical items comes back;
  * `Sequence.canonical_of_reencoded` -- nothing else does: the first item that is not canonical is
    written with another control byte, another length or other text, or not at all;
  * **`reencode_iff`** -- the two together.
-/
import Matternode.Tlv.Grammar
import Matternode.Tlv.RoundTrip

namespace Matternode.Tlv

open Base Js

/-! ## 1. The choices of the writer -/

/-- The profiles the writer takes for the common or the implicit one. -/
def namedProfiles : List Nat := [0, 0x40, 0x60, 0x80, 0xA0]

/-- The form of tag the writer picks for the number and the profile. -/
def TagControl.Canonical (c : TagControl) (tag : Bytes) : Prop :=
  match c with
  | commonProfile4Bytes | implicitProfile4Bytes => 65535 < ofLE tag
  | fullyQualified6Bytes => ofLE (tag.take 4) ∉ namedProfiles
  | fullyQualified8Bytes => ofLE (tag.take 4) ∉ namedProfiles ∧ 65535 < ofLE (tag.drop 4)
  | _ => True

/-- The type the writer picks for the value, and bytes it gives back: integers and lengths in their
    shortest width, strings with no length of eight bytes, ASCII text, no whole number as a double.
    A float has to be written as it was read. -/
def ElementType.Canonical (t : ElementType) (field content : Bytes) : Prop :=
  match t with
  | signed k => signedWidth (ofLEInt field) = k
  | unsigned k => unsignedWidth (ofLE field) = k
  | float => writeFloatLE (bufferAlloc 4) (.number (floatOfBits (ofLE field))) 0 = .ok field
  | double => (Number.ofBits (ofLE field)).isInteger = false
  | text k => k.val ≠ 3 ∧ unsignedWidth content.length = k ∧ ∀ b ∈ content, b.toNat < 0x80
  | bytes k => k.val ≠ 3 ∧ unsignedWidth content.length = k
  | _ => True

/-- An item of the format that the writer gives back. -/
structure Item.Canonical (i : Item) : Prop where
  permitted : i.Permitted
  control : i.control.Canonical i.tag
  type : i.type.Canonical i.field i.content

/-- `new TlvWriter().encode(new TlvReader().decode(b).Json).Buffer`. -/
def reencode (b : Bytes) : Except JsError Bytes := do
  encodeBuffer (.array (← decode b))

/-! ## 2. Tags -/

theorem encodeProfileTag_nat (tag2 tag4 : Nat) {n : Nat} (h : n < 2 ^ 32) :
    encodeProfileTag tag2 tag4 (some n) =
      if n ≤ 65535 then .ok (tag2, toLE 2 n) else .ok (tag4, toLE 4 n) := by
  unfold encodeProfileTag
  by_cases hn : n ≤ 65535
  · have hw : writeUInt16LE (bufferAlloc 2) (.number (.int n)) 0 = .ok (toLE 2 n) :=
      writeUInt_alloc (by omega)
    dsimp only
    rw [if_pos (by omega), if_pos hn, hw]
    rfl
  · have hw : writeUInt32LE (bufferAlloc 4) (.number (.int n)) 0 = .ok (toLE 4 n) :=
      writeUInt_alloc (by omega)
    dsimp only
    rw [if_neg (by omega), if_pos (by omega), if_neg hn, hw]
    rfl

/-- Two fields written one after the other. -/
theorem write_pair {v w p n : Nat} (hp : p < 256 ^ v) (hn : n < 256 ^ w) :
    ∃ encoded, writeUIntLE v (bufferAlloc (v + w)) (.nat p) 0 = .ok encoded ∧
      writeUIntLE w encoded (.nat n) v = .ok (toLE v p ++ toLE w n) := by
  have hfirst : overwrite (bufferAlloc (v + w)) 0 (toLE v p) = toLE v p ++ bufferAlloc w := by
    simp [overwrite, bufferAlloc]
  have hsecond : overwrite (toLE v p ++ bufferAlloc w) v (toLE w n) = toLE v p ++ toLE w n := by
    simp [overwrite, bufferAlloc]
  refine ⟨_, writeUIntLE_nat hp (by simp), ?_⟩
  rw [hfirst, writeUIntLE_nat hn (by simp), hsecond]

theorem encodeFullyQualifiedTag_nat {p n : Nat} (hp : p < 2 ^ 32) (hn : n < 2 ^ 32) :
    encodeFullyQualifiedTag p (some n) =
      if n ≤ 65535 then .ok (tagControlFullyQualified6Bytes, toLE 4 p ++ toLE 2 n)
      else .ok (tagControlFullyQualified8Bytes, toLE 4 p ++ toLE 4 n) := by
  unfold encodeFullyQualifiedTag
  dsimp only
  by_cases hle : n ≤ 65535
  · obtain ⟨encoded, hfirst, hsecond⟩ :=
      write_pair (v := 4) (w := 2) (show p < 256 ^ 4 by omega) (show n < 256 ^ 2 by omega)
    have hfirst' : writeUInt32LE (bufferAlloc 6) (.number (.int p)) 0 = .ok encoded := hfirst
    have hsecond' : writeUInt16LE encoded (.number (.int n)) 4 = _ := hsecond
    rw [if_pos (by omega), if_pos hle, hfirst']
    dsimp only [bind, Except.bind]
    rw [hsecond']
    rfl
  · obtain ⟨encoded, hfirst, hsecond⟩ :=
      write_pair (v := 4) (w := 4) (show p < 256 ^ 4 by omega) (show n < 256 ^ 4 by omega)
    have hfirst' : writeUInt32LE (bufferAlloc 8) (.number (.int p)) 0 = .ok encoded := hfirst
    have hsecond' : writeUInt32LE encoded (.number (.int n)) 4 = _ := hsecond
    rw [if_neg (by omega), if_pos (by omega), if_neg hle, hfirst']
    dsimp only [bind, Except.bind]
    rw [hsecond']
    rfl

/-- A tag is written in some form, and in its own with its own bytes where that is the writer's
    choice. -/
def WritesTag (c : TagControl) (bs : Bytes) (written : Except JsError (Nat × Bytes)) : Prop :=
  ∃ c' bs', written = .ok (c'.code, bs') ∧ (c' = c → c.Canonical bs) ∧
    (c.Canonical bs → c' = c ∧ bs' = bs)

/-- A tag of a profile, in either form. -/
theorem writesTag_profile (c2 c4 : TagControl) {c : TagControl} {bs : Bytes} {w : Nat}
    (hlen : bs.length = w) (hw : w = 2 ∧ c = c2 ∧ c.Canonical bs ∨
      w = 4 ∧ c = c4 ∧ (c.Canonical bs ↔ 65535 < ofLE bs)) (hne : c2 ≠ c4) :
    WritesTag c bs (encodeProfileTag c2.code c4.code (some (ofLE bs))) := by
  have hlt := ofLE_lt_of_length hlen
  rcases hw with ⟨rfl, rfl, hcan⟩ | ⟨rfl, rfl, hcan⟩
  · rw [encodeProfileTag_nat _ _ (by omega), if_pos (by omega)]
    exact ⟨c, _, rfl, fun _ => hcan, fun _ => ⟨rfl, toLE_ofLE_of_length hlen⟩⟩
  · rw [encodeProfileTag_nat _ _ (by omega)]
    by_cases hn : ofLE bs ≤ 65535
    · rw [if_pos hn]
      refine ⟨c2, _, rfl, fun h => absurd h hne, fun h => ?_⟩
      have := hcan.mp h
      omega
    · rw [if_neg hn]
      exact ⟨c, _, rfl, fun _ => hcan.mpr (by omega), fun _ => ⟨rfl, toLE_ofLE_of_length hlen⟩⟩

/-- A fully-qualified tag of a named profile is written as a tag of that profile. -/
theorem encodeTagControl_named {p n : Nat} (hp : p ∈ namedProfiles) (hn : n < 2 ^ 32) :
    ∃ (c : TagControl) (bs : Bytes), encodeTagControl (some n) (some p) = .ok (c.code, bs) ∧
      c ≠ .fullyQualified6Bytes ∧ c ≠ .fullyQualified8Bytes := by
  have hprofile (c2 c4 : TagControl)
      (h2 : c2 ≠ .fullyQualified6Bytes ∧ c2 ≠ .fullyQualified8Bytes)
      (h4 : c4 ≠ .fullyQualified6Bytes ∧ c4 ≠ .fullyQualified8Bytes) :
      ∃ (c : TagControl) (bs : Bytes), encodeProfileTag c2.code c4.code (some n) =
        .ok (c.code, bs) ∧ c ≠ .fullyQualified6Bytes ∧ c ≠ .fullyQualified8Bytes := by
    rw [encodeProfileTag_nat _ _ hn]
    by_cases hle : n ≤ 65535
    · exact ⟨c2, _, if_pos hle, h2⟩
    · exact ⟨c4, _, if_neg hle, h4⟩
  have hcommon := hprofile .commonProfile2Bytes .commonProfile4Bytes (by decide) (by decide)
  have himplicit := hprofile .implicitProfile2Bytes .implicitProfile4Bytes (by decide) (by decide)
  simp only [namedProfiles, List.mem_cons, List.not_mem_nil, or_false] at hp
  rcases hp with rfl | rfl | rfl | rfl | rfl
  · exact hcommon
  · exact hcommon
  · exact hcommon
  · exact himplicit
  · exact himplicit

theorem encodeTagControl_qualified {p : Nat} (hp : p ∉ namedProfiles) (tag : Option Int) :
    encodeTagControl tag (some p) = encodeFullyQualifiedTag p tag := by
  simp only [namedProfiles, List.mem_cons, List.not_mem_nil, or_false, not_or] at hp
  unfold encodeTagControl
  dsimp only
  rw [if_neg (by omega), if_neg (by omega)]

/-- **How a decoded tag is written.** -/
theorem writesTag_tag (c : TagControl) {bs : Bytes} (h : bs.length = c.width) :
    WritesTag c bs (encodeTagControl (c.tag bs) (c.profile bs)) := by
  cases c with
  | anonymous =>
    obtain rfl : bs = [] := List.eq_nil_of_length_eq_zero h
    exact ⟨.anonymous, [], rfl, fun _ => trivial, fun _ => ⟨rfl, rfl⟩⟩
  | contextSpecific =>
    have hlt : ofLE bs < 256 := ofLE_lt_of_length h
    have hw : writeUInt8 (bufferAlloc 1) (.number (.int (ofLE bs))) 0 = .ok (toLE 1 (ofLE bs)) :=
      writeUInt_alloc hlt
    refine ⟨.contextSpecific, toLE 1 (ofLE bs), ?_, fun _ => trivial,
      fun _ => ⟨rfl, toLE_ofLE_of_length h⟩⟩
    simp only [TagControl.tag, TagControl.profile, encodeTagControl]
    rw [if_neg (by omega), hw]
    rfl
  | commonProfile2Bytes =>
    exact writesTag_profile .commonProfile2Bytes .commonProfile4Bytes h
      (.inl ⟨rfl, rfl, trivial⟩) (by decide)
  | commonProfile4Bytes =>
    exact writesTag_profile .commonProfile2Bytes .commonProfile4Bytes h
      (.inr ⟨rfl, rfl, Iff.rfl⟩) (by decide)
  | implicitProfile2Bytes =>
    exact writesTag_profile .implicitProfile2Bytes .implicitProfile4Bytes h
      (.inl ⟨rfl, rfl, trivial⟩) (by decide)
  | implicitProfile4Bytes =>
    exact writesTag_profile .implicitProfile2Bytes .implicitProfile4Bytes h
      (.inr ⟨rfl, rfl, Iff.rfl⟩) (by decide)
  | fullyQualified6Bytes =>
    have hprofile : (bs.take 4).length = 4 := by rw [List.length_take, h]; rfl
    have htag : (bs.drop 4).length = 2 := by rw [List.length_drop, h]; rfl
    have hp := ofLE_lt_of_length hprofile
    have hn := ofLE_lt_of_length htag
    show WritesTag _ _ (encodeTagControl (some (ofLE (bs.drop 4))) (some (ofLE (bs.take 4))))
    by_cases hnamed : ofLE (bs.take 4) ∈ namedProfiles
    · obtain ⟨c, bs', hw, hne, _⟩ :=
        encodeTagControl_named (n := ofLE (bs.drop 4)) hnamed (by omega)
      exact ⟨c, bs', hw, fun h => absurd h hne, fun h => absurd hnamed h⟩
    · rw [encodeTagControl_qualified hnamed, encodeFullyQualifiedTag_nat (by omega) (by omega),
        if_pos (by omega)]
      refine ⟨.fullyQualified6Bytes, _, rfl, fun _ => hnamed, fun _ => ⟨rfl, ?_⟩⟩
      rw [toLE_ofLE_of_length hprofile, toLE_ofLE_of_length htag, List.take_append_drop]
  | fullyQualified8Bytes =>
    have hprofile : (bs.take 4).length = 4 := by rw [List.length_take, h]; rfl
    have htag : (bs.drop 4).length = 4 := by rw [List.length_drop, h]; rfl
    have hp := ofLE_lt_of_length hprofile
    have hn := ofLE_lt_of_length htag
    show WritesTag _ _ (encodeTagControl (some (ofLE (bs.drop 4))) (some (ofLE (bs.take 4))))
    by_cases hnamed : ofLE (bs.take 4) ∈ namedProfiles
    · obtain ⟨c, bs', hw, _, hne⟩ :=
        encodeTagControl_named (n := ofLE (bs.drop 4)) hnamed (by omega)
      exact ⟨c, bs', hw, fun h => absurd h hne, fun h => absurd hnamed h.1⟩
    · rw [encodeTagControl_qualified hnamed, encodeFullyQualifiedTag_nat (by omega) (by omega)]
      by_cases hle : ofLE (bs.drop 4) ≤ 65535
      · rw [if_pos hle]
        refine ⟨.fullyQualified6Bytes, _, rfl, fun h => absurd h (by decide), fun h => ?_⟩
        have hlt := h.2
        omega
      · rw [if_neg hle]
        refine ⟨.fullyQualified8Bytes, _, rfl, fun _ => ⟨hnamed, by omega⟩, fun _ => ⟨rfl, ?_⟩⟩
        rw [toLE_ofLE_of_length hprofile, toLE_ofLE_of_length htag, List.take_append_drop]

/-! ## 3. Elements without entries -/

theorem encodeControlByte_code {base len k : Nat} {tag profile : Option Int} {c : TagControl}
    {t : ElementType} {bs : Bytes} (hlen : lengthBits len = .ok k) (hcode : base ||| k = t.code)
    (htag : encodeTagControl tag profile = .ok (c.code, bs)) :
    encodeControlByte base len tag profile = .ok (controlByte c t :: bs) := by
  have hbits : ∀ n < 32, ∀ m ∈ [0x00, 0x20, 0x40, 0x60, 0x80, 0xA0, 0xC0, 0xE0],
      n ||| m = n + m ∧ n + m < 256 := by decide
  have hmem : c.code ∈ [0x00, 0x20, 0x40, 0x60, 0x80, 0xA0, 0xC0, 0xE0] := by
    cases c <;> decide
  obtain ⟨hor, hlt⟩ := hbits _ t.code_lt _ hmem
  have hw : writeUInt8 (bufferAlloc 1) (.nat (t.code + c.code)) 0 = .ok (toLE 1 (t.code + c.code)) :=
    writeUInt_alloc (by omega)
  simp only [encodeControlByte, hlen, htag, bind, Except.bind, hcode, hor, hw]
  rfl

/-- What the writer appends for an item: if it begins as the item does, the item is canonical; and
    a canonical item it gives back. (0xBF behind a text could pass for a part of U+FFFD.) -/
structure Rewrites (i : Item) (written : Except JsError Bytes) : Prop where
  canonical : ∀ bs u v, written = .ok bs → bs ++ u = i.wire ++ v →
    (¬ i.type.Long → v.head? ≠ some 0xBF) →
    i.control.Canonical i.tag ∧ i.type.Canonical i.field i.content
  gives : i.control.Canonical i.tag → i.type.Canonical i.field i.content → written = .ok i.wire

/-- What a control byte of the type `t` and the bytes `payload` are for an item. -/
theorem rewrites_payload {i : Item} (t : ElementType) (payload : Bytes)
    {written : Except JsError Bytes}
    (hwritten : ∀ (c : TagControl) (bs : Bytes),
      encodeTagControl (i.control.tag i.tag) (i.control.profile i.tag) = .ok (c.code, bs) →
        written = .ok (controlByte c t :: (bs ++ payload)))
    (htype : ∀ u v, t = i.type → payload ++ u = i.field ++ (i.content ++ v) →
      (¬ i.type.Long → v.head? ≠ some 0xBF) → i.type.Canonical i.field i.content)
    (hgives : i.type.Canonical i.field i.content → t = i.type ∧ payload = i.field ++ i.content) :
    Rewrites i written := by
  obtain ⟨c, tag, htag, hcontrol, hback⟩ := writesTag_tag i.control i.length_tag
  have hw := hwritten c tag htag
  constructor
  · intro bs u v hbs heq hv
    rw [hw] at hbs
    obtain rfl := Except.ok.inj hbs
    have hcons : controlByte c t :: (tag ++ payload ++ u) = i.wire ++ v := heq
    obtain ⟨hc, ht, hrest⟩ := Item.wire_cons _ _ _ hcons
    obtain ⟨_, rfl⟩ := hback (hcontrol hc.symm)
    rw [List.append_assoc, List.append_cancel_left_eq] at hrest
    exact ⟨hcontrol hc.symm, htype u v ht.symm hrest hv⟩
  · intro hc ht
    obtain ⟨rfl, rfl⟩ := hback hc
    obtain ⟨rfl, rfl⟩ := hgives ht
    rw [hw]
    simp only [Item.wire, List.append_assoc]

/-- Nothing is written for an item that is not canonical. -/
theorem rewrites_error {i : Item} {written : Except JsError Bytes} {e : JsError}
    (h : written = .error e) (hnot : ¬ i.type.Canonical i.field i.content) :
    Rewrites i written := by
  constructor
  · intro bs u v hbs _ _
    rw [h] at hbs
    cases hbs
  · intro _ ht
    exact absurd ht hnot

section Kinds

variable {i : Item}

/-- What is not a string has no content. -/
theorem Item.content_nil (h : i.Full) (hd : i.type.declaredLength i.field = 0) :
    i.content = [] := by
  apply List.eq_nil_of_length_eq_zero
  rw [show i.content.length = _ from h, ElementType.contentLength, hd, ite_self]

/-- An element whose control byte says how long `encoded` is. -/
theorem sizedElement_code {base k : Nat} {t : ElementType} {encoded tag : Bytes} {c : TagControl}
    {n profile : Option Int} (hk : k < 4) (hlen : encoded.length = 2 ^ k)
    (hcode : base ||| k = t.code) (htag : encodeTagControl n profile = .ok (c.code, tag)) :
    sizedElement base encoded n profile = .ok (controlByte c t :: (tag ++ encoded)) := by
  unfold sizedElement
  rw [hlen, encodeControlByte_code (lengthBits_width hk) hcode htag]
  rfl

theorem isInteger_integerValue (k : Nat) (n : Int) : IsInteger (integerValue k n) n := by
  unfold integerValue
  split
  · exact .bigint n
  · exact .number n

theorem or_code_signed {k : Nat} (hk : k < 4) :
    tlvTypeSignedInteger ||| k = (ElementType.signed ⟨k, hk⟩).code :=
  (by decide : ∀ k < 4, tlvTypeSignedInteger ||| k = tlvTypeSignedInteger + k) k hk

theorem or_code_unsigned {k : Nat} (hk : k < 4) :
    tlvTypeUnsignedInteger ||| k = (ElementType.unsigned ⟨k, hk⟩).code :=
  (by decide : ∀ k < 4, tlvTypeUnsignedInteger ||| k = tlvTypeUnsignedInteger + k) k hk

theorem or_code_text {k : Nat} (hk : k < 4) :
    tlvTypeUtf8String ||| k = (ElementType.text ⟨k, hk⟩).code :=
  (by decide : ∀ k < 4, tlvTypeUtf8String ||| k = tlvTypeUtf8String + k) k hk

theorem or_code_bytes {k : Nat} (hk : k < 4) :
    tlvTypeByteString ||| k = (ElementType.bytes ⟨k, hk⟩).code :=
  (by decide : ∀ k < 4, tlvTypeByteString ||| k = tlvTypeByteString + k) k hk

/-- Signed integers are written in their shortest width. -/
theorem rewrites_signed {k : Fin 4} (ht : i.type = .signed k) (hfull : i.Full) :
    Rewrites i (do
      sizedElement tlvTypeSignedInteger (← encodeSignedInt (integerValue k (ofLEInt i.field)))
        (i.control.tag i.tag) (i.control.profile i.tag)) := by
  have hfield : i.field.length = 2 ^ k.val := by rw [i.length_field, ht]; rfl
  have hcontent := i.content_nil hfull (by rw [ht]; rfl)
  have hlen : i.field.length ≤ 8 := by
    rw [hfield]
    exact (by decide : ∀ k : Fin 4, 2 ^ k.val ≤ 8) k
  obtain ⟨hlo, hhi⟩ := ofLEInt_bounds i.field
  have hpow : 256 ^ i.field.length ≤ 256 ^ 8 := Nat.pow_le_pow_right (by decide) hlen
  have hbound : (256 ^ i.field.length : Nat) ≤ 2 ^ 64 := hpow
  have henc := encodeSignedInt_given (isInteger_integerValue k (ofLEInt i.field))
    (by omega) (by omega)
  have hw := signedWidth_lt (ofLEInt i.field)
  refine rewrites_payload (.signed ⟨_, hw⟩)
    (toLEInt (2 ^ signedWidth (ofLEInt i.field)) (ofLEInt i.field)) ?_ ?_ ?_
  · intro c bs htag
    rw [henc]
    exact sizedElement_code hw (length_toLEInt _ _) (or_code_signed hw) htag
  · intro u v heq _ _
    rw [ht] at heq ⊢
    injection heq with heq
    exact congrArg Fin.val heq
  · intro hcan
    rw [ht] at hcan ⊢
    have hcan' : signedWidth (ofLEInt i.field) = k := hcan
    refine ⟨congrArg ElementType.signed (Fin.ext hcan'), ?_⟩
    rw [hcontent, List.append_nil, hcan', ← hfield, toLEInt_ofLEInt]

theorem lengthBits_lt {len k : Nat} (h : lengthBits len = .ok k) : k < 4 := by
  unfold lengthBits at h
  split at h <;> cases h <;> decide

/-- An element that the writer takes for an integer comes back as one. -/
theorem rewrites_integer {base : Nat} {encoded : Except JsError Bytes}
    (hbase : base = tlvTypeSignedInteger ∨ base = tlvTypeUnsignedInteger)
    (hs : ∀ k, i.type ≠ .signed k) (hu : ∀ k, i.type ≠ .unsigned k)
    (hnot : ¬ i.type.Canonical i.field i.content) :
    Rewrites i (do
      sizedElement base (← encoded) (i.control.tag i.tag) (i.control.profile i.tag)) := by
  cases encoded with
  | error e => exact rewrites_error rfl hnot
  | ok bs =>
    cases hk : lengthBits bs.length with
    | error e =>
      refine rewrites_error (e := e) ?_ hnot
      show sizedElement base bs _ _ = _
      unfold sizedElement encodeControlByte
      rw [hk]
      rfl
    | ok k =>
      have hlt := lengthBits_lt hk
      have hcode : ∃ t : ElementType, base ||| k = t.code ∧ i.type ≠ t := by
        rcases hbase with rfl | rfl
        · exact ⟨_, or_code_signed hlt, hs _⟩
        · exact ⟨_, or_code_unsigned hlt, hu _⟩
      obtain ⟨t, hcode, hne⟩ := hcode
      refine rewrites_payload t bs ?_ (fun u v h => absurd h.symm hne)
        (fun h => absurd h hnot)
      intro c tag htag
      show sizedElement base bs _ _ = _
      unfold sizedElement
      rw [encodeControlByte_code hk hcode htag]
      rfl

/-- A small bigint is not written as an unsigned integer. -/
theorem encodeUnsignedInt_bigint {n : Nat} (h : n < 2 ^ 32) :
    encodeUnsignedInt (.bigint n) = .error .typeError := by
  have hnum : (JsValue.bigint n).numeric = .int n := rfl
  have hwrite (w : Nat) (bs : Bytes) :
      writeUIntLE w bs (.bigint n) 0 = .error .typeError := rfl
  simp only [encodeUnsignedInt, hnum, Number.int_lt, Number.int_le, decide_eq_true_eq]
  rw [if_neg (by omega)]
  split
  · exact hwrite 1 _
  · split
    · exact hwrite 2 _
    · rw [if_pos (by omega)]
      exact hwrite 4 _

/-- Unsigned integers are written in their shortest width; a small one read from eight bytes is
    not. -/
theorem rewrites_unsigned {k : Fin 4} (ht : i.type = .unsigned k) (hfull : i.Full) :
    Rewrites i (do
      sizedElement tlvTypeUnsignedInteger (← encodeUnsignedInt (integerValue k (ofLE i.field)))
        (i.control.tag i.tag) (i.control.profile i.tag)) := by
  have hfield : i.field.length = 2 ^ k.val := by rw [i.length_field, ht]; rfl
  have hcontent := i.content_nil hfull (by rw [ht]; rfl)
  have hlt : ofLE i.field < 2 ^ 64 := by
    have hpow : 256 ^ 2 ^ k.val ≤ 2 ^ 64 :=
      (by decide : ∀ k : Fin 4, 256 ^ 2 ^ k.val ≤ 2 ^ 64) k
    exact Nat.lt_of_lt_of_le (ofLE_lt_of_length hfield) hpow
  have hw := unsignedWidth_lt (ofLE i.field)
  by_cases hsmall : k = 3 ∧ ofLE i.field < 2 ^ 32
  · obtain ⟨rfl, hsmall⟩ := hsmall
    refine rewrites_error (e := .typeError) ?_ ?_
    · rw [show integerValue ((3 : Fin 4) : Nat) (ofLE i.field) = .bigint (ofLE i.field) from rfl,
        encodeUnsignedInt_bigint hsmall]
      rfl
    · rw [ht]
      intro hcan
      have hcan' : unsignedWidth (ofLE i.field) = 3 := hcan
      have hshort := unsignedWidth_short hsmall
      omega
  · have hbig : ∀ j, integerValue k (ofLE i.field) = .bigint j → 2 ^ 32 ≤ ofLE i.field := by
      intro j hj
      by_contra hsm
      unfold integerValue at hj
      split at hj
      · rename_i h3
        exact hsmall ⟨Fin.ext h3, by omega⟩
      · cases hj
    have henc := encodeUnsignedInt_given (isInteger_integerValue k (ofLE i.field)) hbig hlt
    refine rewrites_payload (.unsigned ⟨_, hw⟩) (shortest (ofLE i.field)) ?_ ?_ ?_
    · intro c bs htag
      rw [henc]
      exact sizedElement_code hw (length_shortest _) (or_code_unsigned hw) htag
    · intro u v heq _ _
      rw [ht] at heq ⊢
      injection heq with heq
      exact congrArg Fin.val heq
    · intro hcan
      rw [ht] at hcan ⊢
      have hcan' : unsignedWidth (ofLE i.field) = k := hcan
      refine ⟨congrArg ElementType.unsigned (Fin.ext hcan'), ?_⟩
      unfold shortest
      rw [hcontent, List.append_nil, hcan', toLE_ofLE_of_length hfield]

/-- An element without a field comes back. -/
theorem rewrites_plain {t : ElementType} (ht : i.type = t) (hfull : i.Full) (hw : t.width = 0)
    (hd : ∀ field, t.declaredLength field = 0) (hcan : ∀ field content, t.Canonical field content) :
    Rewrites i (encodeControlByte t.code 0 (i.control.tag i.tag) (i.control.profile i.tag)) := by
  have hfield : i.field = [] := List.eq_nil_of_length_eq_zero (by rw [i.length_field, ht, hw])
  have hcontent := i.content_nil hfull (by rw [ht, hd])
  refine rewrites_payload t [] ?_ ?_ ?_
  · intro c bs htag
    rw [List.append_nil]
    exact encodeControlByte_code rfl (Nat.or_zero _) htag
  · intro u v _ _ _
    rw [ht]
    exact hcan _ _
  · intro _
    rw [hfield, hcontent]
    exact ⟨ht.symm, rfl⟩

theorem length_writeFloatLE {v : JsValue} {bs : Bytes}
    (h : writeFloatLE (bufferAlloc 4) v 0 = .ok bs) : bs.length = 4 := by
  obtain ⟨x, _, h⟩ := bind_eq_ok h
  rw [writeBytes_of_le (by simp), overwrite_bufferAlloc (length_toLE _ _)] at h
  cases h
  exact length_toLE _ _

/-- A float comes back where it is written as it was read. -/
theorem rewrites_float (ht : i.type = .float) (hfull : i.Full) :
    Rewrites i (do
      let encoded ← encodeFloat (.number (floatOfBits (ofLE i.field)))
      return (← encodeControlByte tlvTypeFloat 0 (i.control.tag i.tag) (i.control.profile i.tag)) ++
        encoded) := by
  have hfield : i.field.length = 4 := by rw [i.length_field, ht]; rfl
  have hcontent := i.content_nil hfull (by rw [ht]; rfl)
  have hcan : i.type.Canonical i.field i.content ↔
      encodeFloat (.number (floatOfBits (ofLE i.field))) = .ok i.field := by
    rw [ht]
    exact Iff.rfl
  cases henc : encodeFloat (.number (floatOfBits (ofLE i.field))) with
  | error e =>
    refine rewrites_error (e := e) rfl ?_
    rw [hcan, henc]
    intro h
    cases h
  | ok encoded =>
    have hlen := length_writeFloatLE henc
    refine rewrites_payload .float encoded ?_ ?_ ?_
    · intro c bs htag
      have hcb : encodeControlByte tlvTypeFloat 0 _ _ = _ :=
        encodeControlByte_code (t := .float) rfl rfl htag
      dsimp only [bind, Except.bind]
      rw [hcb]
      rfl
    · intro u v _ heq _
      obtain ⟨rfl, _⟩ := List.append_inj heq (hlen.trans hfield.symm)
      exact hcan.mpr henc
    · intro h
      have hsame := hcan.mp h
      rw [henc] at hsame
      cases hsame
      rw [hcontent, List.append_nil]
      exact ⟨ht.symm, rfl⟩

/-- A double that holds no whole number is kept by its bits. -/
theorem ofBits_of_not_isInteger {bits : Nat} (h : (Number.ofBits bits).isInteger = false) :
    Number.ofBits bits = .double bits := by
  have hint : ∀ n, Number.ofBits bits ≠ .int n := by
    intro n hn
    rw [hn, Number.int_isInteger] at h
    cases h
  unfold Number.ofBits at hint ⊢
  split
  · rename_i negative m e hd
    rw [hd] at hint
    dsimp only at hint
    split
    · rfl
    · split
      · simp_all
      · split
        · simp_all
        · rfl
  · rfl

/-- A double that holds no whole number comes back. -/
theorem rewrites_double (ht : i.type = .double) (hfull : i.Full)
    (hx : (Number.ofBits (ofLE i.field)).isInteger = false) :
    Rewrites i (do
      let encoded ← encodeDouble (.number (Number.ofBits (ofLE i.field)))
      return (← encodeControlByte tlvTypeDouble 0 (i.control.tag i.tag)
        (i.control.profile i.tag)) ++ encoded) := by
  have hfield : i.field.length = 8 := by rw [i.length_field, ht]; rfl
  have hcontent := i.content_nil hfull (by rw [ht]; rfl)
  have henc : encodeDouble (.number (Number.ofBits (ofLE i.field))) = .ok i.field := by
    rw [ofBits_of_not_isInteger hx]
    show writeBytes (bufferAlloc 8) (toLE 8 (ofLE i.field)) 0 = _
    rw [writeBytes_of_le (by simp), overwrite_bufferAlloc (length_toLE _ _),
      toLE_ofLE_of_length hfield]
  refine rewrites_payload .double i.field ?_ ?_ ?_
  · intro c bs htag
    have hcb : encodeControlByte tlvTypeDouble 0 _ _ = _ :=
      encodeControlByte_code (t := .double) rfl rfl htag
    rw [henc]
    dsimp only [bind, Except.bind]
    rw [hcb]
    rfl
  · intro u v _ _ _
    rw [ht]
    exact hx
  · intro _
    rw [hcontent, List.append_nil]
    exact ⟨ht.symm, rfl⟩

/-- A byte string with its length. -/
theorem lengthPrefixed {base n : Nat} {content tag : Bytes} {c : TagControl} {t : ElementType}
    {num profile : Option Int} (hn : n < 2 ^ 64) (hcode : base ||| unsignedWidth n = t.code)
    (htag : encodeTagControl num profile = .ok (c.code, tag)) :
    (do
      let valLen ← encodeUnsignedInt (.nat n)
      return (← sizedElement base valLen num profile) ++ content : Except JsError Bytes) =
      .ok (controlByte c t :: (tag ++ (shortest n ++ content))) := by
  rw [encodeUnsignedInt_given (.number _) (fun k hk => by cases hk) hn]
  have hsized := sizedElement_code (unsignedWidth_lt n) (length_shortest n) hcode htag
  dsimp only [bind, Except.bind]
  rw [hsized]
  show Except.ok (controlByte c t :: (tag ++ shortest n) ++ content) = _
  rw [List.cons_append, List.append_assoc]

/-- The length of a string says how many bytes it has. -/
theorem Item.length_content {k : Fin 4} (ht : i.type = .text k ∨ i.type = .bytes k) (hk : k ≠ 3)
    (hfull : i.Full) : i.content.length = ofLE i.field ∧ i.field.length = 2 ^ k.val ∧
      i.content.length < 2 ^ 64 := by
  have hlong : ¬ i.type.Long := by
    intro hlong
    rcases ht with ht | ht <;> rw [ht] at hlong <;> rcases hlong with h | h <;>
      simp_all
  have hlen : i.content.length = ofLE i.field := by
    rw [show i.content.length = _ from hfull, ElementType.contentLength, if_neg hlong]
    rcases ht with ht | ht <;> rw [ht] <;> rfl
  have hfield : i.field.length = 2 ^ k.val := by
    rcases ht with ht | ht <;> rw [i.length_field, ht] <;> rfl
  have hpow : 256 ^ 2 ^ k.val ≤ 2 ^ 64 := (by decide : ∀ k : Fin 4, 256 ^ 2 ^ k.val ≤ 2 ^ 64) k
  have hlt := ofLE_lt_of_length hfield
  exact ⟨hlen, hfield, by omega⟩

/-- A byte string comes back if its length was in the shortest width. -/
theorem rewrites_bytes {k : Fin 4} (ht : i.type = .bytes k) (hk : k ≠ 3) (hfull : i.Full) :
    Rewrites i (do
      let valLen ← encodeUnsignedInt (.nat i.content.length)
      return (← sizedElement tlvTypeByteString valLen (i.control.tag i.tag)
        (i.control.profile i.tag)) ++ i.content) := by
  obtain ⟨hlen, hfield, hlt⟩ := i.length_content (.inr ht) hk hfull
  have hw := unsignedWidth_lt i.content.length
  refine rewrites_payload (.bytes ⟨_, hw⟩) (shortest i.content.length ++ i.content) ?_ ?_ ?_
  · intro c bs htag
    exact lengthPrefixed hlt (or_code_bytes hw) htag
  · intro u v heq _ _
    rw [ht] at heq ⊢
    injection heq with heq
    exact ⟨fun h => hk (Fin.ext h), congrArg Fin.val heq⟩
  · intro hcan
    rw [ht] at hcan ⊢
    refine ⟨congrArg ElementType.bytes (Fin.ext hcan.2), ?_⟩
    unfold shortest
    rw [hcan.2, hlen, toLE_ofLE_of_length hfield]

/-- A text comes back if it is ASCII and its length was in the shortest width. -/
theorem rewrites_text {k : Fin 4} (ht : i.type = .text k) (hk : k ≠ 3) (hfull : i.Full) :
    Rewrites i (do
      let valLen ← encodeUnsignedInt
        (.nat (utf16Length (String.ofList (utf8Decode i.content))))
      return (← sizedElement tlvTypeUtf8String valLen (i.control.tag i.tag)
        (i.control.profile i.tag)) ++ utf8Encode (String.ofList (utf8Decode i.content)).toList) := by
  obtain ⟨hlen, hfield, hlt⟩ := i.length_content (.inl ht) hk hfull
  have hle := utf16Units_decodeFrom_le .start i.content
  have hle' : utf16Units (utf8Decode i.content) ≤ i.content.length := hle
  have hw := unsignedWidth_lt (utf16Units (utf8Decode i.content))
  rw [utf16Length_ofList, String.toList_ofList]
  refine rewrites_payload (.text ⟨_, hw⟩)
    (shortest (utf16Units (utf8Decode i.content)) ++ utf8Encode (utf8Decode i.content)) ?_ ?_ ?_
  · intro c bs htag
    exact lengthPrefixed (by omega) (or_code_text hw) htag
  · intro u v heq hrest hv
    rw [ht] at heq hv ⊢
    injection heq with heq
    have hwidth : unsignedWidth (utf16Units (utf8Decode i.content)) = k := congrArg Fin.val heq
    -- the two lengths stand at the same place, so they are the same
    rw [List.append_assoc] at hrest
    obtain ⟨hsame, hrest⟩ := List.append_inj hrest (by rw [length_shortest, hwidth, hfield])
    have hcount : utf16Units (utf8Decode i.content) = i.content.length := by
      rw [hlen, ← hsame]
      exact (ofLE_toLE_of_lt (unsignedWidth_fits (by omega))).symm
    have hlong : ¬ (ElementType.text k).Long := by
      intro hlong
      rcases hlong with h | h
      · injection h with h
        exact hk h
      · cases h
    exact ⟨fun h => hk (Fin.ext h), hcount ▸ hwidth, ascii_of_reencoded hcount (hv hlong) hrest⟩
  · intro hcan
    rw [ht] at hcan ⊢
    obtain ⟨_, hwidth, hascii⟩ := hcan
    have hcount := utf16Units_utf8Decode_ascii hascii
    refine ⟨congrArg ElementType.text (Fin.ext (by rw [← hwidth, ← hcount])), ?_⟩
    unfold shortest
    rw [hcount, utf8Encode_utf8Decode_ascii hascii, hwidth, hlen, toLE_ofLE_of_length hfield]

end Kinds

/-- An entry under its own tag. -/
def writeItem (i : Item) : WriterM Unit :=
  performEntry (i.control.tag i.tag) (i.control.profile i.tag) i.entry

/-- The label of a leaf decides on the method that writes it. -/
theorem writeItem_eq {i : Item} {label : Option TypeLabel} {value : JsValue}
    (hlabel : elementTypes i.type.code = label) (hvalue : i.type.value i.field i.content = value) :
    writeItem i = performEntry (i.control.tag i.tag) (i.control.profile i.tag)
      ⟨i.control.profile i.tag, i.control.tag i.tag, label, value, none⟩ := by
  unfold writeItem Item.entry
  rw [hlabel, hvalue]

theorem writeItem_autoDetect {i : Item} {label : Option TypeLabel} {value : JsValue}
    (hlabel : elementTypes i.type.code = label) (hvalue : i.type.value i.field i.content = value)
    (hauto : autoDetect label = true) :
    writeItem i = perform (.put (i.control.tag i.tag) (i.control.profile i.tag)) value := by
  rw [writeItem_eq hlabel hvalue, performEntry_autoDetect hauto]

/-- `put` of an integral value for an element that is no integer. -/
theorem putInteger_rewrites {i : Item} (val : JsValue) (hs : ∀ k, i.type ≠ .signed k)
    (hu : ∀ k, i.type ≠ .unsigned k) (hnot : ¬ i.type.Canonical i.field i.content) :
    ∃ written, putInteger val (i.control.tag i.tag) (i.control.profile i.tag) = append written ∧
      Rewrites i written := by
  unfold putInteger
  by_cases hneg : val.numeric.lt 0 = true
  · rw [if_pos hneg]
    exact ⟨_, rfl, rewrites_integer (.inl rfl) hs hu hnot⟩
  · rw [if_neg hneg]
    exact ⟨_, rfl, rewrites_integer (.inr rfl) hs hu hnot⟩

/-- A string with a length of eight bytes is written as that length. -/
theorem writeItem_long {i : Item} (h : i.type.Long) :
    ∃ written, writeItem i = append written ∧ Rewrites i written := by
  have hs : ∀ k, i.type ≠ .signed k := fun k hk => by rw [hk] at h; rcases h with h | h <;> cases h
  have hu : ∀ k, i.type ≠ .unsigned k :=
    fun k hk => by rw [hk] at h; rcases h with h | h <;> cases h
  have hnot : ¬ i.type.Canonical i.field i.content := by
    intro hcan
    rcases h with h | h <;> rw [h] at hcan <;> exact hcan.1 rfl
  obtain ⟨written, hput, hre⟩ := putInteger_rewrites (.bigint (ofLE i.field)) hs hu hnot
  refine ⟨written, ?_, hre⟩
  rcases h with h | h
  · refine (writeItem_autoDetect (by rw [h]) (by rw [h]) rfl).trans ?_
    unfold perform
    exact hput
  · refine (writeItem_autoDetect (by rw [h]) (by rw [h]) rfl).trans ?_
    unfold perform
    exact hput

/-- **What the writer appends for a leaf.** -/
theorem writeItem_leaf {i : Item} (hc : ¬ i.type.IsContainer) (hend : i.type ≠ .endOfCollection)
    (hres : ∀ n, i.type ≠ .reserved n) (hfull : i.Full) :
    ∃ written, writeItem i = append written ∧ Rewrites i written := by
  cases ht : i.type with
  | signed k =>
    refine ⟨_, ?_, rewrites_signed ht hfull⟩
    have hvalue : i.type.value i.field i.content = integerValue k (ofLEInt i.field) := by rw [ht]; rfl
    rcases widthCode_cases k with rfl | rfl | rfl | rfl <;>
      exact (writeItem_eq (by rw [ht]) hvalue).trans (by unfold performEntry; rfl)
  | unsigned k =>
    refine ⟨_, ?_, rewrites_unsigned ht hfull⟩
    have hvalue : i.type.value i.field i.content = integerValue k (ofLE i.field) := by rw [ht]; rfl
    rcases widthCode_cases k with rfl | rfl | rfl | rfl <;>
      exact (writeItem_eq (by rw [ht]) hvalue).trans (by unfold performEntry; rfl)
  | boolean b =>
    refine ⟨_, ?_, rewrites_plain ht hfull rfl (fun _ => rfl) (fun _ _ => trivial)⟩
    cases b <;>
      exact (writeItem_eq (by rw [ht]) (by rw [ht])).trans (by unfold performEntry; rfl)
  | float =>
    refine ⟨_, ?_, rewrites_float ht hfull⟩
    exact (writeItem_eq (by rw [ht]) (by rw [ht])).trans (by unfold performEntry; rfl)
  | double =>
    have hlabel : elementTypes i.type.code = some .double := by rw [ht]; rfl
    have hvalue : i.type.value i.field i.content = .number (.ofBits (ofLE i.field)) := by
      rw [ht]; rfl
    have hw := writeItem_autoDetect hlabel hvalue rfl
    have hs : ∀ k, i.type ≠ .signed k := fun k h => by rw [ht] at h; cases h
    have hu : ∀ k, i.type ≠ .unsigned k := fun k h => by rw [ht] at h; cases h
    by_cases hx : (Number.ofBits (ofLE i.field)).isInteger = true
    · have hnot : ¬ i.type.Canonical i.field i.content := by
        rw [ht]
        intro hcan
        have hfalse : (Number.ofBits (ofLE i.field)).isInteger = false := hcan
        rw [hx] at hfalse
        cases hfalse
      obtain ⟨written, hput, hre⟩ := putInteger_rewrites (.number (.ofBits (ofLE i.field))) hs hu hnot
      refine ⟨written, hw.trans ?_, hre⟩
      unfold perform
      rw [if_pos hx]
      exact hput
    · refine ⟨_, hw.trans ?_, rewrites_double ht hfull (by simpa using hx)⟩
      unfold perform
      rw [if_neg hx]
      rfl
  | null =>
    refine ⟨_, ?_, rewrites_plain ht hfull rfl (fun _ => rfl) (fun _ _ => trivial)⟩
    exact (writeItem_autoDetect (by rw [ht]) (by rw [ht]) rfl).trans
      (by unfold perform; rfl)
  | text k =>
    by_cases hk : k = 3
    · exact writeItem_long (.inl (by rw [ht, hk]))
    · have hlabel : autoDetect (elementTypes i.type.code) = true := by
        rw [ht]
        exact (by decide : ∀ k, autoDetect (elementTypes (ElementType.text k).code) = true) k
      refine ⟨_, ?_, rewrites_text ht hk hfull⟩
      refine (writeItem_autoDetect rfl (by rw [ht, ElementType.value, if_neg hk]) hlabel).trans ?_
      unfold perform
      rfl
  | bytes k =>
    by_cases hk : k = 3
    · exact writeItem_long (.inr (by rw [ht, hk]))
    · have hlabel : autoDetect (elementTypes i.type.code) = true := by
        rw [ht]
        exact (by decide : ∀ k, autoDetect (elementTypes (ElementType.bytes k).code) = true) k
      refine ⟨_, ?_, rewrites_bytes ht hk hfull⟩
      refine (writeItem_autoDetect rfl (by rw [ht, ElementType.value, if_neg hk]) hlabel).trans ?_
      unfold perform
      rfl
  | container kind => exact absurd ⟨kind, ht⟩ hc
  | endOfCollection => exact absurd ht hend
  | reserved n => exact absurd ht (hres n)

/-! ## 4. Entries after entries -/

/-- A method only appends. -/
def Grows (m : WriterM Unit) : Prop :=
  ∀ w w' : TlvWriter, m.run w = .ok () w' → ∃ bs, w'.buf = w.buf ++ bs

theorem run_append_eq_ok {parts : Except JsError Bytes} {w w' : TlvWriter}
    (h : (append parts).run w = .ok () w') : ∃ bs, parts = .ok bs ∧ w'.buf = w.buf ++ bs := by
  cases parts with
  | error e => cases h
  | ok bs =>
    cases h
    exact ⟨bs, rfl, rfl⟩

theorem grows_append (parts : Except JsError Bytes) : Grows (append parts) := by
  intro w w' h
  obtain ⟨bs, _, hbuf⟩ := run_append_eq_ok h
  exact ⟨bs, hbuf⟩

theorem grows_throw (e : JsError) : Grows (throw e) := by
  intro w w' h
  cases h

theorem Grows.bind {m m' : WriterM Unit} (h : Grows m) (h' : Grows m') : Grows (do m; m') := by
  intro w w' hrun
  obtain ⟨_, t, hm, hm'⟩ := run_bind_eq_ok hrun
  obtain ⟨bs, hbs⟩ := h w t hm
  obtain ⟨bs', hbs'⟩ := h' t w' hm'
  exact ⟨bs ++ bs', by rw [hbs', hbs, List.append_assoc]⟩

theorem grows_putInteger (val : JsValue) (tag profile : Option Int) :
    Grows (putInteger val tag profile) := by
  unfold putInteger
  split
  · exact grows_append _
  · exact grows_append _

mutual

theorem grows_perform (call : Call) (v : JsValue) : Grows (perform call v) := by
  cases v with
  | undefined =>
    unfold perform
    cases call with
    | put tag profile => exact grows_append _
    | encode => exact grows_throw _
  | string s =>
    unfold perform
    exact grows_append _
  | buffer bs =>
    unfold perform
    cases call with
    | put tag profile => exact grows_append _
    | encode => exact grows_append _
  | number x =>
    unfold perform
    split
    · exact grows_putInteger _ _ _
    · exact grows_append _
  | bigint n =>
    unfold perform
    exact grows_putInteger _ _ _
  | boolean b =>
    unfold perform
    exact grows_append _
  | array entries =>
    unfold perform
    exact grows_performEntries entries
  | object entry =>
    unfold perform
    cases call with
    | put tag profile => exact grows_performEntry tag profile entry
    | encode => exact grows_performEntry entry.tag entry.profile entry

theorem grows_performEntry (tag profile : Option Int) (entry : DeterministicJson) :
    Grows (performEntry tag profile entry) := by
  obtain ⟨p, t, type, value, tagName⟩ := entry
  unfold performEntry
  have hvalue := grows_perform .encode value
  have hput := grows_perform (.put tag profile) value
  have hend : Grows putContainerEnd := grows_append _
  split
  · exact (grows_append _).bind (hvalue.bind hend)
  · exact (grows_append _).bind (hvalue.bind hend)
  · exact (grows_append _).bind (hvalue.bind hend)
  · exact grows_append _
  · exact grows_append _
  · exact grows_append _
  · exact grows_append _
  · exact grows_append _
  · exact grows_append _
  · exact grows_append _
  · exact grows_append _
  · exact grows_append _
  · exact grows_append _
  · exact grows_append _
  · split
    · exact grows_append _
    · exact grows_throw _
  · exact hput

theorem grows_performEntries (entries : List DeterministicJson) :
    Grows (performEntries entries) := by
  cases entries with
  | nil =>
    unfold performEntries
    intro w w' h
    cases h
    exact ⟨[], (List.append_nil _).symm⟩
  | cons entry entries =>
    unfold performEntries
    exact (grows_performEntry _ _ _).bind (grows_performEntries entries)

end

/-! ## 5. Sequences come back -/

/-- The entries after an entry. -/
theorem performEntries_cons (e : DeterministicJson) (es : List DeterministicJson) :
    performEntries (e :: es) = (do performEntry e.tag e.profile e; performEntries es) := by
  rw [performEntries]

/-- A container is written as its start, its entries and an end marker. -/
theorem performEntry_opens {i : Item} (hi : i.type.IsContainer) (entries : List DeterministicJson) :
    performEntry (i.control.tag i.tag) (i.control.profile i.tag)
        { i.entry with value := .array entries } =
      (do
        append (encodeControlByte i.type.code 0 (i.control.tag i.tag) (i.control.profile i.tag))
        performEntries entries
        putContainerEnd) := by
  obtain ⟨kind, hkind⟩ := hi
  have hperform : perform .encode (.array entries) = performEntries entries := by unfold perform; rfl
  unfold Item.entry
  rw [← hperform]
  cases kind <;> rw [hkind] <;> unfold performEntry <;> rfl

theorem rewrites_opens {i : Item} (hi : i.Opens) :
    Rewrites i (encodeControlByte i.type.code 0 (i.control.tag i.tag)
      (i.control.profile i.tag)) := by
  have hfull := hi.2.full (Item.short_of_container hi.1)
  obtain ⟨kind, hkind⟩ := hi.1
  have hre := rewrites_plain hkind hfull rfl (fun _ => rfl) (fun _ _ => trivial)
  rwa [← hkind] at hre

theorem putContainerEnd_closes {closing : Item} (h : closing.Closes) (hp : closing.Permitted) :
    putContainerEnd = append (.ok closing.wire) := by
  have hcontrol := hp.2 h.1
  have htag : closing.tag = [] :=
    List.eq_nil_of_length_eq_zero (by rw [closing.length_tag, hcontrol]; rfl)
  have hfield : closing.field = [] :=
    List.eq_nil_of_length_eq_zero (by rw [closing.length_field, h.1]; rfl)
  have hcontent := closing.content_nil (h.2.full (Item.short_of_end h.1)) (by rw [h.1]; rfl)
  have hbyte : encodeControlByte tlvTypeEnd = .ok [controlByte .anonymous .endOfCollection] :=
    encodeControlByte_code rfl rfl rfl
  unfold putContainerEnd Item.wire
  rw [hbyte, hcontrol, h.1, htag, hfield, hcontent]
  rfl

theorem Item.Canonical.short {i : Item} (h : i.Canonical) : i.Short := by
  intro hlong
  have htype := h.type
  rcases hlong with hlong | hlong <;> rw [hlong] at htype <;> exact htype.1 rfl

/-- **A sequence of canonical items is read as a forest that is written as the sequence.** -/
theorem Sequence.reencodes {s : Bytes} (h : Sequence Item.Canonical s) :
    ∃ forest, Appends (performEntries forest) s ∧ ∀ rest,
      recursiveDescent (s ++ rest) = (do
        let (siblings, rest) ← recursiveDescent rest
        return (forest ++ siblings, rest)) := by
  refine h.read (Q := fun s forest => Appends (performEntries forest) s) (fun _ hi => hi.short)
    ?_ ?_ ?_
  · intro w
    simp [performEntries]
  · intro i s forest hi hcan hforest
    obtain ⟨written, hwrite, hre⟩ :=
      writeItem_leaf hi.1 hi.2.1 hcan.permitted.1 (hi.2.2.full hcan.short)
    rw [performEntries_cons]
    refine Appends.bind ?_ hforest
    show Appends (writeItem i) i.wire
    rw [hwrite]
    exact appends_append (hre.gives hcan.control hcan.type)
  · intro i closing children s entries forest hi hcan hclosing hp hentries hforest
    rw [performEntries_cons, ← List.append_assoc children, ← List.append_assoc i.wire]
    refine Appends.bind ?_ hforest
    show Appends (performEntry (i.control.tag i.tag) (i.control.profile i.tag) _) _
    rw [performEntry_opens hi.1, putContainerEnd_closes hclosing hp.permitted]
    have hopen := (rewrites_opens hi).gives hcan.control hcan.type
    exact (appends_append hopen).bind (hentries.bind (appends_append rfl))

/-! ## 6. Nothing else comes back -/

section Step

variable {i : Item} {w w' : TlvWriter} {u x : Bytes} {siblings : List DeterministicJson}

/-- A writer that ends where the bytes go on has appended what an item is. -/
theorem Rewrites.step {written : Except JsError Bytes} {m : WriterM Unit} (hre : Rewrites i written)
    (hm : Grows m) (hrun : (do append written; m : WriterM Unit).run w = .ok () w')
    (hbuf : w'.buf ++ u = w.buf ++ (i.wire ++ x)) (hx : ¬ i.type.Long → x.head? ≠ some 0xBF) :
    i.control.Canonical i.tag ∧ i.type.Canonical i.field i.content ∧
      ∃ w₁ : TlvWriter, m.run w₁ = .ok () w' ∧ w₁.buf = w.buf ++ i.wire := by
  obtain ⟨_, w₁, hfirst, hrest⟩ := run_bind_eq_ok hrun
  obtain ⟨bs, rfl, hbs⟩ := run_append_eq_ok hfirst
  obtain ⟨bs', hbs'⟩ := hm w₁ w' hrest
  have heq : bs ++ (bs' ++ u) = i.wire ++ x := by
    rw [hbs', hbs] at hbuf
    simpa only [List.append_assoc, List.append_cancel_left_eq] using hbuf
  obtain ⟨hcontrol, htype⟩ := hre.canonical bs (bs' ++ u) x rfl heq hx
  obtain rfl := Except.ok.inj (hre.gives hcontrol htype)
  exact ⟨hcontrol, htype, w₁, hrest, hbs⟩

theorem leaf_step (hc : ¬ i.type.IsContainer) (hend : i.type ≠ .endOfCollection)
    (hres : ∀ n, i.type ≠ .reserved n) (hfull : i.Full)
    (hrun : (performEntries (i.entry :: siblings)).run w = .ok () w')
    (hbuf : w'.buf ++ u = w.buf ++ (i.wire ++ x)) (hx : ¬ i.type.Long → x.head? ≠ some 0xBF) :
    i.control.Canonical i.tag ∧ i.type.Canonical i.field i.content ∧
      ∃ w₁ : TlvWriter, (performEntries siblings).run w₁ = .ok () w' ∧
        w₁.buf = w.buf ++ i.wire := by
  obtain ⟨written, hwrite, hre⟩ := writeItem_leaf hc hend hres hfull
  have hcons : performEntries (i.entry :: siblings) =
      (do append written; performEntries siblings) := by
    rw [performEntries_cons, ← hwrite]
    rfl
  rw [hcons] at hrun
  exact hre.step (grows_performEntries siblings) hrun hbuf hx

/-- A string with a length of eight bytes does not come back. -/
theorem long_step (hi : i.IsLeaf) (hp : i.Permitted) (hlong : i.type.Long)
    {forest : List DeterministicJson} {rest : Bytes}
    (hread : recursiveDescent (i.wire ++ x) = .ok (forest, rest))
    (hrun : (performEntries forest).run w = .ok () w') :
    w'.buf ++ u ≠ w.buf ++ (i.wire ++ x) := by
  -- the reader takes the length for the value and the content for more elements
  let i₀ : Item := { i with content := [] }
  have hfull : i₀.Full := by
    show 0 = i.type.contentLength i.field
    rw [ElementType.contentLength, if_pos hlong]
  have hwire : i.wire ++ x = i₀.wire ++ (i.content ++ x) := by
    show controlByte _ _ :: (i.tag ++ i.field ++ i.content) ++ x =
      controlByte _ _ :: (i.tag ++ i.field ++ []) ++ (i.content ++ x)
    simp only [List.cons_append, List.append_assoc, List.nil_append]
    rfl
  intro hbuf
  rw [hwire, descend_leaf (i := i₀) hi.1 hi.2.1 (.inl hfull)] at hread
  obtain ⟨⟨siblings, rest'⟩, _, hread⟩ := bind_eq_ok hread
  cases hread
  rw [hwire] at hbuf
  obtain ⟨_, htype, _⟩ := leaf_step (i := i₀) hi.1 hi.2.1 hp.1 hfull hrun hbuf
    (fun h => absurd hlong h)
  have htype' : i.type.Canonical i.field [] := htype
  rcases hlong with hlong | hlong <;> rw [hlong] at htype' <;> exact htype'.1 rfl

end Step

/-- No permitted item begins with 0xBF. -/
theorem Item.head_ne {i : Item} (hp : i.Permitted) (rest : Bytes) :
    (i.wire ++ rest).head? ≠ some 0xBF := by
  intro h
  have hbyte : controlByte i.control i.type = controlByte .implicitProfile4Bytes (.reserved 6) :=
    Option.some.inj h
  exact hp.1 6 (controlByte_inj hbyte).2

theorem Sequence.head_ne {s : Bytes} (h : Sequence Item.Permitted s) {v : Bytes}
    (hv : v.head? ≠ some 0xBF) : (s ++ v).head? ≠ some 0xBF := by
  cases h with
  | nil => exact hv
  | leaf _ hp _ =>
    rw [List.append_assoc]
    exact Item.head_ne hp _
  | container _ hp _ _ _ _ =>
    rw [List.append_assoc]
    exact Item.head_ne hp _

/-- **What comes back is canonical**: the writer goes through the entries of a sequence, and the
    first item that is not canonical ends the agreement with the bytes. -/
theorem Sequence.canonical_of_reencoded {s : Bytes} (h : Sequence Item.Permitted s)
    {v u rest : Bytes} {w w' : TlvWriter} {forest : List DeterministicJson}
    (hv : v.head? ≠ some 0xBF) (hread : recursiveDescent (s ++ v) = .ok (forest, rest))
    (hrun : (performEntries forest).run w = .ok () w')
    (hbuf : w'.buf ++ u = w.buf ++ (s ++ v)) : Sequence Item.Canonical s := by
  induction h generalizing v u rest w w' forest with
  | nil => exact .nil
  | @leaf i s hi hp hs ih =>
    rw [List.append_assoc] at hread hbuf
    by_cases hlong : i.type.Long
    · exact absurd hbuf (long_step hi hp hlong hread hrun)
    · have hfull := hi.2.2.full hlong
      rw [descend_leaf hi.1 hi.2.1 (.inl hfull)] at hread
      obtain ⟨⟨siblings, rest'⟩, hsiblings, hread⟩ := bind_eq_ok hread
      cases hread
      obtain ⟨hcontrol, htype, w₁, hrun₁, hbuf₁⟩ :=
        leaf_step hi.1 hi.2.1 hp.1 hfull hrun hbuf (fun _ => hs.head_ne hv)
      refine .leaf hi ⟨hp, hcontrol, htype⟩ (ih (u := u) hv hsiblings hrun₁ ?_)
      rw [hbuf, hbuf₁, List.append_assoc]
  | @container i closing children s hi hp hc hclosing hp' hs ihc ih =>
    simp only [List.append_assoc] at hread hbuf
    rw [descend_opens hi] at hread
    obtain ⟨⟨entries, rest₁⟩, hentries, hread⟩ := bind_eq_ok hread
    obtain ⟨⟨siblings, rest₂⟩, hsiblings, hread⟩ := bind_eq_ok hread
    cases hread
    -- the start of the container
    rw [performEntries_cons] at hrun
    obtain ⟨_, w₃, hfirst, hafter⟩ := run_bind_eq_ok hrun
    obtain ⟨bs, hbs⟩ := grows_performEntries siblings w₃ w' hafter
    have hfirst' : (performEntry (i.control.tag i.tag) (i.control.profile i.tag) _).run w =
      .ok () w₃ := hfirst
    rw [performEntry_opens hi.1, putContainerEnd_closes hclosing hp'] at hfirst'
    have hbuf₃ : w₃.buf ++ (bs ++ u) =
        w.buf ++ (i.wire ++ (children ++ (closing.wire ++ (s ++ v)))) := by
      rw [← hbuf, hbs, List.append_assoc]
    obtain ⟨hcontrol, htype, w₁, hbody, hbuf₁⟩ := (rewrites_opens hi).step
      ((grows_performEntries entries).bind (grows_append _)) hfirst' hbuf₃
      (fun _ => hc.head_ne (Item.head_ne hp' _))
    -- its entries
    obtain ⟨_, w₂, hchildren, hclose⟩ := run_bind_eq_ok hbody
    obtain ⟨_, hok, hbuf₂⟩ := run_append_eq_ok hclose
    obtain rfl := Except.ok.inj hok
    have hcan := ihc (u := closing.wire ++ (bs ++ u)) (Item.head_ne hp' _) hentries hchildren (by
      rw [← List.append_assoc w₂.buf, ← hbuf₂, hbuf₃, hbuf₁, List.append_assoc])
    have hclosing' : closing.Canonical := by
      refine ⟨hp', ?_, ?_⟩
      · rw [hp'.2 hclosing.1]
        trivial
      · rw [hclosing.1]
        trivial
    -- what comes behind it
    obtain ⟨forest, happends, hforest⟩ := hcan.reencodes
    rw [hforest, descend_closes hclosing] at hentries
    cases hentries
    rw [List.append_nil, happends w₁] at hchildren
    cases hchildren
    refine .container hi ⟨hp, hcontrol, htype⟩ hcan hclosing hclosing'
      (ih (u := u) hv hsiblings hafter ?_)
    rw [hbuf, hbuf₂, hbuf₁]
    simp only [List.append_assoc]

theorem encodeBuffer_array {forest : List DeterministicJson} {b : Bytes} :
    encodeBuffer (.array forest) = .ok b ↔
      ∃ w, (performEntries forest).run {} = .ok () w ∧ w.buf = b := by
  have hperform : encode (.array forest) = performEntries forest := by
    unfold encode perform
    rfl
  unfold encodeBuffer
  rw [hperform]
  cases (performEntries forest).run {} with
  | ok a w =>
    constructor
    · intro h
      exact ⟨w, rfl, Except.ok.inj h⟩
    · intro h
      obtain ⟨w', hw, hb⟩ := h
      cases hw
      exact congrArg Except.ok hb
  | error e w =>
    constructor
    · intro h
      cases h
    · intro h
      obtain ⟨w', hw, _⟩ := h
      cases hw

/-- **When the decoded JSON encodes to the original bytes**: for every sequence of permitted items,
    exactly when all its items are canonical. -/
theorem reencode_iff {b : Bytes} (h : Sequence Item.Permitted b) :
    reencode b = .ok b ↔ Sequence Item.Canonical b := by
  unfold reencode
  rw [decode_eq_recursiveDescent]
  constructor
  · intro hb
    obtain ⟨json, hd, hb⟩ := bind_eq_ok hb
    cases hread : recursiveDescent b with
    | error e =>
      rw [hread] at hd
      cases hd
    | ok read =>
      obtain ⟨forest, rest⟩ := read
      rw [hread] at hd
      cases hd
      obtain ⟨w, hrun, hw⟩ := encodeBuffer_array.mp hb
      refine h.canonical_of_reencoded (v := []) (u := []) (by decide)
        (by rw [List.append_nil]; exact hread) hrun ?_
      rw [hw, List.append_nil]
      rfl
  · intro hcan
    obtain ⟨forest, happends, hread⟩ := hcan.reencodes
    have hd := hread []
    rw [List.append_nil, recursiveDescent_nil] at hd
    rw [hd]
    show encodeBuffer (.array (forest ++ [])) = _
    rw [List.append_nil]
    exact encodeBuffer_array.mpr ⟨_, happends {}, rfl⟩

/-- The integer 1 in two bytes is a sequence of the format. -/
theorem wideOne_permitted : Sequence Item.Permitted [0x05, 0x01, 0x00] := by
  obtain ⟨hleaf, hp⟩ := isLeaf_unsigned .anonymous 1 (show ([] : Bytes).length = _ from rfl)
    (show ([0x01, 0x00] : Bytes).length = _ from rfl)
  exact .leaf hleaf hp .nil

/-- A struct that holds the integer 1 under tag 0, and a list with the integer 300. -/
def nested : Bytes := [0x15, 0x24, 0x00, 0x01, 0x17, 0x05, 0x2C, 0x01, 0x18, 0x18]

/-- Each of its items is in the form that the writer picks. -/
theorem nested_canonical : Sequence Item.Canonical nested := by
  obtain ⟨hone, hone'⟩ := isLeaf_unsigned .contextSpecific 0 (show ([0x00] : Bytes).length = _ from rfl)
    (show ([0x01] : Bytes).length = _ from rfl)
  obtain ⟨hwide, hwide'⟩ := isLeaf_unsigned .anonymous 1 (show ([] : Bytes).length = _ from rfl)
    (show ([0x2C, 0x01] : Bytes).length = _ from rfl)
  have hstart (kind : ContainerKind) : Item.Opens ⟨.anonymous, .container kind, [], [], [], rfl, rfl⟩ ∧
      Item.Canonical ⟨.anonymous, .container kind, [], [], [], rfl, rfl⟩ :=
    ⟨⟨⟨kind, rfl⟩, rfl⟩, ⟨nofun, nofun⟩, trivial, trivial⟩
  have hend : Item.Closes ⟨.anonymous, .endOfCollection, [], [], [], rfl, rfl⟩ ∧
      Item.Canonical ⟨.anonymous, .endOfCollection, [], [], [], rfl, rfl⟩ :=
    ⟨⟨rfl, rfl⟩, ⟨nofun, fun _ => rfl⟩, trivial, trivial⟩
  have hlist : Sequence Item.Canonical [0x17, 0x05, 0x2C, 0x01, 0x18] :=
    .container (hstart .list).1 (hstart .list).2 (.leaf hwide ⟨hwide', trivial, rfl⟩ .nil)
      hend.1 hend.2 .nil
  have hbody : Sequence Item.Canonical [0x24, 0x00, 0x01, 0x17, 0x05, 0x2C, 0x01, 0x18] :=
    .leaf hone ⟨hone', trivial, rfl⟩ hlist
  exact .container (hstart .struct).1 (hstart .struct).2 hbody hend.1 hend.2 .nil

/-- The struct comes back. -/
theorem reencode_nested : reencode nested = .ok nested :=
  (reencode_iff (nested_canonical.imp fun _ h => h.permitted)).mpr nested_canonical

/-- **An integer in more bytes than it needs does not come back.** -/
theorem reencode_wideOne :
    Sequence Item.Permitted [0x05, 0x01, 0x00] ∧ reencode [0x05, 0x01, 0x00] = .ok [0x04, 0x01] ∧
      reencode [0x05, 0x01, 0x00] ≠ .ok [0x05, 0x01, 0x00] :=
  ⟨wideOne_permitted, rfl, by decide⟩

end Matternode.Tlv
