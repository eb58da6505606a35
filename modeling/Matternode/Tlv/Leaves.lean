/-
  File:      Matternode/Tlv/Leaves.lean
  Subject:   One number or text, written and read back before further bytes.

  A number is written in its shortest width, but an unsigned bigint below 2^32 is refused by the
  write of that width. The length prefix of a text counts UTF-16 units and its bytes are UTF-8, so the
  reader takes too few bytes of any text outside ASCII, and reads the rest of them as elements.

  * `UnsignedComesBack`, **`unsignedComesBack_iff`** -- the unsigned numbers that are written and
    read back;
  * `SignedComesBack`, **`signedComesBack`** -- every signed number of 64 bits is, and no other;
  * `decode_reserved` -- what U+FFFD leaves behind is never read as nothing;
  * `TextComesBack`, **`textComesBack_iff`** -- the texts that are.
-/
import Matternode.Tlv.Tags

namespace Matternode.Tlv

open Base Js

/-! ## 1. Tags the writer takes -/

/-- The writer has a form for the tag. -/
def IsWritten (tag profile : Option Int) : Prop :=
  ∃ written, encodeTagControl tag profile = .ok written

/-- A write keeps the length of its buffer. -/
theorem length_writeUIntLE {w off : Nat} {bs bs' : Bytes} {v : JsValue}
    (h : writeUIntLE w bs v off = .ok bs') : bs'.length = bs.length := by
  obtain ⟨x, -, h⟩ := bind_eq_ok h
  split at h
  · cases h
  · unfold writeBytes at h
    split at h
    · rename_i hle
      cases h
      exact length_overwrite hle
    · cases h

/-- A tag of a profile is written in one of the profile's two forms. -/
theorem form_of_profile {a b : TagControl} {tag : Option Int} {written : Nat × Bytes}
    (h2 : a.width = 2) (h4 : b.width = 4)
    (h : encodeProfileTag a.code b.code tag = .ok written) :
    ∃ (c : TagControl) (field : Bytes), written = (c.code, field) ∧ field.length = c.width := by
  unfold encodeProfileTag at h
  split at h
  · cases h
  · split at h
    · obtain ⟨field, hw, hret⟩ := bind_eq_ok h
      cases hret
      exact ⟨a, field, rfl, by rw [length_writeUIntLE hw, h2, length_bufferAlloc]⟩
    · split at h
      · obtain ⟨field, hw, hret⟩ := bind_eq_ok h
        cases hret
        exact ⟨b, field, rfl, by rw [length_writeUIntLE hw, h4, length_bufferAlloc]⟩
      · cases h

/-- A fully-qualified tag is written in one of its two forms, or not at all. -/
theorem form_of_qualified {profile : Int} {tag : Option Int} {written : Nat × Bytes}
    (h : encodeFullyQualifiedTag profile tag = .ok written) :
    ∃ (c : TagControl) (field : Bytes), written = (c.code, field) ∧ field.length = c.width := by
  unfold encodeFullyQualifiedTag at h
  split at h
  · cases h
  · split at h
    · obtain ⟨encoded, hw, h⟩ := bind_eq_ok h
      obtain ⟨field, hw', hret⟩ := bind_eq_ok h
      cases hret
      refine ⟨.fullyQualified6Bytes, field, rfl, ?_⟩
      rw [length_writeUIntLE hw', length_writeUIntLE hw, length_bufferAlloc]
      rfl
    · split at h
      · obtain ⟨encoded, hw, h⟩ := bind_eq_ok h
        obtain ⟨field, hw', hret⟩ := bind_eq_ok h
        cases hret
        refine ⟨.fullyQualified8Bytes, field, rfl, ?_⟩
        rw [length_writeUIntLE hw', length_writeUIntLE hw, length_bufferAlloc]
        rfl
      · cases h
        exact ⟨.anonymous, [], rfl, rfl⟩

/-- **What is written for a tag is a form of its width.** -/
theorem form_of_isWritten {tag profile : Option Int} (h : IsWritten tag profile) :
    ∃ (c : TagControl) (field : Bytes),
      encodeTagControl tag profile = .ok (c.code, field) ∧ field.length = c.width := by
  obtain ⟨written, hw⟩ := h
  have hform : ∃ (c : TagControl) (field : Bytes),
      written = (c.code, field) ∧ field.length = c.width := by
    unfold encodeTagControl at hw
    split at hw
    · split at hw
      · cases hw
        exact ⟨.anonymous, [], rfl, rfl⟩
      · split at hw
        · cases hw
        · obtain ⟨field, hwrite, hret⟩ := bind_eq_ok hw
          cases hret
          refine ⟨.contextSpecific, field, rfl, ?_⟩
          rw [length_writeUIntLE hwrite, length_bufferAlloc]
          rfl
    · split at hw
      · exact form_of_profile (a := .commonProfile2Bytes) (b := .commonProfile4Bytes) rfl rfl hw
      · split at hw
        · exact form_of_profile (a := .implicitProfile2Bytes) (b := .implicitProfile4Bytes) rfl rfl
            hw
        · exact form_of_qualified hw
  obtain ⟨c, field, rfl, hlen⟩ := hform
  exact ⟨c, field, hw, hlen⟩

/-- An element without entries is read, and then what follows it. -/
theorem decode_leaf {i : Item} (rest : Bytes) (hc : ¬ i.type.IsContainer)
    (hend : i.type ≠ .endOfCollection) (hfull : i.Full) :
    decode (i.wire ++ rest) = (decode rest).map (i.entry :: ·) := by
  rw [decode_eq_recursiveDescent, decode_eq_recursiveDescent, descend_leaf hc hend (.inl hfull)]
  cases recursiveDescent rest <;> rfl

/-! ## 2. Unsigned integers -/

/-- The code of the shortest of 1, 2, 4, 8 bytes that hold the number. -/
structure IsShortest (k : Nat) (n : Nat) : Prop where
  width : k < 4
  fits : n < 256 ^ 2 ^ k
  least : ∀ j < k, 256 ^ 2 ^ j ≤ n

theorem isShortest_unsignedWidth {n : Nat} (h : n < 2 ^ 64) : IsShortest (unsignedWidth n) n := by
  refine ⟨unsignedWidth_lt n, unsignedWidth_fits h, ?_⟩
  intro j hj
  rcases unsignedWidth_cases n with ⟨hw, _⟩ | ⟨hw, hn, _⟩ | ⟨hw, hn, _⟩ | ⟨hw, hn⟩ <;> rw [hw] at hj
  · omega
  · obtain rfl : j = 0 := by omega
    omega
  · have hpow := (by decide : ∀ j < 2, 256 ^ 2 ^ j ≤ 65536) j hj
    omega
  · have hpow := (by decide : ∀ j < 3, 256 ^ 2 ^ j ≤ 4294967296) j hj
    omega

/-- From 2^32 on eight bytes are needed. -/
theorem unsignedWidth_long {n : Nat} (h : 2 ^ 32 ≤ n) : unsignedWidth n = 3 := by
  rcases unsignedWidth_cases n with ⟨_, hn⟩ | ⟨_, _, hn⟩ | ⟨_, _, hn⟩ | ⟨hw, _⟩
  · omega
  · omega
  · omega
  · exact hw

/-- `putUnsignedInt(v)` succeeds if the number `n` that `v` is has 64 bits, and only then. Then it
    stands in its shortest width behind its control byte and tag, and the reader answers it, and
    then what follows. -/
structure UnsignedComesBack (v : JsValue) (n : Nat) (tag profile : Option Int) : Prop where
  succeeds : ∀ w : TlvWriter,
    (∃ w', (putUnsignedInt v tag profile).run w = .ok () w') ↔ n < 2 ^ 64
  comesBack : n < 2 ^ 64 → ∃ (k : Nat) (header : Bytes) (entry : DeterministicJson),
    IsShortest k n ∧ encodeControlByte tlvTypeUnsignedInteger (2 ^ k) tag profile = .ok header ∧
      Appends (putUnsignedInt v tag profile) (header ++ toLE (2 ^ k) n) ∧
      IsInteger entry.value n ∧
      ∀ rest, decode (header ++ toLE (2 ^ k) n ++ rest) = (decode rest).map (entry :: ·)

/-- From 2^64 on nothing is written. -/
theorem encodeUnsignedInt_big {v : JsValue} {n : Nat} (h : IsInteger v n) (hn : 2 ^ 64 ≤ n) :
    ∃ e, encodeUnsignedInt v = .error e := by
  have hz : v ≠ .number (.double 0x8000000000000000) := by
    rintro rfl
    generalize hm : (n : Int) = m at h
    cases h
    omega
  simp only [encodeUnsignedInt, numeric_of_isInteger h hz, Number.int_lt, Number.int_le,
    decide_eq_true_eq, uint64Max]
  rw [if_neg (by omega), if_neg (by omega), if_neg (by omega), if_neg (by omega)]
  by_cases hmax : (n : Int) ≤ 2 ^ 64
  · -- the bound is 2^64 itself, which the write of eight bytes refuses
    rw [if_pos hmax, toBigInt_of_isInteger h]
    exact ⟨.rangeError, if_pos (.inr (by omega))⟩
  · rw [if_neg hmax]
    exact ⟨_, rfl⟩

/-- A method that cannot compute its parts throws. -/
theorem append_error {parts : Except JsError Bytes} {e : JsError} (h : parts = .error e)
    (w w' : TlvWriter) : (append parts).run w ≠ .ok () w' := by
  subst h
  intro hrun
  cases hrun

/-- **Unsigned integers are written and read back exactly where** no bigint below 2^32 is given. -/
theorem unsignedComesBack_iff {v : JsValue} {n : Nat} (hv : IsInteger v n)
    {tag profile : Option Int} (htag : IsWritten tag profile) :
    UnsignedComesBack v n tag profile ↔ ((∃ k, v = .bigint k) → 2 ^ 32 ≤ n) := by
  obtain ⟨c, field, henc, hlen⟩ := form_of_isWritten htag
  by_cases hsmall : (∃ k, v = .bigint k) ∧ n < 2 ^ 32
  · obtain ⟨⟨k, rfl⟩, hn⟩ := hsmall
    refine iff_of_false ?_ fun h => by have := h ⟨k, rfl⟩; omega
    intro h
    obtain ⟨w', hw⟩ := (h.succeeds {}).mpr (by omega)
    obtain rfl : k = n := by cases hv; rfl
    exact append_error (by rw [encodeUnsignedInt_bigint hn]; rfl) _ _ hw
  · refine iff_of_true ?_ fun h => by
      by_contra hn
      exact hsmall ⟨h, by omega⟩
    have hbig : ∀ k, v = .bigint k → 2 ^ 32 ≤ n := by
      intro k hk
      by_contra hn
      exact hsmall ⟨⟨k, hk⟩, by omega⟩
    by_cases hn : n < 2 ^ 64
    · have hw := unsignedWidth_lt n
      have hshort := isShortest_unsignedWidth hn
      let i : Item := ⟨c, .unsigned ⟨_, hw⟩, field, shortest n, [], hlen, length_shortest n⟩
      have hheader : encodeControlByte tlvTypeUnsignedInteger (2 ^ unsignedWidth n) tag profile =
          .ok (controlByte c i.type :: field) :=
        encodeControlByte_code (lengthBits_width hw) (or_code_unsigned hw) henc
      have hput : Appends (putUnsignedInt v tag profile)
          (controlByte c i.type :: field ++ shortest n) := by
        apply appends_append
        rw [encodeUnsignedInt_given hv hbig hn]
        exact sizedElement_code hw (length_shortest n) (or_code_unsigned hw) henc
      refine ⟨fun w => iff_of_true ⟨_, hput w⟩ hn, fun _ =>
        ⟨unsignedWidth n, _, i.entry, hshort, hheader, hput, ?_, ?_⟩⟩
      · show IsInteger (integerValue (unsignedWidth n) (ofLE (toLE _ n))) n
        rw [ofLE_toLE_of_lt hshort.fits]
        exact isInteger_integerValue _ _
      · intro rest
        have hread := decode_leaf (i := i) rest (by rintro ⟨kind, hkind⟩; cases hkind)
          (by intro hend; cases hend) rfl
        rw [← hread]
        simp [i, Item.wire, shortest]
    · obtain ⟨e, he⟩ := encodeUnsignedInt_big hv (by omega)
      refine ⟨fun w => iff_of_false ?_ hn, fun h => absurd h hn⟩
      rintro ⟨w', hw⟩
      exact append_error (by rw [he]; rfl) _ _ hw

/-- A number of 64 bits given as a bigint. -/
theorem unsignedComesBack_iff_sample :
    UnsignedComesBack (.bigint 0xFFFFFFFFFFFFFFFF) 0xFFFFFFFFFFFFFFFF (some 1) none ↔
      ((∃ k, JsValue.bigint 0xFFFFFFFFFFFFFFFF = .bigint k) → 2 ^ 32 ≤ 0xFFFFFFFFFFFFFFFF) :=
  unsignedComesBack_iff (.bigint _) ⟨_, rfl⟩

/-- **A bigint that is not written**: five, as the reader answers it from eight bytes. -/
theorem smallBigint_lost : ¬ UnsignedComesBack (.bigint 5) 5 none none := by
  intro h
  obtain ⟨w', hw⟩ := (h.succeeds {}).mpr (by decide)
  cases hw

/-! ## 3. Signed integers -/

/-- The integer has a two's complement of this many bytes. -/
def HoldsSigned (w : Nat) (n : Int) : Prop := -(256 ^ w : Nat) ≤ n * 2 ∧ n * 2 < (256 ^ w : Nat)

/-- The code of the shortest of 1, 2, 4, 8 bytes that hold the integer in two's complement. -/
structure IsShortestSigned (k : Nat) (n : Int) : Prop where
  width : k < 4
  fits : HoldsSigned (2 ^ k) n
  least : ∀ j < k, ¬ HoldsSigned (2 ^ j) n

theorem isShortest_signedWidth {n : Int} (hlo : -2 ^ 63 ≤ n) (hhi : n < 2 ^ 63) :
    IsShortestSigned (signedWidth n) n := by
  refine ⟨signedWidth_lt n, signedWidth_fits hlo hhi, ?_⟩
  intro j hj
  unfold HoldsSigned
  rcases signedWidth_cases n with ⟨hw, _⟩ | ⟨hw, hn, _⟩ | ⟨hw, hn, _⟩ | ⟨hw, hn⟩ <;> rw [hw] at hj
  · omega
  · obtain rfl : j = 0 := by omega
    norm_num
    omega
  · have hpow := (by decide : ∀ j < 2, 256 ^ 2 ^ j ≤ 65536) j hj
    omega
  · have hpow := (by decide : ∀ j < 3, 256 ^ 2 ^ j ≤ 4294967296) j hj
    omega

/-- `putSignedInt(v)` succeeds if the number `n` that `v` is has 64 bits, and only then; else it
    throws and the writer is as it was. What it writes stands in the shortest width behind its
    control byte and tag, and the reader answers `n` with its sign, and then what follows. -/
structure SignedComesBack (v : JsValue) (n : Int) (tag profile : Option Int) : Prop where
  succeeds : ∀ w : TlvWriter,
    (∃ w', (putSignedInt v tag profile).run w = .ok () w') ↔ -2 ^ 63 ≤ n ∧ n < 2 ^ 63
  throws : ¬ (-2 ^ 63 ≤ n ∧ n < 2 ^ 63) →
    ∀ w : TlvWriter, ∃ e, (putSignedInt v tag profile).run w = .error e w
  comesBack : -2 ^ 63 ≤ n → n < 2 ^ 63 →
    ∃ (k : Nat) (header : Bytes) (entry : DeterministicJson),
      IsShortestSigned k n ∧ encodeControlByte tlvTypeSignedInteger (2 ^ k) tag profile = .ok header ∧
        Appends (putSignedInt v tag profile) (header ++ toLEInt (2 ^ k) n) ∧
        IsInteger entry.value n ∧
        ∀ rest, decode (header ++ toLEInt (2 ^ k) n ++ rest) = (decode rest).map (entry :: ·)

/-- Outside 64 bits nothing is written. -/
theorem encodeSignedInt_big {v : JsValue} {n : Int} (h : IsInteger v n)
    (hn : ¬ (-2 ^ 63 ≤ n ∧ n < 2 ^ 63)) : ∃ e, encodeSignedInt v = .error e := by
  have hz : v ≠ .number (.double 0x8000000000000000) := by
    rintro rfl
    cases h
    omega
  simp only [encodeSignedInt, numeric_of_isInteger h hz, Number.int_ge, Number.int_le,
    Bool.and_eq_true, decide_eq_true_eq, int64Max]
  rw [if_neg (by omega), if_neg (by omega), if_neg (by omega)]
  by_cases hmax : -9223372036854775808 ≤ n ∧ n ≤ 2 ^ 63
  · -- the upper bound is 2^63 itself, which the write of eight bytes refuses
    rw [if_pos hmax, toBigInt_of_isInteger h]
    exact ⟨.rangeError, if_pos (.inr (by omega))⟩
  · rw [if_neg hmax]
    exact ⟨_, rfl⟩

/-- **Signed integers are written and read back exactly within 64 bits**, as numbers or bigints. -/
theorem signedComesBack {v : JsValue} {n : Int} (hv : IsInteger v n) {tag profile : Option Int}
    (htag : IsWritten tag profile) : SignedComesBack v n tag profile := by
  obtain ⟨c, field, henc, hlen⟩ := form_of_isWritten htag
  by_cases hn : -2 ^ 63 ≤ n ∧ n < 2 ^ 63
  · obtain ⟨hlo, hhi⟩ := hn
    have hw := signedWidth_lt n
    have hshort := isShortest_signedWidth hlo hhi
    let i : Item := ⟨c, .signed ⟨_, hw⟩, field, toLEInt (2 ^ signedWidth n) n, [], hlen,
      length_toLEInt _ _⟩
    have hheader : encodeControlByte tlvTypeSignedInteger (2 ^ signedWidth n) tag profile =
        .ok (controlByte c i.type :: field) :=
      encodeControlByte_code (lengthBits_width hw) (or_code_signed hw) henc
    have hput : Appends (putSignedInt v tag profile)
        (controlByte c i.type :: field ++ toLEInt (2 ^ signedWidth n) n) := by
      apply appends_append
      rw [encodeSignedInt_given hv hlo hhi]
      exact sizedElement_code hw (length_toLEInt _ _) (or_code_signed hw) henc
    refine ⟨fun w => iff_of_true ⟨_, hput w⟩ ⟨hlo, hhi⟩, fun hout => absurd ⟨hlo, hhi⟩ hout,
      fun _ _ => ⟨signedWidth n, _, i.entry, hshort, hheader, hput, ?_, ?_⟩⟩
    · show IsInteger (integerValue (signedWidth n) (ofLEInt (toLEInt _ n))) n
      rw [ofLEInt_toLEInt hshort.fits.1 hshort.fits.2]
      exact isInteger_integerValue _ _
    · intro rest
      have hread := decode_leaf (i := i) rest (by rintro ⟨kind, hkind⟩; cases hkind)
        (by intro hend; cases hend) rfl
      rw [← hread]
      simp [i, Item.wire]
  · obtain ⟨e, he⟩ := encodeSignedInt_big hv hn
    have hrun (w : TlvWriter) : (putSignedInt v tag profile).run w = .error e w := by
      unfold putSignedInt
      rw [he]
      rfl
    refine ⟨fun w => iff_of_false ?_ hn, fun _ w => ⟨e, hrun w⟩, fun hlo hhi => absurd ⟨hlo, hhi⟩ hn⟩
    rintro ⟨w', hw⟩
    rw [hrun w] at hw
    cases hw

/-- The least integer of 64 bits, given as a bigint. -/
theorem signedComesBack_sample :
    SignedComesBack (.bigint (-9223372036854775808)) (-9223372036854775808) (some 1) none :=
  signedComesBack (.bigint _) ⟨_, rfl⟩

/-! ## 4. Text -/

/-- A control byte of a reserved type with four bytes of tag. -/
def IsReservedTag (b : UInt8) : Prop := ∃ n, b = controlByte .implicitProfile4Bytes (.reserved n)

theorem isReservedTag_toNat {b : UInt8} (h : IsReservedTag b) : 0xB9 ≤ b.toNat := by
  obtain ⟨n, rfl⟩ := h
  revert n
  decide

/-- Only reserved types have no label. -/
theorem reserved_of_label {t : ElementType} (h : elementTypes t.code = none) :
    ∃ n, t = .reserved n := by
  have hcodes : ∀ m < 32, elementTypes m = none → ∃ n, ElementType.ofCode m = .reserved n := by
    decide
  rw [← ElementType.ofCode_code t]
  exact hcodes _ t.code_lt h

/-- The implicit profile has two forms. -/
theorem implicit_of_profile (c : TagControl) (field : Bytes) (h : c.profile field = some (-1)) :
    (c = .implicitProfile2Bytes ∨ c = .implicitProfile4Bytes) ∧
      c.tag field = some ((ofLE field : Nat) : Int) := by
  cases c with
  | implicitProfile2Bytes => exact ⟨.inl rfl, rfl⟩
  | implicitProfile4Bytes => exact ⟨.inr rfl, rfl⟩
  | fullyQualified6Bytes =>
    have hp : ((ofLE (field.take 4) : Nat) : Int) = -1 := Option.some.inj h
    omega
  | fullyQualified8Bytes =>
    have hp : ((ofLE (field.take 4) : Nat) : Int) = -1 := Option.some.inj h
    omega
  | anonymous => cases h
  | contextSpecific => cases h
  | commonProfile2Bytes => cases h
  | commonProfile4Bytes => cases h

/-- **What a buffer that is read begins with**: an end marker, a container, or an element that is
    the first entry of what is read. -/
theorem decode_eq_ok {tlv : Bytes} {forest : List DeterministicJson} (hne : tlv ≠ [])
    (h : decode tlv = .ok forest) :
    ∃ (i : Item) (after : Bytes), tlv = i.wire ++ after ∧ (i.Full ∨ i.CutShort ∧ after = []) ∧
      (i.type = .endOfCollection ∧ forest = [] ∨
        (i.type.IsContainer ∧
          ∃ children siblings, forest = { i.entry with value := .array children } :: siblings) ∨
        ∃ siblings, forest = i.entry :: siblings ∧ decode after = .ok siblings) := by
  rw [decode_eq_recursiveDescent] at h
  have hpos : 0 < tlv.length := List.length_pos_iff.mpr hne
  cases hd : decodeEntry tlv with
  | error e =>
    rw [descend_error hpos hd] at h
    cases h
  | ok read =>
    obtain ⟨type, decoding, after⟩ := read
    obtain ⟨i, htlv, rfl, rfl, hread⟩ := decodeEntry_eq_ok hd
    refine ⟨i, after, htlv, hread, ?_⟩
    rw [descend_entry hd] at h
    by_cases hend : i.type.code = tlvTypeEnd
    · rw [if_pos hend] at h
      cases h
      exact .inl ⟨ElementType.code_eq_end.mp hend, rfl⟩
    · rw [if_neg hend] at h
      right
      by_cases hc : i.type.code = tlvTypeStructure ∨ i.type.code = tlvTypeArray ∨
          i.type.code = tlvTypeList
      · rw [if_pos hc] at h
        left
        cases hch : recursiveDescent after with
        | error e =>
          rw [hch] at h
          cases h
        | ok first =>
          rw [hch] at h
          dsimp only [bind, Except.bind] at h
          cases hsib : recursiveDescent first.2 with
          | error e =>
            rw [hsib] at h
            cases h
          | ok second =>
            rw [hsib] at h
            cases h
            exact ⟨ElementType.code_eq_container.mp hc, _, _, rfl⟩
      · rw [if_neg hc] at h
        right
        rw [decode_eq_recursiveDescent]
        cases hsib : recursiveDescent after with
        | error e =>
          rw [hsib] at h
          cases h
        | ok second =>
          rw [hsib] at h
          cases h
          exact ⟨_, rfl, rfl⟩

/-- An element of a reserved type is its control byte and its tag. -/
theorem wire_reserved {i : Item} {after : Bytes} (ht : ∃ n, i.type = .reserved n)
    (hread : i.Full ∨ i.CutShort ∧ after = []) :
    i.wire = controlByte i.control i.type :: i.tag ∧ i.entry.value = .undefined := by
  obtain ⟨n, hn⟩ := ht
  have hfield : i.field = [] := List.eq_nil_of_length_eq_zero (by rw [i.length_field, hn]; rfl)
  have hlen : i.type.contentLength i.field = 0 := by rw [hn]; rfl
  have hcontent : i.content = [] := by
    apply List.eq_nil_of_length_eq_zero
    rcases hread with hfull | ⟨hcut, _⟩
    · exact hfull.trans hlen
    · unfold Item.CutShort at hcut
      omega
  constructor
  · unfold Item.wire
    rw [hfield, hcontent, List.append_nil, List.append_nil]
  · show i.type.value i.field i.content = _
    rw [hn]
    rfl

/-- **Two bytes that begin an element of a reserved type are not read as nothing.** They take three
    bytes of what follows into a tag, so the same entries would have to follow two bytes later, and
    so on to the end. -/
theorem decode_reserved {b b' : UInt8} {rest : Bytes} {forest : List DeterministicJson}
    (hb : IsReservedTag b) (hb' : IsReservedTag b') (h : decode rest = .ok forest) :
    decode (b :: b' :: rest) ≠ .ok forest := by
  induction hn : rest.length using Nat.strong_induction_on generalizing b b' rest forest with
  | _ m ih =>
    intro h'
    obtain ⟨n, rfl⟩ := hb
    obtain ⟨i, after, htlv, hread, hcases⟩ := decode_eq_ok (by simp) h'
    obtain ⟨hcontrol, htype, -⟩ := Item.wire_cons _ _ _ htlv
    obtain ⟨hwire, hvalue⟩ := wire_reserved ⟨n, htype⟩ hread
    have htag := i.length_tag
    rw [hcontrol] at htag
    obtain ⟨siblings, rfl, hafter⟩ : ∃ siblings, forest = i.entry :: siblings ∧
        decode after = .ok siblings := by
      rw [htype] at hcases
      rcases hcases with ⟨hend, _⟩ | ⟨⟨kind, hkind⟩, _⟩ | hleaf
      · cases hend
      · cases hkind
      · exact hleaf
    -- the tag takes the second byte and three of the rest
    obtain ⟨t0, r0, r1, r2, htag4⟩ : ∃ t0 r0 r1 r2, i.tag = [t0, r0, r1, r2] :=
      List.length_eq_four.mp htag
    rw [hwire, htag4] at htlv
    simp only [List.cons_append, List.nil_append, List.cons.injEq] at htlv
    obtain ⟨-, rfl, rfl⟩ := htlv
    obtain ⟨j, after', htlv', hread', hcases'⟩ := decode_eq_ok (by simp) h
    obtain ⟨hentry, hafter'⟩ : j.entry = i.entry ∧ decode after' = .ok siblings := by
      rcases hcases' with ⟨_, hnil⟩ | ⟨_, children, others, hcons⟩ | ⟨others, hcons, hothers⟩
      · cases hnil
      · rw [(List.cons.inj hcons).1] at hvalue
        cases hvalue
      · obtain ⟨hentry, rfl⟩ := List.cons.inj hcons
        exact ⟨hentry.symm, hothers⟩
    have hprofile : i.entry.profile = some (-1) := by
      show i.control.profile i.tag = _
      rw [hcontrol]
      rfl
    have hlabel : i.entry.type = none := by
      show elementTypes i.type.code = none
      rw [htype]
      exact (by decide : ∀ n, elementTypes (ElementType.reserved n).code = none) n
    obtain ⟨m', htype'⟩ := reserved_of_label (t := j.type) (by rw [← hlabel, ← hentry]; rfl)
    obtain ⟨hform, htagj⟩ := implicit_of_profile j.control j.tag
      (by rw [← hprofile, ← hentry]; rfl)
    have hsame : ofLE j.tag = ofLE i.tag := by
      have htagi : i.entry.tag = some ((ofLE i.tag : Nat) : Int) := by
        show i.control.tag i.tag = _
        rw [hcontrol]
        rfl
      have htags : j.entry.tag = i.entry.tag := by rw [hentry]
      rw [htagi, show j.entry.tag = _ from htagj, Option.some.injEq] at htags
      omega
    obtain ⟨hwire', -⟩ := wire_reserved ⟨m', htype'⟩ hread'
    rw [hwire', List.cons_append, List.cons.injEq] at htlv'
    obtain ⟨rfl, htlv'⟩ := htlv'
    have htag' := j.length_tag
    rcases hform with hform | hform
    · -- a tag of two bytes is smaller
      rw [hform] at htag'
      obtain ⟨s0, s1, htag2⟩ : ∃ s0 s1, j.tag = [s0, s1] := List.length_eq_two.mp htag'
      rw [htag2] at htlv' hsame
      simp only [List.cons_append, List.nil_append, List.cons.injEq] at htlv'
      obtain ⟨rfl, rfl, -⟩ := htlv'
      rw [htag4] at hsame
      simp only [ofLE] at hsame
      have hlow := isReservedTag_toNat hb'
      omega
    · rw [hform] at htag'
      have heq : j.tag = i.tag := by
        rw [← toLE_ofLE_of_length (w := 4) htag', hsame, toLE_ofLE_of_length (w := 4) htag]
      rw [heq, htag4] at htlv'
      simp only [List.cons_append, List.nil_append, List.cons.injEq] at htlv'
      obtain ⟨rfl, rfl, rfl⟩ := htlv'
      refine ih after'.length ?_ hb' ⟨m', ?_⟩ hafter' rfl hafter
      · rw [← hn]
        simp only [List.length_cons]
        omega
      · rw [hform, htype']

/-- `putString(s)` is read back as `s` and then as what follows. -/
def TextComesBack (s : String) (tag profile : Option Int) (rest : Bytes) : Prop :=
  ∃ (bs : Bytes) (entry : DeterministicJson) (forest : List DeterministicJson),
    Appends (putString s tag profile) bs ∧ entry.value = .string s ∧ decode rest = .ok forest ∧
      decode (bs ++ rest) = .ok (entry :: forest)

theorem Appends.unique {m : WriterM Unit} {bs bs' : Bytes} (h : Appends m bs)
    (h' : Appends m bs') : bs = bs' := by
  have hrun := (h {}).symm.trans (h' {})
  injection hrun with _ hw
  have hbuf := congrArg TlvWriter.buf hw
  exact hbuf

section Text

variable {cs : List Char} {tag profile : Option Int} {c : TagControl} {field rest : Bytes}
  {forest : List DeterministicJson}

/-- What is written for a text: the count of its units, in the shortest width, and its UTF-8. -/
theorem putString_writes (hunits : utf16Units cs < 2 ^ 64)
    (henc : encodeTagControl tag profile = .ok (c.code, field)) :
    Appends (putString (String.ofList cs) tag profile)
      (controlByte c (.text ⟨unsignedWidth (utf16Units cs), unsignedWidth_lt _⟩) ::
        (field ++ (shortest (utf16Units cs) ++ utf8Encode cs))) := by
  apply appends_append
  rw [utf16Length_ofList, String.toList_ofList]
  exact lengthPrefixed hunits (or_code_text (unsignedWidth_lt _)) henc

variable (rest) in
/-- A text of 2^32 units is read as the number of its units. -/
theorem decode_longText (hlen : field.length = c.width) (hlong : 2 ^ 32 ≤ utf16Units cs)
    (hunits : utf16Units cs < 2 ^ 64) :
    ∃ entry : DeterministicJson, entry.value = .bigint (utf16Units cs) ∧
      decode (controlByte c (.text 3) :: (field ++ (shortest (utf16Units cs) ++ rest))) =
        (decode rest).map (entry :: ·) := by
  have hw := unsignedWidth_long hlong
  have hprefix : (shortest (utf16Units cs)).length = (ElementType.text 3).width := by
    rw [length_shortest, hw]
    rfl
  let i : Item := ⟨c, .text 3, field, shortest (utf16Units cs), [], hlen, hprefix⟩
  have hfull : i.Full := rfl
  have hread := decode_leaf (i := i) rest (by rintro ⟨kind, hkind⟩; cases hkind)
    (by intro hend; cases hend) hfull
  refine ⟨i.entry, ?_, ?_⟩
  · show JsValue.bigint (ofLE (shortest (utf16Units cs))) = _
    unfold shortest
    rw [ofLE_toLE_of_lt (unsignedWidth_fits hunits)]
  · rw [← hread]
    simp [i, Item.wire]

variable (rest) in
/-- Of a shorter text as many bytes are taken as it has units. -/
theorem decode_shortText (hlen : field.length = c.width) (hshort : utf16Units cs < 2 ^ 32)
    {k : Fin 4} (hk : unsignedWidth (utf16Units cs) = k) :
    ∃ entry : DeterministicJson,
      entry.value = .string (String.ofList (utf8Decode ((utf8Encode cs).take (utf16Units cs)))) ∧
      decode (controlByte c (.text k) ::
          (field ++ (shortest (utf16Units cs) ++ (utf8Encode cs ++ rest)))) =
        (decode ((utf8Encode cs).drop (utf16Units cs) ++ rest)).map (entry :: ·) := by
  have hlt := unsignedWidth_short hshort
  have hprefix : (shortest (utf16Units cs)).length = (ElementType.text k).width := by
    rw [length_shortest, hk]
    rfl
  let i : Item := ⟨c, .text k, field, shortest (utf16Units cs),
    (utf8Encode cs).take (utf16Units cs), hlen, hprefix⟩
  have hk3 : k ≠ 3 := by
    rintro rfl
    rw [hk] at hlt
    exact absurd hlt (by decide)
  have hlong : ¬ i.type.Long := by
    rintro (h | h)
    · injection h with h
      exact hk3 h
    · cases h
  have hfull : i.Full := by
    have hle := utf16Units_le_utf8Encode cs
    have hcount : ofLE (shortest (utf16Units cs)) = utf16Units cs :=
      ofLE_toLE_of_lt (unsignedWidth_fits (by omega))
    show ((utf8Encode cs).take (utf16Units cs)).length = ElementType.contentLength i.type i.field
    rw [ElementType.contentLength, if_neg hlong, List.length_take_of_le hle]
    exact hcount.symm
  have hread := decode_leaf (i := i) ((utf8Encode cs).drop (utf16Units cs) ++ rest)
    (by rintro ⟨kind, hkind⟩; cases hkind) (by intro hend; cases hend) hfull
  refine ⟨i.entry, if_neg hk3, ?_⟩
  rw [← hread]
  simp only [i, Item.wire, List.cons_append, List.append_assoc]
  rw [← List.append_assoc ((utf8Encode cs).take _), List.take_append_drop]

/-- A text that is read back whole and leaves nothing behind is ASCII. -/
theorem ascii_of_read (hforest : decode rest = .ok forest)
    (hvalue : utf8Decode ((utf8Encode cs).take (utf16Units cs)) = cs)
    (hrest : decode ((utf8Encode cs).drop (utf16Units cs) ++ rest) = .ok forest) :
    IsAscii cs := by
  have hle := utf16Units_le_utf8Encode cs
  have hunits : utf16Units (utf8Decode ((utf8Encode cs).take (utf16Units cs))) =
      ((utf8Encode cs).take (utf16Units cs)).length := by
    rw [hvalue, List.length_take_of_le hle]
  have hback : utf8Encode (utf8Decode ((utf8Encode cs).take (utf16Units cs))) ++ [] =
      (utf8Encode cs).take (utf16Units cs) ++ (utf8Encode cs).drop (utf16Units cs) := by
    rw [hvalue, List.append_nil, List.take_append_drop]
  rcases reencoded_cases hunits hback with hascii | hleft
  · rw [← hvalue]
    exact isAscii_utf8Decode hascii
  · rw [hleft] at hrest
    exact absurd hrest (decode_reserved ⟨6, rfl⟩ ⟨4, rfl⟩ hforest)

end Text

/-- **A text is read back, before whatever elements, exactly if** it is ASCII, and its length has 32
    bits. -/
theorem textComesBack_iff (s : String) {tag profile : Option Int} (htag : IsWritten tag profile)
    {rest : Bytes} (hrest : ∃ forest, decode rest = .ok forest) :
    TextComesBack s tag profile rest ↔ IsAscii s.toList ∧ s.toList.length < 2 ^ 32 := by
  obtain ⟨c, field, henc, hlen⟩ := form_of_isWritten htag
  obtain ⟨forest, hforest⟩ := hrest
  obtain ⟨cs, rfl⟩ : ∃ cs, s = String.ofList cs := ⟨s.toList, (String.ofList_toList).symm⟩
  rw [String.toList_ofList]
  by_cases hunits : utf16Units cs < 2 ^ 64
  · have hput := putString_writes hunits henc
    by_cases hshort : utf16Units cs < 2 ^ 32
    · obtain ⟨entry, hvalue, hread⟩ := decode_shortText (c := c) rest hlen hshort
        (k := ⟨unsignedWidth (utf16Units cs), unsignedWidth_lt _⟩) rfl
      constructor
      · rintro ⟨bs, entry', forest', happ, hvalue', hforest', hdecode⟩
        obtain rfl := happ.unique hput
        obtain rfl := Except.ok.inj (hforest.symm.trans hforest')
        simp only [List.cons_append, List.append_assoc] at hdecode
        rw [hread] at hdecode
        obtain ⟨left, hleft, hcons⟩ : ∃ left,
            decode ((utf8Encode cs).drop (utf16Units cs) ++ rest) = .ok left ∧
              entry :: left = entry' :: forest := by
          cases hd : decode ((utf8Encode cs).drop (utf16Units cs) ++ rest) with
          | error e =>
            rw [hd] at hdecode
            cases hdecode
          | ok left =>
            rw [hd] at hdecode
            exact ⟨left, rfl, Except.ok.inj hdecode⟩
        obtain ⟨rfl, rfl⟩ := List.cons.inj hcons
        rw [hvalue] at hvalue'
        injection hvalue' with hstring
        have hchars := congrArg String.toList hstring
        rw [String.toList_ofList, String.toList_ofList] at hchars
        have hascii := ascii_of_read hforest hchars hleft
        exact ⟨hascii, utf16Units_ascii hascii ▸ hshort⟩
      · rintro ⟨hascii, _⟩
        have hall : (utf8Encode cs).length = utf16Units cs := by
          rw [length_utf8Encode_ascii hascii, utf16Units_ascii hascii]
        refine ⟨_, entry, forest, hput, ?_, hforest, ?_⟩
        · rw [hvalue, List.take_of_length_le (Nat.le_of_eq hall),
            utf8Decode_utf8Encode]
        · simp only [List.cons_append, List.append_assoc]
          rw [hread, List.drop_eq_nil_of_le (Nat.le_of_eq hall), List.nil_append, hforest]
          rfl
    · refine iff_of_false ?_ ?_
      · rintro ⟨bs, entry', forest', happ, hvalue', _, hdecode⟩
        obtain rfl := happ.unique hput
        obtain ⟨entry, hvalue, hread⟩ := decode_longText (c := c) (utf8Encode cs ++ rest)
          hlen (by omega) hunits
        have hk : (⟨unsignedWidth (utf16Units cs), unsignedWidth_lt _⟩ : Fin 4) = 3 :=
          Fin.ext (unsignedWidth_long (by omega))
        rw [hk] at hdecode
        simp only [List.cons_append, List.append_assoc] at hdecode
        rw [hread] at hdecode
        cases hd : decode (utf8Encode cs ++ rest) with
        | error e =>
          rw [hd] at hdecode
          cases hdecode
        | ok left =>
          rw [hd] at hdecode
          obtain ⟨rfl, -⟩ := List.cons.inj (Except.ok.inj hdecode)
          rw [hvalue] at hvalue'
          cases hvalue'
      · rintro ⟨hascii, hlt⟩
        exact hshort (utf16Units_ascii hascii ▸ hlt)
  · refine iff_of_false ?_ ?_
    · rintro ⟨bs, entry, forest', happ, _⟩
      obtain ⟨e, he⟩ := encodeUnsignedInt_big (.number (utf16Units cs)) (by omega)
      refine append_error (e := e) ?_ {} _ (happ {})
      rw [utf16Length_ofList, he]
      rfl
    · rintro ⟨hascii, hlt⟩
      rw [← utf16Units_ascii hascii] at hlt
      omega

/-- Text before another element. -/
theorem textComesBack_iff_sample :
    TextComesBack "hi" (some 1) none [0x29, 0x02] ↔
      IsAscii "hi".toList ∧ "hi".toList.length < 2 ^ 32 :=
  textComesBack_iff "hi" ⟨_, rfl⟩ ⟨_, rfl⟩

/-- **A text that is not read back**: "é" takes two bytes and is announced as one, so the reader
    answers U+FFFD and takes 0xA9 for a control byte. -/
theorem accented_lost : ¬ TextComesBack "é" none none [] := by
  rintro ⟨bs, entry, forest, happ, hvalue, hforest, hdecode⟩
  have hput : Appends (putString "é" none none) [0x0C, 0x01, 0xC3, 0xA9] := fun w => rfl
  obtain rfl := happ.unique hput
  have hread : decode [0x0C, 0x01, 0xC3, 0xA9] = .error .rangeError := rfl
  rw [List.append_nil, hread] at hdecode
  cases hdecode

end Matternode.Tlv
