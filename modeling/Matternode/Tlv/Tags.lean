/-
  File:      Matternode/Tlv/Tags.lean
  Subject:   Which tags come back from a control byte.

  The writer picks one of eight forms for a tag; the reader answers the tag and the profile of the
  form. Two kinds of argument lose: a fully-qualified profile that is one of the numbers the writer
  takes for the common or the implicit profile, and a fully-qualified tag number that has no form.

  * `ControlComesBack` -- the call throws, or its bytes are read as what was written;
  * `HasForm` -- the tags that have a form of their own, or are refused;
  * **`controlComesBack_iff`** -- these and no others.
-/
import Matternode.Tlv.Reencoding

namespace Matternode.Tlv

open Base Js

/-- `encodeControlByte` throws, or `decodeControlByte` and `decodeTagAndLength` answer the element
    type, the tag and the profile it was called with, and take all of its bytes. -/
def ControlComesBack (t : ElementType) (len : Nat) (tag profile : Option Int) : Prop :=
  (∃ e, encodeControlByte t.code len tag profile = .error e) ∨
    ∃ bs k control read, encodeControlByte t.code len tag profile = .ok bs ∧
      lengthBits len = .ok k ∧
      decodeControlByte bs = .ok control ∧ control.typeNum = t.code ||| k ∧
      decodeTagAndLength (subarrayFrom bs 1) control.tagType = .ok read ∧
      read.tag = tag ∧ read.profile = profile ∧ 1 + read.tagLength = bs.length

/-- A profile number as the source has it: 0 is the common profile, -1 the implicit one, and a
    number of 32 bits a fully-qualified one. -/
def IsProfile (profile : Option Int) : Prop := ∀ p, profile = some p → -1 ≤ p ∧ p < 2 ^ 32

/-- Under a profile that is neither common nor implicit, a number of 32 bits is a tag, unless the
    writer takes the profile for one of the two; and then no other number is written. -/
def HasForm (tag profile : Option Int) : Prop :=
  ∀ n p, tag = some n → profile = some p → p ≠ 0 → p ≠ -1 →
    ((0 ≤ n ∧ n < 2 ^ 32) ↔ ¬ (p = 0x40 ∨ p = 0x60 ∨ p = 0x80 ∨ p = 0xA0))

/-! ## 1. The bytes of a form -/

theorem code_ofCode {n : Nat} (h : n < 32) : (ElementType.ofCode n).code = n :=
  (by decide : ∀ n < 32, (ElementType.ofCode n).code = n) n h

/-- A form is read as its tag and its profile. -/
theorem controlComesBack_of_form {t : ElementType} {len k : Nat} {tag profile : Option Int}
    {c : TagControl} {field : Bytes} (hk : lengthBits len = .ok k)
    (htag : encodeTagControl tag profile = .ok (c.code, field)) (hlen : field.length = c.width) :
    ControlComesBack t len tag profile ↔ c.tag field = tag ∧ c.profile field = profile := by
  have hlt : t.code ||| k < 32 := Nat.or_lt_two_pow (n := 5) t.code_lt
    ((lengthBits_lt hk).trans (by decide))
  have hcode := code_ofCode hlt
  have hbs := encodeControlByte_code hk hcode.symm htag
  have hcontrol := decodeControlByte_cons c (.ofCode (t.code ||| k)) field
  have hread := decodeTagAndLength_code c field
  rw [← hlen, readBytes_of_le (Nat.le_of_eq (Nat.zero_add _)), List.drop_zero, List.take_length]
    at hread
  have hrest : subarrayFrom (controlByte c (.ofCode (t.code ||| k)) :: field) 1 = field :=
    subarrayFrom_nat (_ :: field) 1
  constructor
  · intro h
    rcases h with ⟨e, he⟩ | ⟨bs, k', control, read, hbs', -, hcontrol', -, hread', htag', hp, -⟩
    · rw [hbs] at he
      cases he
    · rw [hbs] at hbs'
      obtain rfl := Except.ok.inj hbs'
      rw [hcontrol] at hcontrol'
      obtain rfl := Except.ok.inj hcontrol'
      rw [hrest] at hread'
      rw [hread] at hread'
      obtain rfl := Except.ok.inj hread'
      exact ⟨htag', hp⟩
  · rintro ⟨rfl, rfl⟩
    refine .inr ⟨_, k, _, _, hbs, hk, hcontrol, hcode, (congrArg (decodeTagAndLength · c.code)
      hrest).trans hread, rfl, rfl, ?_⟩
    show 1 + field.length = (_ :: field).length
    rw [List.length_cons, Nat.add_comm]

theorem controlComesBack_of_error {t : ElementType} {len : Nat} {tag profile : Option Int}
    {e : JsError} (h : encodeTagControl tag profile = .error e) :
    ControlComesBack t len tag profile := by
  left
  unfold encodeControlByte
  rw [h]
  cases lengthBits len with
  | error e' => exact ⟨e', rfl⟩
  | ok k => exact ⟨e, rfl⟩

/-! ## 2. The forms -/

/-- A tag number is one of 32 bits, or not. -/
theorem tag_cases (n : Int) :
    (∃ m : Nat, n = m ∧ m < 2 ^ 32) ∨ ¬ (0 ≤ n ∧ n < 2 ^ 32) := by
  by_cases h : 0 ≤ n ∧ n < 2 ^ 32
  · exact .inl ⟨n.toNat, by omega, by omega⟩
  · exact .inr h

theorem encodeProfileTag_error (tag2 tag4 : Nat) {n : Int} (h : ¬ (0 ≤ n ∧ n < 2 ^ 32)) :
    ∃ e, encodeProfileTag tag2 tag4 (some n) = .error e := by
  unfold encodeProfileTag
  dsimp only
  rw [if_neg (by omega), if_neg (by omega)]
  exact ⟨_, rfl⟩

/-- A tag of the common or of the implicit profile comes back with that profile. -/
theorem controlComesBack_profile {t : ElementType} {len k : Nat} {tag : Option Int} {p q : Int}
    (c2 c4 : TagControl) (hk : lengthBits len = .ok k)
    (hp : encodeTagControl tag (some p) = encodeProfileTag c2.code c4.code tag)
    (h2 : c2.width = 2 ∧ ∀ bs, c2.tag bs = some (ofLE bs : Int) ∧ c2.profile bs = some q)
    (h4 : c4.width = 4 ∧ ∀ bs, c4.tag bs = some (ofLE bs : Int) ∧ c4.profile bs = some q) :
    ControlComesBack t len tag (some p) ↔
      ∀ n, tag = some n → (0 ≤ n ∧ n < 2 ^ 32) → q = p := by
  cases tag with
  | none =>
    refine iff_of_true (controlComesBack_of_error hp) ?_
    intro n h
    cases h
  | some n =>
    rcases tag_cases n with ⟨m, rfl, hm⟩ | hout
    · have hform : ∃ (c : TagControl) (bs : Bytes),
          encodeTagControl (some (m : Int)) (some p) = .ok (c.code, bs) ∧
            bs.length = c.width ∧ c.tag bs = some (m : Int) ∧ c.profile bs = some q := by
        rw [hp, encodeProfileTag_nat _ _ hm]
        by_cases hle : m ≤ 65535
        · refine ⟨c2, toLE 2 m, if_pos hle, by simp [h2.1], ?_, (h2.2 _).2⟩
          rw [(h2.2 _).1, ofLE_toLE_of_lt (by omega)]
        · refine ⟨c4, toLE 4 m, if_neg hle, by simp [h4.1], ?_, (h4.2 _).2⟩
          rw [(h4.2 _).1, ofLE_toLE_of_lt (by omega)]
      obtain ⟨c, bs, henc, hlen, htag, hprofile⟩ := hform
      rw [controlComesBack_of_form hk henc hlen, htag, hprofile]
      constructor
      · intro h _ _ _
        exact Option.some.inj h.2
      · intro h
        exact ⟨rfl, congrArg some (h _ rfl ⟨by omega, by omega⟩)⟩
    · obtain ⟨e, he⟩ := encodeProfileTag_error c2.code c4.code hout
      refine iff_of_true (controlComesBack_of_error (hp.trans he)) ?_
      intro n' h hin
      cases h
      exact absurd hin hout

/-- A tag of another profile comes back if its number has 32 bits; another number is lost. -/
theorem controlComesBack_qualified {t : ElementType} {len k p : Nat} {tag : Option Int}
    (hk : lengthBits len = .ok k) (hp : p ∉ namedProfiles) (hlt : p < 2 ^ 32) :
    ControlComesBack t len tag (some p) ↔ ∀ n, tag = some n → 0 ≤ n ∧ n < 2 ^ 32 := by
  have henc := encodeTagControl_qualified hp tag
  cases tag with
  | none =>
    refine iff_of_true (controlComesBack_of_error (henc.trans rfl)) ?_
    intro n h
    cases h
  | some n =>
    rcases tag_cases n with ⟨m, rfl, hm⟩ | hout
    · refine iff_of_true ?_ fun n' h => by cases h; omega
      rw [encodeFullyQualifiedTag_nat hlt hm] at henc
      by_cases hle : m ≤ 65535
      · rw [if_pos hle] at henc
        rw [controlComesBack_of_form (c := .fullyQualified6Bytes) hk henc (by simp; rfl)]
        simp only [TagControl.tag, TagControl.profile, Option.some.injEq]
        have hfirst : (toLE 4 p ++ toLE 2 m).take 4 = toLE 4 p := by simp
        have hsecond : (toLE 4 p ++ toLE 2 m).drop 4 = toLE 2 m := by simp
        rw [hfirst, hsecond, ofLE_toLE_of_lt (by omega), ofLE_toLE_of_lt (by omega)]
        exact ⟨rfl, rfl⟩
      · rw [if_neg hle] at henc
        rw [controlComesBack_of_form (c := .fullyQualified8Bytes) hk henc (by simp; rfl)]
        simp only [TagControl.tag, TagControl.profile, Option.some.injEq]
        have hfirst : (toLE 4 p ++ toLE 4 m).take 4 = toLE 4 p := by simp
        have hsecond : (toLE 4 p ++ toLE 4 m).drop 4 = toLE 4 m := by simp
        rw [hfirst, hsecond, ofLE_toLE_of_lt (by omega), ofLE_toLE_of_lt (by omega)]
        exact ⟨rfl, rfl⟩
    · refine iff_of_false ?_ fun h => hout (h n rfl)
      -- no branch of the source takes the number, so the control byte is one of no tag
      have hnone : encodeFullyQualifiedTag p (some n) = .ok (TagControl.anonymous.code, []) := by
        unfold encodeFullyQualifiedTag
        dsimp only
        rw [if_neg (by omega), if_neg (by omega)]
        rfl
      rw [controlComesBack_of_form hk (henc.trans hnone) rfl]
      rintro ⟨h, -⟩
      cases h

/-- Without a profile every tag comes back, or is refused. -/
theorem controlComesBack_context {t : ElementType} {len k : Nat} (tag : Option Int)
    (hk : lengthBits len = .ok k) : ControlComesBack t len tag none := by
  cases tag with
  | none => exact (controlComesBack_of_form (c := .anonymous) hk rfl rfl).mpr ⟨rfl, rfl⟩
  | some n =>
    by_cases hout : n < 0 ∨ 255 < n
    · exact controlComesBack_of_error (if_pos hout)
    · obtain ⟨m, rfl⟩ : ∃ m : Nat, n = m := ⟨n.toNat, by omega⟩
      have hw : writeUInt8 (bufferAlloc 1) (.number (.int (m : Int))) 0 = .ok (toLE 1 m) :=
        writeUInt_alloc (by omega)
      have henc : encodeTagControl (some (m : Int)) none =
          .ok (TagControl.contextSpecific.code, toLE 1 m) := by
        unfold encodeTagControl
        dsimp only
        rw [if_neg hout, hw]
        rfl
      rw [controlComesBack_of_form hk henc (length_toLE 1 m)]
      refine ⟨?_, rfl⟩
      show some ((ofLE (toLE 1 m) : Nat) : Int) = some (m : Int)
      rw [ofLE_toLE_of_lt (by omega)]

/-! ## 3. All of them -/

/-- **A control byte and its tag come back, or the call throws, exactly when** the width is refused
    or the tag has a form of its own. -/
theorem controlComesBack_iff (t : ElementType) (len : Nat) (tag : Option Int)
    {profile : Option Int} (hprofile : IsProfile profile) :
    ControlComesBack t len tag profile ↔
      (∃ e, lengthBits len = .error e) ∨ HasForm tag profile := by
  cases hk : lengthBits len with
  | error e =>
    refine iff_of_true (.inl ⟨e, ?_⟩) (.inl ⟨e, rfl⟩)
    unfold encodeControlByte
    rw [hk]
    rfl
  | ok k =>
    have hnot : ¬ ∃ e, (Except.ok k : Except JsError Nat) = .error e := by
      rintro ⟨e, he⟩
      cases he
    rw [or_iff_right hnot]
    cases profile with
    | none =>
      refine iff_of_true (controlComesBack_context tag hk) ?_
      intro n p _ hp
      cases hp
    | some p =>
      obtain ⟨hlo, hhi⟩ := hprofile p rfl
      have hform : HasForm tag (some p) ↔ ∀ n, tag = some n → p ≠ 0 → p ≠ -1 →
          ((0 ≤ n ∧ n < 2 ^ 32) ↔ ¬ (p = 0x40 ∨ p = 0x60 ∨ p = 0x80 ∨ p = 0xA0)) := by
        constructor
        · intro h n hn
          exact h n p hn rfl
        · intro h n _ hn hp
          cases hp
          exact h n hn
      rw [hform]
      by_cases hcommon : p = 0 ∨ p = 0x40 ∨ p = 0x60
      · rw [controlComesBack_profile .commonProfile2Bytes .commonProfile4Bytes hk
          (if_pos hcommon) ⟨rfl, fun _ => ⟨rfl, rfl⟩⟩ ⟨rfl, fun _ => ⟨rfl, rfl⟩⟩]
        exact forall₂_congr fun n _ => by omega
      · by_cases himplicit : p = -1 ∨ p = 0x80 ∨ p = 0xA0
        · rw [controlComesBack_profile .implicitProfile2Bytes .implicitProfile4Bytes hk
            ((if_neg hcommon).trans (if_pos himplicit)) ⟨rfl, fun _ => ⟨rfl, rfl⟩⟩
            ⟨rfl, fun _ => ⟨rfl, rfl⟩⟩]
          exact forall₂_congr fun n _ => by omega
        · obtain ⟨q, rfl⟩ : ∃ q : Nat, p = q := ⟨p.toNat, by omega⟩
          have hq : q ∉ namedProfiles := by
            simp only [namedProfiles, List.mem_cons, List.not_mem_nil, or_false, not_or]
            omega
          rw [controlComesBack_qualified hk hq (by omega)]
          exact forall₂_congr fun n _ => by omega

/-- A fully-qualified tag of the test vectors. -/
theorem controlComesBack_iff_sample :
    ControlComesBack .null 0 (some 0x12345678) (some 0xAABBCCDD) ↔
      (∃ e, lengthBits 0 = .error e) ∨ HasForm (some 0x12345678) (some 0xAABBCCDD) :=
  controlComesBack_iff .null 0 (some 0x12345678) (by
    intro p hp
    cases hp
    decide)

/-- **Two tags that are written as other tags**: a number past 32 bits loses its tag and its profile,
    and the profile 0x40 becomes the common one. -/
theorem control_lost :
    ¬ ControlComesBack .null 0 (some 0x100000000) (some 0xAABBCCDD) ∧
    ¬ ControlComesBack .null 0 (some 0x1234) (some 0x40) := by
  constructor
  · intro h
    have hq := (controlComesBack_qualified (p := 0xAABBCCDD) (k := 0) rfl (by decide)
      (by decide)).mp h 0x100000000 rfl
    omega
  · intro h
    have hq := (controlComesBack_profile (k := 0) (q := 0) .commonProfile2Bytes
      .commonProfile4Bytes rfl rfl ⟨rfl, fun _ => ⟨rfl, rfl⟩⟩ ⟨rfl, fun _ => ⟨rfl, rfl⟩⟩).mp h
      0x1234 rfl (by decide)
    omega

end Matternode.Tlv
