/-
  File:      Matternode/Tlv/Prefixes.lean
  Subject:   Strings by the width of their length prefix.

  The reader takes a length for one where it has read a number. Eight bytes are read as a bigint, so
  the length is answered in place of the content, and the content is read as elements.

  * `StringContent`, `stringElement` -- a byte or text string with a prefix of any width;
  * `PrefixHonoured` -- it is read as its content, and then what follows;
  * `prefixHonoured_iff` -- **a prefix is honoured exactly if** it does not take eight bytes.
-/
import Matternode.Tlv.Leaves

namespace Matternode.Tlv

open Base Js

/-- The content of a byte string, or of a UTF-8 string. -/
inductive StringContent where
  | bytes (bs : Bytes)
  | text (cs : List Char)

namespace StringContent

def wire : StringContent → Bytes
  | bytes bs => bs
  | text cs => utf8Encode cs

/-- The value that is this content. -/
def value : StringContent → JsValue
  | bytes bs => .buffer bs
  | text cs => .string (String.ofList cs)

/-- The element type with a prefix of `2 ^ k` bytes. -/
def type (k : Fin 4) : StringContent → ElementType
  | bytes _ => .bytes k
  | text _ => .text k

end StringContent

/-- The element: its control byte, the bytes of its tag, its length in `2 ^ k` bytes, and its
    content. -/
def stringElement (c : TagControl) (tag : Bytes) (k : Fin 4) (content : StringContent) : Bytes :=
  controlByte c (content.type k) ::
    (tag ++ (toLE (2 ^ k.val) content.wire.length ++ content.wire))

/-- The element is read as its content, and then what follows. -/
def PrefixHonoured (c : TagControl) (tag : Bytes) (k : Fin 4) (content : StringContent)
    (rest : Bytes) : Prop :=
  ∃ entry : DeterministicJson, entry.value = content.value ∧
    decode (stringElement c tag k content ++ rest) = (decode rest).map (entry :: ·)

section Prefixes

variable {c : TagControl} {tag : Bytes} {k : Fin 4} {content : StringContent}

/-- **A length of up to four bytes is taken for one.** -/
theorem prefixHonoured_short (htag : tag.length = c.width)
    (hfits : content.wire.length < 256 ^ 2 ^ k.val) (hk : k ≠ 3) (rest : Bytes) :
    PrefixHonoured c tag k content rest := by
  have hlength : ofLE (toLE (2 ^ k.val) content.wire.length) = content.wire.length :=
    ofLE_toLE_of_lt hfits
  have hwidth : (toLE (2 ^ k.val) content.wire.length).length = (content.type k).width := by
    rw [length_toLE]
    cases content <;> rfl
  let i : Item := ⟨c, content.type k, tag, toLE (2 ^ k.val) content.wire.length, content.wire, htag,
    hwidth⟩
  have hlong : ¬ i.type.Long := by
    intro h
    cases content with
    | bytes bs =>
      rcases h with h | h
      · cases h
      · exact hk (ElementType.bytes.inj h)
    | text cs =>
      rcases h with h | h
      · exact hk (ElementType.text.inj h)
      · cases h
  have hfull : i.Full := by
    show content.wire.length = ElementType.contentLength i.type i.field
    rw [ElementType.contentLength, if_neg hlong]
    cases content <;> exact hlength.symm
  refine ⟨i.entry, ?_, ?_⟩
  · show (content.type k).value _ content.wire = content.value
    cases content with
    | bytes bs => exact if_neg hk
    | text cs =>
      refine (if_neg hk).trans ?_
      rw [StringContent.wire, utf8Decode_utf8Encode]
      rfl
  · have hread := decode_leaf (i := i) rest (by rintro ⟨kind, h⟩; cases content <;> cases h)
      (by intro h; cases content <;> cases h) hfull
    rw [← hread]
    simp [i, Item.wire, stringElement]

variable (content) in
/-- **A length of eight bytes is answered itself**, and the content is read as elements. -/
theorem decode_longPrefix (htag : tag.length = c.width) (rest : Bytes) :
    ∃ entry : DeterministicJson, (∃ n, entry.value = .bigint n) ∧
      decode (stringElement c tag 3 content ++ rest) =
        (decode (content.wire ++ rest)).map (entry :: ·) := by
  have hwidth : (toLE (2 ^ 3) content.wire.length).length = (content.type 3).width := by
    rw [length_toLE]
    cases content <;> rfl
  let i : Item := ⟨c, content.type 3, tag, toLE (2 ^ 3) content.wire.length, [], htag, hwidth⟩
  have hlong : i.type.Long := by
    cases content with
    | bytes bs => exact .inr rfl
    | text cs => exact .inl rfl
  have hfull : i.Full := by
    show ([] : Bytes).length = ElementType.contentLength i.type i.field
    rw [ElementType.contentLength, if_pos hlong]
    rfl
  refine ⟨i.entry, ?_, ?_⟩
  · cases content with
    | bytes bs => exact ⟨_, rfl⟩
    | text cs => exact ⟨_, rfl⟩
  · have hread := decode_leaf (i := i) (content.wire ++ rest)
      (by rintro ⟨kind, h⟩; cases content <;> cases h) (by intro h; cases content <;> cases h) hfull
    rw [← hread]
    simp only [i, Item.wire, stringElement, List.cons_append, List.append_assoc, List.nil_append]
    rfl

/-- **A prefix is honoured, before whatever elements, exactly if** it does not take eight bytes. -/
theorem prefixHonoured_iff (htag : tag.length = c.width)
    (hfits : content.wire.length < 256 ^ 2 ^ k.val) {rest : Bytes}
    (hrest : ∃ forest, decode rest = .ok forest) :
    PrefixHonoured c tag k content rest ↔ k ≠ 3 := by
  constructor
  · rintro ⟨entry, hvalue, hread⟩ rfl
    obtain ⟨forest, hforest⟩ := hrest
    obtain ⟨entry', ⟨n, hn⟩, hread'⟩ := decode_longPrefix content htag rest
    rw [hread', hforest] at hread
    cases hcontent : decode (content.wire ++ rest) with
    | error e =>
      rw [hcontent] at hread
      cases hread
    | ok forest' =>
      rw [hcontent] at hread
      obtain ⟨rfl, -⟩ := List.cons.inj (Except.ok.inj hread)
      rw [hn] at hvalue
      cases content <;> cases hvalue
  · intro hk
    exact prefixHonoured_short htag hfits hk rest

end Prefixes

/-- One byte with its length in two bytes, before null. -/
theorem prefixHonoured_iff_sample :
    PrefixHonoured .anonymous [] 1 (.bytes [9]) [0x14] ↔ (1 : Fin 4) ≠ 3 :=
  prefixHonoured_iff rfl (by decide) ⟨_, rfl⟩

/-- **A byte string whose content is read as an element**: its one byte is that of `true`. -/
theorem longPrefix_lost : ¬ PrefixHonoured .anonymous [] 3 (.bytes [9]) [] := by
  rintro ⟨entry, hvalue, hread⟩
  have hdecode : decode (stringElement .anonymous [] 3 (.bytes [9]) ++ []) = .ok [
      { type := some .bufferUint64Len, value := .bigint 1 },
      { type := some .boolean, value := .boolean true }] := rfl
  rw [hdecode] at hread
  injection hread with hread
  have hlength := congrArg List.length hread
  cases hlength

end Matternode.Tlv
