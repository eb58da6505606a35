/-
  File:      Matternode/Base/Text.lean
  Subject:   Text as bytes: UTF-8 and hexadecimal.

  * `utf8Encode`, `utf8Decode` -- UTF-8; the decoder never fails, it answers U+FFFD for each
    maximal ill-formed part, the way decoders of the web do;
  * `utf8Decode_utf8Encode` -- text survives the two; ASCII takes one byte for one character;
  * `utf16Units` -- the length of a text in UTF-16 units; `utf16Units_decodeFrom_le` -- decoded text
    has no more of them than bytes;
  * `reencoded_cases`, `ascii_of_reencoded` -- bytes that decode to as many units and start their own
    re-encoding are ASCII;
  * `toHex`, `fromHex` -- lower-case digits out; in, pairs of digits up to the first pair that is
    none;
  * `fromHex_toHex` -- every byte string survives the two.
-/
import Matternode.Base.Bytes

namespace Matternode.Base

/-! ## 1. UTF-8 -/

/-- The UTF-8 bytes of a text. -/
def utf8Encode (cs : List Char) : Bytes := cs.flatMap String.utf8EncodeChar

/-- U+FFFD, what stands for an ill-formed part. -/
def replacement : Char := Char.ofNat 0xFFFD

/-- Where the decoder stands between two bytes: at a character's start, or with continuation bytes
    owed, the next one in a range, and the code point read so far. -/
inductive Utf8State where
  | start
  | owed (needed : Nat) (lower upper : Nat) (codePoint : Nat)

/-- What a byte at a character's start gives. -/
def utf8Lead (b : Nat) : List Char × Utf8State :=
  if b < 0x80 then ([Char.ofNat b], .start)
  else if 0xC2 ≤ b ∧ b ≤ 0xDF then ([], .owed 1 0x80 0xBF (b - 0xC0))
  else if b = 0xE0 then ([], .owed 2 0xA0 0xBF 0)
  else if b = 0xED then ([], .owed 2 0x80 0x9F 0xD)
  else if 0xE1 ≤ b ∧ b ≤ 0xEF then ([], .owed 2 0x80 0xBF (b - 0xE0))
  else if b = 0xF0 then ([], .owed 3 0x90 0xBF 0)
  else if 0xF1 ≤ b ∧ b ≤ 0xF3 then ([], .owed 3 0x80 0xBF (b - 0xF0))
  else if b = 0xF4 then ([], .owed 3 0x80 0x8F 4)
  else ([replacement], .start)

/-- The characters a byte completes and where the decoder stands after it. A byte that does not
    continue the character begun ends it as ill-formed and is read again as a first byte. -/
def utf8Step : Utf8State → Nat → List Char × Utf8State
  | .start, b => utf8Lead b
  | .owed needed lower upper cp, b =>
    if lower ≤ b ∧ b ≤ upper then
      if needed = 1 then ([Char.ofNat (cp * 64 + (b - 0x80))], .start)
      else ([], .owed (needed - 1) 0x80 0xBF (cp * 64 + (b - 0x80)))
    else (replacement :: (utf8Lead b).1, (utf8Lead b).2)

/-- The characters of the bytes from a state on. -/
def utf8DecodeFrom : Utf8State → Bytes → List Char
  | .start, [] => []
  | .owed .., [] => [replacement]
  | st, b :: bs => (utf8Step st b.toNat).1 ++ utf8DecodeFrom (utf8Step st b.toNat).2 bs

/-- The text of a byte string. -/
def utf8Decode (bs : Bytes) : List Char := utf8DecodeFrom .start bs

/-- Every character is in the ASCII range. -/
def IsAscii (cs : List Char) : Prop := ∀ c ∈ cs, c.toNat < 0x80

instance (cs : List Char) : Decidable (IsAscii cs) :=
  inferInstanceAs (Decidable (∀ c ∈ cs, c.toNat < 0x80))

theorem utf8EncodeChar_ascii {c : Char} (h : c.toNat < 0x80) :
    String.utf8EncodeChar c = [UInt8.ofNat c.toNat] := by
  have hs : c.utf8Size = 1 := Char.utf8Size_eq_one_iff.mpr (by
    rw [UInt32.le_iff_toNat_le]
    exact Nat.le_of_lt_succ h)
  rw [String.utf8EncodeChar_eq_singleton hs]
  rfl

/-- In ASCII text a character is a byte. -/
theorem length_utf8Encode_ascii {cs : List Char} (h : IsAscii cs) :
    (utf8Encode cs).length = cs.length := by
  induction cs with
  | nil => rfl
  | cons c cs ih =>
    have hc := utf8EncodeChar_ascii (h c List.mem_cons_self)
    have ih' := ih fun d hd => h d (List.mem_cons_of_mem _ hd)
    unfold utf8Encode at ih' ⊢
    rw [List.flatMap_cons, hc, List.length_append, ih']
    simp only [List.length_cons, List.length_nil]
    omega

/-- A byte that ends the character begun. -/
theorem utf8DecodeFrom_last {b lower upper cp : Nat} (hb : b < 256) (hlower : lower ≤ b)
    (hupper : b ≤ upper) (bs : Bytes) :
    utf8DecodeFrom (.owed 1 lower upper cp) (UInt8.ofNat b :: bs) =
      Char.ofNat (cp * 64 + (b - 0x80)) :: utf8DecodeFrom .start bs := by
  have hnat : (UInt8.ofNat b).toNat = b := by rw [UInt8.toNat_ofNat', Nat.mod_eq_of_lt hb]
  rw [utf8DecodeFrom, hnat, utf8Step, if_pos ⟨hlower, hupper⟩, if_pos rfl]
  rfl

/-- A byte that continues it. -/
theorem utf8DecodeFrom_next {b needed lower upper cp : Nat} (hb : b < 256) (hlower : lower ≤ b)
    (hupper : b ≤ upper) (bs : Bytes) :
    utf8DecodeFrom (.owed (needed + 2) lower upper cp) (UInt8.ofNat b :: bs) =
      utf8DecodeFrom (.owed (needed + 1) 0x80 0xBF (cp * 64 + (b - 0x80))) bs := by
  have hnat : (UInt8.ofNat b).toNat = b := by rw [UInt8.toNat_ofNat', Nat.mod_eq_of_lt hb]
  rw [utf8DecodeFrom, hnat, utf8Step, if_pos ⟨hlower, hupper⟩, if_neg (by omega)]
  rfl

/-- A byte that begins one. -/
theorem utf8DecodeFrom_lead {b : Nat} {st : Utf8State} (hb : b < 256) (h : utf8Lead b = ([], st))
    (bs : Bytes) : utf8DecodeFrom .start (UInt8.ofNat b :: bs) = utf8DecodeFrom st bs := by
  have hnat : (UInt8.ofNat b).toNat = b := by rw [UInt8.toNat_ofNat', Nat.mod_eq_of_lt hb]
  rw [utf8DecodeFrom, hnat, utf8Step, h]
  rfl

/-- The first of three bytes says how far the second may go. -/
theorem utf8Lead_three {q : Nat} (hq : q < 16) : ∃ lower upper,
    utf8Lead (q + 0xE0) = ([], .owed 2 lower upper q) ∧
      ∀ r < 64, 0x800 ≤ q * 4096 + r * 64 + 63 →
        ¬ (0xD800 ≤ q * 4096 + r * 64 ∧ q * 4096 + r * 64 ≤ 0xDFFF) →
        lower ≤ r + 0x80 ∧ r + 0x80 ≤ upper := by
  unfold utf8Lead
  rw [if_neg (by omega), if_neg (by omega)]
  by_cases h0 : q = 0
  · subst h0
    exact ⟨0xA0, 0xBF, rfl, by omega⟩
  by_cases hD : q = 0xD
  · subst hD
    exact ⟨0x80, 0x9F, rfl, by omega⟩
  · rw [if_neg (by omega), if_neg (by omega), if_pos (by omega), Nat.add_sub_cancel]
    exact ⟨0x80, 0xBF, rfl, by omega⟩

/-- The first of four bytes does too. -/
theorem utf8Lead_four {q : Nat} (hq : q < 5) : ∃ lower upper,
    utf8Lead (q + 0xF0) = ([], .owed 3 lower upper q) ∧
      ∀ r < 64, 0x10000 ≤ q * 262144 + r * 4096 + 4095 → q * 262144 + r * 4096 < 0x110000 →
        lower ≤ r + 0x80 ∧ r + 0x80 ≤ upper := by
  unfold utf8Lead
  rw [if_neg (by omega), if_neg (by omega), if_neg (by omega), if_neg (by omega), if_neg (by omega)]
  by_cases h0 : q = 0
  · subst h0
    exact ⟨0x90, 0xBF, rfl, by omega⟩
  by_cases h4 : q = 4
  · subst h4
    exact ⟨0x80, 0x8F, rfl, by omega⟩
  · rw [if_neg (by omega), if_pos (by omega), Nat.add_sub_cancel]
    exact ⟨0x80, 0xBF, rfl, by omega⟩

/-- **A character is read from its bytes.** -/
theorem utf8DecodeFrom_utf8EncodeChar (c : Char) (bs : Bytes) :
    utf8DecodeFrom .start (String.utf8EncodeChar c ++ bs) = c :: utf8DecodeFrom .start bs := by
  have hvalid : c.toNat < 0xD800 ∨ 0xDFFF < c.toNat ∧ c.toNat < 0x110000 := c.valid
  have hchar : Char.ofNat c.toNat = c := Char.ofNat_toNat c
  generalize hv : c.toNat = v at hvalid hchar
  have hval : c.val.toNat = v := hv
  unfold String.utf8EncodeChar
  simp only [hval]
  by_cases h1 : v ≤ 0x7F
  · have hlead : utf8Lead v = ([c], .start) := by rw [utf8Lead, if_pos (by omega), hchar]
    have hnat : (UInt8.ofNat v).toNat = v := by rw [UInt8.toNat_ofNat', Nat.mod_eq_of_lt (by omega)]
    rw [if_pos h1, List.singleton_append, utf8DecodeFrom, hnat, utf8Step, hlead]
    rfl
  rw [if_neg h1]
  by_cases h2 : v ≤ 0x7FF
  · have hlead : utf8Lead (v / 64 % 0x20 + 0xC0) = ([], .owed 1 0x80 0xBF (v / 64 % 0x20)) := by
      rw [utf8Lead, if_neg (by omega), if_pos (by omega), Nat.add_sub_cancel]
    rw [if_pos h2, List.cons_append, List.singleton_append,
      utf8DecodeFrom_lead (by omega) hlead, utf8DecodeFrom_last (by omega) (by omega) (by omega),
      show v / 64 % 0x20 * 64 + (v % 0x40 + 0x80 - 0x80) = v by omega, hchar]
  rw [if_neg h2]
  by_cases h3 : v ≤ 0xFFFF
  · obtain ⟨lower, upper, hlead, hrange⟩ :=
      utf8Lead_three (Nat.mod_lt (v / 4096) (show 0 < 16 by decide))
    obtain ⟨hlower, hupper⟩ := hrange (v / 64 % 64) (Nat.mod_lt _ (by decide)) (by omega) (by omega)
    rw [if_pos h3]
    simp only [List.cons_append, List.nil_append]
    rw [utf8DecodeFrom_lead (by omega) hlead, utf8DecodeFrom_next (by omega) hlower hupper,
      utf8DecodeFrom_last (by omega) (by omega) (by omega),
      show (v / 4096 % 16 * 64 + (v / 64 % 64 + 0x80 - 0x80)) * 64 + (v % 64 + 0x80 - 0x80) = v by
        omega, hchar]
  · obtain ⟨lower, upper, hlead, hrange⟩ := utf8Lead_four (q := v / 262144 % 8) (by omega)
    obtain ⟨hlower, hupper⟩ := hrange (v / 4096 % 64) (Nat.mod_lt _ (by decide)) (by omega) (by omega)
    rw [if_neg h3]
    simp only [List.cons_append, List.nil_append]
    rw [utf8DecodeFrom_lead (by omega) hlead, utf8DecodeFrom_next (by omega) hlower hupper,
      utf8DecodeFrom_next (by omega) (by omega) (by omega),
      utf8DecodeFrom_last (by omega) (by omega) (by omega),
      show ((v / 262144 % 8 * 64 + (v / 4096 % 64 + 0x80 - 0x80)) * 64 +
        (v / 64 % 64 + 0x80 - 0x80)) * 64 + (v % 64 + 0x80 - 0x80) = v by omega, hchar]

/-- **Text survives.** -/
theorem utf8Decode_utf8Encode (cs : List Char) : utf8Decode (utf8Encode cs) = cs := by
  induction cs with
  | nil => rfl
  | cons c cs ih =>
    unfold utf8Decode utf8Encode at ih ⊢
    rw [List.flatMap_cons, utf8DecodeFrom_utf8EncodeChar, ih]
/-! ## 2. UTF-16 units -/

/-- The UTF-16 units of a text. -/
def utf16Units (cs : List Char) : Nat := (cs.map fun c => if c.toNat < 0x10000 then 1 else 2).sum

@[simp] theorem utf16Units_nil : utf16Units [] = 0 := rfl

theorem utf16Units_cons (c : Char) (cs : List Char) :
    utf16Units (c :: cs) = (if c.toNat < 0x10000 then 1 else 2) + utf16Units cs := rfl

@[simp] theorem utf16Units_append (cs ds : List Char) :
    utf16Units (cs ++ ds) = utf16Units cs + utf16Units ds := by
  unfold utf16Units
  rw [List.map_append, List.sum_append]

theorem utf16Units_singleton_le (c : Char) : utf16Units [c] ≤ 2 := by
  rw [utf16Units_cons]
  split <;> decide

theorem toNat_ofNat_of_lt {n : Nat} (h : n < 0xD800) : (Char.ofNat n).toNat = n := by
  unfold Char.ofNat
  rw [dif_pos (Or.inl h)]
  rfl

/-- A character below the surrogates is one unit. -/
theorem utf16Units_ofNat {n : Nat} (h : n < 0xD800) : utf16Units [Char.ofNat n] = 1 := by
  rw [utf16Units_cons, toNat_ofNat_of_lt h, if_pos (by omega)]
  rfl

/-- What a first byte gives: an ASCII character, a character begun, or an ill-formed part. -/
theorem utf8Lead_cases (b : Nat) :
    b < 0x80 ∧ utf8Lead b = ([Char.ofNat b], .start) ∨
    (∃ needed lower upper cp, utf8Lead b = ([], .owed needed lower upper cp) ∧
      (needed = 1 → cp < 0x20)) ∨
    utf8Lead b = ([replacement], .start) := by
  unfold utf8Lead
  by_cases h : b < 0x80
  · exact .inl ⟨h, if_pos h⟩
  · right
    rw [if_neg h]
    split
    · exact .inl ⟨1, _, _, _, rfl, fun _ => by omega⟩
    · repeat'
        split
        · exact .inl ⟨_, _, _, _, rfl, fun h => absurd h (by decide)⟩
      exact .inr rfl

/-- The bytes read of a character begun. -/
def Utf8State.pending : Utf8State → Nat
  | .start => 0
  | .owed .. => 1

/-- **Decoded text has no more units than bytes.** -/
theorem utf16Units_decodeFrom_le (st : Utf8State) (bs : Bytes) :
    utf16Units (utf8DecodeFrom st bs) ≤ bs.length + st.pending := by
  induction bs generalizing st with
  | nil =>
    cases st with
    | start => exact Nat.le_refl 0
    | owed => exact (by decide : utf16Units [replacement] ≤ 0 + 1)
  | cons b bs ih =>
    have hlead : utf16Units ((utf8Lead b.toNat).1 ++ utf8DecodeFrom (utf8Lead b.toNat).2 bs) ≤
        bs.length + 1 := by
      rcases utf8Lead_cases b.toNat with ⟨hb, h⟩ | ⟨needed, lower, upper, cp, h, _⟩ | h
      · have hrest := ih .start
        rw [h, utf16Units_append, utf16Units_ofNat (by omega)]
        simp only [Utf8State.pending] at hrest ⊢
        omega
      · rw [h]
        exact ih _
      · have hrest := ih .start
        have hone : utf16Units [replacement] = 1 := by decide
        rw [h, utf16Units_append, hone]
        simp only [Utf8State.pending] at hrest ⊢
        omega
    cases st with
    | start => exact hlead
    | owed needed lower upper cp =>
      rw [utf8DecodeFrom]
      unfold utf8Step
      simp only [List.length_cons, Utf8State.pending]
      split
      · split
        · have hrest := ih .start
          have hchar := utf16Units_singleton_le (Char.ofNat (cp * 64 + (b.toNat - 0x80)))
          rw [utf16Units_append]
          simp only [Utf8State.pending] at hrest ⊢
          omega
        · have hrest := ih (.owed (needed - 1) 0x80 0xBF (cp * 64 + (b.toNat - 0x80)))
          simp only [Utf8State.pending] at hrest
          simp only [List.nil_append]
          omega
      · have hone : utf16Units [replacement] = 1 := by decide
        rw [List.cons_append, ← List.singleton_append, utf16Units_append, hone]
        dsimp only
        omega

/-- Where no unit takes two bytes, a byte outside ASCII starts an ill-formed part. -/
theorem utf8Decode_cons_replacement {b : UInt8} {bs : Bytes} (hb : ¬ b.toNat < 0x80)
    (hunits : utf16Units (utf8Decode (b :: bs)) = bs.length + 1) :
    ∃ cs, utf8Decode (b :: bs) = replacement :: cs := by
  unfold utf8Decode at hunits ⊢
  rw [utf8DecodeFrom] at hunits ⊢
  simp only [utf8Step] at hunits ⊢
  rcases utf8Lead_cases b.toNat with ⟨hlt, _⟩ | ⟨needed, lower, upper, cp, h, hcp⟩ | h
  · exact absurd hlt hb
  · rw [h, List.nil_append] at hunits ⊢
    cases bs with
    | nil => exact ⟨[], rfl⟩
    | cons c bs =>
      rw [utf8DecodeFrom] at hunits ⊢
      simp only [utf8Step, List.length_cons] at hunits ⊢
      by_cases hrange : lower ≤ c.toNat ∧ c.toNat ≤ upper
      · -- the character goes on, so two bytes are read for less than two units
        rw [if_pos hrange] at hunits
        by_cases hone : needed = 1
        · have hrest := utf16Units_decodeFrom_le .start bs
          have hc := c.toNat_lt
          have hchar : utf16Units [Char.ofNat (cp * 64 + (c.toNat - 0x80))] = 1 :=
            utf16Units_ofNat (by have := hcp hone; omega)
          rw [if_pos hone, utf16Units_append, hchar] at hunits
          simp only [Utf8State.pending] at hrest hunits
          omega
        · have hrest := utf16Units_decodeFrom_le
            (.owed (needed - 1) 0x80 0xBF (cp * 64 + (c.toNat - 0x80))) bs
          rw [if_neg hone, List.nil_append] at hunits
          simp only [Utf8State.pending] at hrest hunits
          omega
      · rw [if_neg hrange]
        exact ⟨_, rfl⟩
  · rw [h]
    exact ⟨_, rfl⟩

theorem utf8Decode_cons_ascii {b : UInt8} (hb : b.toNat < 0x80) (bs : Bytes) :
    utf8Decode (b :: bs) = Char.ofNat b.toNat :: utf8Decode bs := by
  have hlead : utf8Lead b.toNat = ([Char.ofNat b.toNat], .start) := if_pos hb
  unfold utf8Decode
  rw [utf8DecodeFrom, utf8Step, hlead]
  rfl

theorem utf8EncodeChar_ofNat {b : UInt8} (hb : b.toNat < 0x80) :
    String.utf8EncodeChar (Char.ofNat b.toNat) = [b] := by
  have hn := toNat_ofNat_of_lt (show b.toNat < 0xD800 by omega)
  rw [utf8EncodeChar_ascii (by omega), hn, UInt8.ofNat_toNat]

/-- ASCII bytes survive. -/
theorem utf8Encode_utf8Decode_ascii {bs : Bytes} (h : ∀ b ∈ bs, b.toNat < 0x80) :
    utf8Encode (utf8Decode bs) = bs := by
  induction bs with
  | nil => rfl
  | cons b bs ih =>
    have hb := h b List.mem_cons_self
    have ih' := ih fun c hc => h c (List.mem_cons_of_mem _ hc)
    unfold utf8Encode at ih' ⊢
    rw [utf8Decode_cons_ascii hb, List.flatMap_cons, utf8EncodeChar_ofNat hb, ih']
    rfl

theorem utf16Units_utf8Decode_ascii {bs : Bytes} (h : ∀ b ∈ bs, b.toNat < 0x80) :
    utf16Units (utf8Decode bs) = bs.length := by
  induction bs with
  | nil => rfl
  | cons b bs ih =>
    have hb := h b List.mem_cons_self
    have hone := utf16Units_ofNat (show b.toNat < 0xD800 by omega)
    rw [utf8Decode_cons_ascii hb, ← List.singleton_append, utf16Units_append, hone,
      ih fun c hc => h c (List.mem_cons_of_mem _ hc), List.length_cons]
    omega

/-- No character has more units than bytes. -/
theorem utf16Units_le_utf8Encode (cs : List Char) : utf16Units cs ≤ (utf8Encode cs).length := by
  induction cs with
  | nil => exact Nat.le_refl 0
  | cons c cs ih =>
    have hchar : (if c.toNat < 0x10000 then 1 else 2) ≤ (String.utf8EncodeChar c).length := by
      rw [String.length_utf8EncodeChar]
      split
      · exact Char.utf8Size_pos c
      · rename_i hbig
        have hsize : c.utf8Size = 4 := Char.utf8Size_eq_four_iff.mpr (by
          rw [UInt32.lt_iff_toNat_lt]
          exact Nat.le_of_not_lt hbig)
        rw [hsize]
        decide
    unfold utf8Encode at ih ⊢
    rw [utf16Units_cons, List.flatMap_cons, List.length_append]
    omega

theorem utf16Units_ascii {cs : List Char} (h : IsAscii cs) : utf16Units cs = cs.length := by
  induction cs with
  | nil => rfl
  | cons c cs ih =>
    have hc : c.toNat < 0x80 := h c List.mem_cons_self
    rw [utf16Units_cons, if_pos (by omega), ih fun d hd => h d (List.mem_cons_of_mem _ hd),
      List.length_cons, Nat.add_comm]

/-- ASCII bytes decode to ASCII text. -/
theorem isAscii_utf8Decode {bs : Bytes} (h : ∀ b ∈ bs, b.toNat < 0x80) :
    IsAscii (utf8Decode bs) := by
  induction bs with
  | nil =>
    intro c hc
    cases hc
  | cons b bs ih =>
    have hb := h b List.mem_cons_self
    rw [utf8Decode_cons_ascii hb]
    intro c hc
    rcases List.mem_cons.mp hc with rfl | hc
    · rw [toNat_ofNat_of_lt (by omega)]
      exact hb
    · exact ih (fun d hd => h d (List.mem_cons_of_mem _ hd)) c hc

/-- Bytes that decode to as many units, and whose re-encoding begins as they do, are ASCII, unless
    their last one is 0xEF: it decodes to U+FFFD, whose other bytes then follow. -/
theorem reencoded_cases {bs u v : Bytes} (hunits : utf16Units (utf8Decode bs) = bs.length)
    (h : utf8Encode (utf8Decode bs) ++ u = bs ++ v) :
    (∀ b ∈ bs, b.toNat < 0x80) ∨ v = 0xBF :: 0xBD :: u := by
  induction bs with
  | nil =>
    left
    intro b hb
    cases hb
  | cons b bs ih =>
    by_cases hb : b.toNat < 0x80
    · have hone := utf16Units_ofNat (show b.toNat < 0xD800 by omega)
      have hunits' : utf16Units (utf8Decode bs) = bs.length := by
        rw [utf8Decode_cons_ascii hb, ← List.singleton_append, utf16Units_append, hone,
          List.length_cons] at hunits
        omega
      have h' : utf8Encode (utf8Decode bs) ++ u = bs ++ v := by
        unfold utf8Encode at h ⊢
        rw [utf8Decode_cons_ascii hb, List.flatMap_cons, utf8EncodeChar_ofNat hb] at h
        exact (List.cons.inj h).2
      rcases ih hunits' h' with hascii | hv
      · left
        intro c hc
        rcases List.mem_cons.mp hc with rfl | hc
        · exact hb
        · exact hascii c hc
      · exact .inr hv
    · obtain ⟨cs, hcs⟩ := utf8Decode_cons_replacement hb hunits
      have henc : String.utf8EncodeChar replacement = [0xEF, 0xBF, 0xBD] := by decide
      rw [hcs] at h
      unfold utf8Encode at h
      rw [List.flatMap_cons, henc] at h
      simp only [List.cons_append, List.cons.injEq] at h
      obtain ⟨rfl, h⟩ := h
      cases bs with
      | nil =>
        have hdec : utf8Decode [0xEF] = [replacement] := rfl
        obtain rfl : cs = [] := (List.cons.inj (hdec.symm.trans hcs)).2.symm
        exact .inr h.symm
      | cons c bs =>
        -- 0xEF 0xBF begins a character, which is one unit for two bytes at least
        exfalso
        obtain ⟨rfl, _⟩ := List.cons.inj h
        have hdec : utf8Decode (0xEF :: 0xBF :: bs) =
            utf8DecodeFrom (.owed 1 0x80 0xBF (0xF * 64 + 0x3F)) bs := by
          unfold utf8Decode
          rfl
        have hle := utf16Units_decodeFrom_le (.owed 1 0x80 0xBF (0xF * 64 + 0x3F)) bs
        rw [hdec] at hunits
        simp only [Utf8State.pending, List.length_cons] at hle hunits
        omega

/-- **Only ASCII comes back**, unless 0xBF follows. -/
theorem ascii_of_reencoded {bs u v : Bytes} (hunits : utf16Units (utf8Decode bs) = bs.length)
    (hv : v.head? ≠ some 0xBF) (h : utf8Encode (utf8Decode bs) ++ u = bs ++ v) :
    ∀ b ∈ bs, b.toNat < 0x80 := by
  rcases reencoded_cases hunits h with hascii | rfl
  · exact hascii
  · exact absurd rfl hv

/-! ## 3. Hexadecimal -/

/-- The lower-case digit of a value below sixteen. -/
def hexDigit (n : Nat) : Char :=
  if n < 10 then Char.ofNat (0x30 + n) else Char.ofNat (0x57 + n)

/-- The value of a digit, in either case. -/
def hexValue? (c : Char) : Option Nat :=
  let n := c.toNat
  if 0x30 ≤ n ∧ n ≤ 0x39 then some (n - 0x30)
  else if 0x41 ≤ n ∧ n ≤ 0x46 then some (n - 0x37)
  else if 0x61 ≤ n ∧ n ≤ 0x66 then some (n - 0x57)
  else none

/-- Two digits a byte. -/
def toHex (bs : Bytes) : List Char :=
  bs.flatMap fun b => [hexDigit (b.toNat / 16), hexDigit (b.toNat % 16)]

/-- The bytes of the leading pairs of digits. -/
def fromHex : List Char → Bytes
  | hi :: lo :: rest =>
    match hexValue? hi, hexValue? lo with
    | some h, some l => UInt8.ofNat (16 * h + l) :: fromHex rest
    | _, _ => []
  | _ => []

theorem hexValue?_hexDigit : ∀ n < 16, hexValue? (hexDigit n) = some n := by decide

/-- **Every byte string survives.** -/
@[simp] theorem fromHex_toHex (bs : Bytes) : fromHex (toHex bs) = bs := by
  induction bs with
  | nil => rfl
  | cons b bs ih =>
    have hb : b.toNat < 256 := b.toNat_lt
    have hhi := hexValue?_hexDigit (b.toNat / 16) (by omega)
    have hlo := hexValue?_hexDigit (b.toNat % 16) (by omega)
    have hsum : 16 * (b.toNat / 16) + b.toNat % 16 = b.toNat := by omega
    unfold toHex at ih ⊢
    rw [List.flatMap_cons, List.cons_append, List.cons_append, List.nil_append, fromHex, hhi, hlo]
    simp only [hsum, UInt8.ofNat_toNat, ih]

end Matternode.Base
