/-
  File:      Matternode/Base/Bytes.lean
  Subject:   Byte strings and the fixed-width integers written in them.

  Nothing here knows a protocol or a buffer library:

  * `toLE`, `ofLE` -- the `w` little-endian bytes of a natural and back, with the two inverse
    laws (`ofLE_toLE`, `toLE_ofLE`) and the bound `ofLE_lt`;
  * `toBE`, `ofBE` -- the same in network order;
  * `toLEInt`, `ofLEInt` -- two's complement over the same bytes (`ofLEInt_toLEInt`);
  * `overwrite` -- bytes written over a position, and what a later read of the range sees;
  * `xorStream` -- a keystream over bytes; twice is nothing (`xorStream_xorStream`).
-/
import Mathlib.Data.Nat.Log
import Mathlib.Tactic.Ring
import Mathlib.Tactic.NormNum

namespace Matternode.Base

/-- A byte string. -/
abbrev Bytes := List UInt8

/-! ## 1. Little-endian naturals -/

/-- The `w` little-endian bytes of `n`; what does not fit in them is dropped. -/
def toLE : Nat → Nat → Bytes
  | 0, _ => []
  | w + 1, n => UInt8.ofNat n :: toLE w (n / 256)

/-- The natural a little-endian byte string holds. -/
def ofLE : Bytes → Nat
  | [] => 0
  | b :: bs => b.toNat + 256 * ofLE bs

@[simp] theorem length_toLE (w n : Nat) : (toLE w n).length = w := by
  induction w generalizing n with
  | zero => rfl
  | succ w ih => simp only [toLE, List.length_cons, ih]

theorem ofLE_toLE (w n : Nat) : ofLE (toLE w n) = n % 256 ^ w := by
  induction w generalizing n with
  | zero => simp [toLE, ofLE, Nat.mod_one]
  | succ w ih =>
    rw [toLE, ofLE, ih, UInt8.toNat_ofNat', pow_succ' 256 w]
    exact (Nat.mod_mul ..).symm

/-- **What fits is read back.** -/
theorem ofLE_toLE_of_lt {w n : Nat} (h : n < 256 ^ w) : ofLE (toLE w n) = n := by
  rw [ofLE_toLE, Nat.mod_eq_of_lt h]

theorem ofLE_lt (bs : Bytes) : ofLE bs < 256 ^ bs.length := by
  induction bs with
  | nil => simp [ofLE]
  | cons b bs ih =>
    rw [ofLE, List.length_cons, pow_succ]
    have hb : b.toNat < 256 := b.toNat_lt
    omega

theorem toLE_ofLE (bs : Bytes) : toLE bs.length (ofLE bs) = bs := by
  induction bs with
  | nil => rfl
  | cons b bs ih =>
    have hb : b.toNat < 256 := b.toNat_lt
    rw [List.length_cons, toLE, ofLE]
    congr 1
    · apply UInt8.toNat_inj.mp
      rw [UInt8.toNat_ofNat']
      omega
    · rw [show (b.toNat + 256 * ofLE bs) / 256 = ofLE bs by omega, ih]

theorem toLE_injective {w m n : Nat} (hm : m < 256 ^ w) (hn : n < 256 ^ w)
    (h : toLE w m = toLE w n) : m = n := by
  rw [← ofLE_toLE_of_lt hm, h, ofLE_toLE_of_lt hn]

theorem toLE_ofLE_of_length {bs : Bytes} {w : Nat} (h : bs.length = w) : toLE w (ofLE bs) = bs := by
  rw [← h, toLE_ofLE]

/-- What a number of bytes takes of an integer. -/
theorem toLE_mod (w n : Nat) : toLE w (n % 256 ^ w) = toLE w n := by
  rw [← ofLE_toLE]
  exact toLE_ofLE_of_length (length_toLE w n)

theorem ofLE_lt_of_length {bs : Bytes} {w : Nat} (h : bs.length = w) : ofLE bs < 256 ^ w := by
  rw [← h]
  exact ofLE_lt bs

/-! ## 2. Network order -/

/-- The `w` big-endian bytes of `n`. -/
def toBE (w n : Nat) : Bytes := (toLE w n).reverse

/-- The natural a big-endian byte string holds. -/
def ofBE (bs : Bytes) : Nat := ofLE bs.reverse

@[simp] theorem length_toBE (w n : Nat) : (toBE w n).length = w := by
  rw [toBE, List.length_reverse, length_toLE]

theorem ofBE_toBE_of_lt {w n : Nat} (h : n < 256 ^ w) : ofBE (toBE w n) = n := by
  rw [ofBE, toBE, List.reverse_reverse, ofLE_toLE_of_lt h]

theorem ofBE_lt (bs : Bytes) : ofBE bs < 256 ^ bs.length := by
  have h := ofLE_lt bs.reverse
  rwa [List.length_reverse] at h

/-! ## 3. Two's complement -/

/-- The `w` little-endian bytes of an integer in two's complement. -/
def toLEInt (w : Nat) (n : Int) : Bytes := toLE w (n % (256 ^ w : Nat)).toNat

/-- The integer a little-endian two's-complement byte string holds. -/
def ofLEInt (bs : Bytes) : Int := Int.bmod (ofLE bs) (256 ^ bs.length)

@[simp] theorem length_toLEInt (w : Nat) (n : Int) : (toLEInt w n).length = w := length_toLE _ _

/-- **What fits is read back, with its sign.** -/
theorem ofLEInt_toLEInt {w : Nat} {n : Int} (hlo : -(256 ^ w : Nat) ≤ n * 2)
    (hhi : n * 2 < (256 ^ w : Nat)) : ofLEInt (toLEInt w n) = n := by
  have hpos : (0 : Int) < (256 ^ w : Nat) := by positivity
  have hmod : ((n % (256 ^ w : Nat)).toNat : Int) = n % (256 ^ w : Nat) :=
    Int.toNat_of_nonneg (Int.emod_nonneg _ hpos.ne')
  have hlt : (n % (256 ^ w : Nat)).toNat < 256 ^ w := by
    have := Int.emod_lt_of_pos n hpos
    omega
  unfold ofLEInt
  rw [length_toLEInt, toLEInt, ofLE_toLE_of_lt hlt, hmod, Int.emod_bmod]
  exact Int.bmod_eq_of_le_mul_two hlo hhi

/-- Every byte string holds an integer of its width. -/
theorem ofLEInt_bounds (bs : Bytes) :
    -(256 ^ bs.length : Nat) ≤ ofLEInt bs * 2 ∧ ofLEInt bs * 2 < (256 ^ bs.length : Nat) := by
  have hpos : 0 < 256 ^ bs.length := by positivity
  have hlo := Int.le_bmod (x := ofLE bs) hpos
  have hhi := Int.bmod_lt (x := ofLE bs) hpos
  unfold ofLEInt
  refine ⟨by omega, ?_⟩
  rcases Nat.eq_zero_or_pos bs.length with h0 | hlen
  · obtain rfl := List.eq_nil_of_length_eq_zero h0
    decide
  · have heven : 2 ∣ 256 ^ bs.length := dvd_pow (by decide) (by omega)
    omega

/-- **And is the bytes of that integer.** -/
theorem toLEInt_ofLEInt (bs : Bytes) : toLEInt bs.length (ofLEInt bs) = bs := by
  have hlt := ofLE_lt bs
  unfold toLEInt ofLEInt
  rw [Int.bmod_emod, Int.emod_eq_of_lt (by omega) (by omega), Int.toNat_natCast, toLE_ofLE]

/-! ## 4. Writing over a position -/

/-- `bs` with the bytes `v` written over position `off` on. -/
def overwrite (bs : Bytes) (off : Nat) (v : Bytes) : Bytes :=
  bs.take off ++ v ++ bs.drop (off + v.length)

theorem length_overwrite {bs v : Bytes} {off : Nat} (h : off + v.length ≤ bs.length) :
    (overwrite bs off v).length = bs.length := by
  simp only [overwrite, List.length_append, List.length_take, List.length_drop]
  omega

/-- A range written over by one of its length. -/
theorem overwrite_middle {pre old post v : Bytes} (h : v.length = old.length) :
    overwrite (pre ++ old ++ post) pre.length v = pre ++ v ++ post := by
  have htake : (pre ++ old ++ post).take pre.length = pre := by
    rw [List.append_assoc, List.take_left]
  unfold overwrite
  rw [h, ← List.length_append, List.drop_left, htake]

/-! ## 5. Keystreams -/

/-- Each byte with the byte of the stream at its position. -/
def xorStream (stream : Nat → UInt8) (bs : Bytes) : Bytes := bs.mapIdx fun i b => b ^^^ stream i

@[simp] theorem length_xorStream (stream : Nat → UInt8) (bs : Bytes) :
    (xorStream stream bs).length = bs.length := List.length_mapIdx

/-- **A keystream over bytes twice gives the bytes back.** -/
theorem xorStream_xorStream (stream : Nat → UInt8) (bs : Bytes) :
    xorStream stream (xorStream stream bs) = bs := by
  apply List.ext_getElem
  · simp
  · intro i h1 h2
    simp only [xorStream, List.getElem_mapIdx]
    rw [UInt8.xor_assoc, UInt8.xor_self, UInt8.xor_zero]

end Matternode.Base
