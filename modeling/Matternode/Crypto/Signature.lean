/-
  File:      Matternode/Crypto/Signature.lean
  Subject:   Crypto.Sign and Crypto.Verify: a signature as the bytes of two numbers.

  A signature is put together from the shortest bytes of its halves, and taken apart at byte 32.

  * `Ecdsa` -- the package that signs and verifies, on pairs of numbers;
  * `toBuffer` -- the shortest big-endian bytes of a number;
  * `Sign`, `Verify`, `halves` -- the two functions, and what `Verify` reads;
  * `SignatureVerifies`, `signatureVerifies_iff` -- **a signature verifies exactly when** no half
    begins with a zero byte.
-/
import Matternode.Js.Buffer

namespace Matternode.Crypto

open Base Js

/-! ## 1. The two functions -/

/-- The package `elliptic` on its curve p256, for keys as the code hands them over, with SHA-256. -/
structure Ecdsa where
  hash : Bytes → Bytes
  /-- `ec.keyFromPrivate(privateKey).sign(digest)`, as the numbers r and s. -/
  sign : Bytes → Bytes → Except JsError (Nat × Nat)
  /-- `ec.keyFromPublic(publicKey).verify(digest, { r, s })`. -/
  verify : Bytes → Bytes → Nat × Nat → Except JsError Bool

/-- The bytes of a number that do not begin with a zero byte; one byte for zero. -/
def byteLength (n : Nat) : Nat := Nat.log 256 n + 1

/-- `n.toBuffer()` of a big number. -/
def toBuffer (n : Nat) : Bytes := toBE (byteLength n) n

def Sign (E : Ecdsa) (message privateKey : Bytes) : Except JsError Bytes := do
  let sig ← E.sign privateKey (E.hash message)
  return toBuffer sig.1 ++ toBuffer sig.2

/-- The numbers the package makes of `signature.subarray(0, 32)` and `signature.subarray(32)`. -/
def halves (signature : Bytes) : Nat × Nat :=
  (ofBE (subarray signature 0 32), ofBE (subarrayFrom signature 32))

def Verify (E : Ecdsa) (message signature publicKey : Bytes) : Except JsError Bool :=
  E.verify publicKey (E.hash message) (halves signature)

/-- The signature has 64 bytes, its halves are the pair again, and it is accepted. -/
def SignatureVerifies (E : Ecdsa) (message privateKey publicKey : Bytes) (sig : Nat × Nat) : Prop :=
  ∃ signature, Sign E message privateKey = .ok signature ∧ signature.length = 64 ∧
    halves signature = sig ∧ Verify E message signature publicKey = .ok true

/-! ## 2. When a signature verifies -/

theorem length_toBuffer (n : Nat) : (toBuffer n).length = byteLength n := length_toBE ..

/-- The bytes of a number are the number again. -/
theorem ofBE_toBuffer (n : Nat) : ofBE (toBuffer n) = n :=
  ofBE_toBE_of_lt (Nat.lt_pow_succ_log_self (by decide) n)

/-- A number below 2^256 has 32 bytes at most, and all 32 from 2^248 on. -/
theorem byteLength_le {n : Nat} (h : n < 2 ^ 256) : byteLength n ≤ 32 := by
  have hlog : Nat.log 256 n < 32 := Nat.log_lt_of_lt_pow' (by decide) (by omega)
  exact hlog

theorem le_byteLength_iff {n : Nat} : 32 ≤ byteLength n ↔ 2 ^ 248 ≤ n := by
  unfold byteLength
  rcases Nat.eq_zero_or_pos n with rfl | hpos
  · rw [Nat.log_zero_right]
    omega
  · have hlog : 31 ≤ Nat.log 256 n ↔ 256 ^ 31 ≤ n := Nat.le_log_iff_pow_le (by decide) (by omega)
    omega

/-- The halves of two buffers of 32 bytes. -/
theorem halves_append {r s : Bytes} (hr : r.length = 32) : halves (r ++ s) = (ofBE r, ofBE s) := by
  have hfirst : subarray (r ++ s) 0 32 = r := by
    refine (subarray_nat (r ++ s) 0 32).trans ?_
    rw [List.drop_zero, ← hr, List.take_left]
  have hsecond : subarrayFrom (r ++ s) 32 = s := by
    refine (subarrayFrom_nat (r ++ s) 32).trans ?_
    rw [← hr, List.drop_left]
  rw [halves, hfirst, hsecond]

/-- **A signature verifies exactly when** both numbers need all their 32 bytes. -/
theorem signatureVerifies_iff (E : Ecdsa) {message privateKey publicKey : Bytes} {r s : Nat}
    (hsign : E.sign privateKey (E.hash message) = .ok (r, s)) (hr : r < 2 ^ 256) (hs : s < 2 ^ 256)
    (haccepts : E.verify publicKey (E.hash message) (r, s) = .ok true) :
    SignatureVerifies E message privateKey publicKey (r, s) ↔ 2 ^ 248 ≤ r ∧ 2 ^ 248 ≤ s := by
  have hSign : Sign E message privateKey = .ok (toBuffer r ++ toBuffer s) := by
    unfold Sign
    rw [hsign]
    rfl
  have hlen : (toBuffer r ++ toBuffer s).length = byteLength r + byteLength s := by
    rw [List.length_append, length_toBuffer, length_toBuffer]
  have hrle := byteLength_le hr
  have hsle := byteLength_le hs
  rw [← le_byteLength_iff, ← le_byteLength_iff]
  constructor
  · intro hverifies
    obtain ⟨signature, hsignature, h64, -, -⟩ := hverifies
    rw [hSign] at hsignature
    rw [← Except.ok.inj hsignature, hlen] at h64
    omega
  · intro hfull
    obtain ⟨hrfull, hsfull⟩ := hfull
    have hhalves : halves (toBuffer r ++ toBuffer s) = (r, s) := by
      rw [halves_append (by rw [length_toBuffer]; omega), ofBE_toBuffer, ofBE_toBuffer]
    refine ⟨_, hSign, by rw [hlen]; omega, hhalves, ?_⟩
    unfold Verify
    rw [hhalves]
    exact haccepts

/-- A package that knows one signature of one message. -/
def signed (digest : Nat) (sig : Nat × Nat) : Ecdsa where
  hash _ := toBE 32 digest
  sign _ _ := .ok sig
  verify _ _ pair := .ok (pair = sig)

/-- The keys of a published test vector for p256. -/
def testPrivateKey : Bytes :=
  toBE 32 0xc9afa9d845ba75166b5c215767b1d6934e50c3db36e89b127b8a622b120f6721

def testPublicKey : Bytes :=
  4 :: toBE 32 0x60fed4ba255a9d31c961eb74c6356d68c049b8923b61fa6ce669622e60f29fb6 ++
    toBE 32 0x7903fe1008b8bc99a41ae9e95628bc64f2f1b20c2d7e9f5177a3c294d4462299

/-- The message "sample" under these keys. -/
theorem signatureVerifies_iff_sample :
    let r := 0xefd48b2aacb6a8fd1140dd9cd45e81d69d2c877b56aaf991c34d0ea84eaf3716
    let s := 0xf7cb1c942d657c41d436c7a1b6e29f65f3e900dbb9aff4064dc4ab2f843acda8
    let E := signed 0xaf2bdbe1aa9b6ec1e2ade1d694f41fc71a831d0268e9891562113d8a62add1bf (r, s)
    SignatureVerifies E [0x73, 0x61, 0x6d, 0x70, 0x6c, 0x65] testPrivateKey testPublicKey (r, s) ↔
      2 ^ 248 ≤ r ∧ 2 ^ 248 ≤ s := by
  intro r s E
  exact signatureVerifies_iff E rfl (by decide) (by decide) (congrArg Except.ok (by simp))

/-- **The message "sample144" under these keys** has a short r: 63 bytes, split behind the first
    byte of s. -/
theorem sample144_not_verified :
    let r := 0xcfb7b702f6b49976570100fbad0021206578feee17d6be22275a97da6e27e6
    let s := 0x21135c781211f6e4c1af10acc4c4d91714009914b50915625d32b3303a49f2b7
    let E := signed 0x9ac48e3b62536282b50d056b6c1857da7137bdf65c4eae58f34fce11419765b5 (r, s)
    let message : Bytes := [0x73, 0x61, 0x6d, 0x70, 0x6c, 0x65, 0x31, 0x34, 0x34]
    ¬ SignatureVerifies E message testPrivateKey testPublicKey (r, s) := by
  intro r s E message hverifies
  obtain ⟨signature, hsignature, h64, -, -⟩ := hverifies
  have hSign : Sign E message testPrivateKey = .ok (toBuffer r ++ toBuffer s) := rfl
  rw [hSign] at hsignature
  rw [← Except.ok.inj hsignature, List.length_append, length_toBuffer, length_toBuffer] at h64
  exact absurd h64 (by decide)

end Matternode.Crypto
