/-
  File:      Matternode/Js/Number.lean
  Subject:   JavaScript numbers: the integers among the doubles, and the rest by their bits.

  A JavaScript number is a double. The code reads and writes whole numbers almost everywhere, so a
  number is either an integer (`.int`) or a double that holds none (`.double`: a fraction, an
  infinity, NaN, or minus zero, which writes and compares as zero). `ofBits` decides which, so a
  double that holds a whole number always becomes `.int`.

  * `DoubleValue`, `decodeIeee`, `encodeIeee` -- the IEEE 754 binary formats, width by width, with
    rounding to nearest, ties to even;
  * `Number.lt`, `le`, `gt`, `ge` -- comparison with an integer constant (false on NaN);
  * `Number.toInteger` -- `ToIntegerOrInfinity` of a finite number, what a typed array stores;
  * `Number.ofString` -- `StringToNumber`, the value of unary plus on a string;
  * `Number.text` -- `Number::toString`, the text of a number;
  * `Number.addInt` -- the sum with an integer constant.
-/
import Matternode.Base.Text

namespace Matternode.Js

open Base

/-! ## 1. The binary formats -/

/-- What the bits of a binary floating-point number stand for; a finite one is
    `mantissa * 2 ^ exponent`. -/
inductive DoubleValue where
  | nan
  | infinity (negative : Bool)
  | finite (negative : Bool) (mantissa : Nat) (exponent : Int)
  deriving DecidableEq, Repr

/-- Reads `1 + expBits + fracBits` bits. -/
def decodeIeee (expBits fracBits bits : Nat) : DoubleValue :=
  let frac := bits % 2 ^ fracBits
  let biased := bits / 2 ^ fracBits % 2 ^ expBits
  let negative := bits / 2 ^ (fracBits + expBits) % 2 = 1
  let bias : Int := 2 ^ (expBits - 1) - 1
  if biased = 2 ^ expBits - 1 then
    if frac = 0 then .infinity negative else .nan
  else if biased = 0 then .finite negative frac (1 - bias - fracBits)
  else .finite negative (frac + 2 ^ fracBits) (biased - bias - fracBits)

/-- `num / den` rounded to a natural, ties to even. -/
def divRoundEven (num den : Nat) : Nat :=
  let q := num / den
  let r := num % den
  if 2 * r < den then q else if den < 2 * r then q + 1 else q + q % 2

/-- The bits of the rational `num / den` in the format, rounded to nearest. -/
def encodeIeee (expBits fracBits : Nat) (negative : Bool) (num den : Nat) : Nat :=
  let sign := if negative then 2 ^ (expBits + fracBits) else 0
  if num = 0 then sign else
    let bias : Int := 2 ^ (expBits - 1) - 1
    let guess : Int := (Nat.log2 num : Int) - Nat.log2 den
    let below : Bool := if guess < 0 then num * 2 ^ (-guess).toNat < den
      else num < den * 2 ^ guess.toNat
    let exponent := max (if below then guess - 1 else guess) (1 - bias)
    -- the unit of the last place is `2 ^ quantum`
    let quantum := exponent - fracBits
    let m := if quantum < 0 then divRoundEven (num * 2 ^ (-quantum).toNat) den
      else divRoundEven num (den * 2 ^ quantum.toNat)
    let bits := (exponent - (1 - bias)).toNat * 2 ^ fracBits + m
    sign + min bits ((2 ^ expBits - 1) * 2 ^ fracBits)

/-! ## 2. Numbers -/

/-- A JavaScript number. -/
inductive Number where
  | int (n : Int)
  | double (bits : Nat)
  deriving DecidableEq, Repr

namespace Number

/-- The number a 64-bit pattern holds. -/
def ofBits (bits : Nat) : Number :=
  match decodeIeee 11 52 bits with
  | .finite negative m e =>
    if negative ∧ m = 0 then .double bits
    else if 0 ≤ e then .int ((if negative then -1 else 1) * (m * 2 ^ e.toNat : Nat))
    else if m % 2 ^ (-e).toNat = 0 then
      .int ((if negative then -1 else 1) * (m / 2 ^ (-e).toNat : Nat))
    else .double bits
  | _ => .double bits

/-- The double nearest to `± num / den`. -/
def ofRational (negative : Bool) (num den : Nat) : Number :=
  ofBits (encodeIeee 11 52 negative num den)

/-- What a number stands for. -/
def value : Number → DoubleValue
  | .int n => .finite (n < 0) n.natAbs 0
  | .double bits => decodeIeee 11 52 bits

/-- The sign of `x - n` for a finite `x`. -/
def signOfSub (negative : Bool) (m : Nat) (e : Int) (n : Int) : Int :=
  let x : Int := if negative then -m else m
  if 0 ≤ e then (x * 2 ^ e.toNat - n).sign else (x - n * 2 ^ (-e).toNat).sign

/-- `x < n`. -/
def lt (x : Number) (n : Int) : Bool :=
  match x.value with
  | .nan => false
  | .infinity negative => negative
  | .finite negative m e => signOfSub negative m e n < 0

/-- `x > n`. -/
def gt (x : Number) (n : Int) : Bool :=
  match x.value with
  | .nan => false
  | .infinity negative => !negative
  | .finite negative m e => 0 < signOfSub negative m e n

/-- `x <= n`. -/
def le (x : Number) (n : Int) : Bool :=
  match x.value with
  | .nan => false
  | .infinity negative => negative
  | .finite negative m e => signOfSub negative m e n ≤ 0

/-- `x >= n`. -/
def ge (x : Number) (n : Int) : Bool :=
  match x.value with
  | .nan => false
  | .infinity negative => !negative
  | .finite negative m e => 0 ≤ signOfSub negative m e n

/-- The integer a typed array stores for a number: towards zero, and 0 for NaN and the
    infinities. -/
def toInteger (x : Number) : Int :=
  match x.value with
  | .finite negative m e =>
    (if negative then -1 else 1) * (if 0 ≤ e then m * 2 ^ e.toNat else m / 2 ^ (-e).toNat : Nat)
  | _ => 0

/-- `Number.isInteger`; minus zero is the one integer kept by its bits. -/
def isInteger (x : Number) : Bool :=
  match x.value with
  | .finite _ m e => 0 ≤ e ∨ m % 2 ^ (-e).toNat = 0
  | _ => false

/-- `!!x`. -/
def truthy (x : Number) : Bool :=
  match x.value with
  | .nan => false
  | .infinity _ => true
  | .finite _ m _ => m ≠ 0

/-- `x === n` for an integer `n`. -/
def eqInt (x : Number) (n : Int) : Bool :=
  match x.value with
  | .finite negative m e => signOfSub negative m e n = 0
  | _ => false

theorem signOfSub_natAbs (n k : Int) : signOfSub (n < 0) n.natAbs 0 k = (n - k).sign := by
  unfold signOfSub
  by_cases h : n < 0
  · simp only [h, decide_true, ↓reduceIte, le_refl, Int.toNat_zero, pow_zero, mul_one]
    congr 2
    omega
  · simp only [h, decide_false, Bool.false_eq_true, ↓reduceIte, le_refl, Int.toNat_zero, pow_zero,
      mul_one]
    congr 2
    omega

@[simp] theorem int_lt (n k : Int) : (Number.int n).lt k = decide (n < k) := by
  simp only [lt, value, signOfSub_natAbs, Int.sign_neg_iff, decide_eq_decide]
  omega

@[simp] theorem int_gt (n k : Int) : (Number.int n).gt k = decide (k < n) := by
  simp only [gt, value, signOfSub_natAbs, Int.sign_pos_iff, decide_eq_decide]
  omega

@[simp] theorem int_le (n k : Int) : (Number.int n).le k = decide (n ≤ k) := by
  simp only [le, value, signOfSub_natAbs, Int.sign_nonpos_iff, decide_eq_decide]
  omega

@[simp] theorem int_ge (n k : Int) : (Number.int n).ge k = decide (k ≤ n) := by
  simp only [ge, value, signOfSub_natAbs, Int.sign_nonneg_iff, decide_eq_decide]
  omega

@[simp] theorem int_toInteger (n : Int) : (Number.int n).toInteger = n := by
  simp only [toInteger, value, le_refl, ↓reduceIte, Int.toNat_zero, pow_zero, mul_one]
  by_cases h : n < 0
  · simp only [h, decide_true, ↓reduceIte]
    omega
  · simp only [h, decide_false, Bool.false_eq_true, ↓reduceIte]
    omega

@[simp] theorem int_isInteger (n : Int) : (Number.int n).isInteger = true := by
  simp [isInteger, value]

@[simp] theorem int_eqInt (n k : Int) : (Number.int n).eqInt k = decide (n = k) := by
  simp only [eqInt, value, signOfSub_natAbs, Int.sign_eq_zero_iff_zero, decide_eq_decide]
  omega

end Number

/-! ## 3. Numbers in text -/

/-- The characters `String.prototype.trim` removes. -/
def isWhitespace (c : Char) : Bool :=
  let n := c.toNat
  (9 ≤ n ∧ n ≤ 13) ∨ (0x2000 ≤ n ∧ n ≤ 0x200A) ∨
    n ∈ [0x20, 0xA0, 0x1680, 0x2028, 0x2029, 0x202F, 0x205F, 0x3000, 0xFEFF]

def trim (cs : List Char) : List Char :=
  ((cs.dropWhile isWhitespace).reverse.dropWhile isWhitespace).reverse

/-- The value of a nonempty string of digits of the base. -/
def digits? (base : Nat) : List Char → Option Nat
  | [] => none
  | cs => cs.foldl (fun acc c => do
      let d ← hexValue? c
      if d < base then some ((← acc) * base + d) else none) (some 0)

/-- The digits of `0x…`, `0o…` and `0b…`, and the base. -/
def nonDecimal? : List Char → Option (Nat × List Char)
  | '0' :: 'x' :: ds | '0' :: 'X' :: ds => some (16, ds)
  | '0' :: 'o' :: ds | '0' :: 'O' :: ds => some (8, ds)
  | '0' :: 'b' :: ds | '0' :: 'B' :: ds => some (2, ds)
  | _ => none

/-- A leading sign, and the rest. -/
def splitSign : List Char → Bool × List Char
  | '-' :: cs => (true, cs)
  | '+' :: cs => (false, cs)
  | cs => (false, cs)

/-- An unsigned decimal literal as a fraction `num / den`. -/
def decimal? (cs : List Char) : Option (Nat × Nat) := do
  let (mantissa, exponent) := cs.span fun c => c ≠ 'e' ∧ c ≠ 'E'
  let (whole, rest) := mantissa.span (· ≠ '.')
  let fraction := rest.drop 1
  let n ← digits? 10 (whole ++ fraction)
  let (negative, ds) := splitSign (exponent.drop 1)
  let e ← if exponent = [] then some 0 else digits? 10 ds
  let k : Int := (if negative then -(e : Int) else e) - fraction.length
  some (n * 10 ^ k.toNat, 10 ^ (-k).toNat)

/-- NaN. -/
def Number.nan : Number := .double 0x7FF8000000000000

/-- `StringToNumber`. -/
def Number.ofString (s : List Char) : Number :=
  let cs := trim s
  if cs = [] then .int 0 else
    match nonDecimal? cs with
    | some (base, ds) => ((digits? base ds).map (Number.ofRational false · 1)).getD .nan
    | none =>
      let (negative, unsigned) := splitSign cs
      if unsigned = "Infinity".toList then
        .double (if negative then 0xFFF0000000000000 else 0x7FF0000000000000)
      else
        ((decimal? unsigned).map fun q => Number.ofRational negative q.1 q.2).getD .nan

/-- `StringToBigInt`. -/
def bigIntOfString? (s : List Char) : Option Int :=
  let cs := trim s
  if cs = [] then some 0 else
    match nonDecimal? cs with
    | some (base, ds) => (digits? base ds).map Int.ofNat
    | none =>
      let (negative, unsigned) := splitSign cs
      (digits? 10 unsigned).map fun n => if negative then -(n : Int) else n

/-! ## 4. Numbers as text -/

/-- The `n` with `10 ^ (n - 1) ≤ num / den < 10 ^ n`. -/
def decimalExponent (num den : Nat) : Int :=
  if den ≤ num then (Nat.toDigits 10 (num / den)).length
  else 1 - ((Nat.toDigits 10 ((den - 1) / num)).length : Int)

/-- The `s` next to `num / den * 10 ^ (k - n)` for which `s * 10 ^ (n - k)` reads as the same
    double, the nearer one first. -/
def digitsOfLength? (num den : Nat) (n : Int) (k : Nat) : Option Nat :=
  let scale := n - k
  let a := num * 10 ^ (-scale).toNat
  let b := den * 10 ^ scale.toNat
  let next := if 2 * (a % b) ≤ b then [a / b, a / b + 1] else [a / b + 1, a / b]
  next.find? fun s =>
    Number.ofRational false (s * 10 ^ scale.toNat) (10 ^ (-scale).toNat) =
      Number.ofRational false num den

/-- The fewest digits that read as the double `num / den`, and the exponent of the text. Seventeen
    are always enough. -/
def shortestDigits (num den : Nat) : Nat × Int :=
  let n := decimalExponent num den
  let found := (List.range 17).findSome? fun i =>
    (digitsOfLength? num den n (i + 1)).map fun s => (s, i + 1)
  match found with
  | some (s, k) => if s = 10 ^ k then (1, n + 1) else (s, n)
  | none => (num / den, n)

/-- The digits of `s` with the point after `n` of them, or with an exponent. -/
def layoutDigits (s : Nat) (n : Int) : List Char :=
  let ds := Nat.toDigits 10 s
  if ds.length ≤ n ∧ n ≤ 21 then ds ++ List.replicate (n - ds.length).toNat '0'
  else if 0 < n ∧ n ≤ 21 then ds.take n.toNat ++ '.' :: ds.drop n.toNat
  else if -6 < n ∧ n ≤ 0 then '0' :: '.' :: (List.replicate (-n).toNat '0' ++ ds)
  else
    ds.take 1 ++ (if ds.length = 1 then [] else '.' :: ds.drop 1) ++
      'e' :: (if n - 1 < 0 then '-' else '+') :: Nat.toDigits 10 (n - 1).natAbs

/-- `Number::toString`: the text of a number. -/
def Number.text (x : Number) : String :=
  match x.value with
  | .nan => "NaN"
  | .infinity negative => if negative then "-Infinity" else "Infinity"
  | .finite negative m e =>
    let num := m * 2 ^ e.toNat
    let den := 2 ^ (-e).toNat
    if num = 0 then "0" else
      let digits :=
        -- a whole number below `2 ^ 53` has no shorter text than its digits
        if num % den = 0 ∧ num / den < 2 ^ 53 then Nat.toDigits 10 (num / den)
        else layoutDigits (shortestDigits num den).1 (shortestDigits num den).2
      String.ofList (if negative then '-' :: digits else digits)

/-- `x + k`, rounded to the nearest double. -/
def Number.addInt (x : Number) (k : Int) : Number :=
  match x.value with
  | .nan => .nan
  | .infinity _ => x
  | .finite negative m e =>
    let num : Int := (if negative then -(m : Int) else m) * 2 ^ e.toNat + k * 2 ^ (-e).toNat
    .ofRational (num < 0) num.natAbs (2 ^ (-e).toNat)

theorem layoutDigits_ne_nil (s : Nat) (n : Int) : layoutDigits s n ≠ [] := by
  unfold layoutDigits
  simp only
  split
  · simp
  · split
    · simp
    · split <;> simp

theorem toDigits_ne_nil (n : Nat) : Nat.toDigits 10 n ≠ [] := by
  intro h
  have hlen := Nat.length_toDigits_pos (b := 10) (n := n)
  rw [h] at hlen
  cases hlen

theorem Number.text_ne_empty (x : Number) : x.text ≠ "" := by
  unfold Number.text
  cases x.value with
  | nan => simp
  | infinity negative => cases negative <;> simp
  | finite negative m e =>
    simp only
    split
    · simp
    · cases negative with
      | true => simp
      | false =>
        simp only [Bool.false_eq_true, if_false, ne_eq, String.ofList_eq_empty_iff]
        split
        · exact toDigits_ne_nil _
        · exact layoutDigits_ne_nil _ _

/-- What equals an integer is finite, and its fraction is that integer. -/
theorem Number.eq_of_eqInt {x : Number} {k : Int} (h : x.eqInt k = true) :
    ∃ negative m e, x.value = .finite negative m e ∧
      (if negative then -(m : Int) else m) * 2 ^ e.toNat = k * 2 ^ (-e).toNat := by
  unfold Number.eqInt at h
  cases hx : x.value with
  | nan => simp [hx] at h
  | infinity negative => simp [hx] at h
  | finite negative m e =>
    refine ⟨negative, m, e, rfl, ?_⟩
    rw [hx] at h
    have hsign : Number.signOfSub negative m e k = 0 := of_decide_eq_true h
    unfold Number.signOfSub at hsign
    simp only at hsign
    by_cases he : 0 ≤ e
    · rw [if_pos he, Int.sign_eq_zero_iff_zero] at hsign
      rw [show (-e).toNat = 0 by omega, pow_zero, mul_one]
      omega
    · rw [if_neg he, Int.sign_eq_zero_iff_zero] at hsign
      rw [show e.toNat = 0 by omega, pow_zero, mul_one]
      omega

/-- What equals an integer compares as the integer does. -/
theorem Number.signOfSub_of_eqInt {x : Number} {k : Int} (h : x.eqInt k = true) :
    ∃ negative m e, x.value = .finite negative m e ∧
      ∀ n, Number.signOfSub negative m e n = (k - n).sign := by
  obtain ⟨negative, m, e, hx, hm⟩ := Number.eq_of_eqInt h
  refine ⟨negative, m, e, hx, fun n => ?_⟩
  unfold Number.signOfSub
  simp only
  by_cases he : 0 ≤ e
  · rw [show (-e).toNat = 0 by omega, pow_zero, mul_one] at hm
    rw [if_pos he, hm]
  · rw [show e.toNat = 0 by omega, pow_zero, mul_one] at hm
    rw [if_neg he, hm, ← Int.sub_mul, Int.sign_mul,
      Int.sign_eq_one_of_pos (show (0 : Int) < 2 ^ (-e).toNat by positivity), mul_one]

theorem Number.gt_of_eqInt {x : Number} {k : Int} (h : x.eqInt k = true) (n : Int) :
    x.gt n = decide (n < k) := by
  obtain ⟨negative, m, e, hx, hsign⟩ := Number.signOfSub_of_eqInt h
  simp only [Number.gt, hx, hsign, Int.sign_pos_iff, decide_eq_decide]
  omega

theorem Number.lt_of_eqInt {x : Number} {k : Int} (h : x.eqInt k = true) (n : Int) :
    x.lt n = decide (k < n) := by
  obtain ⟨negative, m, e, hx, hsign⟩ := Number.signOfSub_of_eqInt h
  simp only [Number.lt, hx, hsign, Int.sign_neg_iff, decide_eq_decide]
  omega

theorem Number.toInteger_of_eqInt {x : Number} {k : Int} (h : x.eqInt k = true) :
    x.toInteger = k := by
  obtain ⟨negative, m, e, hx, hm⟩ := Number.eq_of_eqInt h
  have hpow : (2 : Int) ^ (-e).toNat ≠ 0 := by positivity
  unfold Number.toInteger
  rw [hx]
  simp only
  by_cases he : 0 ≤ e
  · rw [show (-e).toNat = 0 by omega, pow_zero, mul_one] at hm
    rw [if_pos he, ← hm]
    cases negative <;> push_cast <;> simp
  · rw [show e.toNat = 0 by omega, pow_zero, mul_one] at hm
    rw [if_neg he]
    push_cast
    cases negative with
    | true =>
      have hneg : -(m : Int) = k * 2 ^ (-e).toNat := by simpa using hm
      rw [show (m : Int) = -k * 2 ^ (-e).toNat by rw [Int.neg_mul, ← hneg, Int.neg_neg],
        Int.mul_ediv_cancel _ hpow]
      simp
    | false =>
      rw [show (m : Int) = k * 2 ^ (-e).toNat by simpa using hm, Int.mul_ediv_cancel _ hpow]
      simp

/-- Zero is written as its digit, whichever zero it is. -/
theorem Number.text_of_eqInt_zero {x : Number} (h : x.eqInt 0 = true) : x.text = "0" := by
  obtain ⟨negative, m, e, hx, hm⟩ := Number.eq_of_eqInt h
  have hzero : m * 2 ^ e.toNat = 0 := by
    cases negative <;> simpa using hm
  unfold Number.text
  simp [hx, hzero]

theorem Number.text_of_eqInt_one {x : Number} (h : x.eqInt 1 = true) : x.text = "1" := by
  obtain ⟨negative, m, e, hx, hm⟩ := Number.eq_of_eqInt h
  have hpow : (0 : Int) < 2 ^ (-e).toNat := by positivity
  cases negative with
  | true =>
    have hle : (0 : Int) ≤ m * 2 ^ e.toNat := by positivity
    simp only [if_true, Int.neg_mul, one_mul] at hm
    omega
  | false =>
    have hnum : m * 2 ^ e.toNat = 2 ^ (-e).toNat := by
      simp only [Bool.false_eq_true, if_false, one_mul] at hm
      exact_mod_cast hm
    unfold Number.text
    simp only [hx, hnum, Nat.mod_self, Nat.div_self (Nat.two_pow_pos _)]
    simp
    decide

@[simp] theorem Number.ofString_zero : Number.ofString ['0'] = .int 0 := by decide +kernel

@[simp] theorem Number.ofString_one : Number.ofString ['1'] = .int 1 := by decide +kernel

end Matternode.Js
