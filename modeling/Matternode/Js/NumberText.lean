/-
  File:      Matternode/Js/NumberText.lean
  Subject:   The text of a whole number is read as that number.

  * `encodeIeee_nat`, `decodeIeee_nat` -- a whole number below `2 ^ 53` has a double of its own;
  * `digits?_toDigits` -- the digits of a number are read as the number;
  * `Number.ofString_text` -- **what Number.text writes, Number.ofString reads**.
-/
import Mathlib.Data.List.TakeDrop
import Matternode.Js.Number

namespace Matternode.Js

open Base

/-! ## 1. Whole numbers among the doubles -/

theorem divRoundEven_one (n : Nat) : divRoundEven n 1 = n := by
  unfold divRoundEven
  rw [Nat.mod_one, Nat.div_one]
  rfl

section Whole

variable {n : Nat}

/-- Where the leading bit of a number below `2 ^ 53` is. -/
theorem log2_le (h0 : 0 < n) (h : n < 2 ^ 53) : Nat.log2 n ≤ 52 :=
  Nat.le_of_lt_succ ((Nat.log2_lt (Nat.ne_of_gt h0)).mpr h)

/-- The number with its leading bit moved to place 52. -/
theorem mantissa_bounds (h0 : 0 < n) (h : n < 2 ^ 53) :
    2 ^ 52 ≤ n * 2 ^ (52 - Nat.log2 n) ∧ n * 2 ^ (52 - Nat.log2 n) < 2 ^ 53 := by
  have hk := log2_le h0 h
  have hlow := Nat.log2_self_le (Nat.ne_of_gt h0)
  have hhigh := @Nat.lt_log2_self n
  constructor
  · calc 2 ^ 52 = 2 ^ Nat.log2 n * 2 ^ (52 - Nat.log2 n) := by rw [← Nat.pow_add]; congr 1; omega
      _ ≤ n * 2 ^ (52 - Nat.log2 n) := Nat.mul_le_mul_right _ hlow
  · calc n * 2 ^ (52 - Nat.log2 n) < 2 ^ (Nat.log2 n + 1) * 2 ^ (52 - Nat.log2 n) :=
        Nat.mul_lt_mul_of_pos_right hhigh (Nat.two_pow_pos _)
      _ = 2 ^ 53 := by rw [← Nat.pow_add]; congr 1; omega

theorem encodeIeee_nat (negative : Bool) (h0 : 0 < n) (h : n < 2 ^ 53) :
    encodeIeee 11 52 negative n 1 = (if negative then 2 ^ 63 else 0) +
      ((Nat.log2 n + 1022) * 2 ^ 52 + n * 2 ^ (52 - Nat.log2 n)) := by
  have hk := log2_le h0 h
  obtain ⟨hlow, hhigh⟩ := mantissa_bounds h0 h
  have hself := Nat.log2_self_le (Nat.ne_of_gt h0)
  have hguess : (Nat.log2 n : Int) - Nat.log2 1 = Nat.log2 n := Int.sub_zero _
  have hbelow : ¬ n < 1 * 2 ^ Nat.log2 n := by omega
  have hmax : max (Nat.log2 n : Int) (1 - (2 ^ (11 - 1) - 1)) = Nat.log2 n :=
    max_eq_left (by omega)
  have hround : (if (Nat.log2 n : Int) - (52 : Nat) < 0 then
      divRoundEven (n * 2 ^ (-((Nat.log2 n : Int) - (52 : Nat))).toNat) 1
      else divRoundEven n (1 * 2 ^ ((Nat.log2 n : Int) - (52 : Nat)).toNat)) =
      n * 2 ^ (52 - Nat.log2 n) := by
    split
    · rw [divRoundEven_one, show (-((Nat.log2 n : Int) - (52 : Nat))).toNat = 52 - Nat.log2 n by omega]
    · rw [show ((Nat.log2 n : Int) - (52 : Nat)).toNat = 0 by omega,
        show 52 - Nat.log2 n = 0 by omega, pow_zero, mul_one, mul_one, divRoundEven_one]
  unfold encodeIeee
  simp only [if_neg (Nat.ne_of_gt h0), hguess, Int.toNat_natCast, hbelow, decide_false, hmax, hround,
    show ¬ (Nat.log2 n : Int) < 0 by omega, if_false, Bool.false_eq_true]
  have hbiased : ((Nat.log2 n : Int) - (1 - (2 ^ (11 - 1) - 1))).toNat = Nat.log2 n + 1022 := by omega
  rw [hbiased, min_eq_left (by omega)]

/-- The fields of a double that is neither special nor subnormal. -/
theorem decodeIeee_normal {bits frac biased : Nat} {negative : Bool} (hfrac : bits % 2 ^ 52 = frac)
    (hbiased : bits / 2 ^ 52 % 2 ^ 11 = biased)
    (hsign : decide (bits / 2 ^ (52 + 11) % 2 = 1) = negative) (hspecial : biased ≠ 2 ^ 11 - 1)
    (hnormal : biased ≠ 0) :
    decodeIeee 11 52 bits =
      .finite negative (frac + 2 ^ 52) (biased - (2 ^ (11 - 1) - 1) - (52 : Nat)) := by
  subst hfrac hbiased hsign
  unfold decodeIeee
  exact (if_neg hspecial).trans (if_neg hnormal)

theorem decodeIeee_nat (negative : Bool) (h0 : 0 < n) (h : n < 2 ^ 53) :
    decodeIeee 11 52 (encodeIeee 11 52 negative n 1) =
      .finite negative (n * 2 ^ (52 - Nat.log2 n)) (Nat.log2 n - 52) := by
  have hk := log2_le h0 h
  obtain ⟨hlow, hhigh⟩ := mantissa_bounds h0 h
  rw [encodeIeee_nat negative h0 h]
  generalize n * 2 ^ (52 - Nat.log2 n) = m at *
  have hsign : (if negative then 2 ^ 63 else 0 : Nat) = (if negative then 1 else 0) * 2 ^ 63 := by
    cases negative <;> rfl
  have hbit : (if negative then 1 else 0 : Nat) < 2 := by cases negative <;> decide
  have hdecide : decide ((if negative then 1 else 0 : Nat) = 1) = negative := by
    cases negative <;> rfl
  rw [hsign]
  generalize (if negative then 1 else 0 : Nat) = s at *
  have hfrac : (s * 2 ^ 63 + ((Nat.log2 n + 1022) * 2 ^ 52 + m)) % 2 ^ 52 = m - 2 ^ 52 := by omega
  have hexp : (s * 2 ^ 63 + ((Nat.log2 n + 1022) * 2 ^ 52 + m)) / 2 ^ 52 % 2 ^ 11 =
      Nat.log2 n + 1023 := by omega
  have htop : (s * 2 ^ 63 + ((Nat.log2 n + 1022) * 2 ^ 52 + m)) / 2 ^ (52 + 11) % 2 = s := by omega
  have hread := decodeIeee_normal hfrac hexp (by rw [htop, hdecide]) (by omega) (by omega)
  have hexponent : ((Nat.log2 n + 1023 : Nat) : Int) - (2 ^ (11 - 1) - 1) - (52 : Nat) =
      Nat.log2 n - 52 := by omega
  rw [Nat.sub_add_cancel hlow, hexponent] at hread
  exact hread

end Whole

/-- A whole number below `2 ^ 53` is what it is rounded to. -/
theorem Number.ofRational_nat {n : Nat} (negative : Bool) (h0 : 0 < n) (h : n < 2 ^ 53) :
    Number.ofRational negative n 1 = .int (if negative then -(n : Int) else n) := by
  have hk := log2_le h0 h
  obtain ⟨hlow, -⟩ := mantissa_bounds h0 h
  have hsigned : (if negative then -1 else 1) * (n : Int) = if negative then -(n : Int) else n := by
    cases negative <;> simp
  unfold Number.ofRational Number.ofBits
  rw [decodeIeee_nat negative h0 h]
  dsimp only
  rw [if_neg (by omega)]
  by_cases h52 : Nat.log2 n = 52
  · rw [if_pos (by omega), h52, ← hsigned, Nat.sub_self, pow_zero, mul_one]
    congr 2
    exact congrArg Int.ofNat (Nat.mul_one n)
  · have hpow : (-((Nat.log2 n : Int) - 52)).toNat = 52 - Nat.log2 n := by omega
    rw [if_neg (by omega), hpow, if_pos (Nat.mul_mod_left _ _),
      Nat.mul_div_cancel _ (Nat.two_pow_pos _), hsigned]

/-! ## 2. Digits -/

theorem digits?_append {base : Nat} {cs : List Char} {n : Nat} (hcs : digits? base cs = some n)
    {c : Char} {d : Nat} (hc : hexValue? c = some d) (hd : d < base) :
    digits? base (cs ++ [c]) = some (n * base + d) := by
  have hfold : ∀ ds : List Char, ds ≠ [] → digits? base ds = ds.foldl (fun acc c => do
      let d ← hexValue? c
      if d < base then some ((← acc) * base + d) else none) (some 0) := by
    intro ds hds
    cases ds with
    | nil => exact absurd rfl hds
    | cons e ds => rfl
  have hne : cs ≠ [] := by
    intro hnil
    rw [hnil] at hcs
    cases hcs
  rw [hfold _ (by simp), List.foldl_append, ← hfold cs hne, hcs]
  simp [hc, hd]

theorem digits?_singleton {d : Nat} (hd : d < 10) : digits? 10 [Nat.digitChar d] = some d := by
  have hall : ∀ d < 10, digits? 10 [Nat.digitChar d] = some d := by decide
  exact hall d hd

/-- **The digits of a number are read as the number.** -/
theorem digits?_toDigits (n : Nat) : digits? 10 (Nat.toDigits 10 n) = some n := by
  induction n using Nat.strong_induction_on with
  | _ n ih =>
    rw [Nat.toDigits_eq_if (by decide)]
    split
    · rename_i hlt
      exact digits?_singleton hlt
    · rename_i hge
      have hvalue : ∀ d < 10, hexValue? (Nat.digitChar d) = some d := by decide
      have hmod := Nat.mod_lt n (show 0 < 10 by decide)
      rw [digits?_append (ih (n / 10) (by omega)) (hvalue _ hmod) hmod, Nat.div_add_mod' n 10]

/-! ## 3. The text of a whole number -/

theorem Number.text_int {n : Int} (h0 : n ≠ 0) (h : n.natAbs < 2 ^ 53) :
    (Number.int n).text = String.ofList
      (if n < 0 then '-' :: Nat.toDigits 10 n.natAbs else Nat.toDigits 10 n.natAbs) := by
  unfold Number.text Number.value
  dsimp only
  have hwhole : n.natAbs % 1 = 0 ∧ n.natAbs < 2 ^ 53 := ⟨Nat.mod_one _, h⟩
  rw [Int.toNat_zero, pow_zero, mul_one, neg_zero, Int.toNat_zero, pow_zero,
    if_neg (Int.natAbs_ne_zero.mpr h0)]
  simp only [Nat.div_one, if_pos hwhole, decide_eq_true_eq]

section Digits

variable {cs : List Char}

theorem isWhitespace_of_isDigit {c : Char} (h : c.isDigit = true) : isWhitespace c = false := by
  have hrange : 48 ≤ c.toNat ∧ c.toNat ≤ 57 := by
    simp only [Char.isDigit, Bool.and_eq_true, decide_eq_true_eq] at h
    exact h
  unfold isWhitespace
  refine decide_eq_false ?_
  simp only [List.mem_cons, List.not_mem_nil, or_false]
  omega

/-- Nothing is removed where there is no white space. -/
theorem trim_of_forall (h : ∀ c ∈ cs, isWhitespace c = false) : trim cs = cs := by
  have hdrop : ∀ ds : List Char, (∀ c ∈ ds, isWhitespace c = false) →
      ds.dropWhile isWhitespace = ds := by
    intro ds hds
    cases ds with
    | nil => rfl
    | cons d ds => rw [List.dropWhile_cons, hds d List.mem_cons_self, if_neg Bool.false_ne_true]
  unfold trim
  rw [hdrop cs h, hdrop _ fun c hc => h c (List.mem_reverse.mp hc), List.reverse_reverse]

theorem nonDecimal?_of_isDigit (h : ∀ c ∈ cs, c.isDigit = true) : nonDecimal? cs = none := by
  unfold nonDecimal?
  split
  all_goals first
    | rfl
    | (rename_i ds
       have hdigit := h _ (List.mem_cons_of_mem _ List.mem_cons_self)
       cases hdigit)

theorem span_of_forall {p : Char → Bool} (h : ∀ c ∈ cs, p c = true) : cs.span p = (cs, []) := by
  rw [List.span_eq_takeWhile_dropWhile]
  have htake := @List.takeWhile_append_of_pos _ p _ [] h
  have hdrop := @List.dropWhile_append_of_pos _ p _ [] h
  rw [List.takeWhile_nil, List.append_nil] at htake
  rw [List.dropWhile_nil, List.append_nil] at hdrop
  rw [htake, hdrop]

/-- Digits alone are a fraction over one. -/
theorem decimal?_of_isDigit {n : Nat} (h : ∀ c ∈ cs, c.isDigit = true)
    (hn : digits? 10 cs = some n) : decimal? cs = some (n, 1) := by
  have hexponent : ∀ c ∈ cs, decide (c ≠ 'e' ∧ c ≠ 'E') = true := by
    intro c hc
    refine decide_eq_true ⟨?_, ?_⟩
    · rintro rfl
      cases h _ hc
    · rintro rfl
      cases h _ hc
  have hpoint : ∀ c ∈ cs, decide (c ≠ '.') = true := by
    intro c hc
    refine decide_eq_true ?_
    rintro rfl
    cases h _ hc
  unfold decimal?
  rw [span_of_forall hexponent]
  dsimp only
  rw [span_of_forall hpoint]
  simp [hn, splitSign]

end Digits

theorem isDigit_toDigits {n : Nat} : ∀ c ∈ Nat.toDigits 10 n, c.isDigit = true := fun _ hc =>
  Nat.isDigit_of_mem_toDigits (by decide) (by decide) hc

theorem ofString_signed {n : Nat} (negative : Bool) (h0 : 0 < n) (h : n < 2 ^ 53) :
    Number.ofString (if negative then '-' :: Nat.toDigits 10 n else Nat.toDigits 10 n) =
      .int (if negative then -(n : Int) else n) := by
  have hread := decimal?_of_isDigit isDigit_toDigits (digits?_toDigits n)
  have hblank : ∀ c ∈ Nat.toDigits 10 n, isWhitespace c = false := fun c hc =>
    isWhitespace_of_isDigit (isDigit_toDigits c hc)
  have hinfinity : Nat.toDigits 10 n ≠ "Infinity".toList := by
    intro heq
    have hdigit := isDigit_toDigits (n := n) 'I' (heq ▸ List.mem_cons_self)
    cases hdigit
  cases negative with
  | true =>
    have htrim : trim ('-' :: Nat.toDigits 10 n) = '-' :: Nat.toDigits 10 n := by
      refine trim_of_forall fun c hc => ?_
      rcases List.mem_cons.mp hc with rfl | hc
      · rfl
      · exact hblank c hc
    rw [if_pos rfl]
    unfold Number.ofString
    rw [htrim, if_neg (List.cons_ne_nil _ _)]
    simp only [nonDecimal?, splitSign, hinfinity, if_false, hread, Option.map_some,
      Option.getD_some]
    exact Number.ofRational_nat true h0 h
  | false =>
    have hsplit : splitSign (Nat.toDigits 10 n) = (false, Nat.toDigits 10 n) := by
      unfold splitSign
      split
      · rename_i heq
        cases isDigit_toDigits (n := n) '-' (heq ▸ List.mem_cons_self)
      · rename_i heq
        cases isDigit_toDigits (n := n) '+' (heq ▸ List.mem_cons_self)
      · rfl
    rw [if_neg Bool.false_ne_true]
    unfold Number.ofString
    rw [trim_of_forall hblank, if_neg (toDigits_ne_nil n),
      nonDecimal?_of_isDigit isDigit_toDigits, hsplit]
    simp only [hinfinity, if_false, hread, Option.map_some, Option.getD_some]
    exact Number.ofRational_nat false h0 h

/-- **The text of a whole number is read as that number.** -/
theorem Number.ofString_text {n : Int} (h : n.natAbs < 2 ^ 53) :
    Number.ofString (Number.int n).text.toList = .int n := by
  by_cases h0 : n = 0
  · rw [h0]
    exact Number.ofString_zero
  · have hpos : 0 < n.natAbs := Int.natAbs_pos.mpr h0
    have hread := ofString_signed (decide (n < 0)) hpos h
    simp only [decide_eq_true_eq] at hread
    rw [Number.text_int h0 h, String.toList_ofList, hread]
    congr 1
    split <;> omega

end Matternode.Js
