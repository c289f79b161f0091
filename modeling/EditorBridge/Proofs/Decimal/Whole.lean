import EditorBridge.Decimal.Binary64
import EditorBridge.Decimal.Digits
import Mathlib.Data.List.Induction

/-!
# Whole numbers

The decimal digits of a natural stand for that natural. As a binary floating point number an integer
of 64 bits is finite and has the same sign, and a natural up to `2 ^ 53` is that very number.

## Main statements

`Decimal.value_ofNat`, `Decimal.ofNat_value`: digits that were written are read back, and digits without
a zero in front are written back.

`Binary64.isPositiveFinite_ofInt`, `Binary64.floor_ofInt`: what rounding keeps.
-/

namespace EditorBridge.Decimal

/-! ### Digits -/

theorem isDigit_digit (n : Nat) : isDigit (digit n) = true := by
  have all : ∀ last < 10, isDigit (Char.ofNat ('0'.toNat + last)) = true := by decide
  exact all (n % 10) (Nat.mod_lt n (by decide))

theorem digitValue_digit (n : Nat) : digitValue (digit n) = n % 10 := by
  have all : ∀ last < 10, digitValue (Char.ofNat ('0'.toNat + last)) = last := by decide
  exact all (n % 10) (Nat.mod_lt n (by decide))

theorem isDigit_of_mem_ofNat {n : Nat} {c : Char} (member : c ∈ ofNat n) : isDigit c = true := by
  fun_induction ofNat n with
  | case1 n small =>
    obtain rfl := List.mem_singleton.mp member
    exact isDigit_digit n
  | case2 n large ih =>
    rcases List.mem_append.mp member with member | member
    · exact ih member
    · obtain rfl := List.mem_singleton.mp member
      exact isDigit_digit n

theorem value_ofNat (n : Nat) : value (ofNat n) = n := by
  fun_induction ofNat n with
  | case1 n small =>
    have last := digitValue_digit n
    simp only [value, List.foldl_cons, List.foldl_nil]
    omega
  | case2 n large ih =>
    have last := digitValue_digit n
    simp only [value] at ih
    simp only [value, List.foldl_append, ih, List.foldl_cons, List.foldl_nil]
    omega

/-- No zero stands in front. -/
theorem ofNat_eq_cons {n : Nat} (positive : 0 < n) :
    ∃ first rest, ofNat n = first :: rest ∧ first ≠ '0' := by
  fun_induction ofNat n with
  | case1 n small =>
    refine ⟨digit n, [], rfl, ?_⟩
    intro zero
    have last := digitValue_digit n
    rw [zero] at last
    have none : digitValue '0' = 0 := rfl
    omega
  | case2 n large ih =>
    obtain ⟨first, rest, written, visible⟩ := ih (by omega)
    exact ⟨first, rest ++ [digit n], by rw [written, List.cons_append], visible⟩

theorem isDigit_iff (c : Char) : isDigit c = true ↔ '0'.toNat ≤ c.toNat ∧ c.toNat ≤ '9'.toNat := by
  simp only [isDigit, Bool.and_eq_true, decide_eq_true_eq]
  rfl

theorem digitValue_lt {c : Char} (isDigit : isDigit c = true) : digitValue c < 10 := by
  obtain ⟨low, high⟩ := (isDigit_iff c).mp isDigit
  have range : '9'.toNat = '0'.toNat + 9 := rfl
  unfold digitValue
  omega

theorem digit_digitValue {c : Char} (isDigit : isDigit c = true) : digit (digitValue c) = c := by
  obtain ⟨low, high⟩ := (isDigit_iff c).mp isDigit
  have small := digitValue_lt isDigit
  have code : '0'.toNat + digitValue c % 10 = c.toNat := by
    rw [Nat.mod_eq_of_lt small]
    exact Nat.add_sub_cancel' low
  rw [digit, code, Char.ofNat_toNat]

theorem ofNat_zero : ofNat 0 = ['0'] := by
  rw [ofNat]
  rfl

theorem digit_add (tens last : Nat) : digit (10 * tens + last) = digit last := by
  simp [digit]

theorem value_append_singleton (digits : List Char) (last : Char) :
    value (digits ++ [last]) = 10 * value digits + digitValue last := by
  simp [value]

/-- A number has one writing in which no zero stands in front of other digits. -/
theorem ofNat_value {digits : List Char} (visible : digits ≠ [])
    (each : ∀ c ∈ digits, isDigit c = true) (leading : digits.head? = some '0' → digits = ['0']) :
    ofNat (value digits) = digits := by
  induction digits using List.reverseRecOn with
  | nil => exact absurd rfl visible
  | append_singleton front last ih =>
    have isLast : isDigit last = true := each last (by simp)
    have small := digitValue_lt isLast
    rw [value_append_singleton]
    by_cases some : front = []
    · subst some
      rw [ofNat, if_pos (by simpa [value] using small), digit_add, digit_digitValue isLast]
      rfl
    · -- In front of the last digit no zero stands alone, so what stands there is above zero.
      have unled : front.head? ≠ Option.some '0' := by
        intro zero
        have alone := leading (by rw [List.head?_append, zero]; rfl)
        have long := congrArg List.length alone
        simp [some] at long
      have before := ih some (fun c member => each c (List.mem_append_left _ member))
        (fun zero => absurd zero unled)
      have positive : value front ≠ 0 := by
        intro zero
        rw [zero, ofNat_zero] at before
        exact unled (before ▸ rfl)
      have tens : (10 * value front + digitValue last) / 10 = value front := by omega
      rw [ofNat, if_neg (by omega), tens, before, digit_add, digit_digitValue isLast]

/-! ### Powers of two -/

theorem twoTo_add (first second : Nat) : twoTo (first + second) = twoTo first * twoTo second :=
  Nat.pow_add 2 first second

theorem twoTo_log2_le {n : Nat} (positive : n ≠ 0) : twoTo n.log2 ≤ n := Nat.log2_self_le positive

theorem lt_twoTo_log2 (n : Nat) : n < twoTo (n.log2 + 1) := Nat.lt_log2_self

theorem log2_lt_iff {n exponent : Nat} (positive : n ≠ 0) :
    n.log2 < exponent ↔ n < twoTo exponent := Nat.log2_lt positive

end EditorBridge.Decimal

namespace EditorBridge.Binary64

open Decimal

/-! ### Rounding -/

theorem floorLog2_one {n : Nat} (positive : n ≠ 0) : floorLog2 n 1 = n.log2 := by
  have one : Nat.log2 1 = 0 := rfl
  simp [floorLog2, one, twoTo_log2_le positive]

/-- Rounding to the even neighbour never goes below the quotient. -/
theorem div_le_divideToEven (numerator denominator : Nat) :
    numerator / denominator ≤ divideToEven numerator denominator := by
  grind [divideToEven]

theorem divideToEven_one (n : Nat) : divideToEven n 1 = n := by
  simp [divideToEven, Nat.mod_one]

theorem shifted_bounds {n : Nat} (positive : n ≠ 0) (small : n < twoTo 53) :
    twoTo 52 ≤ n * twoTo (52 - n.log2) ∧ n * twoTo (52 - n.log2) < twoTo 53 := by
  have short : n.log2 < 53 := (log2_lt_iff positive).mpr small
  constructor
  · have full : n.log2 + (52 - n.log2) = 52 := by omega
    have whole := Nat.mul_le_mul_right (twoTo (52 - n.log2)) (twoTo_log2_le positive)
    rwa [← twoTo_add, full] at whole
  · have filled : n.log2 + 1 + (52 - n.log2) = 53 := by omega
    rw [← filled, twoTo_add]
    exact Nat.mul_lt_mul_of_pos_right (lt_twoTo_log2 n) (twoTo_pos _)

/-- A natural that fits into a mantissa is shifted to the left until it fills one. -/
theorem ofRatio_one_of_lt {n : Nat} (positive : n ≠ 0) (small : n < twoTo 53) (negative : Bool) :
    ofRatio negative n 1 =
      .finite negative (n * twoTo (52 - n.log2)) (-((52 - n.log2 : Nat) : Int)) := by
  have short : n.log2 < 53 := (log2_lt_iff positive).mpr small
  have exponent : max (floorLog2 n 1 - 52) minExponent = -((52 - n.log2 : Nat) : Int) := by
    rw [floorLog2_one positive, minExponent]
    omega
  have fits : n * twoTo (52 - n.log2) ≠ twoTo 53 := Nat.ne_of_lt (shifted_bounds positive small).2
  have mantissa : (if 0 ≤ -((52 - n.log2 : Nat) : Int)
      then divideToEven n (1 * twoTo (-((52 - n.log2 : Nat) : Int)).toNat)
      else divideToEven (n * twoTo (- -((52 - n.log2 : Nat) : Int)).toNat) 1) =
        n * twoTo (52 - n.log2) := by
    split
    next full =>
      have full : 52 - n.log2 = 0 := by omega
      simp [full, twoTo, divideToEven_one]
    next => simp [divideToEven_one]
  have least : ¬ maxExponent < -((52 - n.log2 : Nat) : Int) := by
    rw [maxExponent]
    omega
  simp only [ofRatio, if_neg positive, exponent, mantissa, if_neg fits, if_neg least]

/-- Rounding goes at most one above the quotient. -/
theorem divideToEven_le (numerator denominator : Nat) :
    divideToEven numerator denominator ≤ numerator / denominator + 1 := by
  grind [divideToEven]

/-- A longer natural loses its last bits; what is left still fills a mantissa. -/
theorem ofRatio_one_of_le {n : Nat} (large : twoTo 53 ≤ n) (bounded : n < twoTo 64)
    (negative : Bool) :
    ∃ mantissa exponent : Nat, twoTo 52 ≤ mantissa ∧ mantissa < twoTo 53 ∧ exponent ≤ 12 ∧
      mantissa * twoTo exponent =
        divideToEven n (twoTo (n.log2 - 52)) * twoTo (n.log2 - 52) ∧
      ofRatio negative n 1 = .finite negative mantissa exponent := by
  have positive : n ≠ 0 := Nat.ne_of_gt (Nat.lt_of_lt_of_le (twoTo_pos 53) large)
  have long : ¬ n.log2 < 53 := fun short => Nat.not_lt_of_le large ((log2_lt_iff positive).mp short)
  have short : n.log2 < 64 := (log2_lt_iff positive).mpr bounded
  obtain ⟨shift, shifted⟩ := Nat.exists_eq_add_of_le (show 52 ≤ n.log2 by omega)
  have exponent : max (floorLog2 n 1 - 52) minExponent = shift := by
    rw [floorLog2_one positive, minExponent]
    omega
  rw [shifted, Nat.add_sub_cancel_left]
  -- The shifted number keeps 53 bits, and rounding does not take it below them.
  have filled : twoTo 52 ≤ divideToEven n (twoTo shift) := by
    refine Nat.le_trans ?_ (div_le_divideToEven n (twoTo shift))
    rw [Nat.le_div_iff_mul_le (twoTo_pos shift), ← twoTo_add, ← shifted]
    exact twoTo_log2_le positive
  have fits : divideToEven n (twoTo shift) ≤ twoTo 53 := by
    refine Nat.le_trans (divideToEven_le n (twoTo shift)) ?_
    rw [Nat.succ_le_iff, Nat.div_lt_iff_lt_mul (twoTo_pos shift), ← twoTo_add]
    have above := lt_twoTo_log2 n
    rwa [shifted, Nat.add_right_comm] at above
  simp only [ofRatio, if_neg positive, exponent, Nat.one_mul, Int.toNat_natCast,
    Int.natCast_nonneg, if_true]
  -- Rounding may carry into one more bit.
  split
  next carried =>
    have least : ¬ maxExponent < (shift : Int) + 1 := by
      rw [maxExponent]
      omega
    refine ⟨twoTo 52, shift + 1, Nat.le_refl _, by decide, by omega, ?_, if_neg least⟩
    rw [carried, ← twoTo_add, ← twoTo_add]
    exact congrArg twoTo (by omega)
  next narrow =>
    have least : ¬ maxExponent < (shift : Int) := by
      rw [maxExponent]
      omega
    have fits := Nat.lt_of_le_of_ne fits narrow
    exact ⟨_, shift, filled, fits, by omega, rfl, if_neg least⟩

/-- An integer of 64 bits stays finite and keeps its sign. -/
theorem isPositiveFinite_ofInt {n : Int} (least : -(twoTo 63 : Int) ≤ n) (greatest : n < twoTo 63) :
    (ofInt n).isPositiveFinite = true ↔ 0 < n := by
  rw [ofInt]
  by_cases zero : n.natAbs = 0
  · obtain rfl : n = 0 := by omega
    decide
  · obtain ⟨mantissa, exponent, filled, rounded⟩ : ∃ mantissa exponent, mantissa ≠ 0 ∧
        ofRatio (n < 0) n.natAbs 1 = .finite (n < 0) mantissa exponent := by
      rcases Nat.lt_or_ge n.natAbs (twoTo 53) with small | large
      · have shifted : n.natAbs * twoTo (52 - n.natAbs.log2) ≠ 0 :=
          Nat.mul_ne_zero zero (Nat.ne_of_gt (twoTo_pos _))
        exact ⟨_, _, shifted, ofRatio_one_of_lt zero small _⟩
      · have longer : twoTo 64 = 2 * twoTo 63 := twoTo_succ 63
        have wide := twoTo_pos 63
        obtain ⟨mantissa, exponent, filled, -, -, -, rounded⟩ :=
          ofRatio_one_of_le large (by omega) (n < 0)
        exact ⟨mantissa, exponent, Nat.ne_of_gt (Nat.lt_of_lt_of_le (twoTo_pos 52) filled), rounded⟩
    rw [rounded]
    by_cases negative : n < 0
    · simp [isPositiveFinite, negative]
      omega
    · simp [isPositiveFinite, negative, filled]
      omega

/-- A natural up to `2 ^ 53` becomes itself. -/
theorem floor_ofInt {n : Nat} (bounded : n ≤ twoTo 53) : (ofInt n).floor = n := by
  rcases Nat.lt_or_eq_of_le bounded with small | rfl
  · by_cases zero : n = 0
    · simp [zero, ofInt, ofRatio, Binary64.zero, floor]
    · have sign : decide ((n : Int) < 0) = false := by simp
      rw [ofInt, sign, Int.natAbs_natCast, ofRatio_one_of_lt zero small, floor]
      split
      next full =>
        have full : 52 - n.log2 = 0 := by omega
        simp [full, twoTo]
      next => simp [Nat.mul_div_cancel _ (twoTo_pos _)]
  · decide +kernel

/-- A longer natural stays far above the numbers of 32 bits. -/
theorem le_floor_ofInt {n : Nat} (large : twoTo 53 ≤ n) (bounded : n < twoTo 64) :
    twoTo 52 ≤ (ofInt n).floor := by
  have sign : decide ((n : Int) < 0) = false := by simp
  obtain ⟨mantissa, exponent, filled, -, -, -, rounded⟩ := ofRatio_one_of_le large bounded false
  rw [ofInt, sign, Int.natAbs_natCast, rounded, floor, if_pos (Int.natCast_nonneg exponent)]
  exact Nat.le_trans filled (Nat.le_mul_of_pos_right mantissa (twoTo_pos _))

end EditorBridge.Binary64
