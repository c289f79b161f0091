import EditorBridge.Proofs.Decimal.Whole
import Mathlib.Algebra.Order.Field.Power
import Mathlib.Algebra.Order.Floor.Semifield
import Mathlib.Data.Rat.Floor
import Mathlib.Tactic.GCongr
import Mathlib.Tactic.Linarith
import Mathlib.Tactic.NormNum
import Mathlib.Tactic.Positivity
import Mathlib.Tactic.Ring

/-!
# The number that a binary number stands for

A finite binary number stands for a rational one, `± mantissa · 2 ^ exponent`. Its floor is the floor
of that rational, and it counts as positive when the rational is. An integer of 64 bits becomes the
number of the format that lies nearest to it.

## Main statements

`Binary64.floor_eq`, `Binary64.isPositiveFinite_iff`: looking at a number is looking at its rational.

`Binary64.nearest_ofInt`: how integers are rounded.
-/

namespace EditorBridge.Decimal

@[simp]
theorem cast_twoTo (exponent : Nat) : (twoTo exponent : ℚ) = 2 ^ exponent := by
  simp [twoTo]

end EditorBridge.Decimal

namespace EditorBridge.Binary64

open Decimal

/-! ### Numbers as rationals -/

/-- The number without its sign. -/
def magnitude (mantissa : Nat) (exponent : Int) : ℚ := mantissa * 2 ^ exponent

/-- The number with its sign. -/
def signed (negative : Bool) (q : ℚ) : ℚ := if negative then -q else q

/-- The rational that a number stands for, if it is finite. -/
def value? : Binary64 → Option ℚ
  | .finite negative mantissa exponent => some (signed negative (magnitude mantissa exponent))
  | _ => none

@[simp]
theorem signed_false (q : ℚ) : signed false q = q := rfl

@[simp]
theorem signed_true (q : ℚ) : signed true q = -q := rfl

theorem magnitude_nonneg (mantissa : Nat) (exponent : Int) : 0 ≤ magnitude mantissa exponent := by
  unfold magnitude
  positivity

theorem magnitude_of_nonneg (mantissa : Nat) {exponent : Int} (whole : 0 ≤ exponent) :
    magnitude mantissa exponent = (mantissa * twoTo exponent.toNat : Nat) := by
  obtain ⟨shift, rfl⟩ := Int.eq_ofNat_of_zero_le whole
  simp [magnitude]

theorem magnitude_of_neg (mantissa : Nat) {exponent : Int} (broken : exponent < 0) :
    magnitude mantissa exponent = (mantissa : ℚ) / (twoTo (-exponent).toNat : Nat) := by
  obtain ⟨shift, rfl⟩ : ∃ shift : Nat, exponent = -shift := ⟨(-exponent).toNat, by omega⟩
  simp [magnitude, div_eq_mul_inv]

theorem floor_eq {number : Binary64} {q : ℚ} (value : number.value? = some q) :
    number.floor = ⌊q⌋₊ := by
  cases number with
  | nan => cases value
  | infinite negative => cases value
  | finite negative mantissa exponent =>
    cases negative with
    | false =>
      obtain rfl := Option.some.inj value
      rw [signed_false]
      -- The exponent multiplies or divides, and the floor is taken of the quotient.
      by_cases whole : 0 ≤ exponent
      · rw [magnitude_of_nonneg mantissa whole, Nat.floor_natCast]
        exact if_pos whole
      · rw [magnitude_of_neg mantissa (Int.not_le.mp whole), Nat.floor_div_eq_div]
        exact if_neg whole
    | true =>
      obtain rfl := Option.some.inj value
      have low : -magnitude mantissa exponent ≤ 0 := neg_nonpos.mpr (magnitude_nonneg ..)
      rw [signed_true, Nat.floor_of_nonpos low]
      rfl

theorem floor_of_value?_eq_none {number : Binary64} (none : number.value? = none) :
    number.floor = 0 := by
  cases number with
  | nan => rfl
  | infinite negative => rfl
  | finite negative mantissa exponent => cases none

theorem isPositiveFinite_iff (number : Binary64) :
    number.isPositiveFinite = true ↔ ∃ q, number.value? = some q ∧ 0 < q := by
  cases number with
  | nan => simp [isPositiveFinite, value?]
  | infinite negative => simp [isPositiveFinite, value?]
  | finite negative mantissa exponent =>
    cases negative with
    | false =>
      have unit : (0 : ℚ) < 2 ^ exponent := by positivity
      simp [isPositiveFinite, value?, magnitude, mul_pos_iff_of_pos_right unit, Nat.pos_iff_ne_zero]
    | true => simp [isPositiveFinite, value?, magnitude_nonneg]

/-! ### Integers -/

/-- The quotient is rounded down or up, and not to the farther side. -/
theorem divideToEven_cases (numerator denominator : Nat) :
    divideToEven numerator denominator = numerator / denominator ∧
        2 * (numerator % denominator) ≤ denominator ∨
      divideToEven numerator denominator = numerator / denominator + 1 ∧
        denominator ≤ 2 * (numerator % denominator) := by
  grind [divideToEven]

/-- No other multiple of the denominator is nearer. -/
theorem divideToEven_nearest {denominator : Nat} (positive : 0 < denominator)
    (numerator other : Nat) :
    |((divideToEven numerator denominator * denominator : Nat) : Int) - numerator| ≤
      |((other * denominator : Nat) : Int) - numerator| := by
  have whole := Nat.div_add_mod' numerator denominator
  have rest := Nat.mod_lt numerator positive
  have next : (numerator / denominator + 1) * denominator =
      numerator / denominator * denominator + denominator := Nat.succ_mul ..
  -- Another multiple lies at or below the quotient, or above it.
  have apart : other * denominator ≤ numerator / denominator * denominator ∨
      (numerator / denominator + 1) * denominator ≤ other * denominator := by
    rcases Nat.lt_or_ge (numerator / denominator) other with above | below
    · exact .inr (Nat.mul_le_mul_right denominator above)
    · exact .inl (Nat.mul_le_mul_right denominator below)
  simp only [Int.abs_eq_natAbs]
  rcases divideToEven_cases numerator denominator with ⟨rounded, near⟩ | ⟨rounded, near⟩
  · rw [rounded]
    omega
  · rw [rounded]
    omega

/-- A number of the format is below a full mantissa, or a multiple of the unit of that mantissa. -/
theorem magnitude_cases {mantissa : Nat} (fits : mantissa < twoTo 53) (exponent : Int)
    (shift : Nat) :
    magnitude mantissa exponent < (twoTo (52 + shift) : Nat) ∨
      ∃ other : Nat, magnitude mantissa exponent = (other * twoTo shift : Nat) := by
  by_cases fine : exponent < shift
  · left
    -- A finer unit is at most half as large, and the mantissa is below twice a full one.
    have unit : (2 : ℚ) ^ (exponent + 1) ≤ 2 ^ (shift : Int) :=
      zpow_le_zpow_right₀ (by norm_num) (by omega)
    calc magnitude mantissa exponent
        < twoTo 53 * 2 ^ exponent := by
          exact mul_lt_mul_of_pos_right (by exact_mod_cast fits) (by positivity)
      _ = twoTo 52 * 2 ^ (exponent + 1) := by
          rw [zpow_add_one₀ (by norm_num), cast_twoTo, cast_twoTo]
          ring
      _ ≤ twoTo 52 * 2 ^ (shift : Int) := by gcongr
      _ = (twoTo (52 + shift) : Nat) := by
          rw [twoTo_add, Nat.cast_mul, cast_twoTo shift, zpow_natCast]
  · right
    obtain ⟨more, rfl⟩ := Int.le.dest (Int.not_lt.mp fine)
    refine ⟨mantissa * twoTo more, ?_⟩
    have sum : ((shift : Int) + more).toNat = more + shift := by omega
    rw [magnitude_of_nonneg mantissa (by omega), sum, twoTo_add, Nat.mul_assoc]

/-- Rounding a natural to the length of a mantissa leaves the nearest number of the format. -/
theorem divideToEven_nearest_magnitude {n : Nat} (large : twoTo 53 ≤ n) {mantissa : Nat}
    (fits : mantissa < twoTo 53) (exponent : Int) :
    |((divideToEven n (twoTo (n.log2 - 52)) * twoTo (n.log2 - 52) : Nat) : ℚ) - n| ≤
      |magnitude mantissa exponent - n| := by
  have positive : n ≠ 0 := Nat.ne_of_gt (Nat.lt_of_lt_of_le (twoTo_pos 53) large)
  have long : ¬ n.log2 < 53 := fun short => Nat.not_lt_of_le large ((log2_lt_iff positive).mp short)
  obtain ⟨shift, shifted⟩ := Nat.exists_eq_add_of_le (show 52 ≤ n.log2 by omega)
  rw [shifted, Nat.add_sub_cancel_left]
  have nearest : ∀ other : Nat, |((divideToEven n (twoTo shift) * twoTo shift : Nat) : ℚ) - n| ≤
      |((other * twoTo shift : Nat) : ℚ) - n| := by
    intro other
    exact_mod_cast divideToEven_nearest (twoTo_pos shift) n other
  rcases magnitude_cases fits exponent shift with low | ⟨other, multiple⟩
  · -- The least number with a full mantissa lies between a smaller one and the natural.
    have full : (twoTo (52 + shift) : ℚ) ≤ n := by
      rw [← shifted]
      exact_mod_cast twoTo_log2_le positive
    have least := nearest (twoTo 52)
    rw [← twoTo_add, abs_of_nonpos (sub_nonpos.mpr full)] at least
    refine least.trans ?_
    rw [abs_of_nonpos (by linarith)]
    linarith
  · rw [multiple]
    exact nearest other

theorem abs_signed (negative : Bool) (q : ℚ) : |signed negative q| = |q| := by
  cases negative with
  | false => rfl
  | true => exact abs_neg q

theorem signed_sub (negative : Bool) (q r : ℚ) :
    signed negative q - signed negative r = signed negative (q - r) := by
  cases negative with
  | false => rfl
  | true => exact (neg_sub' q r).symm

theorem signed_natAbs (n : Int) : signed (n < 0) n.natAbs = n := by
  rcases lt_or_ge n 0 with negative | whole
  · obtain ⟨k, rfl⟩ := Int.eq_negSucc_of_lt_zero negative
    simp [signed]
  · obtain ⟨k, rfl⟩ := Int.eq_ofNat_of_zero_le whole
    simp [signed]

/-- A natural stays what it is, or its last bits are rounded away. -/
theorem value?_ofRatio_one {n : Nat} (bounded : n < twoTo 64) (negative : Bool) :
    ∃ k : Nat, (ofRatio negative n 1).value? = some (signed negative k) ∧
      (k = n ∨
        twoTo 53 ≤ n ∧ k = divideToEven n (twoTo (n.log2 - 52)) * twoTo (n.log2 - 52)) := by
  rcases Nat.lt_or_ge n (twoTo 53) with small | large
  · refine ⟨n, ?_, .inl rfl⟩
    by_cases zero : n = 0
    · simp [zero, ofRatio, Binary64.zero, value?, magnitude]
    · rw [ofRatio_one_of_lt zero small]
      simp [value?, magnitude]
  · obtain ⟨mantissa, exponent, -, -, -, rounded, made⟩ := ofRatio_one_of_le large bounded negative
    refine ⟨_, ?_, .inr ⟨large, rfl⟩⟩
    rw [made, ← rounded, value?, magnitude_of_nonneg mantissa (Int.natCast_nonneg exponent),
      Int.toNat_natCast]

theorem isCanonical_ofRatio_one {n : Nat} (bounded : n < twoTo 64) (negative : Bool) :
    (ofRatio negative n 1).IsCanonical := by
  rcases Nat.lt_or_ge n (twoTo 53) with small | large
  · by_cases zero : n = 0
    · subst zero
      exact ⟨by decide, by decide, by decide, .inr rfl⟩
    · obtain ⟨filled, fits⟩ := shifted_bounds zero small
      rw [ofRatio_one_of_lt zero small]
      exact ⟨fits, by rw [minExponent]; omega, by rw [maxExponent]; omega, .inl filled⟩
  · obtain ⟨mantissa, exponent, filled, fits, low, -, made⟩ :=
      ofRatio_one_of_le large bounded negative
    rw [made]
    exact ⟨fits, by rw [minExponent]; omega, by rw [maxExponent]; omega, .inl filled⟩

/-- An integer of 64 bits becomes a finite number of the format, and no other is nearer to it. -/
theorem nearest_ofInt {n : Int} (least : -(twoTo 63 : Int) ≤ n) (greatest : n < twoTo 63) :
    (ofInt n).IsCanonical ∧ ∃ q, (ofInt n).value? = some q ∧
      ∀ other : Binary64, other.IsCanonical → ∀ r, other.value? = some r → |q - n| ≤ |r - n| := by
  have longer : twoTo 64 = 2 * twoTo 63 := twoTo_succ 63
  have wide := twoTo_pos 63
  have bounded : n.natAbs < twoTo 64 := by omega
  obtain ⟨k, made, rounded⟩ := value?_ofRatio_one bounded (n < 0)
  refine ⟨isCanonical_ofRatio_one bounded _, _, made, ?_⟩
  intro other canonical r value
  -- The sign does not matter for the distance.
  have distance : |signed (n < 0) k - n| = |(k : ℚ) - n.natAbs| := by
    rw [← abs_signed (n < 0) (k - n.natAbs), ← signed_sub, signed_natAbs]
  rw [distance]
  rcases rounded with rfl | ⟨large, rfl⟩
  · rw [sub_self, abs_zero]
    exact abs_nonneg _
  · cases other with
    | nan => cases value
    | infinite negative => cases value
    | finite negative mantissa exponent =>
      obtain rfl := Option.some.inj value
      have absolute : |(n : ℚ)| = n.natAbs := by rw [Nat.cast_natAbs, Int.cast_abs]
      calc |((divideToEven n.natAbs (twoTo (n.natAbs.log2 - 52)) *
              twoTo (n.natAbs.log2 - 52) : Nat) : ℚ) - n.natAbs|
          ≤ |magnitude mantissa exponent - n.natAbs| :=
            divideToEven_nearest_magnitude large canonical.1 exponent
        _ = |(|signed negative (magnitude mantissa exponent)| - |(n : ℚ)|)| := by
            rw [abs_signed, abs_of_nonneg (magnitude_nonneg ..), absolute]
        _ ≤ |signed negative (magnitude mantissa exponent) - n| := abs_abs_sub_abs_le ..

end EditorBridge.Binary64
