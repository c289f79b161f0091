import EditorBridge.Tool.Status
import Mathlib.Data.List.DropRight

/-!
# The order of versions

Versions are compared as lists of numbers that go on with zeros for as long as it takes, so their order
is the lexicographic one of the lists once these are equally long, and zeros at the end never count.
Equality does count them: versions compare equal when one is the other with zeros behind it, and are
equal when their lengths agree as well.

## Main statements

`Version.order_lexicographic`: the order is lexicographic, total and transitive, and blind to zeros at
the end.

`Version.order_eq_iff_extend`: which versions compare equal, and which of these are equal.

`Version.order_eq_of_different`: two that compare equal and differ.
-/

namespace EditorBridge.Version

/-! ### Zeros at the end of a list -/

/-- Zeros behind a list are part of its padding. -/
theorem rightpad_append_replicate {numbers : List UInt32} {zeros length : Nat}
    (fits : numbers.length + zeros ≤ length) :
    (numbers ++ List.replicate zeros 0).rightpad length 0 = numbers.rightpad length 0 := by
  simp only [List.rightpad, List.length_append, List.length_replicate, List.append_assoc,
    List.replicate_append_replicate]
  congr 2
  omega

/-- A list is what is left of it without its last zeros, and these zeros. -/
theorem exists_eq_rdropWhile_append (numbers : List UInt32) :
    ∃ zeros, numbers = numbers.rdropWhile (· == 0) ++ List.replicate zeros 0 := by
  have dropped : ∀ number ∈ numbers.rtakeWhile (· == 0), number = 0 := by
    intro number member
    have zero := List.mem_rtakeWhile_imp member
    exact beq_iff_eq.mp zero
  refine ⟨(numbers.rtakeWhile (· == 0)).length, ?_⟩
  rw [← List.eq_replicate_of_mem dropped]
  exact List.rdropWhile_append_rtakeWhile.symm

theorem rdropWhile_append_replicate (numbers : List UInt32) (zeros : Nat) :
    (numbers ++ List.replicate zeros 0).rdropWhile (· == 0) = numbers.rdropWhile (· == 0) := by
  -- Read backwards, the zeros stand in front.
  have front : ∀ number ∈ List.replicate zeros (0 : UInt32), (number == 0) = true := by
    intro number member
    simp [List.eq_of_mem_replicate member]
  simp only [List.rdropWhile, List.reverse_append, List.reverse_replicate]
  rw [List.dropWhile_append_of_pos front]

/-- Padding to one length and dropping the last zeros tell the same lists apart. -/
theorem rightpad_eq_iff {left right : List UInt32} {length : Nat} (leftFits : left.length ≤ length)
    (rightFits : right.length ≤ length) :
    left.rightpad length 0 = right.rightpad length 0 ↔
      left.rdropWhile (· == 0) = right.rdropWhile (· == 0) := by
  constructor
  · intro same
    have dropped := congrArg (List.rdropWhile (· == 0)) same
    simpa only [List.rightpad, rdropWhile_append_replicate] using dropped
  · intro same
    -- Both lists are padded forms of what they have in common.
    obtain ⟨leftZeros, leftSplit⟩ := exists_eq_rdropWhile_append left
    obtain ⟨rightZeros, rightSplit⟩ := exists_eq_rdropWhile_append right
    rw [leftSplit, List.length_append, List.length_replicate] at leftFits
    rw [rightSplit, List.length_append, List.length_replicate] at rightFits
    rw [leftSplit, rightSplit, rightpad_append_replicate leftFits,
      rightpad_append_replicate rightFits, same]

/-! ### Comparing -/

/-- The numbers, with zeros behind them up to a length. -/
def padded (version : Version) (length : Nat) : List UInt32 := version.parts.rightpad length 0

/-- The numbers up to the last one that is not zero. -/
def significant (version : Version) : List UInt32 := version.parts.rdropWhile (· == 0)

/-- The version with zeros behind its numbers. -/
def extend (version : Version) (zeros : Nat) : Version :=
  { version with rest := version.rest ++ List.replicate zeros 0 }

theorem parts_injective {left right : Version} (same : left.parts = right.parts) : left = right := by
  cases left
  cases right
  cases same
  rfl

theorem parts_extend (version : Version) (zeros : Nat) :
    (version.extend zeros).parts = version.parts ++ List.replicate zeros 0 := rfl

/-- The list that ends first may be padded before the comparison instead of during it. -/
theorem comparePadded_eq_compare {left right : List UInt32} {length : Nat}
    (leftFits : left.length ≤ length) (rightFits : right.length ≤ length) :
    comparePadded left right = compare (left.rightpad length 0) (right.rightpad length 0) := by
  have next (number : UInt32) (numbers : List UInt32) (length : Nat) :
      (number :: numbers).rightpad (length + 1) 0 = number :: numbers.rightpad length 0 := by
    simp [List.rightpad]
  have padding (length : Nat) :
      ([] : List UInt32).rightpad (length + 1) 0 = 0 :: ([] : List UInt32).rightpad length 0 := by
    simp [List.rightpad, List.replicate_succ]
  fun_induction comparePadded left right generalizing length with
  | case1 => exact Std.ReflCmp.compare_self.symm
  | case2 left lefts ih =>
    obtain ⟨length, rfl⟩ := Nat.exists_eq_succ_of_ne_zero (Nat.ne_zero_of_lt leftFits)
    have later := ih (Nat.le_of_succ_le_succ leftFits) (Nat.zero_le length)
    rw [next, padding, List.compare_cons_cons, later]
  | case3 right rights ih =>
    obtain ⟨length, rfl⟩ := Nat.exists_eq_succ_of_ne_zero (Nat.ne_zero_of_lt rightFits)
    have later := ih (Nat.zero_le length) (Nat.le_of_succ_le_succ rightFits)
    rw [next, padding, List.compare_cons_cons, later]
  | case4 left lefts right rights ih =>
    obtain ⟨length, rfl⟩ := Nat.exists_eq_succ_of_ne_zero (Nat.ne_zero_of_lt leftFits)
    have later := ih (Nat.le_of_succ_le_succ leftFits) (Nat.le_of_succ_le_succ rightFits)
    rw [next, next, List.compare_cons_cons, later]

theorem order_eq_compare {left right : Version} {length : Nat}
    (leftFits : left.parts.length ≤ length) (rightFits : right.parts.length ≤ length) :
    left.order right = compare (left.padded length) (right.padded length) :=
  comparePadded_eq_compare leftFits rightFits

/-- At a length that none of them exceeds, the laws of lists are those of versions. -/
instance : Std.TransCmp order where
  eq_swap {left right} := by
    have leftFits := Nat.le_max_left left.parts.length right.parts.length
    have rightFits := Nat.le_max_right left.parts.length right.parts.length
    rw [order_eq_compare leftFits rightFits, order_eq_compare rightFits leftFits]
    exact Std.OrientedCmp.eq_swap
  isLE_trans {first second third} := by
    let length := max first.parts.length (max second.parts.length third.parts.length)
    have firstFits : first.parts.length ≤ length := Nat.le_max_left ..
    have secondFits : second.parts.length ≤ length :=
      (Nat.le_max_left ..).trans (Nat.le_max_right ..)
    have thirdFits : third.parts.length ≤ length :=
      (Nat.le_max_right ..).trans (Nat.le_max_right ..)
    rw [order_eq_compare firstFits secondFits, order_eq_compare secondFits thirdFits,
      order_eq_compare firstFits thirdFits]
    exact Std.TransCmp.isLE_trans

theorem order_eq_iff_significant (left right : Version) :
    left.order right = .eq ↔ left.significant = right.significant := by
  have leftFits := Nat.le_max_left left.parts.length right.parts.length
  have rightFits := Nat.le_max_right left.parts.length right.parts.length
  rw [order_eq_compare leftFits rightFits, Std.LawfulEqCmp.compare_eq_iff_eq]
  exact rightpad_eq_iff leftFits rightFits

theorem order_extend (left right : Version) (leftZeros rightZeros : Nat) :
    (left.extend leftZeros).order (right.extend rightZeros) = left.order right := by
  -- At a length with room for all zeros, these belong to the padding.
  obtain ⟨length, leftRoom, rightRoom⟩ : ∃ length, left.parts.length + leftZeros ≤ length ∧
      right.parts.length + rightZeros ≤ length := ⟨_, Nat.le_max_left .., Nat.le_max_right ..⟩
  have leftFits : (left.extend leftZeros).parts.length ≤ length := by
    simpa [parts_extend] using leftRoom
  have rightFits : (right.extend rightZeros).parts.length ≤ length := by
    simpa [parts_extend] using rightRoom
  rw [order_eq_compare leftFits rightFits,
    order_eq_compare (Nat.le_of_add_right_le leftRoom) (Nat.le_of_add_right_le rightRoom)]
  simp only [padded, parts_extend]
  rw [rightpad_append_replicate leftRoom, rightpad_append_replicate rightRoom]

theorem extend_zero (version : Version) : version.extend 0 = version := by
  apply parts_injective
  rw [parts_extend]
  exact List.append_nil _

/-- Of two versions that compare equal, the longer one goes on with zeros. -/
theorem eq_extend_of_order_eq {short long : Version} (shorter : short.parts.length ≤ long.parts.length)
    (same : short.order long = .eq) :
    long = short.extend (long.parts.length - short.parts.length) := by
  rw [order_eq_compare shorter le_rfl, Std.LawfulEqCmp.compare_eq_iff_eq] at same
  -- At its own length the longer one is not padded at all.
  have whole : long.padded long.parts.length = long.parts := by
    simp [padded, List.rightpad]
  have padding : short.padded long.parts.length = long.parts := same.trans whole
  apply parts_injective
  exact padding.symm

/-! ### Main theorems -/

/-- The order of versions is that of their lists of numbers, read lexicographically once zeros have
made them equally long. Hence it is reflexive, total and transitive, is reversed when its sides are
exchanged, finds no difference exactly between versions that agree up to their last zeros, and is not
changed by zeros behind either side. -/
theorem order_lexicographic (a b c : Version) :
    (∀ length, a.parts.length ≤ length → b.parts.length ≤ length →
      a.order b = compare (a.padded length) (b.padded length)) ∧
    a.order a = .eq ∧
    ((a.order b).isLE ∨ (b.order a).isLE) ∧
    ((a.order b).isLE → (b.order c).isLE → (a.order c).isLE) ∧
    b.order a = (a.order b).swap ∧
    (a.order b = .eq ↔ a.significant = b.significant) ∧
    (∀ zeros others, (a.extend zeros).order (b.extend others) = a.order b) := by
  have reversed : b.order a = (a.order b).swap := Std.OrientedCmp.eq_swap
  refine ⟨fun length aFits bFits => order_eq_compare aFits bFits, Std.ReflCmp.compare_self, ?_,
    Std.TransCmp.isLE_trans, reversed, order_eq_iff_significant a b, order_extend a b⟩
  rw [reversed]
  cases a.order b <;> decide

/-- A shorter version between two longer ones: `1.9.9`, `2` and `2.0.1`. -/
theorem order_lexicographic_between :
    let old : Version := ⟨1, [9, 9]⟩
    let plain : Version := ⟨2, []⟩
    let patched : Version := ⟨2, [0, 1]⟩
    old.parts.length ≤ 3 ∧ plain.parts.length ≤ 3 ∧
      old.order plain = compare [1, 9, 9] [(2 : UInt32), 0, 0] ∧
      (old.order plain).isLE ∧ (plain.order patched).isLE ∧ (old.order patched).isLE := by
  intro old plain patched
  obtain ⟨padding, -, -, transitive, -⟩ := order_lexicographic old plain patched
  have first : old.order plain = compare [1, 9, 9] [(2 : UInt32), 0, 0] :=
    padding 3 (by decide) (by decide)
  have second : plain.order patched = compare [2, 0, 0] [(2 : UInt32), 0, 1] :=
    (order_lexicographic plain patched old).1 3 (by decide) (by decide)
  have below : (old.order plain).isLE := by
    rw [first]
    decide
  have above : (plain.order patched).isLE := by
    rw [second]
    decide
  exact ⟨by decide, by decide, first, below, above, transitive below above⟩

/-- Versions compare equal exactly when one is the other with zeros behind it, and are equal exactly
when they are equally long besides. -/
theorem order_eq_iff_extend (a b : Version) :
    (a.order b = .eq ↔ ∃ zeros, a = b.extend zeros ∨ b = a.extend zeros) ∧
    (a = b ↔ a.order b = .eq ∧ a.parts.length = b.parts.length) := by
  refine ⟨⟨fun same => ?_, ?_⟩, ?_, ?_⟩
  · rcases Nat.le_total a.parts.length b.parts.length with shorter | shorter
    · exact ⟨_, .inr (eq_extend_of_order_eq shorter same)⟩
    · exact ⟨_, .inl (eq_extend_of_order_eq shorter (Std.OrientedCmp.eq_comm.mp same))⟩
  · rintro ⟨zeros, rfl | rfl⟩
    · exact (order_eq_iff_significant ..).mpr (rdropWhile_append_replicate b.parts zeros)
    · exact (order_eq_iff_significant ..).mpr (rdropWhile_append_replicate a.parts zeros).symm
  · rintro rfl
    exact ⟨Std.ReflCmp.compare_self, rfl⟩
  · rintro ⟨same, equallyLong⟩
    have longer := eq_extend_of_order_eq (Nat.le_of_eq equallyLong) same
    rw [equallyLong, Nat.sub_self, extend_zero] at longer
    exact longer.symm

/-- `2` and `2.0.0` compare equal and differ. -/
theorem order_eq_of_different :
    ¬ ∀ (first second : String) (a b : Version), parse? first = some a → parse? second = some b →
      (a = b ↔ a.order b = .eq) := by
  intro agree
  have reads : parse? "2" = some ⟨2, []⟩ ∧ parse? "2.0.0" = some ⟨2, [0, 0]⟩ := by decide +kernel
  have same : order ⟨2, []⟩ ⟨2, [0, 0]⟩ = .eq := by
    rw [@order_eq_compare _ _ 3 (by decide) (by decide)]
    decide
  have equal := (agree "2" "2.0.0" _ _ reads.1 reads.2).mpr same
  cases equal

end EditorBridge.Version
