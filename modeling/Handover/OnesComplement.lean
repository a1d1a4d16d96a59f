import Mathlib.Tactic
import Mathlib.Data.Nat.ModEq

/-!
One's-complement sums. Numbers below a base are added, and what exceeds the base
is added to the rest until nothing exceeds it. The result is the sum modulo the
base less one, with two representations of zero, of which only the empty sum has
the smaller. A program that adds the carry once gets it right as long as that
addition does not carry again.
-/
namespace Handover.OnesComplement

theorem carry_shrinks {base sum : Nat} (carries : 2 ≤ base ∧ base ≤ sum) :
    0 < sum % base + sum / base ∧ sum % base + sum / base < sum := by
  have split := Nat.mod_add_div sum base
  have carry : 1 ≤ sum / base := (Nat.one_le_div_iff (by omega)).mpr carries.2
  have grows : 2 * (sum / base) ≤ base * (sum / base) := Nat.mul_le_mul_right _ carries.1
  omega

/-- The carries folded back until none remain. -/
def fold (base sum : Nat) : Nat :=
  if 2 ≤ base ∧ base ≤ sum then fold base (sum % base + sum / base) else sum
termination_by sum
decreasing_by exact (carry_shrinks ‹_›).2

/-- The carry added once, and what then exceeds the base dropped. -/
def addCarry (base sum : Nat) : Nat := (sum % base + sum / base) % base

/-- Adding the carry carries no more. -/
def OneCarry (base sum : Nat) : Prop := sum % base + sum / base < base

instance (base sum : Nat) : Decidable (OneCarry base sum) := by
  unfold OneCarry
  infer_instance

variable {base : Nat}

theorem fold_of_lt {sum : Nat} (small : sum < base) : fold base sum = sum := by
  unfold fold
  rw [if_neg (by omega)]

theorem fold_carry (big : 2 ≤ base) (sum : Nat) : fold base (sum % base + sum / base) = fold base sum := by
  by_cases exceeds : base ≤ sum
  · exact ((fold.eq_1 base sum).trans (if_pos ⟨big,exceeds⟩)).symm
  · rw [Nat.mod_eq_of_lt (by omega),Nat.div_eq_of_lt (by omega),Nat.add_zero]

theorem fold_lt (big : 2 ≤ base) (sum : Nat) : fold base sum < base := by
  fun_induction fold base sum with
  | case1 sum carries ih => exact ih
  | case2 sum small => omega

/-- Only the empty sum folds to zero. -/
theorem fold_pos (base : Nat) {sum : Nat} (pos : 0 < sum) : 0 < fold base sum := by
  fun_induction fold base sum with
  | case1 sum carries ih => exact ih (carry_shrinks carries).1
  | case2 sum small => exact pos

/-- Folding keeps the sum modulo the base less one. -/
theorem fold_modEq (base sum : Nat) : fold base sum ≡ sum [MOD base - 1] := by
  fun_induction fold base sum with
  | case1 sum carries ih =>
    -- the carry counts for as much as a multiple of the base
    have one : 1 ≡ base [MOD base - 1] := (Nat.modEq_iff_dvd' (by omega)).mpr dvd_rfl
    have sums := (one.mul_right (sum / base)).add_left (sum % base)
    rw [Nat.one_mul,Nat.mod_add_div] at sums
    exact ih.trans sums
  | case2 sum small => exact Nat.ModEq.refl sum

/-- A sum that is there folds to all ones exactly if it is a multiple of them. -/
theorem fold_eq_ones_iff (big : 2 ≤ base) {sum : Nat} (pos : 0 < sum) : fold base sum = base - 1 ↔ base - 1 ∣ sum := by
  have same := fold_modEq base sum
  have below := fold_lt big sum
  have above := fold_pos base pos
  constructor
  · intro ones
    rw [ones] at same
    exact (Nat.modEq_zero_iff_dvd).mp (same.symm.trans (Nat.modEq_zero_iff_dvd.mpr dvd_rfl))
  · intro multiple
    have zero : base - 1 ∣ fold base sum :=
      (Nat.modEq_zero_iff_dvd).mp (same.trans (Nat.modEq_zero_iff_dvd.mpr multiple))
    have := Nat.le_of_dvd above zero
    omega

/-- A single carry folds the sum, unless it carries again: then one is missing. -/
theorem fold_eq_addCarry (big : 2 ≤ base) {sum : Nat} (small : sum < base * base) :
    fold base sum = addCarry base sum + if OneCarry base sum then 0 else 1 := by
  have carry : sum / base < base := Nat.div_lt_of_lt_mul small
  have rest : sum % base < base := Nat.mod_lt sum (by omega)
  rw [← fold_carry big,addCarry]
  split
  · rename_i once
    rw [fold_of_lt once,Nat.mod_eq_of_lt once,Nat.add_zero]
  · rename_i twice
    obtain ⟨left,isLeft⟩ := Nat.exists_eq_add_of_le (not_lt.mp twice)
    have few : left < base := by omega
    rw [isLeft,Nat.add_mod_left,Nat.mod_eq_of_lt few,← fold_carry big,Nat.add_mod_left,Nat.mod_eq_of_lt few,
      Nat.add_div_left _ (by omega),Nat.div_eq_of_lt few,fold_of_lt (by omega)]

/-- The complement of what one carry gives is that of the folded sum under the same
    condition. -/
theorem complement_addCarry_iff (big : 2 ≤ base) {sum : Nat} (small : sum < base * base) :
    base - 1 - addCarry base sum = base - 1 - fold base sum ↔ OneCarry base sum := by
  have below := fold_lt big sum
  have folded := fold_eq_addCarry big small
  by_cases once : OneCarry base sum
  · rw [if_pos once] at folded
    exact iff_of_true (by omega) once
  · rw [if_neg once] at folded
    exact iff_of_false (by omega) once

/-- A receiver that adds the complement to a sum of its own gets all ones exactly if its
    sum is the other one, or one less where a carry is missing there. -/
theorem fold_complement_iff (big : 2 ≤ base) {sum other : Nat} (small : sum < base * base) (pos : 0 < other) :
    fold base (other + (base - 1 - addCarry base sum)) = base - 1 ↔
      other + (if OneCarry base sum then 0 else 1) ≡ sum [MOD base - 1] := by
  have below : fold base sum < base := fold_lt big sum
  have folded := fold_eq_addCarry big small
  have carried : addCarry base sum ≤ base - 1 := by omega
  rw [fold_eq_ones_iff big (by omega),← Nat.modEq_zero_iff_dvd]
  generalize (if OneCarry base sum then 0 else 1) = missing at folded ⊢
  have same : sum ≡ addCarry base sum + missing [MOD base - 1] := folded ▸ (fold_modEq base sum).symm
  have all : addCarry base sum + (base - 1 - addCarry base sum) ≡ 0 [MOD base - 1] := by
    rw [Nat.add_sub_cancel' carried]
    exact Nat.modEq_zero_iff_dvd.mpr dvd_rfl
  constructor
  · intro ones
    exact ((Nat.ModEq.add_right_cancel' _ (ones.trans all.symm)).add_right missing).trans same.symm
  · intro agrees
    exact ((Nat.ModEq.add_right_cancel' missing (agrees.trans same)).add_right _).trans all

/-- Where it is the same sum the carry must not be missing. -/
theorem add_missing_iff (big : 3 ≤ base) (sum : Nat) :
    sum + (if OneCarry base sum then 0 else 1) ≡ sum [MOD base - 1] ↔ OneCarry base sum := by
  by_cases once : OneCarry base sum
  · rw [if_pos once]
    exact iff_of_true (Nat.ModEq.refl sum) once
  · rw [if_neg once]
    refine iff_of_false (fun same => ?_) once
    have one : 1 ≡ 0 [MOD base - 1] := Nat.ModEq.add_left_cancel' sum same
    have := Nat.dvd_one.mp (Nat.modEq_zero_iff_dvd.mp one)
    omega

/-- A receiver of the same sum gets all ones under the same condition. -/
theorem fold_add_complement_iff (big : 3 ≤ base) {sum : Nat} (small : sum < base * base) :
    fold base (sum + (base - 1 - addCarry base sum)) = base - 1 ↔ OneCarry base sum := by
  rcases Nat.eq_zero_or_pos sum with rfl | pos
  · have zero : addCarry base 0 = 0 := by simp [addCarry]
    rw [zero,Nat.zero_add,Nat.sub_zero,fold_of_lt (by omega)]
    exact iff_of_true rfl (by simp only [OneCarry,Nat.zero_mod,Nat.zero_div]; omega)
  · rw [fold_complement_iff (by omega) small pos,add_missing_iff big]

end Handover.OnesComplement
