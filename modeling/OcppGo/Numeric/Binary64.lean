import Mathlib.Algebra.Group.Nat.Defs
import Mathlib.Data.Nat.Log

namespace OcppGo
namespace Numeric

open List

/-!
# Integers as doubles

A double has 53 significant bits.  An integer that needs more is rounded to the
nearest double, ties to the even one.  In decimal a double is written with as few
significant digits as reading it back allows, so above `2 ^ 53` neither the double
nor its decimal form need be the integer one started from.
-/

/-- The distance of the doubles around a natural number. -/
def spacing (value : Nat) : Nat := 2 ^ (Nat.log2 value - 52)

/-- The double nearest to a natural number. -/
def nearest (value : Nat) : Nat :=
  let unit := spacing value
  if 2 * (value % unit) < unit ∨ (2 * (value % unit) = unit ∧ value / unit % 2 = 0) then
    value / unit * unit
  else
    (value / unit + 1) * unit

/-- The double nearest to an integer. -/
def nearestInt (value : Int) : Int :=
  if value < 0 then -(nearest value.natAbs : Int) else nearest value.natAbs

/-- The multiples of the scale next to a double that read back as the double. -/
def readings (double scale : Nat) : List Nat :=
  [double / scale * scale, (double / scale + 1) * scale].filter fun decimal =>
    nearest decimal = double

/-- The closer of two decimals, the only one, or another one if there is none. -/
def closest (double other : Nat) : List Nat -> Nat
  | [] => other
  | [decimal] => decimal
  | below :: above :: _ => if double - below ≤ above - double then below else above

/-- The decimal with the fewest significant digits that reads back as the double,
searched from the coarsest scale down. -/
def shortestFrom (double : Nat) : Nat -> Nat
  | 0 => double
  | exponent + 1 =>
    closest double (shortestFrom double exponent) (readings double (10 ^ (exponent + 1)))

/-- The shortest decimal of a double without fraction. -/
def shortest (double : Nat) : Nat := shortestFrom double (Nat.log 10 double + 1)

/-- The shortest decimal of a double without fraction, with its sign. -/
def shortestInt (double : Int) : Int :=
  if double < 0 then -(shortest double.natAbs : Int) else shortest double.natAbs

/-- Neither rounding to a double nor its decimal form changes the integer. -/
def Survives (value : Int) : Prop := shortestInt (nearestInt value) = value
  deriving Decidable

theorem spacing_pos (value : Nat) : 0 < spacing value := Nat.two_pow_pos _

variable {value : Nat}

theorem spacing_of_lt (small : value < 2 ^ 53) : spacing value = 1 := by
  unfold spacing
  by_cases zero : value = 0
  · subst zero
    rfl
  · have bits : Nat.log2 value < 53 := (Nat.log2_lt zero).mpr small
    rw [show Nat.log2 value - 52 = 0 by omega, Nat.pow_zero]

theorem nearest_of_le (small : value ≤ 2 ^ 53) : nearest value = value := by
  rcases Nat.lt_or_eq_of_le small with below | equal
  · simp [nearest, spacing_of_lt below, Nat.mod_one]
  · subst equal
    decide +kernel

theorem nearest_ge_floor (value : Nat) : value / spacing value * spacing value ≤ nearest value := by
  unfold nearest
  dsimp only
  split
  · exact le_rfl
  · exact Nat.mul_le_mul_right _ (Nat.le_succ _)

theorem nearest_le (value : Nat) : nearest value ≤ 2 * value := by
  have floor := Nat.div_mul_le_self value (spacing value)
  by_cases zero : value = 0
  · subst zero
    decide
  · have unit : spacing value ≤ value :=
      (Nat.pow_le_pow_right (by decide) (Nat.sub_le _ _)).trans (Nat.log2_self_le zero)
    unfold nearest
    dsimp only
    split
    · omega
    · rw [Nat.succ_mul]
      omega

/-- The next double after `2 ^ 53` is `2 ^ 53 + 2`. -/
theorem lt_nearest_of_lt (large : 2 ^ 53 + 2 ≤ value) : 2 ^ 53 < nearest value := by
  refine Nat.lt_of_lt_of_le ?_ (nearest_ge_floor value)
  have positive : value ≠ 0 := by omega
  have bits : 53 ≤ Nat.log2 value := (Nat.le_log2 positive).mpr (by omega)
  rcases Nat.lt_or_eq_of_le bits with more | equal
  · -- the spacing divides the leading power of two, which is beyond `2 ^ 53` already
    have divides : spacing value ∣ 2 ^ Nat.log2 value :=
      Nat.pow_dvd_pow 2 (Nat.sub_le _ _)
    have leading : 2 ^ Nat.log2 value ≤ value / spacing value * spacing value := by
      obtain ⟨factor, product⟩ := divides
      have below : factor ≤ value / spacing value := by
        rw [Nat.le_div_iff_mul_le (spacing_pos value), Nat.mul_comm, ← product]
        exact Nat.log2_self_le positive
      rw [product, Nat.mul_comm]
      exact Nat.mul_le_mul_right _ below
    have beyond : 2 ^ 54 ≤ 2 ^ Nat.log2 value := Nat.pow_le_pow_right (by decide) more
    omega
  · have two : spacing value = 2 ^ (53 - 52) :=
      congrArg (fun bits => 2 ^ (bits - 52)) equal.symm
    rw [two]
    omega

variable {double : Nat}

/-- A multiple of ten that rounds to a number up to `2 ^ 53` is that number. -/
theorem eq_of_nearest_eq {decimal : Nat} (small : double ≤ 2 ^ 53) (tens : 10 ∣ decimal)
    (reads : nearest decimal = double) : decimal = double := by
  by_cases below : decimal ≤ 2 ^ 53
  · rw [← reads, nearest_of_le below]
  · have beyond : 2 ^ 53 < nearest decimal := lt_nearest_of_lt (by omega)
    omega

/-- Up to `2 ^ 53` a double is the only multiple of ten that reads back as it. -/
theorem eq_of_mem_readings {exponent decimal : Nat} (small : double ≤ 2 ^ 53)
    (mem : decimal ∈ readings double (10 ^ (exponent + 1))) : decimal = double := by
  obtain ⟨neighbour, reads⟩ := mem_filter.mp mem
  have scale : 10 ∣ 10 ^ (exponent + 1) := ⟨10 ^ exponent, Nat.pow_succ'⟩
  have tens : 10 ∣ decimal := by
    simp only [mem_cons, not_mem_nil, or_false] at neighbour
    rcases neighbour with rfl | rfl
    · exact Nat.dvd_mul_left_of_dvd scale _
    · exact Nat.dvd_mul_left_of_dvd scale _
  exact eq_of_nearest_eq small tens (of_decide_eq_true reads)

theorem closest_of_forall {decimals : List Nat}
    (only : ∀ decimal, decimal ∈ decimals -> decimal = double) :
    closest double double decimals = double := by
  match decimals with
  | [] => rfl
  | [decimal] => exact only decimal mem_cons_self
  | below :: above :: rest =>
    have first := only below mem_cons_self
    have second := only above (mem_cons_of_mem _ mem_cons_self)
    rw [closest, first, second, ite_self]

theorem shortestFrom_of_le (small : double ≤ 2 ^ 53) (exponent : Nat) :
    shortestFrom double exponent = double := by
  induction exponent with
  | zero => rfl
  | succ exponent ih =>
    rw [shortestFrom, ih]
    exact closest_of_forall fun decimal => eq_of_mem_readings small

theorem natAbs_nearestInt (value : Int) : (nearestInt value).natAbs = nearest value.natAbs := by
  unfold nearestInt
  split
  · simp
  · simp

/-- Up to `2 ^ 53` a double is written as the integer it was made from. -/
theorem survives_of_le {value : Int} (small : value.natAbs ≤ 2 ^ 53) : Survives value := by
  have same : nearestInt value = value := by
    unfold nearestInt
    rw [nearest_of_le small]
    split
    · omega
    · omega
  unfold Survives
  rw [same]
  unfold shortestInt shortest
  rw [shortestFrom_of_le small]
  split
  · omega
  · omega

example : shortestInt (nearestInt 9223372036854775807) = 9223372036854776000 := by decide +kernel

end Numeric
end OcppGo
