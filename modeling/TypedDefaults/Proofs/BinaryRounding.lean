import Mathlib.Algebra.Order.Field.Power
import Mathlib.Data.Int.Log
import Mathlib.Data.Rat.Floor
import Mathlib.Tactic.FieldSimp
import TypedDefaults.Decimal.Binary64

/-!
# Rounding to binary formats

A number is rounded to a format by a mantissa of limited width: it is divided by
the power of two that leaves it no more bits than that, though never by one finer
than the finest of the format, and the quotient is rounded to the nearest natural
number, a half going to the even one. A number overflows if what it is rounded to
reaches the first power beyond the coarsest mantissas, and vanishes if its mantissa
is zero. Both are decided here by the number itself: it overflows from half a
coarsest unit below that power on, and vanishes up to half of the finest unit.
-/

namespace TypedDefaults

/-- The natural number nearest to a rational number that is not negative, a half going to the even
neighbour. -/
def nearestEven (value : ℚ) : Nat := Binary64.roundQuotient value.num.natAbs value.den

/-- A quotient is rounded to a number or above it if it is less than half below it; with exactly a
half, if the number is even. -/
theorem le_roundQuotient_iff (bound numerator denominator : Nat) (positive : 0 < denominator) :
    bound ≤ Binary64.roundQuotient numerator denominator ↔
      2 * (bound * denominator) < 2 * numerator + denominator ∨
        bound % 2 = 0 ∧ 2 * (bound * denominator) = 2 * numerator + denominator := by
  have division : numerator / denominator * denominator + numerator % denominator = numerator := by
    rw [Nat.mul_comm]
    exact Nat.div_add_mod numerator denominator
  have remainder := Nat.mod_lt numerator positive
  simp only [Binary64.roundQuotient]
  generalize numerator / denominator = quotient at division ⊢
  generalize numerator % denominator = rest at division remainder ⊢
  have next : (quotient + 1) * denominator = quotient * denominator + denominator :=
    Nat.succ_mul quotient denominator
  rcases Nat.lt_trichotomy bound (quotient + 1) with below | rfl | above
  · have small : bound * denominator ≤ quotient * denominator :=
      Nat.mul_le_mul_right denominator (Nat.le_of_lt_succ below)
    split_ifs <;> omega
  · split_ifs <;> omega
  · have large : (quotient + 1) * denominator + denominator ≤ bound * denominator := by
      rw [← Nat.succ_mul]
      exact Nat.mul_le_mul_right denominator above
    split_ifs <;> omega

/-- A number that is not negative is rounded to a bound or above it if it is less than half below
it; with exactly a half, if the bound is even. -/
theorem le_nearestEven_iff (bound : Nat) {value : ℚ} (nonnegative : 0 ≤ value) :
    bound ≤ nearestEven value ↔
      2 * (bound : ℚ) < 2 * value + 1 ∨ bound % 2 = 0 ∧ 2 * (bound : ℚ) = 2 * value + 1 := by
  have positive : (0 : ℚ) < value.den := Nat.cast_pos.mpr value.pos
  have scaled : value * value.den = (value.num.natAbs : ℚ) := by
    rw [Rat.mul_den_eq_num, Nat.cast_natAbs, abs_of_nonneg (Rat.num_nonneg.mpr nonnegative)]
  have doubled : (2 * value + 1) * value.den = ((2 * value.num.natAbs + value.den : Nat) : ℚ) := by
    push_cast
    rw [← scaled]
    ring
  have product : 2 * (bound : ℚ) * value.den = ((2 * (bound * value.den) : Nat) : ℚ) := by
    push_cast
    ring
  rw [nearestEven, le_roundQuotient_iff bound _ _ value.pos, ← mul_lt_mul_iff_left₀ positive,
    ← mul_left_inj' positive.ne', doubled, product, Nat.cast_lt, Nat.cast_inj]

/-- A number is not rounded below a natural number that it reaches. -/
theorem le_nearestEven {bound : Nat} {value : ℚ} (reached : (bound : ℚ) ≤ value) :
    bound ≤ nearestEven value := by
  rw [le_nearestEven_iff bound ((Nat.cast_nonneg bound).trans reached)]
  exact .inl (by linarith)

/-- A number is not rounded above a natural number that it does not pass. -/
theorem nearestEven_le {bound : Nat} {value : ℚ} (nonnegative : 0 ≤ value)
    (within : value ≤ bound) : nearestEven value ≤ bound := by
  by_contra passed
  rcases (le_nearestEven_iff (bound + 1) nonnegative).mp (not_le.mp passed) with above | ⟨_, above⟩
  all_goals
    push_cast at above
    linarith

/-- A binary floating-point format: the width of its mantissas, and the exponents of its finest and
its coarsest unit. -/
structure BinaryFormat where
  precision : Nat
  leastExponent : Int
  greatestExponent : Int
  wide : 0 < precision := by decide
  ordered : leastExponent ≤ greatestExponent := by decide
  deriving DecidableEq, Repr

namespace BinaryFormat

/-- The format of 32 bits. -/
def single : BinaryFormat where
  precision := 24
  leastExponent := -149
  greatestExponent := 104

/-- The format of 64 bits. -/
def double : BinaryFormat where
  precision := 53
  leastExponent := Binary64.leastExponent
  greatestExponent := Binary64.greatestExponent

section

variable (format : BinaryFormat) (value : ℚ)

/-- The exponent of the unit in which a number is counted, where no unit is too coarse. -/
def unitExponent : Int := max format.leastExponent (Int.log 2 |value| + 1 - format.precision)

/-- A number without its sign, counted in its unit. -/
def units : ℚ := |value| / 2 ^ format.unitExponent value

/-- The mantissa of a number: how many units it is rounded to. -/
def mantissa : Nat := nearestEven (format.units value)

/-- A number is rounded beyond the coarsest mantissas: it becomes infinite. -/
def Overflows : Prop :=
  2 ^ (format.greatestExponent + format.precision) ≤
    (format.mantissa value : ℚ) * 2 ^ format.unitExponent value

/-- A number is rounded to zero. -/
def Vanishes : Prop := format.mantissa value = 0

/-- A number is rounded to a finite one, and to zero only if it is zero. -/
structure Holds : Prop where
  finite : ¬format.Overflows value
  nonzero : format.Vanishes value → value = 0

/-- The least number that overflows. -/
def overflowBound : ℚ :=
  2 ^ (format.greatestExponent + format.precision) - 2 ^ (format.greatestExponent - 1)

/-- A number is zero, or lies between half of the finest unit and the least number that overflows,
without these two. -/
def InRange : Prop :=
  value = 0 ∨ 2 ^ (format.leastExponent - 1) < |value| ∧ |value| < format.overflowBound

/-- Zero has no units. -/
theorem mantissa_zero : format.mantissa 0 = 0 := by
  rw [mantissa, units, abs_zero, zero_div]
  rfl

/-- Units do not count below zero. -/
theorem units_nonneg : 0 ≤ format.units value := by
  rw [units]
  positivity

/-- A number is as many units as it has. -/
theorem abs_eq_units : |value| = format.units value * 2 ^ format.unitExponent value := by
  rw [units, div_mul_cancel₀ _ (by positivity)]

/-- A number has no more units than a mantissa has values. -/
theorem units_lt : format.units value < 2 ^ format.precision := by
  have below := Int.lt_zpow_succ_log_self Nat.one_lt_two |value|
  rw [Nat.cast_ofNat] at below
  rw [units, div_lt_iff₀ (by positivity), ← zpow_natCast, ← zpow_add₀ (by norm_num)]
  refine below.trans_le (zpow_le_zpow_right₀ (by norm_num) ?_)
  rw [unitExponent]
  omega

/-- The mantissa of a number is one that the format has, or the next power of two. -/
theorem mantissa_le : format.mantissa value ≤ 2 ^ format.precision := by
  refine nearestEven_le (format.units_nonneg value) ?_
  rw [Nat.cast_pow, Nat.cast_ofNat]
  exact (format.units_lt value).le

end

variable {format : BinaryFormat} {value : ℚ}

/-- A number whose unit is not the finest has at least half as many units as a mantissa has values.
-/
theorem le_units (nonzero : value ≠ 0)
    (coarse : format.leastExponent < format.unitExponent value) :
    2 ^ (format.precision - 1) ≤ format.units value := by
  have wide := format.wide
  have chosen : ((format.precision - 1 : Nat) : Int) + format.unitExponent value =
      Int.log 2 |value| := by
    rw [unitExponent] at coarse ⊢
    omega
  have reached := Int.zpow_log_le_self Nat.one_lt_two (abs_pos.mpr nonzero)
  rw [Nat.cast_ofNat] at reached
  rwa [units, le_div_iff₀ (by positivity), ← zpow_natCast, ← zpow_add₀ (by norm_num), chosen]

/-- The mantissa of a number whose unit is not the finest is at least half as many units as a
mantissa has values. -/
theorem le_mantissa (nonzero : value ≠ 0)
    (coarse : format.leastExponent < format.unitExponent value) :
    2 ^ (format.precision - 1) ≤ format.mantissa value := by
  refine le_nearestEven ?_
  rw [Nat.cast_pow, Nat.cast_ofNat]
  exact le_units nonzero coarse

/-- The next power of two is the double. -/
theorem twoTo_succ (power : Int) : (2 : ℚ) ^ (power + 1) = 2 * 2 ^ power := by
  rw [zpow_add_one₀ (by norm_num), mul_comm]

/-- The power that is too large for the format, in half units of the coarsest kind. -/
theorem overflowBound_eq (format : BinaryFormat) :
    format.overflowBound = (2 * 2 ^ format.precision - 1) * 2 ^ (format.greatestExponent - 1) := by
  have power : (2 : ℚ) ^ (format.greatestExponent + format.precision) =
      2 * 2 ^ format.precision * 2 ^ (format.greatestExponent - 1) := by
    rw [← zpow_natCast, ← twoTo_succ, ← zpow_add₀ (by norm_num)]
    congr 1
    ring
  rw [overflowBound, power]
  ring

/-- A number that is counted in the coarsest unit overflows from half a unit below the power on:
the power is an even number of units, so that a half is rounded up to it. -/
theorem overflows_iff_of_coarsest
    (coarsest : format.unitExponent value = format.greatestExponent) :
    format.Overflows value ↔ format.overflowBound ≤ |value| := by
  have even : 2 ^ format.precision % 2 = 0 :=
    Nat.mod_eq_zero_of_dvd (dvd_pow_self 2 format.wide.ne')
  have half : (2 : ℚ) ^ format.greatestExponent = 2 * 2 ^ (format.greatestExponent - 1) := by
    rw [← twoTo_succ, Int.sub_add_cancel]
  have reached : format.Overflows value ↔ 2 ^ format.precision ≤ format.mantissa value := by
    rw [Overflows, coarsest, zpow_add₀ (by norm_num), mul_comm,
      mul_le_mul_iff_left₀ (by positivity), zpow_natCast]
    norm_cast
  rw [reached, mantissa, le_nearestEven_iff _ (format.units_nonneg value), overflowBound_eq,
    abs_eq_units format value, coarsest, half, ← mul_assoc, mul_le_mul_iff_left₀ (by positivity)]
  simp only [even, true_and, ← le_iff_lt_or_eq, Nat.cast_pow, Nat.cast_ofNat]
  constructor <;> intro atLeast <;> linarith

/-- A number that is counted in a finer unit is less than half the power, and is rounded to no
more. -/
theorem not_overflows_of_finer (finer : format.unitExponent value < format.greatestExponent) :
    ¬format.Overflows value ∧ |value| < format.overflowBound := by
  have unit : (2 : ℚ) ^ format.unitExponent value ≤ 2 ^ (format.greatestExponent - 1) :=
    zpow_le_zpow_right₀ (by norm_num) (by omega)
  have positive : (0 : ℚ) < 2 ^ (format.greatestExponent - 1) := by positivity
  have several : (1 : ℚ) ≤ 2 ^ format.precision := one_le_pow₀ (by norm_num)
  have half : (2 : ℚ) ^ format.precision * 2 ^ (format.greatestExponent - 1) ≤
      format.overflowBound := by
    rw [overflowBound_eq]
    exact mul_le_mul_of_nonneg_right (by linarith) positive.le
  constructor
  · have counted : (format.mantissa value : ℚ) ≤ 2 ^ format.precision := by
      exact_mod_cast format.mantissa_le value
    have rounded := mul_le_mul counted unit (by positivity) (by positivity)
    rw [Overflows, not_le]
    rw [overflowBound] at half
    linarith
  · rw [abs_eq_units format value]
    refine lt_of_lt_of_le ?_ half
    exact mul_lt_mul (format.units_lt value) unit (by positivity) (by positivity)

/-- A number that is counted in a coarser unit has passed the power, and is rounded to no less. -/
theorem overflows_of_coarser (nonzero : value ≠ 0)
    (coarser : format.greatestExponent < format.unitExponent value) :
    format.Overflows value ∧ format.overflowBound ≤ |value| := by
  have wide := format.wide
  have coarse : format.leastExponent < format.unitExponent value :=
    format.ordered.trans_lt coarser
  have positive : (0 : ℚ) < 2 ^ (format.greatestExponent - 1) := by positivity
  have power : (2 : ℚ) ^ (format.greatestExponent + format.precision) ≤
      2 ^ (format.precision - 1) * 2 ^ format.unitExponent value := by
    rw [← zpow_natCast, ← zpow_add₀ (by norm_num)]
    exact zpow_le_zpow_right₀ (by norm_num) (by omega)
  constructor
  · have counted : (2 : ℚ) ^ (format.precision - 1) ≤ format.mantissa value := by
      exact_mod_cast le_mantissa nonzero coarse
    exact power.trans (mul_le_mul_of_nonneg_right counted (by positivity))
  · rw [overflowBound, abs_eq_units format value]
    have passed := mul_le_mul_of_nonneg_right (le_units nonzero coarse)
      (by positivity : (0 : ℚ) ≤ 2 ^ format.unitExponent value)
    linarith

/-- The least number that overflows is positive. -/
theorem overflowBound_pos (format : BinaryFormat) : 0 < format.overflowBound := by
  have several : (1 : ℚ) ≤ 2 ^ format.precision := one_le_pow₀ (by norm_num)
  rw [overflowBound_eq]
  exact mul_pos (by linarith) (by positivity)

/-- A number overflows from half a coarsest unit below the power on. -/
theorem overflows_iff (format : BinaryFormat) (value : ℚ) :
    format.Overflows value ↔ format.overflowBound ≤ |value| := by
  rcases eq_or_ne value 0 with rfl | nonzero
  · refine iff_of_false ?_ (by simpa using format.overflowBound_pos)
    rw [Overflows, format.mantissa_zero, Nat.cast_zero, zero_mul, not_le]
    positivity
  · rcases lt_trichotomy (format.unitExponent value) format.greatestExponent with
      finer | coarsest | coarser
    · obtain ⟨finite, below⟩ := not_overflows_of_finer finer
      exact iff_of_false finite (not_le.mpr below)
    · exact overflows_iff_of_coarsest coarsest
    · obtain ⟨overflows, reached⟩ := overflows_of_coarser nonzero coarser
      exact iff_of_true overflows reached

example : single.overflowBound = 2 ^ (128 : Int) - 2 ^ (103 : Int) := rfl

example : double.overflowBound = 2 ^ (1024 : Int) - 2 ^ (970 : Int) := rfl

/-- A number that is counted in the finest unit vanishes up to half of it: the half is rounded to
zero, which is even. -/
theorem vanishes_iff_of_finest (finest : format.unitExponent value = format.leastExponent) :
    format.Vanishes value ↔ |value| ≤ 2 ^ (format.leastExponent - 1) := by
  have half : (2 : ℚ) ^ format.leastExponent = 2 * 2 ^ (format.leastExponent - 1) := by
    rw [← twoTo_succ, Int.sub_add_cancel]
  have none : format.Vanishes value ↔ ¬1 ≤ format.mantissa value := by
    rw [Vanishes, Nat.one_le_iff_ne_zero, not_ne_iff]
  rw [none, mantissa, le_nearestEven_iff _ (format.units_nonneg value),
    abs_eq_units format value, finest, half, ← mul_assoc, mul_le_iff_le_one_left (by positivity)]
  simp only [Nat.one_mod, one_ne_zero, false_and, or_false, Nat.cast_one, not_lt]
  constructor <;> intro small <;> linarith

/-- In a coarser unit, a number other than zero is one unit at least. -/
theorem not_vanishes_of_coarse (nonzero : value ≠ 0)
    (coarse : format.leastExponent < format.unitExponent value) :
    ¬format.Vanishes value ∧ 2 ^ (format.leastExponent - 1) < |value| := by
  constructor
  · have counted := le_mantissa nonzero coarse
    have several : 0 < 2 ^ (format.precision - 1) := Nat.two_pow_pos _
    rw [Vanishes]
    omega
  · have several : (1 : ℚ) ≤ 2 ^ (format.precision - 1) := one_le_pow₀ (by norm_num)
    have unit : (2 : ℚ) ^ (format.leastExponent - 1) < 2 ^ format.unitExponent value :=
      zpow_lt_zpow_right₀ (by norm_num) (by omega)
    rw [abs_eq_units format value]
    refine unit.trans_le (le_mul_of_one_le_left (by positivity) ?_)
    exact several.trans (le_units nonzero coarse)

/-- A number vanishes up to half of the finest unit. -/
theorem vanishes_iff (format : BinaryFormat) (value : ℚ) :
    format.Vanishes value ↔ |value| ≤ 2 ^ (format.leastExponent - 1) := by
  rcases eq_or_ne value 0 with rfl | nonzero
  · refine iff_of_true format.mantissa_zero ?_
    rw [abs_zero]
    positivity
  · have finest : format.leastExponent ≤ format.unitExponent value := le_max_left _ _
    rcases finest.eq_or_lt with same | coarse
    · exact vanishes_iff_of_finest same.symm
    · obtain ⟨kept, large⟩ := not_vanishes_of_coarse nonzero coarse
      exact iff_of_false kept (not_le.mpr large)

/-- The numbers in range are those that hold. -/
theorem holds_iff (format : BinaryFormat) (value : ℚ) :
    format.Holds value ↔ format.InRange value := by
  constructor
  · rintro ⟨finite, nonzero⟩
    rw [overflows_iff, not_le] at finite
    rw [vanishes_iff] at nonzero
    refine or_iff_not_imp_left.mpr fun some => ⟨?_, finite⟩
    exact not_le.mp fun small => some (nonzero small)
  · rintro (rfl | ⟨large, small⟩)
    · refine ⟨?_, fun _ => rfl⟩
      rw [overflows_iff, abs_zero, not_le]
      exact format.overflowBound_pos
    · refine ⟨?_, fun vanishes => ?_⟩
      · rwa [overflows_iff, not_le]
      · exact absurd ((vanishes_iff ..).mp vanishes) (not_le.mpr large)

end BinaryFormat

end TypedDefaults
