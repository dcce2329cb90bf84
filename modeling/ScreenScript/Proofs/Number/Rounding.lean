import Mathlib.Algebra.Order.Field.Power
import Mathlib.Tactic.Linarith
import Mathlib.Tactic.NormNum
import Mathlib.Tactic.Positivity
import Mathlib.Tactic.Ring
import ScreenScript.Number.Scalar

/-!
# How far numbers are rounded

A fraction that is not too large is rounded to a finite number, and this differs from it by at most half a unit
in its last place: by the `2 ^ 53`th part of the fraction, or, among the least numbers, by `2 ^ -1075`.

* `Binary64.magnitude` — the value of a mantissa and an exponent
* `Binary64.two_pow_floorLog2_le`, `Binary64.lt_two_pow_floorLog2` — the power of two below a fraction
* `Binary64.Near` — a finite number as near to a rational one as rounding goes
* `Binary64.round_near` — rounding brings about such numbers
-/

namespace ScreenScript.Binary64

variable {x : Binary64} {negative : Bool} {num den : Nat} {q : ℚ}

/-- The value of a mantissa and an exponent. -/
def magnitude (mantissa : Nat) (exponent : Int) : ℚ := mantissa * 2 ^ exponent

theorem magnitude_nonneg (mantissa : Nat) (exponent : Int) : 0 ≤ magnitude mantissa exponent := by
  rw [magnitude]
  positivity

/-! ## Fractions -/

theorem fraction_den_pos (n : Nat) (e : Int) : 0 < (fraction n e).2 := by
  rw [fraction]
  split
  · exact Nat.one_pos
  · exact Nat.pow_pos (by decide)

theorem fraction_eq (n : Nat) (e : Int) : ((fraction n e).1 : ℚ) / (fraction n e).2 = magnitude n e := by
  rw [fraction, magnitude]
  split
  next he =>
    lift e to Nat using he
    simp [twoPow]
  next he =>
    obtain ⟨k, rfl⟩ : ∃ k : Nat, e = -k := ⟨(-e).toNat, by omega⟩
    simp [twoPow, div_eq_mul_inv]

/-- The natural number nearest to a fraction differs from it by at most one half. -/
theorem abs_nearestNat_sub_le (num : Nat) (hden : 0 < den) : |(nearestNat num den : ℚ) - num / den| ≤ 1 / 2 := by
  have hparts := Nat.div_add_mod num den
  have hnear : 2 * (nearestNat num den * den) ≤ 2 * num + den ∧
      2 * num ≤ 2 * (nearestNat num den * den) + den := by
    rw [mul_comm den] at hparts
    have hmod := Nat.mod_lt num hden
    rw [nearestNat]
    split_ifs <;> constructor <;> first | omega | (rw [Nat.add_mul]; omega)
  obtain ⟨hupper, hlower⟩ := hnear
  have hden' : (0 : ℚ) < den := Nat.cast_pos.2 hden
  have hupper' : 2 * ((nearestNat num den : ℚ) * den) ≤ 2 * num + den := by exact_mod_cast hupper
  have hlower' : 2 * (num : ℚ) ≤ 2 * (nearestNat num den * den) + den := by exact_mod_cast hlower
  have hquotient : (num / den : ℚ) * den = num := div_mul_cancel₀ _ hden'.ne'
  rw [abs_le]
  constructor <;> nlinarith

/-! ## Powers of two -/

theorem two_zpow_log2_le (h : num ≠ 0) : (2 : ℚ) ^ (num.log2 : ℤ) ≤ num := by
  rw [zpow_natCast]
  exact_mod_cast Nat.log2_self_le h

theorem lt_two_zpow_log2 (num : Nat) : (num : ℚ) < 2 ^ ((num.log2 : ℤ) + 1) := by
  rw [← Nat.cast_succ, zpow_natCast]
  exact_mod_cast Nat.lt_log2_self

/-- The guess about the power of two is too large by at most one. -/
theorem floorLog2_eq (num den : Nat) :
    floorLog2 num den =
      if (den : ℚ) * 2 ^ ((num.log2 : ℤ) - den.log2) ≤ num then (num.log2 : ℤ) - den.log2
      else (num.log2 : ℤ) - den.log2 - 1 := by
  rw [floorLog2]
  dsimp only
  generalize (num.log2 : ℤ) - den.log2 = guess
  have hpos := fraction_den_pos num (-guess)
  have hvalue := fraction_eq num (-guess)
  have hreaches : den * (fraction num (-guess)).2 ≤ (fraction num (-guess)).1 ↔ (den : ℚ) * 2 ^ guess ≤ num := by
    have hpos' : (0 : ℚ) < (fraction num (-guess)).2 := Nat.cast_pos.2 hpos
    rw [magnitude, zpow_neg, ← div_eq_mul_inv, div_eq_div_iff hpos'.ne' (by positivity)] at hvalue
    rw [← Nat.cast_le (α := ℚ), Nat.cast_mul]
    constructor <;> intro h <;> nlinarith [show (0 : ℚ) < 2 ^ guess by positivity]
  simp only [hreaches]

theorem two_pow_floorLog2_le (hnum : num ≠ 0) (hden : 0 < den) : (2 : ℚ) ^ floorLog2 num den ≤ num / den := by
  have hden' : (0 : ℚ) < den := Nat.cast_pos.2 hden
  rw [le_div_iff₀ hden', mul_comm, floorLog2_eq]
  split
  next h => exact h
  next =>
    calc (den : ℚ) * 2 ^ ((num.log2 : ℤ) - den.log2 - 1)
      _ ≤ 2 ^ ((den.log2 : ℤ) + 1) * 2 ^ ((num.log2 : ℤ) - den.log2 - 1) := by
        gcongr
        exact (lt_two_zpow_log2 den).le
      _ = 2 ^ (num.log2 : ℤ) := by
        rw [← zpow_add₀ two_ne_zero]
        congr 1
        omega
      _ ≤ num := two_zpow_log2_le hnum

theorem lt_two_pow_floorLog2 (hden : 0 < den) : (num / den : ℚ) < 2 ^ (floorLog2 num den + 1) := by
  have hden' : (0 : ℚ) < den := Nat.cast_pos.2 hden
  rw [div_lt_iff₀ hden', mul_comm, floorLog2_eq]
  split
  next =>
    calc (num : ℚ)
      _ < 2 ^ ((num.log2 : ℤ) + 1) := lt_two_zpow_log2 num
      _ = 2 ^ (den.log2 : ℤ) * 2 ^ ((num.log2 : ℤ) - den.log2 + 1) := by
        rw [← zpow_add₀ two_ne_zero]
        congr 1
        omega
      _ ≤ den * 2 ^ ((num.log2 : ℤ) - den.log2 + 1) := by
        gcongr
        exact two_zpow_log2_le hden.ne'
  next h =>
    rw [sub_add_cancel]
    exact not_le.1 h

/-! ## Rounding -/

/-- A number with a sign, as near to a rational number as rounding goes. -/
def Near (x : Binary64) (negative : Bool) (q : ℚ) : Prop :=
  ∃ mantissa exponent, x = .finite negative mantissa exponent ∧
    |magnitude mantissa exponent - q| ≤ max (q / 2 ^ 53) (2 ^ (-1075 : ℤ))

/-- The exponent that a fraction is rounded with. -/
def unit (num den : Nat) : Int := max (floorLog2 num den - 52) minExponent

/-- The mantissa that a fraction is rounded to, before it is brought into its range. -/
def units (num den : Nat) : Nat :=
  nearestNat (fraction num (-unit num den)).1 (den * (fraction num (-unit num den)).2)

theorem round_eq (negative : Bool) (hnum : num ≠ 0) :
    round negative num den =
      if units num den < twoPow 53 then
        if unit num den ≤ maxExponent then .finite negative (units num den) (unit num den) else .inf negative
      else
        if unit num den < maxExponent then .finite negative (twoPow 52) (unit num den + 1) else .inf negative := by
  rw [round, if_neg hnum]
  rfl

theorem abs_units_sub_le (num : Nat) (hden : 0 < den) :
    |(units num den : ℚ) - num / den * 2 ^ (-unit num den)| ≤ 1 / 2 := by
  have hpos := fraction_den_pos num (-unit num den)
  have hvalue := fraction_eq num (-unit num den)
  have hquotient : (num / den * 2 ^ (-unit num den) : ℚ) =
      (fraction num (-unit num den)).1 / (den * (fraction num (-unit num den)).2 : Nat) := by
    rw [Nat.cast_mul, div_mul_eq_div_div_swap, hvalue, magnitude]
    ring
  rw [hquotient]
  exact abs_nearestNat_sub_le _ (Nat.mul_pos hden hpos)

/-- Half a unit in the last place. -/
theorem two_zpow_unit_le (hnum : num ≠ 0) (hden : 0 < den) :
    (1 / 2 * 2 ^ unit num den : ℚ) ≤ max ((num / den : ℚ) / 2 ^ 53) (2 ^ (-1075 : ℤ)) := by
  have hhalf : ∀ e : ℤ, (1 / 2 * 2 ^ e : ℚ) = 2 ^ (e - 1) := fun e => by
    rw [zpow_sub_one₀ two_ne_zero]
    ring
  rw [hhalf, unit]
  rcases le_total (floorLog2 num den - 52) minExponent with hleast | hleast
  · rw [max_eq_right hleast]
    exact le_max_right _ _
  · rw [max_eq_left hleast]
    refine le_max_of_le_left ?_
    rw [le_div_iff₀ (by positivity), ← zpow_natCast, ← zpow_add₀ two_ne_zero]
    refine le_of_eq_of_le ?_ (two_pow_floorLog2_le hnum hden)
    congr 1
    omega

/-- The mantissa has at most one bit too many, and then it is a power of two. -/
theorem units_le (num : Nat) (hden : 0 < den) : units num den ≤ twoPow 53 := by
  have hquotient : (num / den * 2 ^ (-unit num den) : ℚ) < 2 ^ 53 := by
    rw [zpow_neg, ← div_eq_mul_inv, div_lt_iff₀ (by positivity), ← zpow_natCast, ← zpow_add₀ two_ne_zero]
    refine (lt_two_pow_floorLog2 hden).trans_le (zpow_le_zpow_right₀ one_le_two ?_)
    have hleft := le_max_left (floorLog2 num den - 52) minExponent
    rw [unit]
    omega
  have hupper := (abs_le.1 (abs_units_sub_le num hden)).2
  have hlt : (units num den : ℚ) < (2 ^ 53 + 1 : Nat) := by
    push_cast
    linarith
  exact Nat.lt_succ_iff.1 (Nat.cast_lt.1 hlt)

/-- The mantissa and the exponent of a fraction, as far as they are from it. -/
theorem abs_magnitude_units_sub_le (hnum : num ≠ 0) (hden : 0 < den) :
    |magnitude (units num den) (unit num den) - num / den| ≤ max ((num / den : ℚ) / 2 ^ 53) (2 ^ (-1075 : ℤ)) := by
  have hpos : (0 : ℚ) < 2 ^ unit num den := by positivity
  calc |magnitude (units num den) (unit num den) - num / den|
    _ = |((units num den : ℚ) - num / den * 2 ^ (-unit num den)) * 2 ^ unit num den| := by
      rw [sub_mul, mul_assoc, ← zpow_add₀ two_ne_zero, neg_add_cancel, zpow_zero, mul_one, magnitude]
    _ = |(units num den : ℚ) - num / den * 2 ^ (-unit num den)| * 2 ^ unit num den := by
      rw [abs_mul, abs_of_pos hpos]
    _ ≤ 1 / 2 * 2 ^ unit num den := by
      gcongr
      exact abs_units_sub_le num hden
    _ ≤ max ((num / den : ℚ) / 2 ^ 53) (2 ^ (-1075 : ℤ)) := two_zpow_unit_le hnum hden

/-- A mantissa that is a power of two too large, brought into its range. -/
theorem magnitude_carry (exponent : Int) :
    magnitude (twoPow 52) (exponent + 1) = magnitude (twoPow 53) exponent := by
  rw [magnitude, magnitude, zpow_add_one₀ two_ne_zero, twoPow, twoPow]
  push_cast
  ring

/-- A fraction that is not too large is rounded to a number near it. -/
theorem round_near (negative : Bool) (hden : 0 < den) (hlarge : (num / den : ℚ) < 2 ^ (1023 : ℤ)) :
    Near (round negative num den) negative (num / den) := by
  by_cases hnum : num = 0
  · refine ⟨0, minExponent, by rw [round, if_pos hnum]; rfl, ?_⟩
    rw [hnum, magnitude]
    simp
  · have hlog : floorLog2 num den < 1023 :=
      (zpow_lt_zpow_iff_right₀ one_lt_two).1 ((two_pow_floorLog2_le hnum hden).trans_lt hlarge)
    have hunit : unit num den < maxExponent := by
      rw [unit, maxExponent, minExponent]
      omega
    have hnear := abs_magnitude_units_sub_le hnum hden
    rw [round_eq negative hnum]
    by_cases hmantissa : units num den < twoPow 53
    · exact ⟨_, _, by rw [if_pos hmantissa, if_pos hunit.le], hnear⟩
    · have hcarry : units num den = twoPow 53 := (units_le num hden).antisymm (not_lt.1 hmantissa)
      refine ⟨_, _, by rw [if_neg hmantissa, if_pos hunit], ?_⟩
      rwa [magnitude_carry, ← hcarry]

/-- A number near one that is not among the least ones. -/
theorem Near.relative (h : Near x negative q) (hq : 2 ^ (-1022 : ℤ) ≤ q) :
    ∃ mantissa exponent, x = .finite negative mantissa exponent ∧
      |magnitude mantissa exponent - q| ≤ q / 2 ^ 53 := by
  obtain ⟨mantissa, exponent, rfl, hnear⟩ := h
  refine ⟨mantissa, exponent, rfl, hnear.trans_eq (max_eq_left ?_)⟩
  rw [le_div_iff₀ (by positivity), ← zpow_natCast, ← zpow_add₀ two_ne_zero]
  exact hq

/-- A number near any one, the least ones included. -/
theorem Near.le (h : Near x negative q) (hq : 0 ≤ q) :
    ∃ mantissa exponent, x = .finite negative mantissa exponent ∧ magnitude mantissa exponent ≤ 2 * q + 1 := by
  obtain ⟨mantissa, exponent, rfl, hnear⟩ := h
  refine ⟨mantissa, exponent, rfl, ?_⟩
  have hleast : (2 : ℚ) ^ (-1075 : ℤ) ≤ 2 ^ (0 : ℤ) := zpow_le_zpow_right₀ one_le_two (by decide)
  have herror : max (q / 2 ^ 53) (2 ^ (-1075 : ℤ)) ≤ q + 1 := by
    refine max_le ?_ (by rw [zpow_zero] at hleast; linarith)
    linarith [div_le_self hq (one_le_pow₀ (one_le_two (α := ℚ)) (n := 53))]
  linarith [(abs_le.1 hnear).2]

/-! ## Arithmetic -/

/-- Numbers of 128 bits are not too large. -/
theorem lt_of_le_pow (h : q ≤ 2 ^ 128) : q < 2 ^ (1023 : ℤ) := by
  refine h.trans_lt ?_
  rw [← zpow_natCast]
  exact zpow_lt_zpow_right₀ one_lt_two (by decide)

theorem ofInt?_near {n : Nat} (h : (n : ℚ) < 2 ^ (1023 : ℤ)) : ∃ x, ofInt? n = some x ∧ Near x false n := by
  have hnear : Near (round false n 1) false (n / (1 : Nat)) := round_near false Nat.one_pos (by simpa using h)
  obtain ⟨mantissa, exponent, hround, hvalue⟩ := hnear
  refine ⟨.finite false mantissa exponent, ?_, mantissa, exponent, rfl, by simpa using hvalue⟩
  have hsign : decide ((n : Int) < 0) = false := by simp
  rw [ofInt?, hsign, Int.natAbs_natCast, hround]

theorem mul_near (negative negative' : Bool) {mantissa mantissa' : Nat} {exponent exponent' : Int}
    (h : magnitude mantissa exponent * magnitude mantissa' exponent' < 2 ^ (1023 : ℤ)) :
    Near ((finite negative mantissa exponent).mul (.finite negative' mantissa' exponent')) (negative != negative')
      (magnitude mantissa exponent * magnitude mantissa' exponent') := by
  have hproduct : magnitude mantissa exponent * magnitude mantissa' exponent' =
      magnitude (mantissa * mantissa') (exponent + exponent') := by
    rw [magnitude, magnitude, magnitude, zpow_add₀ two_ne_zero]
    push_cast
    ring
  rw [hproduct, ← fraction_eq] at h ⊢
  exact round_near _ (fraction_den_pos _ _) h

end ScreenScript.Binary64

namespace ScreenScript.Scalar

open Binary64

theorem divInt_near {a b : Nat} (hb : 0 < b) (h : (a / b : ℚ) < 2 ^ (1023 : ℤ)) :
    ∃ x, divInt a b = .ok x ∧ Near x false (a / b) := by
  obtain ⟨mantissa, exponent, hround, hvalue⟩ := round_near false hb h
  refine ⟨.finite false mantissa exponent, ?_, mantissa, exponent, rfl, hvalue⟩
  have hsign : (decide ((a : Int) < 0) != decide ((b : Int) < 0)) = false := by
    rw [decide_eq_false (by omega), decide_eq_false (by omega)]
    rfl
  rw [divInt, if_neg (by omega), hsign, Int.natAbs_natCast, Int.natAbs_natCast, hround]

end ScreenScript.Scalar
