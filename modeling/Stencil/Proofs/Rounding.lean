import Stencil.Number.Double
import Mathlib.Algebra.Order.Ring.Nat
/-!
# Rounding to 53 bits

A number is rounded to a multiple of the spacing of the doubles around it. Rounding keeps the order,
it keeps what is a multiple of the spacing, and it moves no number further than half the spacing. A
power of two may be multiplied before or after, so integers are rounded in ones as they are in
units.
-/
namespace Stencil

namespace Double

variable {n m k : Nat}

theorem exists_exponents :
    ∃ k l, unitsPerOne = Nat.pow 2 k ∧ unitsLimit = Nat.pow 2 l ∧ l = k + 1024 := by
  unfold unitsPerOne unitsLimit
  exact ⟨1074, 2098, rfl, rfl, rfl⟩

private theorem lt_two_pow_spacing (n : Nat) : n < 2 ^ (spacing n + 53) := by
  have hlog : n.log2 + 1 ≤ spacing n + 53 := by rw [spacing]; omega
  exact Nat.lt_log2_self.trans_le (Nat.pow_le_pow_right (by decide) hlog)

private theorem two_pow_spacing_le (h : spacing n ≠ 0) : 2 ^ (spacing n + 52) ≤ n := by
  have hn : n ≠ 0 := by
    rintro rfl
    exact h (by decide)
  have hlog : spacing n + 52 = n.log2 := by rw [spacing] at h ⊢; omega
  rw [hlog]
  exact Nat.log2_self_le hn

theorem spacing_le (h : n < 2 ^ (k + 53)) : spacing n ≤ k := by
  by_contra hk
  have hpow : 2 ^ (spacing n + 52) < 2 ^ (k + 53) := (two_pow_spacing_le (by omega)).trans_lt h
  have hexponent := (Nat.pow_lt_pow_iff_right (by decide)).mp hpow
  omega

private theorem spacing_mono (h : n ≤ m) : spacing n ≤ spacing m :=
  spacing_le (h.trans_lt (lt_two_pow_spacing m))

private theorem spacing_mul_two_pow (h : 2 ^ 52 ≤ n) (k : Nat) :
    spacing (n * 2 ^ k) = spacing n + k := by
  have hn : n ≠ 0 := by omega
  have hlog : 52 ≤ n.log2 := (Nat.le_log2 hn).mpr h
  have hshift : (n * 2 ^ k).log2 = n.log2 + k := by
    rw [Nat.log2_eq_iff (Nat.mul_ne_zero hn (Nat.two_pow_pos k).ne')]
    constructor
    · rw [Nat.pow_add]
      exact Nat.mul_le_mul_right _ (Nat.log2_self_le hn)
    · rw [Nat.add_right_comm, Nat.pow_add]
      exact Nat.mul_lt_mul_of_pos_right Nat.lt_log2_self (Nat.two_pow_pos k)
  rw [spacing, spacing, hshift]
  omega

end Double

namespace Quantity

open Double

variable {n m den factor : Nat}

/-! ### The nearest whole number -/

private theorem roundDiv_cases (n den : Nat) :
    roundDiv n den = n / den ∧ 2 * (n % den) ≤ den ∨
      roundDiv n den = n / den + 1 ∧ den ≤ 2 * (n % den) := by
  simp only [roundDiv]
  split
  · exact .inl ⟨rfl, by omega⟩
  · exact .inr ⟨rfl, by omega⟩

private theorem roundDiv_mono (h : n ≤ m) (den : Nat) : roundDiv n den ≤ roundDiv m den := by
  rcases (Nat.div_le_div_right (c := den) h).lt_or_eq with hlt | heq
  · rcases roundDiv_cases n den with ⟨hn, -⟩ | ⟨hn, -⟩ <;>
      rcases roundDiv_cases m den with ⟨hm, -⟩ | ⟨hm, -⟩ <;> omega
  · have hmod : n % den ≤ m % den := by
      have hn := Nat.div_add_mod n den
      have hm := Nat.div_add_mod m den
      rw [heq] at hn
      omega
    simp only [roundDiv, heq]
    split <;> split <;> omega

private theorem roundDiv_mul_left (hden : 0 < den) (q : Nat) : roundDiv (den * q) den = q := by
  simp [roundDiv, hden]

private theorem roundDiv_mul_mul (hfactor : 0 < factor) (n den : Nat) :
    roundDiv (n * factor) (den * factor) = roundDiv n den := by
  have hless : 2 * (n % den * factor) < den * factor ↔ 2 * (n % den) < den := by
    rw [← Nat.mul_assoc, Nat.mul_lt_mul_right hfactor]
  have hhalf : 2 * (n % den * factor) = den * factor ↔ 2 * (n % den) = den := by
    rw [← Nat.mul_assoc, Nat.mul_left_inj hfactor.ne']
  simp only [roundDiv, Nat.mul_div_mul_right _ _ hfactor, Nat.mul_mod_mul_right, hless, hhalf]

/-! ### The nearest number of 53 bits -/

private theorem roundUnits_one (n : Nat) :
    roundUnits n 1 = roundDiv n (2 ^ spacing n) * 2 ^ spacing n := by
  simp only [roundUnits, Nat.div_one, Nat.one_mul, Nat.pow_eq]

theorem roundUnits_le (h : n ≤ m) (hm : 2 ^ spacing n ∣ m) : roundUnits n 1 ≤ m := by
  obtain ⟨q, rfl⟩ := hm
  have hq := roundDiv_mono h (2 ^ spacing n)
  rw [roundDiv_mul_left (Nat.two_pow_pos _)] at hq
  rw [roundUnits_one, Nat.mul_comm]
  exact Nat.mul_le_mul_left _ hq

private theorem le_roundUnits (h : m ≤ n) (hm : 2 ^ spacing n ∣ m) : m ≤ roundUnits n 1 := by
  obtain ⟨q, rfl⟩ := hm
  have hq := roundDiv_mono h (2 ^ spacing n)
  rw [roundDiv_mul_left (Nat.two_pow_pos _)] at hq
  rw [roundUnits_one, Nat.mul_comm (roundDiv _ _)]
  exact Nat.mul_le_mul_left _ hq

theorem roundUnits_of_dvd (h : 2 ^ spacing n ∣ n) : roundUnits n 1 = n :=
  Nat.le_antisymm (roundUnits_le le_rfl h) (le_roundUnits le_rfl h)

theorem roundUnits_mono (h : n ≤ m) : roundUnits n 1 ≤ roundUnits m 1 := by
  rcases (spacing_mono h).lt_or_eq with hlt | heq
  · calc
      roundUnits n 1 ≤ 2 ^ (spacing n + 53) :=
        roundUnits_le (lt_two_pow_spacing n).le (Nat.pow_dvd_pow 2 (by omega))
      _ ≤ 2 ^ (spacing m + 52) := Nat.pow_le_pow_right (by decide) (by omega)
      _ ≤ roundUnits m 1 :=
        le_roundUnits (two_pow_spacing_le (by omega)) (Nat.pow_dvd_pow 2 (by omega))
  · rw [roundUnits_one, roundUnits_one, heq]
    exact Nat.mul_le_mul_right _ (roundDiv_mono h _)

theorem roundUnits_near (n : Nat) :
    2 * n ≤ 2 * roundUnits n 1 + 2 ^ spacing n ∧ 2 * roundUnits n 1 ≤ 2 * n + 2 ^ spacing n := by
  have hn := Nat.div_add_mod' n (2 ^ spacing n)
  have hmod := Nat.mod_lt n (Nat.two_pow_pos (spacing n))
  rw [roundUnits_one]
  rcases roundDiv_cases n (2 ^ spacing n) with ⟨hround, hhalf⟩ | ⟨hround, hhalf⟩
  · rw [hround]
    omega
  · rw [hround, Nat.add_one_mul (n / _)]
    omega

private theorem roundUnits_mul_two_pow (n k : Nat) :
    roundUnits (n * 2 ^ k) 1 = roundUnits n 1 * 2 ^ k := by
  by_cases hn : 2 ^ 52 ≤ n
  · rw [roundUnits_one, roundUnits_one, spacing_mul_two_pow hn, Nat.pow_add,
      roundDiv_mul_mul (Nat.two_pow_pos k), Nat.mul_assoc]
  · have hspacing : spacing n = 0 := Nat.le_zero.mp (spacing_le (by omega))
    have hlt : n * 2 ^ k < 2 ^ (k + 53) := by
      rw [Nat.add_comm, Nat.pow_add]
      exact Nat.mul_lt_mul_of_pos_right (by omega) (Nat.two_pow_pos k)
    have hdvd : 2 ^ spacing (n * 2 ^ k) ∣ n * 2 ^ k :=
      (Nat.pow_dvd_pow 2 (spacing_le hlt)).trans (Nat.dvd_mul_left _ _)
    rw [roundUnits_of_dvd hdvd, roundUnits_of_dvd (by rw [hspacing]; exact Nat.one_dvd n)]

theorem roundUnits_mul_unitsPerOne (n : Nat) :
    roundUnits (n * unitsPerOne) 1 = roundUnits n 1 * unitsPerOne := by
  obtain ⟨k, -, hone, -⟩ := exists_exponents
  rw [hone]
  exact roundUnits_mul_two_pow n k

end Quantity
end Stencil
