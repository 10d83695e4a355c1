import Mathlib

/-! Rounding to floating-point numbers of 53 bits, as a function on rational numbers. It keeps the
order, which is all that is used of it where scores and confidences are compared. -/

namespace WidgetRepair.Binary64

/-- The natural number next to a number that is not negative; of two that are equally near the
even one. -/
def halfEven (x : Rat) : Nat :=
  let twice := ⌊2 * x⌋₊
  if twice = 2 * x then twice / 2 + twice % 2 * (twice / 2 % 2) else (twice + 1) / 2

theorem le_halfEven (x : Rat) : ⌊2 * x⌋₊ / 2 ≤ halfEven x := by
  unfold halfEven
  dsimp only
  split <;> omega

theorem halfEven_le (x : Rat) : halfEven x ≤ (⌊2 * x⌋₊ + 1) / 2 := by
  unfold halfEven
  dsimp only
  split
  · obtain even | odd := Nat.mod_two_eq_zero_or_one ⌊2 * x⌋₊
    · rw [even]; omega
    · rw [odd]; omega
  · rfl

theorem floor_twice_natCast (n : Nat) : ⌊2 * (n : Rat)⌋₊ = 2 * n := by
  exact_mod_cast Nat.floor_natCast (R := Rat) (2 * n)

theorem halfEven_natCast (n : Nat) : halfEven n = n := by
  unfold halfEven
  rw [floor_twice_natCast]
  simp

theorem halfEven_mono {x y : Rat} (nonneg : 0 ≤ x) (le : x ≤ y) : halfEven x ≤ halfEven y := by
  have floors : ⌊2 * x⌋₊ ≤ ⌊2 * y⌋₊ := Nat.floor_mono (by linarith)
  obtain same | less := floors.eq_or_lt
  · have tie (equal : (⌊2 * y⌋₊ : Rat) = 2 * y) : (⌊2 * y⌋₊ : Rat) = 2 * x := by
      have below : (⌊2 * x⌋₊ : Rat) ≤ 2 * x := Nat.floor_le (by linarith)
      rw [same] at below
      linarith
    unfold halfEven
    dsimp only
    rw [same]
    split <;> split
    · rfl
    · obtain even | odd := Nat.mod_two_eq_zero_or_one ⌊2 * y⌋₊
      · rw [even]; omega
      · rw [odd]; omega
    · next differs equal => exact absurd (tie equal) differs
    · rfl
  · calc halfEven x ≤ (⌊2 * x⌋₊ + 1) / 2 := halfEven_le x
      _ ≤ ⌊2 * y⌋₊ / 2 := Nat.div_le_div_right less
      _ ≤ halfEven y := le_halfEven y

/-- The exponent of the last place of a number: 53 places, but none below `2 ^ -1074`. -/
def lastPlace (x : Rat) : Int := max (Int.log 2 x - 52) (-1074)

/-- The number of 53 bits next to one that is not negative. -/
def rounded (x : Rat) : Rat := halfEven (x / 2 ^ lastPlace x) * 2 ^ lastPlace x

theorem two_zpow_pos (e : Int) : (0 : Rat) < 2 ^ e := by positivity

theorem two_zpow_log_le {x : Rat} (pos : 0 < x) : (2 : Rat) ^ Int.log 2 x ≤ x := by
  exact_mod_cast Int.zpow_log_le_self one_lt_two pos

theorem lt_two_zpow_log (x : Rat) : x < (2 : Rat) ^ (Int.log 2 x + 1) := by
  exact_mod_cast Int.lt_zpow_succ_log_self one_lt_two x

theorem log_lt_iff {x : Rat} (pos : 0 < x) (e : Int) : Int.log 2 x < e ↔ x < (2 : Rat) ^ e := by
  have := Int.lt_zpow_iff_log_lt (R := Rat) one_lt_two (x := e) pos
  exact_mod_cast this.symm

theorem zpow_div_zpow {e f : Int} (le : e ≤ f) :
    (2 : Rat) ^ f / 2 ^ e = (2 ^ (f - e).toNat : Nat) := by
  rw [← zpow_sub₀ two_ne_zero, Nat.cast_pow, Nat.cast_ofNat, ← zpow_natCast,
    Int.toNat_of_nonneg (by omega)]

theorem rounded_zero : rounded 0 = 0 := by
  have zero : halfEven 0 = 0 := by exact_mod_cast halfEven_natCast 0
  simp [rounded, zero]

theorem rounded_nonneg (x : Rat) : 0 ≤ rounded x :=
  mul_nonneg (Nat.cast_nonneg _) (two_zpow_pos _).le

/-- A multiple of the last place is a bound also after rounding. -/
theorem rounded_le_of_le {x : Rat} {n : Nat} (nonneg : 0 ≤ x) (le : x ≤ n * 2 ^ lastPlace x) :
    rounded x ≤ n * 2 ^ lastPlace x := by
  have place := two_zpow_pos (lastPlace x)
  have units : x / 2 ^ lastPlace x ≤ n := (div_le_iff₀ place).mpr le
  have bound := halfEven_mono (div_nonneg nonneg place.le) units
  rw [halfEven_natCast] at bound
  exact mul_le_mul_of_nonneg_right (by exact_mod_cast bound) place.le

theorem le_rounded_of_le {x : Rat} {n : Nat} (le : n * 2 ^ lastPlace x ≤ x) :
    n * 2 ^ lastPlace x ≤ rounded x := by
  have place := two_zpow_pos (lastPlace x)
  have units : n ≤ x / 2 ^ lastPlace x := (le_div_iff₀ place).mpr le
  have bound := halfEven_mono (Nat.cast_nonneg n) units
  rw [halfEven_natCast] at bound
  exact mul_le_mul_of_nonneg_right (by exact_mod_cast bound) place.le

/-- Numbers of at most 53 bits are kept. -/
theorem rounded_exact {m : Nat} {e : Int} (bits : m < 2 ^ 53) (least : -1074 ≤ e) :
    rounded (m * 2 ^ e) = m * 2 ^ e := by
  obtain zero | pos := m.eq_zero_or_pos
  · simp [zero, rounded_zero]
  have value : (0 : Rat) < m * 2 ^ e := by have := two_zpow_pos e; positivity
  have place : lastPlace (m * 2 ^ e) ≤ e := by
    have below : (m : Rat) * 2 ^ e < 2 ^ (53 + e) := by
      rw [zpow_add₀ two_ne_zero]
      exact mul_lt_mul_of_pos_right (by exact_mod_cast bits) (two_zpow_pos e)
    have log := (log_lt_iff value _).mpr below
    unfold lastPlace
    omega
  have units : (m : Rat) * 2 ^ e / 2 ^ lastPlace (m * 2 ^ e)
      = (m * 2 ^ (e - lastPlace (m * 2 ^ e)).toNat : Nat) := by
    rw [mul_div_assoc, zpow_div_zpow place, Nat.cast_mul]
  rw [rounded, units, halfEven_natCast, ← units]
  exact div_mul_cancel₀ _ (two_zpow_pos _).ne'

theorem rounded_mono {x y : Rat} (nonneg : 0 ≤ x) (le : x ≤ y) : rounded x ≤ rounded y := by
  obtain zero | pos := nonneg.eq_or_lt
  · rw [← zero, rounded_zero]
    exact rounded_nonneg y
  have logs : Int.log 2 x ≤ Int.log 2 y := Int.log_mono_right pos le
  obtain same | coarser : lastPlace x = lastPlace y ∨ lastPlace x < lastPlace y := by
    unfold lastPlace
    omega
  · have place := two_zpow_pos (lastPlace y)
    unfold rounded
    rw [same]
    refine mul_le_mul_of_nonneg_right ?_ place.le
    exact_mod_cast halfEven_mono (div_nonneg nonneg place.le) (div_le_div_of_nonneg_right le place.le)
  · have middle : lastPlace x ≤ Int.log 2 y ∧ lastPlace y ≤ Int.log 2 y ∧
        Int.log 2 x + 1 ≤ Int.log 2 y := by
      unfold lastPlace at coarser ⊢
      omega
    have powers {z : Rat} (finer : lastPlace z ≤ Int.log 2 y) :
        ((2 ^ (Int.log 2 y - lastPlace z).toNat : Nat) : Rat) * 2 ^ lastPlace z = 2 ^ Int.log 2 y := by
      rw [← zpow_div_zpow finer, div_mul_cancel₀ _ (two_zpow_pos _).ne']
    calc rounded x ≤ 2 ^ Int.log 2 y := by
          rw [← powers middle.1]
          apply rounded_le_of_le nonneg
          rw [powers middle.1]
          exact (lt_two_zpow_log x).le.trans (zpow_le_zpow_right₀ one_le_two middle.2.2)
      _ ≤ rounded y := by
          rw [← powers middle.2.1]
          apply le_rounded_of_le
          rw [powers middle.2.1]
          exact two_zpow_log_le (pos.trans_le le)

theorem mantissa_le {x : Rat} (pos : 0 < x) : halfEven (x / 2 ^ lastPlace x) ≤ 2 ^ 53 := by
  have place := two_zpow_pos (lastPlace x)
  have units : x / 2 ^ lastPlace x ≤ (2 ^ 53 : Nat) := by
    rw [div_le_iff₀ place, Nat.cast_pow, Nat.cast_ofNat, ← zpow_natCast, ← zpow_add₀ two_ne_zero]
    refine (lt_two_zpow_log x).le.trans (zpow_le_zpow_right₀ one_le_two ?_)
    unfold lastPlace
    omega
  have bound := halfEven_mono (div_nonneg pos.le place.le) units
  rwa [halfEven_natCast] at bound

theorem le_mantissa {x : Rat} (pos : 0 < x) :
    2 ^ 52 ≤ halfEven (x / 2 ^ lastPlace x) ∨ lastPlace x = -1074 := by
  obtain least | normal : lastPlace x = -1074 ∨ lastPlace x = Int.log 2 x - 52 := by
    unfold lastPlace
    omega
  · exact .inr least
  · have place := two_zpow_pos (lastPlace x)
    have units : ((2 ^ 52 : Nat) : Rat) ≤ x / 2 ^ lastPlace x := by
      rw [le_div_iff₀ place, Nat.cast_pow, Nat.cast_ofNat, ← zpow_natCast, ← zpow_add₀ two_ne_zero]
      refine (zpow_le_zpow_right₀ one_le_two ?_).trans (two_zpow_log_le pos)
      omega
    have bound := halfEven_mono (Nat.cast_nonneg _) units
    rw [halfEven_natCast] at bound
    exact .inl bound

end WidgetRepair.Binary64
