import WidgetRepair.Proofs.Rounding
import Mathlib.Data.Nat.Log

/-! What the arithmetic of `Float` computes with: mantissas with a round bit and a sticky bit stand
for rational numbers, and the finite float that is made of them stands for the rounded number. -/

namespace WidgetRepair.Binary64

open Float.Model Float.Model.UnpackedFloat

/-- An extended mantissa stands for a number: mantissa and round bit count the halves in it, and
the sticky bit tells whether anything is left. -/
structure Holds (em : ExtendedMantissa) (x : Rat) : Prop where
  halves : 2 * em.mantissa + em.roundBit.toNat = ⌊2 * x⌋₊
  left : em.stickyBit = true ↔ (⌊2 * x⌋₊ : Rat) ≠ 2 * x

namespace Holds

variable {em : ExtendedMantissa} {x : Rat}

theorem mantissa (holds : Holds em x) : em.mantissa = ⌊x⌋₊ := by
  have half : ⌊2 * x / 2⌋₊ = ⌊2 * x⌋₊ / 2 := Nat.floor_div_ofNat (2 * x) 2
  rw [mul_div_cancel_left₀ x two_ne_zero, ← holds.halves] at half
  have bit := em.roundBit.toNat_le
  omega

theorem natCast (n : Nat) : Holds ⟨n, false, false⟩ n := by
  constructor <;> simp [floor_twice_natCast]

/-- Rounding by the two bits is rounding the number. -/
theorem roundedMantissa (holds : Holds em x) : em.roundedMantissa = halfEven x := by
  obtain ⟨halves, left⟩ := holds
  obtain ⟨m, round, sticky⟩ := em
  dsimp only at halves left
  have bit := round.toNat_le
  have half : ⌊2 * x⌋₊ / 2 = m := by omega
  have parity : ⌊2 * x⌋₊ % 2 = round.toNat := by omega
  have up : (⌊2 * x⌋₊ + 1) / 2 = m + round.toNat := by omega
  unfold halfEven
  dsimp only
  rw [half, parity, up]
  split
  · next exact =>
    have none : sticky = false := by
      rw [← Bool.not_eq_true, left]
      exact not_not_intro exact
    subst none
    cases round
    · exact (by simp : m = m + 0 * (m % 2))
    · exact (by simp : m + m % 2 = m + 1 * (m % 2))
  · next differs =>
    have some : sticky = true := left.mpr differs
    subst some
    cases round <;> rfl

theorem shiftRightOne (holds : Holds em x) : Holds em.shiftRightOne (x / 2) := by
  have floor : ⌊2 * (x / 2)⌋₊ = em.mantissa := by
    rw [mul_div_cancel₀ x two_ne_zero, holds.mantissa]
  obtain ⟨halves, left⟩ := holds
  refine ⟨?_, ?_⟩
  · have low : (em.mantissa % 2 != 0).toNat = em.mantissa % 2 := by
      obtain even | odd := Nat.mod_two_eq_zero_or_one em.mantissa
      · simp [even]
      · simp [odd]
    rw [floor]
    simp only [ExtendedMantissa.shiftRightOne, low]
    omega
  · rw [floor, mul_div_cancel₀ x two_ne_zero, ← not_iff_not, Bool.not_eq_true, not_not]
    simp only [ExtendedMantissa.shiftRightOne, Bool.or_eq_false_iff]
    rw [← Bool.not_eq_true em.stickyBit, left, not_not]
    constructor
    · intro given
      obtain ⟨round, exact⟩ := given
      rw [round] at halves
      rw [← halves] at exact
      push_cast [Bool.toNat_false] at exact
      linarith
    · intro exact
      have twice : ⌊2 * x⌋₊ = 2 * em.mantissa := by rw [← exact, floor_twice_natCast]
      refine ⟨?_, ?_⟩
      · rw [← Bool.not_eq_true]
        intro round
        rw [round, Bool.toNat_true] at halves
        omega
      · rw [twice, ← exact]
        push_cast
        rfl

theorem shiftRight (holds : Holds em x) (n : Nat) : Holds (em >>> n) (x / 2 ^ n) := by
  induction n with
  | zero =>
    rw [pow_zero, div_one]
    exact holds
  | succ n ih =>
    have step := ih.shiftRightOne
    rwa [div_div, ← pow_succ] at step

end Holds

/-- A mantissa with its exponent as they stand in a packed float: 53 bits, of which the first is
set unless the exponent is the least one. -/
structure Canonical (m : Nat) (e : Int) : Prop where
  bits : m < 2 ^ 53
  least : -1074 ≤ e
  full : 2 ^ 52 ≤ m ∨ e = -1074

/-- A finite float that is not negative stands for a number. -/
inductive Spells : UnpackedFloat → Rat → Prop where
  | zero {s : Sign} : Spells (.zero s) 0
  | finite {m : Nat} {e : Int} {pos : 0 < m} (canonical : Canonical m e) :
      Spells (.finite .positive m e pos) (m * 2 ^ e)

theorem log_scaled {m : Nat} {x : Rat} (floor : m = ⌊x⌋₊) (pos : 0 < m) (e : Int) :
    Int.log 2 (x * 2 ^ e) = m.log2 + e := by
  have nonneg : 0 ≤ x := by
    by_contra negative
    have zero := Nat.floor_of_nonpos (le_of_not_ge negative)
    omega
  have below : (m : Rat) ≤ x := by rw [floor]; exact Nat.floor_le nonneg
  have above : x < m + 1 := by rw [floor]; exact Nat.lt_floor_add_one x
  have lower : (2 : Rat) ^ m.log2 ≤ m := by exact_mod_cast Nat.log2_self_le pos.ne'
  have upper : (m : Rat) + 1 ≤ 2 ^ (m.log2 + 1) := by exact_mod_cast Nat.lt_log2_self (n := m)
  have place := two_zpow_pos e
  have value : 0 < x * 2 ^ e := mul_pos (by linarith [pow_pos (two_pos (α := Rat)) m.log2]) place
  apply le_antisymm
  · refine Int.lt_add_one_iff.mp ((log_lt_iff value _).mpr ?_)
    calc x * 2 ^ e < 2 ^ (m.log2 + 1) * 2 ^ e := mul_lt_mul_of_pos_right (by linarith) place
      _ = 2 ^ ((m.log2 : Int) + e + 1) := by
        rw [← zpow_natCast, ← zpow_add₀ two_ne_zero]
        push_cast
        ring_nf
  · refine Int.le_of_sub_one_lt (not_le.mp fun le => ?_)
    have less := (log_lt_iff value (m.log2 + e)).mp (by omega)
    rw [zpow_add₀ two_ne_zero, zpow_natCast] at less
    exact absurd (lt_of_mul_lt_mul_right less place.le) (by linarith)

theorem targetExponent_total (m : Nat) (e : Int) :
    Format.binary64.targetExponent (totalExponent m e) = max (m.log2 + e - 52) (-1074) := by
  simp only [Format.targetExponent, totalExponent, Format.mantissaBits, Format.minExponent]
  omega

/-- Where enough of a number stands before the point, the place its mantissa is cut at is the last
one that rounding keeps. -/
theorem targetExponent_eq {m : Nat} {e : Int} {x : Rat} (pos : 0 < x) (floor : m = ⌊x⌋₊)
    (enough : 2 ^ 52 ≤ m ∨ e ≤ -1074) :
    Format.binary64.targetExponent (totalExponent m e) = lastPlace (x * 2 ^ e) ∧
      e ≤ lastPlace (x * 2 ^ e) := by
  rw [targetExponent_total, lastPlace]
  obtain zero | some := m.eq_zero_or_pos
  · have small : x < 1 := Nat.floor_eq_zero.mp (floor.symm.trans zero)
    have log : Int.log 2 (x * 2 ^ e) < e := by
      have place := two_zpow_pos e
      apply (log_lt_iff (mul_pos pos place) e).mpr
      nlinarith
    subst zero
    have none : Nat.log2 0 = 0 := by decide
    omega
  · rw [log_scaled floor some e]
    refine ⟨rfl, ?_⟩
    obtain full | least := enough
    · have := (Nat.le_log2 some.ne').mpr full
      omega
    · omega

theorem shiftToExponent_of_le {m : Nat} {e target : Int} {accuracy : Accuracy} (le : e ≤ target) :
    shiftToExponent m e accuracy target =
      (ExtendedMantissa.ofMantissaAndAccuracy m accuracy >>> (target - e).toNat, target) := by
  unfold shiftToExponent
  dsimp only
  congr 1
  omega

theorem shiftToTargetExponent_within {r : Nat} {g : Int} (bits : r < 2 ^ 53)
    (full : 2 ^ 52 ≤ r ∨ g = -1074) (least : -1074 ≤ g) :
    shiftToTargetExponent Format.binary64 r g .exact = (⟨r, false, false⟩, g) := by
  have log : r.log2 ≤ 52 := by
    obtain zero | some := r.eq_zero_or_pos
    · rw [zero]
      decide
    · exact Nat.le_of_lt_succ ((Nat.log2_lt some.ne').mpr bits)
  have target : Format.binary64.targetExponent (totalExponent r g) = g := by
    rw [targetExponent_total]
    obtain full | least := full
    · have := (Nat.le_log2 (by omega)).mpr full
      omega
    · omega
  simp only [shiftToTargetExponent, target]
  rw [shiftToExponent_of_le le_rfl, sub_self]
  rfl

/-- A mantissa that rounding has carried to `2 ^ 53` loses its last bit, which is zero. -/
theorem shiftToTargetExponent_carried {g : Int} (least : -1074 ≤ g) :
    shiftToTargetExponent Format.binary64 (2 ^ 53) g .exact = (⟨2 ^ 52, false, false⟩, g + 1) := by
  have target : Format.binary64.targetExponent (totalExponent (2 ^ 53) g) = g + 1 := by
    rw [targetExponent_total, Nat.log2_two_pow]
    omega
  simp only [shiftToTargetExponent, target]
  rw [shiftToExponent_of_le (by omega), add_sub_cancel_left]
  rfl

theorem spells_settled {r : Nat} {g : Int} (bits : r ≤ 2 ^ 53) (least : -1074 ≤ g)
    (full : 2 ^ 52 ≤ r ∨ g = -1074) :
    Spells
      (if h : (shiftToTargetExponent Format.binary64 r g .exact).1.mantissa = 0 then .zero .positive
        else .finite .positive _ (shiftToTargetExponent Format.binary64 r g .exact).2
          (Nat.pos_of_ne_zero h))
      (r * 2 ^ g) := by
  obtain rfl | within := bits.eq_or_lt
  · have value : ((2 ^ 53 : Nat) : Rat) * 2 ^ g = (2 ^ 52 : Nat) * 2 ^ (g + 1) := by
      rw [zpow_add_one₀ two_ne_zero]
      push_cast
      ring
    simp only [shiftToTargetExponent_carried least, value]
    exact .finite ⟨by decide, by omega, .inl le_rfl⟩
  · simp only [shiftToTargetExponent_within within full least]
    split
    · next zero =>
      rw [zero, Nat.cast_zero, zero_mul]
      exact .zero
    · exact .finite ⟨within, least, full⟩

/-- Rounding a mantissa and what is left below it is rounding the number. -/
theorem spells_roundWithAccuracy {m : Nat} {e : Int} {accuracy : Accuracy} {x : Rat} (pos : 0 < x)
    (holds : Holds (.ofMantissaAndAccuracy m accuracy) x) (enough : 2 ^ 52 ≤ m ∨ e ≤ -1074) :
    Spells (roundWithAccuracy Format.binary64 .positive m e accuracy) (rounded (x * 2 ^ e)) := by
  have floor : m = ⌊x⌋₊ := by
    rw [← holds.mantissa]
    rcases accuracy with _ | order
    · rfl
    · cases order <;> rfl
  obtain ⟨target, fine⟩ := targetExponent_eq pos floor enough
  have value : 0 < x * 2 ^ e := mul_pos pos (two_zpow_pos e)
  have units : x / 2 ^ (lastPlace (x * 2 ^ e) - e).toNat = x * 2 ^ e / 2 ^ lastPlace (x * 2 ^ e) := by
    have power := zpow_div_zpow fine
    push_cast at power
    rw [← power]
    field_simp
  have first : shiftToTargetExponent Format.binary64 m e accuracy =
      (ExtendedMantissa.ofMantissaAndAccuracy m accuracy >>> (lastPlace (x * 2 ^ e) - e).toNat,
        lastPlace (x * 2 ^ e)) := by
    unfold shiftToTargetExponent
    dsimp only
    rw [target, shiftToExponent_of_le fine]
  have mantissa := (holds.shiftRight (lastPlace (x * 2 ^ e) - e).toNat).roundedMantissa
  rw [units] at mantissa
  unfold roundWithAccuracy rounded
  simp only [first, mantissa]
  exact spells_settled (mantissa_le value) (le_max_right _ _) (le_mantissa value)

theorem shiftLeft_mul_zpow (m k : Nat) (e : Int) :
    ((m <<< k : Nat) : Rat) * 2 ^ (e - k) = m * 2 ^ e := by
  rw [Nat.shiftLeft_eq, Nat.cast_mul, Nat.cast_pow, Nat.cast_ofNat, mul_assoc, ← zpow_natCast,
    ← zpow_add₀ two_ne_zero, add_sub_cancel]

theorem decreased_mul_zpow (m : Nat) {e f : Int} (le : f ≤ e) :
    ((m <<< (e - f).toNat : Nat) : Rat) * 2 ^ f = m * 2 ^ e := by
  have value := shiftLeft_mul_zpow m (e - f).toNat e
  rwa [show e - ((e - f).toNat : Int) = f by omega] at value

theorem le_shiftLeft {m : Nat} (pos : 0 < m) {j k : Nat} (filled : j ≤ m.log2 + k) :
    2 ^ j ≤ m <<< k := by
  rw [Nat.shiftLeft_eq]
  calc 2 ^ j ≤ 2 ^ (m.log2 + k) := Nat.pow_le_pow_right two_pos filled
    _ ≤ m * 2 ^ k := by
      rw [pow_add]
      exact Nat.mul_le_mul_right _ (Nat.log2_self_le pos.ne')

/-- Rounding an exact mantissa, whatever its exponent. -/
theorem spells_round {m : Nat} (pos : 0 < m) (e : Int) :
    Spells (UnpackedFloat.round Format.binary64 .positive m e) (rounded (m * 2 ^ e)) := by
  unfold UnpackedFloat.round
  simp only [targetExponent_total, decreaseExponent]
  have value := shiftLeft_mul_zpow m (e - max (m.log2 + e - 52) (-1074)).toNat e
  rw [← value]
  refine spells_roundWithAccuracy ?_ (.natCast _) ?_
  · rw [Nat.shiftLeft_eq]
    positivity
  · obtain least | filled : e - (e - max (m.log2 + e - 52) (-1074)).toNat ≤ -1074 ∨
        52 ≤ m.log2 + (e - max (m.log2 + e - 52) (-1074)).toNat := by omega
    · exact .inr least
    · exact .inl (le_shiftLeft pos filled)

theorem spells_normalize (m : Nat) (e : Int) :
    Spells (UnpackedFloat.normalize Format.binary64 m e .positive) (rounded (m * 2 ^ e)) := by
  obtain zero | pos := m.eq_zero_or_pos
  · subst zero
    simp only [Nat.cast_zero, zero_mul, rounded_zero]
    exact .zero
  · have greater : compare (m : Int) 0 = .gt := compare_gt_iff_gt.mpr (by omega)
    unfold UnpackedFloat.normalize
    rw [greater]
    exact spells_round pos e

variable {u v : UnpackedFloat} {a b : Rat}

theorem Spells.nonneg (spells : Spells u a) : 0 ≤ a := by
  cases spells with
  | zero => rfl
  | finite => exact mul_nonneg (Nat.cast_nonneg _) (two_zpow_pos _).le

/-- What a float stands for is rounded already. -/
theorem Spells.kept (spells : Spells u a) : rounded a = a := by
  cases spells with
  | zero => exact rounded_zero
  | finite canonical => exact rounded_exact canonical.bits canonical.least

theorem spells_add (left : Spells u a) (right : Spells v b) :
    Spells (add Format.binary64 u v) (rounded (a + b)) := by
  cases left with
  | @zero s =>
    rw [zero_add, right.kept]
    cases right with
    | @zero t => cases s <;> cases t <;> exact .zero
    | finite canonical => exact .finite canonical
  | @finite m e pos canonical =>
    cases right with
    | zero =>
      rw [add_zero, rounded_exact canonical.bits canonical.least]
      exact .finite canonical
    | @finite n f pos' canonical' =>
      have sum := spells_normalize (m <<< (e - min e f).toNat + n <<< (f - min e f).toNat) (min e f)
      rw [Nat.cast_add (R := Rat), add_mul, decreased_mul_zpow m (min_le_left e f),
        decreased_mul_zpow n (min_le_right e f)] at sum
      exact sum

theorem spells_sub (left : Spells u a) (right : Spells v b) (le : b ≤ a) :
    Spells (sub Format.binary64 u v) (rounded (a - b)) := by
  cases right with
  | @zero t =>
    rw [sub_zero, left.kept]
    cases left with
    | @zero s => cases s <;> cases t <;> exact .zero
    | finite canonical => exact .finite canonical
  | @finite n f pos canonical =>
    have positive : 0 < (n : Rat) * 2 ^ f := mul_pos (Nat.cast_pos.mpr pos) (two_zpow_pos f)
    cases left with
    | zero => exact absurd le positive.not_ge
    | @finite m e =>
      have shifted : n <<< (f - min e f).toNat ≤ m <<< (e - min e f).toNat := by
        have := two_zpow_pos (min e f)
        rw [← decreased_mul_zpow m (min_le_left e f), ← decreased_mul_zpow n (min_le_right e f)] at le
        exact_mod_cast le_of_mul_le_mul_right le this
      have difference :=
        spells_normalize (m <<< (e - min e f).toNat - n <<< (f - min e f).toNat) (min e f)
      rw [Nat.cast_sub (R := Rat) shifted, sub_mul, decreased_mul_zpow m (min_le_left e f),
        decreased_mul_zpow n (min_le_right e f), Int.ofNat_sub shifted] at difference
      exact difference

theorem spells_mul (left : Spells u a) (right : Spells v b) :
    Spells (mul Format.binary64 u v) (rounded (a * b)) := by
  cases left with
  | zero =>
    rw [zero_mul, rounded_zero]
    cases right <;> exact .zero
  | @finite m e pos canonical =>
    cases right with
    | zero =>
      rw [mul_zero, rounded_zero]
      exact .zero
    | @finite n f pos' canonical' =>
      have product : (m : Rat) * 2 ^ e * (n * 2 ^ f) = (m * n : Nat) * 2 ^ (e + f) := by
        rw [zpow_add₀ two_ne_zero, Nat.cast_mul]
        ring
      rw [product]
      apply spells_roundWithAccuracy (by positivity) (.natCast _)
      obtain full | least := canonical.full
      · exact .inl (full.trans (Nat.le_mul_of_pos_right m pos'))
      · obtain full' | least' := canonical'.full
        · exact .inl (full'.trans (Nat.le_mul_of_pos_left n pos))
        · exact .inr (by omega)

theorem div_twice (n : Nat) {d : Nat} (pos : 0 < d) :
    2 * n / d = 2 * (n / d) + 2 * (n % d) / d := by
  have parts : 2 * n = 2 * (n % d) + d * (2 * (n / d)) := by
    have := Nat.div_add_mod n d
    linarith
  rw [parts, Nat.add_mul_div_left _ _ pos, add_comm]

theorem quotient_halves {n d : Nat} (pos : 0 < d) {em : ExtendedMantissa}
    (quotient : em = .ofMantissaAndAccuracy (n / d) (accuracyOfFraction (n % d) d)) :
    2 * em.mantissa + em.roundBit.toNat = 2 * n / d := by
  have less := Nat.mod_lt n pos
  rw [quotient, div_twice n pos]
  unfold accuracyOfFraction
  split
  · next zero =>
    rw [zero, mul_zero, Nat.zero_div]
    rfl
  · cases order : compare (2 * (n % d)) d with
    | lt =>
      rw [Nat.div_eq_of_lt (compare_lt_iff_lt.mp order)]
      rfl
    | eq =>
      rw [compare_eq_iff_eq.mp order, Nat.div_self pos]
      rfl
    | gt =>
      have above := compare_gt_iff_gt.mp order
      have one : 2 * (n % d) / d = 1 := Nat.div_eq_of_lt_le (by omega) (by omega)
      rw [one]
      rfl

theorem quotient_left {n d : Nat} (pos : 0 < d) {em : ExtendedMantissa}
    (quotient : em = .ofMantissaAndAccuracy (n / d) (accuracyOfFraction (n % d) d)) :
    em.stickyBit = true ↔ 2 * n % d ≠ 0 := by
  have less := Nat.mod_lt n pos
  rw [quotient, ← Nat.mul_mod_mod 2 n d]
  unfold accuracyOfFraction
  split
  · next zero =>
    rw [zero, mul_zero, Nat.zero_mod]
    exact iff_of_false Bool.false_ne_true (not_not_intro rfl)
  · next remains =>
    cases order : compare (2 * (n % d)) d with
    | lt =>
      rw [Nat.mod_eq_of_lt (compare_lt_iff_lt.mp order)]
      exact iff_of_true rfl (by omega)
    | eq =>
      rw [compare_eq_iff_eq.mp order, Nat.mod_self]
      exact iff_of_false Bool.false_ne_true (not_not_intro rfl)
    | gt =>
      have above := compare_gt_iff_gt.mp order
      rw [Nat.mod_eq_sub_mod (by omega), Nat.mod_eq_of_lt (by omega)]
      exact iff_of_true rfl (by omega)

/-- The quotient of two mantissas and what its remainder leaves below it. -/
theorem holds_div {n d : Nat} (pos : 0 < d) :
    Holds (.ofMantissaAndAccuracy (n / d) (accuracyOfFraction (n % d) d)) (n / d : Rat) := by
  have twice : 2 * (n / d : Rat) = (2 * n : Nat) / (d : Rat) := by
    push_cast
    ring
  have floor : ⌊2 * (n / d : Rat)⌋₊ = 2 * n / d := by
    rw [twice, Nat.floor_div_natCast, Nat.floor_natCast]
  have whole : ((2 * n / d : Nat) : Rat) = 2 * (n / d : Rat) ↔ 2 * n % d = 0 := by
    have parts := Nat.div_add_mod' (2 * n) d
    rw [twice, eq_div_iff (Nat.cast_pos.mpr pos).ne', ← Nat.cast_mul, Nat.cast_inj]
    omega
  refine ⟨?_, ?_⟩
  · rw [floor]
    exact quotient_halves pos rfl
  · rw [floor, ne_eq, whole]
    exact quotient_left pos rfl

/-- A quotient that is carried far enough fills the mantissa. -/
theorem quotient_full {m n k : Nat} (pos : 0 < m) (pos' : 0 < n)
    (filled : 52 + (n.log2 + 1) ≤ m.log2 + k) : 2 ^ 52 ≤ m <<< k / n := by
  rw [Nat.le_div_iff_mul_le pos']
  calc 2 ^ 52 * n ≤ 2 ^ 52 * 2 ^ (n.log2 + 1) := Nat.mul_le_mul_left _ Nat.lt_log2_self.le
    _ ≤ m <<< k := by
      rw [← pow_add]
      exact le_shiftLeft pos filled

theorem spells_div {n : Nat} {f : Int} {pos' : 0 < n} (left : Spells u a) :
    Spells (div Format.binary64 u (.finite .positive n f pos'))
      (rounded (a / (n * 2 ^ f))) := by
  cases left with
  | zero =>
    rw [zero_div, rounded_zero]
    exact .zero
  | @finite m e pos canonical =>
    generalize at_ : min (e - f) (max (m.log2 + e - (n.log2 + f) - 53) (-1074)) = t
    have place : t ≤ e - f := by omega
    have division : div Format.binary64 (.finite .positive m e pos) (.finite .positive n f pos') =
        roundWithAccuracy Format.binary64 .positive (m <<< (e - f - t).toNat / n) t
          (accuracyOfFraction (m <<< (e - f - t).toNat % n) n) := by
      have target : min (e - f)
          (Format.binary64.targetExponent (totalExponent m e - totalExponent n f)) = t := by
        simp only [Format.targetExponent, totalExponent, Format.mantissaBits, Format.minExponent]
        omega
      simp only [UnpackedFloat.div, divCore, target]
      rfl
    have quotient : (m : Rat) * 2 ^ e / (n * 2 ^ f) = (m <<< (e - f - t).toNat : Nat) / n * 2 ^ t := by
      have shifted := decreased_mul_zpow m place
      rw [div_mul_eq_mul_div, shifted, zpow_sub₀ two_ne_zero]
      field_simp
    rw [division, quotient]
    refine spells_roundWithAccuracy ?_ (holds_div pos') ?_
    · rw [Nat.shiftLeft_eq]
      positivity
    · obtain least | filled : t ≤ -1074 ∨ 52 + (n.log2 + 1) ≤ m.log2 + (e - f - t).toNat := by omega
      · exact .inr least
      · exact .inl (quotient_full pos pos' filled)

end WidgetRepair.Binary64
