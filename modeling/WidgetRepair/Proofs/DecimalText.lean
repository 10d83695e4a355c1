import WidgetRepair.Proofs.FloatFinite
import WidgetRepair.Proofs.JsonTokens

/-! Decimals as texts: the shortest decimal of a value is hardly above the value, and its text is
that of a numeral. -/

namespace WidgetRepair.Decimal

open Binary64

/-- The parts of a finite float. -/
structure Dyadic.Plain (x : Dyadic) : Prop where
  bits : x.mantissa < 2 ^ 53
  exponent : x.exponent ≤ 971

theorem unpackExponent_toNat (b : BitVec Float.Model.Format.binary64.numBits) :
    (Float.Model.UnpackedFloat.unpackExponent b).toNat = b.toNat / 2 ^ 52 % 2048 := by
  unfold Float.Model.UnpackedFloat.unpackExponent
  rw [BitVec.toNat_cast, BitVec.extractLsb_toNat, Nat.shiftRight_eq_div_pow]
  rfl

theorem ofBits?_isFinite {x : Float} (finite : x.isFinite = true) :
    ∃ v, Dyadic.ofBits? x.toBits = some v ∧ v.Plain := by
  have exponent : x.toBits.toNat / 2 ^ 52 % 2048 ≠ 2047 := by
    have other := isFinite_unpack.mp (show x.toModel.unpack.isFinite = true from finite)
    intro top
    apply other
    apply BitVec.eq_of_toNat_eq
    rw [unpackExponent_toNat]
    exact top
  unfold Dyadic.ofBits?
  have powers : Nat.pow 2 52 = 2 ^ 52 := rfl
  simp only [powers, exponent, if_false]
  split
  · exact ⟨_, rfl, by dsimp only; omega, by dsimp only; omega⟩
  · exact ⟨_, rfl, by dsimp only; omega, by dsimp only; omega⟩

theorem ratio_value (x : Dyadic) :
    0 < x.ratio.2 ∧ (x.ratio.1 : Rat) = x.mantissa * 2 ^ x.exponent * x.ratio.2 := by
  unfold Dyadic.ratio
  split
  · next above =>
    refine ⟨Nat.one_pos, ?_⟩
    have power : (2 : Rat) ^ x.exponent = 2 ^ x.exponent.toNat := by
      rw [← zpow_natCast, Int.toNat_of_nonneg above]
    simp [power]
  · next below =>
    refine ⟨Nat.pow_pos (by decide), ?_⟩
    have power : (2 : Rat) ^ x.exponent * 2 ^ (-x.exponent).toNat = 1 := by
      rw [← zpow_natCast, ← zpow_add₀ two_ne_zero, Int.toNat_of_nonneg (by omega), add_neg_cancel, zpow_zero]
    simp [mul_assoc, power]

theorem inUnits_value (num : Nat) {den : Nat} (pos : 0 < den) (unit : Int) :
    0 < (inUnits num den unit).2 ∧
      ((inUnits num den unit).1 : Rat) * den * 10 ^ unit = num * (inUnits num den unit).2 := by
  unfold inUnits
  split
  · next above =>
    refine ⟨Nat.mul_pos pos (Nat.pow_pos (by decide)), ?_⟩
    have power : (10 : Rat) ^ unit = 10 ^ unit.toNat := by
      rw [← zpow_natCast, Int.toNat_of_nonneg above]
    simp [power]
    ring
  · next below =>
    refine ⟨pos, ?_⟩
    have power : (10 : Rat) ^ (-unit).toNat * 10 ^ unit = 1 := by
      rw [← zpow_natCast, ← zpow_add₀ (by norm_num), Int.toNat_of_nonneg (by omega), neg_add_cancel, zpow_zero]
    simp
    linear_combination (num * den : Rat) * power

/-- What a point that rounds to a value is bounded by. -/
theorem roundsTo_bound {x : Dyadic} {num den count : Nat} (rounds : roundsTo x num den count = true) :
    num * (4 * x.mantissa - 2) ≤ count * 4 * x.mantissa * den ∧
      count * 4 * x.mantissa * den ≤ num * (4 * x.mantissa + 2) := by
  unfold roundsTo at rounds
  dsimp only at rounds
  generalize same : (if (decide (x.mantissa = Nat.pow 2 52) && x.exponent != -1074) = true then 1 else 2) =
    below at rounds
  have small : below ≤ 2 := by
    rw [← same]
    split <;> decide
  have low : num * (4 * x.mantissa - 2) ≤ num * (4 * x.mantissa - below) :=
    Nat.mul_le_mul_left _ (by omega)
  split at rounds
  · simp only [Bool.and_eq_true, decide_eq_true_eq] at rounds
    exact ⟨low.trans rounds.1, rounds.2⟩
  · simp only [Bool.and_eq_true, decide_eq_true_eq] at rounds
    exact ⟨low.trans rounds.1.le, rounds.2.le⟩

/-- A decimal is not above what still rounds to a value. -/
def Numeral.Below (d : Numeral) (b : Rat) : Prop := 0 < d.digits ∧ (d.digits : Rat) * 10 ^ d.unit ≤ b

theorem below_of_roundsTo {x : Dyadic} {count : Nat} {unit : Int} (pos : 0 < x.mantissa)
    (rounds : roundsTo x (inUnits x.ratio.1 x.ratio.2 unit).1 (inUnits x.ratio.1 x.ratio.2 unit).2 count = true) :
    (Numeral.mk count unit).Below ((x.mantissa + 1 / 2) * 2 ^ x.exponent) := by
  obtain ⟨low, high⟩ := roundsTo_bound rounds
  obtain ⟨ratio_pos, ratio⟩ := ratio_value x
  obtain ⟨units_pos, units⟩ := inUnits_value x.ratio.1 ratio_pos unit
  generalize (inUnits x.ratio.1 x.ratio.2 unit).1 = num at *
  generalize (inUnits x.ratio.1 x.ratio.2 unit).2 = den at *
  have place := two_zpow_pos x.exponent
  have ten : (0 : Rat) < 10 ^ unit := zpow_pos (by norm_num) unit
  have mantissa : (0 : Rat) < x.mantissa := by exact_mod_cast pos
  have bottom : (0 : Rat) < x.ratio.2 := by exact_mod_cast ratio_pos
  have divisor : (0 : Rat) < den := by exact_mod_cast units_pos
  have scaled : (num : Rat) * 10 ^ unit = x.mantissa * 2 ^ x.exponent * den := by
    have cancel : (num : Rat) * 10 ^ unit * x.ratio.2 = x.mantissa * 2 ^ x.exponent * den * x.ratio.2 := by
      rw [ratio] at units
      linear_combination units
    exact mul_right_cancel₀ bottom.ne' cancel
  refine ⟨?_, ?_⟩
  · by_contra none
    have zero : count = 0 := Nat.eq_zero_of_not_pos none
    subst zero
    have nothing : num = 0 := by
      have empty : num * (4 * x.mantissa - 2) = 0 := by omega
      obtain none | none := Nat.mul_eq_zero.mp empty
      · exact none
      · omega
    rw [nothing, Nat.cast_zero, zero_mul] at scaled
    have : (0 : Rat) < x.mantissa * 2 ^ x.exponent * den := by positivity
    exact this.ne scaled
  · have high : (count * 4 * x.mantissa * den : Rat) ≤ num * (4 * x.mantissa + 2) := by exact_mod_cast high
    have whole : (count : Rat) * 10 ^ unit * (4 * x.mantissa * den) ≤
        (x.mantissa + 1 / 2) * 2 ^ x.exponent * (4 * x.mantissa * den) := by
      have stepped := mul_le_mul_of_nonneg_right high ten.le
      linear_combination stepped + (4 * x.mantissa + 2) * scaled
    exact le_of_mul_le_mul_right whole (by positivity)

theorem below_of_onGrid {x : Dyadic} {places : Nat} {d : Numeral} (pos : 0 < x.mantissa)
    (grid : onGrid? x places = some d) : d.Below ((x.mantissa + 1 / 2) * 2 ^ x.exponent) := by
  unfold onGrid? at grid
  dsimp only at grid
  split at grid
  · next below above =>
    cases grid
    split
    · exact below_of_roundsTo pos below
    · exact below_of_roundsTo pos above
  · next below _ =>
    cases grid
    exact below_of_roundsTo pos below
  · next _ above =>
    cases grid
    exact below_of_roundsTo pos above
  · cases grid

/-- The shortest decimal of a positive value is not above what still rounds to the value; where no
grid has one, it is the mantissa. -/
theorem shortest_below {x : Dyadic} (pos : 0 < x.mantissa) {b : Rat}
    (bound : (x.mantissa + 1 / 2) * 2 ^ x.exponent ≤ b) (mantissa : (x.mantissa : Rat) ≤ b) :
    (shortest x).Below b := by
  unfold shortest
  cases found : (List.range 17).findSome? fun n => onGrid? x (n + 1) with
  | none => exact ⟨pos, by simpa using mantissa⟩
  | some d =>
    obtain ⟨n, -, grid⟩ := List.exists_of_findSome?_eq_some found
    obtain ⟨some, le⟩ := below_of_onGrid pos grid
    exact ⟨some, le.trans bound⟩

/-- The digits without trailing zeros and the place of the first one. -/
structure Leading (ds : List Char) (e : Int) (b : Rat) : Prop where
  digits : Json.Digits ds
  first : ds.head? ≠ some '0'
  value : (Nat.ofDigitChars 10 ds 0 : Rat) * 10 ^ (e - ds.length + 1) ≤ b
  place : (10 : Rat) ^ e ≤ b

theorem trailing_zeros (text : List Char) :
    ∃ k, (text.reverse.dropWhile (· == '0')).reverse ++ List.replicate k '0' = text := by
  have split := List.takeWhile_append_dropWhile (p := (· == '0')) (l := text.reverse)
  have zeros : text.reverse.takeWhile (· == '0') =
      List.replicate (text.reverse.takeWhile (· == '0')).length '0' := by
    refine List.eq_replicate_of_mem fun c member => ?_
    simpa using List.mem_takeWhile_imp member
  refine ⟨(text.reverse.takeWhile (· == '0')).length, ?_⟩
  rw [zeros] at split
  have back := congrArg List.reverse split
  simpa using back

theorem significant_leading {d : Numeral} {b : Rat} (below : d.Below b) :
    Leading d.significant.1 d.significant.2 b := by
  obtain ⟨pos, le⟩ := below
  obtain ⟨k, whole⟩ := trailing_zeros (Nat.toDigits 10 d.digits)
  have shape : d.significant = (((Nat.toDigits 10 d.digits).reverse.dropWhile (· == '0')).reverse,
      d.unit + (Nat.toDigits 10 d.digits).length - 1) := rfl
  rw [shape]
  dsimp only
  generalize ((Nat.toDigits 10 d.digits).reverse.dropWhile (· == '0')).reverse = ds at whole
  obtain ⟨-, all⟩ := Json.digits_toDigits d.digits
  have head : (Nat.toDigits 10 d.digits).head? ≠ some '0' := fun led => pos.ne' (Json.head_toDigits led)
  have filled : ds ≠ [] := by
    rintro rfl
    cases k with
    | zero => exact Nat.toDigits_ne_nil whole.symm
    | succ k => exact head (whole ▸ rfl)
  have value : Nat.ofDigitChars 10 ds 0 * 10 ^ k = d.digits := by
    have digits := Nat.ofDigitChars_ten_toDigits (n := d.digits)
    rw [← whole, Nat.ofDigitChars_append, Nat.ofDigitChars_replicate_zero] at digits
    rw [Nat.mul_comm, digits]
  have length : (Nat.toDigits 10 d.digits).length = ds.length + k := by
    rw [← whole, List.length_append, List.length_replicate]
  have ten : (0 : Rat) < 10 := by norm_num
  refine ⟨⟨filled, fun c member => all c (whole ▸ List.mem_append_left _ member)⟩, ?_, ?_, ?_⟩
  · obtain ⟨c, more, rfl⟩ := List.exists_cons_of_ne_nil filled
    rw [← whole] at head
    exact head
  · have exponent : d.unit + (Nat.toDigits 10 d.digits).length - 1 - ds.length + 1 = d.unit + k := by
      rw [length]
      push_cast
      ring
    rw [exponent, add_comm, zpow_add₀ ten.ne', zpow_natCast, ← mul_assoc]
    refine le_trans (le_of_eq ?_) le
    rw [← value]
    push_cast
    ring
  · have least : 10 ^ ((Nat.toDigits 10 d.digits).length - 1) ≤ d.digits := by
      by_cases single : (Nat.toDigits 10 d.digits).length - 1 = 0
      · rw [single]
        exact pos
      · by_contra less
        have short := (Nat.length_toDigits_le_iff (b := 10) (by decide) (Nat.pos_of_ne_zero single)).mpr
          (not_le.mp less)
        omega
    have size : (1 : Nat) ≤ (Nat.toDigits 10 d.digits).length := Nat.length_toDigits_pos
    have exponent : d.unit + (Nat.toDigits 10 d.digits).length - 1 =
        ((Nat.toDigits 10 d.digits).length - 1 : Nat) + d.unit := by
      push_cast [size]
      ring
    rw [exponent, zpow_add₀ ten.ne', zpow_natCast]
    refine le_trans (mul_le_mul_of_nonneg_right ?_ (zpow_pos ten _).le) le
    exact_mod_cast least

end WidgetRepair.Decimal

namespace WidgetRepair.Json

open Binary64 Decimal

/-- A positive decimal as the numeral it is written as. -/
def spelled (negative : Bool) (ds : List Char) (e : Int) : Numeral :=
  if -5 ≤ e ∧ e ≤ 15 then
    if ds.length - 1 ≤ e then ⟨negative, ds ++ zeros (e - ds.length + 1), some ['0'], none⟩
    else if 0 ≤ e then ⟨negative, ds.take (e + 1).toNat, some (ds.drop (e + 1).toNat), none⟩
    else ⟨negative, ['0'], some (zeros (-e - 1) ++ ds), none⟩
  else
    ⟨negative, ds.take 1, if ds.drop 1 = [] then none else some (ds.drop 1),
      some (decide (e < 0), naturalText e.natAbs)⟩

theorem text_spelled (negative : Bool) (d : Decimal.Numeral) :
    (spelled negative d.significant.1 d.significant.2).text =
      (if negative then ['-'] else []) ++ decimalText realLayout d := by
  unfold decimalText
  generalize d.significant = parts
  obtain ⟨ds, e⟩ := parts
  have layout : realLayout.leastPositional = -5 ∧ realLayout.mostPositional = 15 := ⟨rfl, rfl⟩
  simp only [layout.1, layout.2, Bool.and_eq_true, decide_eq_true_eq]
  by_cases near : -5 ≤ e ∧ e ≤ 15
  · by_cases long : (ds.length : Int) - 1 ≤ e
    · simp [spelled, near, long, Numeral.text, Numeral.fractionText, Numeral.exponentText]
    · by_cases whole : 0 ≤ e <;>
        simp [spelled, near, long, whole, Numeral.text, Numeral.fractionText, Numeral.exponentText]
  · simp only [spelled, near, if_false, Numeral.text, Numeral.exponentText, decide_eq_true_eq]
    cases ds.drop 1 <;> simp [Numeral.fractionText]

theorem digits_replicate (count : Int) : ∀ c ∈ zeros count, isDigit c = true := by
  intro c member
  rw [List.eq_of_mem_replicate member]
  rfl

theorem digits_of_mem {ds part : List Char} (digits : Digits ds) (within : ∀ c ∈ part, c ∈ ds)
    (some : part ≠ []) : Digits part :=
  ⟨some, fun c member => digits.2 c (within c member)⟩

theorem proper_spelled {ds : List Char} {e : Int} (digits : Digits ds) (first : ds.head? ≠ some '0')
    (negative : Bool) : (spelled negative ds e).Proper := by
  obtain ⟨some, all⟩ := id digits
  obtain ⟨c, more, rfl⟩ := List.exists_cons_of_ne_nil some
  unfold spelled
  split
  · split
    · refine ⟨⟨by simp, ?_⟩, fun led => absurd led (by simpa using first), ?_, nofun⟩
      · intro d member
        exact (List.mem_append.mp member).elim (all d) (digits_replicate _ d)
      · rintro part ⟨⟩
        exact ⟨by simp, by simp [isDigit]⟩
    · next long =>
      split
      · next whole =>
        obtain ⟨n, size⟩ : ∃ n, (e + 1).toNat = n + 1 := ⟨e.toNat, by omega⟩
        rw [size]
        refine ⟨digits_of_mem digits (fun d => List.mem_of_mem_take) (by simp),
          fun led => absurd led (by simpa using first), ?_, nofun⟩
        rintro part ⟨⟩
        refine digits_of_mem digits (fun d => List.mem_of_mem_drop) ?_
        rw [List.length_cons] at long
        simp
        omega
      · refine ⟨⟨by simp, by simp [isDigit]⟩, fun _ => Nat.le_refl 1, ?_, nofun⟩
        rintro part ⟨⟩
        refine ⟨by simp, fun d member => ?_⟩
        exact (List.mem_append.mp member).elim (digits_replicate _ d) (all d)
  · refine ⟨digits_of_mem digits (fun d => List.mem_of_mem_take) (by simp), fun _ => by simp, ?_, ?_⟩
    · intro part member
      split at member
      · cases member
      · next filled =>
        cases member
        exact digits_of_mem digits (fun d => List.mem_of_mem_drop) filled
    · rintro part ⟨⟩
      exact digits_toDigits e.natAbs

end WidgetRepair.Json
