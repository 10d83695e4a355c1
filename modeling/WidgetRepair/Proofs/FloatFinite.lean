import WidgetRepair.Proofs.PatternScore

/-! Floats that are numbers, of either sign. Confidence stays one however it is raised and lowered. -/

namespace WidgetRepair.Binary64

open Float.Model Float.Model.UnpackedFloat

/-- A packed float is finite unless all bits of its exponent are set. -/
theorem isFinite_unpack {b : BitVec Format.binary64.numBits} :
    (UnpackedFloat.unpack Format.binary64 b).isFinite = true ↔ unpackExponent b ≠ -1#11 := by
  unfold UnpackedFloat.unpack
  dsimp only
  split
  · next top =>
    refine ⟨fun finite => ?_, fun other => absurd top other⟩
    split at finite <;> cases finite
  · next other =>
    refine ⟨fun _ => other, fun _ => ?_⟩
    split
    · split <;> rfl
    · rfl

theorem isFinite_pack_finite {s : Sign} {m : Nat} {e : Int} {pos : 0 < m} (le : e ≤ greatestExponent) :
    (Float.Model.pack (.finite s m e pos)).unpack.isFinite = true := by
  show (UnpackedFloat.unpack Format.binary64 (UnpackedFloat.pack Format.binary64 _)).isFinite = true
  have bias : e + Format.binary64.exponentBias + Format.binary64.mantissaBitsWithoutImplicit = e + 1075 := by
    show e + (1023 : Nat) + (52 : Nat) = _
    omega
  unfold greatestExponent at le
  have finite : ¬2 ^ Format.binary64.exponentBits ≤ (e + 1075).toNat + 1 := by
    show ¬2 ^ 11 ≤ _
    omega
  rw [isFinite_unpack]
  unfold UnpackedFloat.pack
  simp only [bias, if_neg finite]
  split
  · rw [unpackExponent_packComponents]
    intro top
    have size := congrArg BitVec.toNat top
    rw [BitVec.toNat_ofNat] at size
    have all : (-1#11).toNat = 2047 := rfl
    have := all ▸ size
    have : (e + 1075).toNat % 2 ^ 11 = 2047 := this
    omega
  · rw [unpackExponent_packComponents]
    decide

theorem isFinite_pack_zero (s : Sign) : (Float.Model.pack (.zero s)).unpack.isFinite = true := by
  rw [unpack_pack_zero]
  rfl

theorem isFinite_pack {u : UnpackedFloat} {a : Rat} (spells : Spells u a) (less : a < 2 ^ 1024) :
    (Float.Model.pack u).unpack.isFinite = true ∧ (Float.Model.pack u.neg).unpack.isFinite = true := by
  cases spells with
  | zero => exact ⟨isFinite_pack_zero _, isFinite_pack_zero _⟩
  | finite canonical =>
    have le := canonical.lt_iff.mp less
    exact ⟨isFinite_pack_finite le, isFinite_pack_finite le⟩

theorem Reads.isFinite {x : Float} {a : Rat} (reads : Reads x a) : x.isFinite = true := by
  show x.toModel.unpack.isFinite = true
  have spells := Stands.spells reads
  generalize x.toModel.unpack = u at spells
  cases spells <;> rfl

theorem Reads.times {x y : Float} {a b : Rat} (left : Reads x a) (right : Reads y b) :
    Reads (x * y) (near (a * b : Rat)) :=
  left.mul right (fun top => absurd top WithTop.coe_ne_top) (fun top => absurd top WithTop.coe_ne_top)

/-- A finite float that has a value has a number. -/
theorem exists_coe {x : Float} {a : WithTop Rat} (reads : Reads x a) (finite : x.isFinite = true) :
    ∃ b : Rat, (b : WithTop Rat) = a := by
  refine WithTop.ne_top_iff_exists.mp ?_
  rintro rfl
  have unpacked : x.toModel.unpack.isFinite = true := finite
  rw [Stands.eq_infinity reads] at unpacked
  cases unpacked

theorem Reads.isFinite_of_isInf {x : Float} {a : WithTop Rat} (reads : Reads x a) (kept : ¬x.isInf = true) :
    x.isFinite = true := by
  induction a with
  | coe b => exact Reads.isFinite reads
  | top =>
    refine absurd ?_ kept
    show x.toModel.unpack.isInf = true
    rw [Stands.eq_infinity reads]
    rfl

theorem isInf_of_isFinite {x : Float} (finite : x.isFinite = true) : x.isInf = false := by
  have unpacked : x.toModel.unpack.isFinite = true := finite
  show x.toModel.unpack.isInf = false
  generalize x.toModel.unpack = u at unpacked
  cases u with
  | infinity | notANumber => cases unpacked
  | zero | finite => rfl

theorem isFinite_neg {x : Float} (finite : x.isFinite = true) : (-x).isFinite = true := by
  have unpacked : x.toModel.unpack.isFinite = true := finite
  show (Float.Model.pack x.toModel.unpack.neg).unpack.isFinite = true
  generalize same : x.toModel.unpack = u at unpacked
  rcases u with s | _ | s | ⟨s, m, e, pos⟩
  · cases unpacked
  · cases unpacked
  · exact isFinite_pack_zero _
  · exact isFinite_pack_finite (canonical_of_unpack same).2

theorem roundWithAccuracy_negative (m : Nat) (e : Int) (accuracy : Accuracy) :
    roundWithAccuracy Format.binary64 .negative m e accuracy =
      (roundWithAccuracy Format.binary64 .positive m e accuracy).neg := by
  unfold roundWithAccuracy
  dsimp only
  split <;> rfl

/-- A sum that is no larger than a finite float is finite. -/
theorem isFinite_normalize {k : Int} {e : Int} {a : Rat} (le : (k.natAbs : Rat) * 2 ^ e ≤ a)
    (kept : rounded a < 2 ^ 1024) :
    (Float.Model.pack (UnpackedFloat.normalize Format.binary64 k e .positive)).unpack.isFinite = true := by
  have place := two_zpow_pos e
  have less : rounded (k.natAbs * 2 ^ e) < 2 ^ 1024 :=
    (rounded_mono (mul_nonneg (Nat.cast_nonneg _) place.le) le).trans_lt kept
  unfold UnpackedFloat.normalize
  obtain below | zero | above := lt_trichotomy k 0
  · rw [compare_lt_iff_lt.mpr below]
    have size : (-k).toNat = k.natAbs := by omega
    have spells := spells_round (m := k.natAbs) (by omega) e
    have same : UnpackedFloat.round Format.binary64 .negative k.natAbs e =
        (UnpackedFloat.round Format.binary64 .positive k.natAbs e).neg := by
      unfold UnpackedFloat.round
      exact roundWithAccuracy_negative _ _ _
    simp only [size, same]
    exact (isFinite_pack spells less).2
  · rw [compare_eq_iff_eq.mpr zero]
    exact isFinite_pack_zero _
  · rw [compare_gt_iff_gt.mpr above]
    have size : k.toNat = k.natAbs := by omega
    have spells := spells_round (m := k.natAbs) (by omega) e
    simp only [size]
    exact (isFinite_pack spells less).1

/-- The greatest finite float. -/
def greatest : Float := Float.ofBits 0x7FEFFFFFFFFFFFFF

theorem reads_greatest : Reads greatest ((2 ^ 53 - 1 : Nat) * 2 ^ (971 : Int) : Rat) :=
  reads_of_parts (by decide : parts? greatest = some (2 ^ 53 - 1, 971)) rfl

theorem le_greatest {m : Nat} {e : Int} (canonical : Canonical m e) (le : e ≤ greatestExponent) :
    (m * 2 ^ e : Rat) ≤ (2 ^ 53 - 1 : Nat) * 2 ^ (971 : Int) := by
  have bits : m ≤ 2 ^ 53 - 1 := Nat.le_sub_one_of_lt canonical.bits
  exact mul_le_mul (by exact_mod_cast bits) (zpow_le_zpow_right₀ one_le_two le) (two_zpow_pos e).le
    (Nat.cast_nonneg _)

theorem rounded_lt_of_isFinite {y : Float} {b : Rat} (reads : Reads y b)
    (room : (greatest + y).isFinite = true) :
    rounded ((2 ^ 53 - 1 : Nat) * 2 ^ (971 : Int) + b) < 2 ^ 1024 := by
  have sum := reads_greatest.add reads
  rw [← WithTop.coe_add, near_coe] at sum
  split at sum
  · assumption
  · have unpacked : (greatest + y).toModel.unpack.isFinite = true := room
    rw [Stands.eq_infinity sum] at unpacked
    cases unpacked

section Sums

variable {x y : Float} {b : Rat}

theorem natAbs_apply (s : Sign) (m : Nat) : (s.apply (m : Int)).natAbs = m := by
  cases s
  · exact Int.natAbs_neg m
  · rfl

theorem sum_le {m n : Nat} {e f k : Int} (le : k.natAbs ≤ m <<< (e - min e f).toNat + n <<< (f - min e f).toNat) :
    (k.natAbs : Rat) * 2 ^ min e f ≤ m * 2 ^ e + n * 2 ^ f := by
  have place := two_zpow_pos (min e f)
  rw [← decreased_mul_zpow m (min_le_left e f), ← decreased_mul_zpow n (min_le_right e f), ← add_mul]
  refine mul_le_mul_of_nonneg_right ?_ place.le
  exact_mod_cast le

/-- Adding or taking away what the greatest float can still take keeps any float finite. -/
theorem isFinite_sum (finite : x.isFinite = true) (reads : Reads y b)
    (room : (greatest + y).isFinite = true) : (x + y).isFinite = true ∧ (x - y).isFinite = true := by
  have kept := rounded_lt_of_isFinite reads room
  have unpacked : x.toModel.unpack.isFinite = true := finite
  show (Float.Model.pack (UnpackedFloat.add _ x.toModel.unpack y.toModel.unpack)).unpack.isFinite = true ∧
    (Float.Model.pack (UnpackedFloat.sub _ x.toModel.unpack y.toModel.unpack)).unpack.isFinite = true
  have spells := Stands.spells reads
  generalize left : x.toModel.unpack = u at unpacked
  generalize right : y.toModel.unpack = v at spells
  cases spells with
  | @zero t =>
    rcases u with s | _ | s | ⟨s, m, e, pos⟩
    · cases unpacked
    · cases unpacked
    · constructor <;> cases s <;> cases t <;> exact isFinite_pack_zero _
    · have le := (canonical_of_unpack left).2
      exact ⟨isFinite_pack_finite le, isFinite_pack_finite le⟩
  | @finite n f pos' canonical' =>
    rcases u with s | _ | s | ⟨s, m, e, pos⟩
    · cases unpacked
    · cases unpacked
    · have le := (canonical_of_unpack right).2
      exact ⟨isFinite_pack_finite le, isFinite_pack_finite le⟩
    · obtain ⟨canonical, le⟩ := canonical_of_unpack left
      have bound := le_greatest canonical le
      have magnitude := natAbs_apply s (m <<< (e - min e f).toNat)
      have other := natAbs_apply .positive (n <<< (f - min e f).toNat)
      constructor
      · refine isFinite_normalize ((sum_le ?_).trans (add_le_add_left bound _)) kept
        omega
      · refine isFinite_normalize ((sum_le ?_).trans (add_le_add_left bound _)) kept
        omega

end Sums

end WidgetRepair.Binary64

namespace WidgetRepair.Confidence

open Binary64

theorem isFinite_after {c : Float} (finite : c.isFinite = true) (success : Bool) :
    (after success c).isFinite = true := by
  have most : most.isFinite = true := by decide
  have least : least.isFinite = true := by decide
  cases success with
  | true =>
    show (if c + gain < Confidence.most then c + gain else Confidence.most).isFinite = true
    split
    · exact (isFinite_sum finite reads_gain (by decide +kernel)).1
    · exact most
  | false =>
    show (if Confidence.least < c - loss then c - loss else Confidence.least).isFinite = true
    split
    · exact (isFinite_sum finite reads_least (y := loss) (by decide +kernel)).2
    · exact least

end WidgetRepair.Confidence
