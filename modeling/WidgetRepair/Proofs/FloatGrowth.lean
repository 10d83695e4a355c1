import WidgetRepair.Proofs.FloatValues

/-! Sums, products and quotients of floats with values grow with what they are made of. Rounding never turns their
order around. -/

namespace WidgetRepair.Binary64

open Float.Model

variable {x y x' y' : Float} {a b : WithTop Rat} {e f : Int}

theorem Reads.add_le (fixed : Reads x a) (right : Reads y b) (le : y ≤ y') : x + y ≤ x + y' := by
  obtain ⟨c, right'⟩ := right.exists_of_le le
  rw [(fixed.add right).le_iff (fixed.add right')]
  refine near_mono (add_nonneg fixed.nonneg right.nonneg) ?_
  exact add_le_add_right ((right.le_iff right').mp le) a

theorem top_mul_nonneg {a b : WithTop Rat} (pos : 0 < a) (pos' : 0 < b) : 0 ≤ a * b := by
  cases a with
  | top =>
    rw [WithTop.top_mul pos'.ne']
    exact le_top
  | coe a =>
    cases b with
    | top =>
      rw [WithTop.mul_top pos.ne']
      exact le_top
    | coe b => exact_mod_cast (mul_pos (WithTop.coe_pos.mp pos) (WithTop.coe_pos.mp pos')).le

theorem top_mul_le {a b c d : WithTop Rat} (pos : 0 < a) (pos' : 0 < b) (le : a ≤ c) (le' : b ≤ d) :
    a * b ≤ c * d := by
  cases c with
  | top =>
    rw [WithTop.top_mul (pos'.trans_le le').ne']
    exact le_top
  | coe c =>
    cases d with
    | top =>
      rw [WithTop.mul_top (pos.trans_le le).ne']
      exact le_top
    | coe d =>
      lift a to Rat using ne_top_of_le_ne_top WithTop.coe_ne_top le
      lift b to Rat using ne_top_of_le_ne_top WithTop.coe_ne_top le'
      norm_cast at *
      exact mul_le_mul le le' pos'.le (pos.le.trans le)

theorem AtLeast.value_pos (bound : AtLeast e x) : ∃ a, Reads x a ∧ 0 < a := by
  obtain ⟨a, reads, le⟩ := bound
  exact ⟨a, reads, (WithTop.coe_pos.mpr (two_zpow_pos e)).trans_le le⟩

theorem Reads.mul_of_pos (left : Reads x a) (right : Reads y b) (pos : 0 < a) (pos' : 0 < b) :
    Reads (x * y) (near (a * b)) := left.mul right (fun _ => pos'.ne') fun _ => pos.ne'

theorem AtLeast.mul_le (left : AtLeast e x) (right : AtLeast f y) (le : x ≤ x') (le' : y ≤ y') :
    x * y ≤ x' * y' := by
  obtain ⟨a, reads, pos⟩ := left.value_pos
  obtain ⟨b, reads', pos'⟩ := right.value_pos
  obtain ⟨c, more⟩ := reads.exists_of_le le
  obtain ⟨d, more'⟩ := reads'.exists_of_le le'
  rw [reads.le_iff more] at le
  rw [reads'.le_iff more'] at le'
  rw [(reads.mul_of_pos reads' pos pos').le_iff (more.mul_of_pos more' (pos.trans_le le) (pos'.trans_le le'))]
  exact near_mono (top_mul_nonneg pos pos') (top_mul_le pos pos' le le')

theorem ofNat_le {n m : Nat} (le : n ≤ m) : Float.ofNat n ≤ Float.ofNat m := by
  rw [(reads_ofNat n).le_iff (reads_ofNat m)]
  exact near_mono (WithTop.coe_nonneg.mpr n.cast_nonneg) (WithTop.coe_le_coe.mpr (Nat.cast_le.mpr le))

theorem Reads.div_le {d : Rat} (left : Reads x a) (right : Reads y (d : Rat)) (pos : 0 < d) (le : x ≤ x') :
    x / y ≤ x' / y := by
  obtain ⟨c, more⟩ := left.exists_of_le le
  rw [left.le_iff more] at le
  cases c with
  | top =>
    have greatest := more.div_of_top right pos
    cases a with
    | top => exact ((left.div_of_top right pos).le_iff greatest).mpr le_rfl
    | coe a => exact ((left.div right pos).le_iff greatest).mpr le_top
  | coe c =>
    lift a to Rat using ne_top_of_le_ne_top WithTop.coe_ne_top le
    rw [(left.div right pos).le_iff (more.div right pos)]
    refine near_mono (WithTop.coe_nonneg.mpr (div_nonneg (WithTop.coe_nonneg.mp left.nonneg) pos.le)) ?_
    exact WithTop.coe_le_coe.mpr (div_le_div_of_nonneg_right (WithTop.coe_le_coe.mp le) pos.le)

theorem Reads.unpack_zero (zero : Reads x (0 : Rat)) : ∃ s, x.toModel.unpack = .zero s := by
  unfold Reads at zero
  generalize x.toModel.unpack = u at zero
  have spells := zero.spells
  generalize value : (0 : Rat) = r at spells
  cases spells with
  | @zero s => exact ⟨s, rfl⟩
  | @finite m e pos => exact absurd value (mul_pos (Nat.cast_pos.mpr pos) (two_zpow_pos e)).ne

/-- Zero times anything is not positive: it is zero or no number. -/
theorem Reads.not_pos_mul (zero : Reads x (0 : Rat)) (y : Float) : ¬ 0.0 < x * y := by
  obtain ⟨s, unpacked⟩ := zero.unpack_zero
  have cases : (∃ t, (x * y).toModel.unpack = .zero t) ∨ (x * y).toModel.unpack = .notANumber := by
    show (∃ t, (Float.Model.pack (UnpackedFloat.mul _ x.toModel.unpack y.toModel.unpack)).unpack = _) ∨
      (Float.Model.pack (UnpackedFloat.mul _ x.toModel.unpack y.toModel.unpack)).unpack = _
    rw [unpacked]
    rcases y.toModel.unpack with t | _ | t | ⟨t, m, e, pos⟩
    · exact .inr unpack_pack_notANumber
    · exact .inr unpack_pack_notANumber
    · exact .inl ⟨_, unpack_pack_zero _⟩
    · exact .inl ⟨_, unpack_pack_zero _⟩
  rw [float_lt_iff]
  obtain ⟨t, same⟩ | same := cases <;> rw [same] <;> exact Bool.false_ne_true

end WidgetRepair.Binary64
