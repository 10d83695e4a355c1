import WidgetRepair.Proofs.FloatPacking
import Mathlib.Algebra.Order.Ring.WithTop

/-! The values of floats that are not negative: rational numbers, and one value above them all. The
operations round, the comparisons compare. -/

namespace WidgetRepair.Binary64

open Float.Model Float.Model.UnpackedFloat

/-- The value of a float that is not negative, unpacked. -/
inductive Stands : UnpackedFloat → WithTop Rat → Prop where
  | infinity : Stands (.infinity .positive) ⊤
  | finite {u : UnpackedFloat} {a : Rat} (spells : Spells u a) : Stands u a

theorem Stands.spells {u : UnpackedFloat} {a : Rat} (stands : Stands u a) : Spells u a := by
  generalize value : (a : WithTop Rat) = w at stands
  cases stands with
  | infinity => exact absurd value WithTop.coe_ne_top
  | finite spells => rwa [WithTop.coe_injective value]

theorem Stands.eq_infinity {u : UnpackedFloat} (stands : Stands u ⊤) : u = .infinity .positive := by
  generalize value : (⊤ : WithTop Rat) = w at stands
  cases stands with
  | infinity => rfl
  | finite => exact absurd value WithTop.top_ne_coe

/-- The value of a float that is not negative. -/
def Reads (x : Float) (a : WithTop Rat) : Prop := Stands x.toModel.unpack a

/-- The float next to a value: too large ones become infinite. -/
def near : WithTop Rat → WithTop Rat
  | ⊤ => ⊤
  | (a : Rat) => if rounded a < 2 ^ 1024 then (rounded a : Rat) else ⊤

theorem near_top : near ⊤ = ⊤ := rfl

theorem near_coe (a : Rat) : near a = if rounded a < 2 ^ 1024 then (rounded a : WithTop Rat) else ⊤ := rfl

theorem near_mono {a b : WithTop Rat} (nonneg : 0 ≤ a) (le : a ≤ b) : near a ≤ near b := by
  induction b with
  | top => exact le_top
  | coe b =>
    induction a with
    | top => exact absurd le (WithTop.not_top_le_coe b)
    | coe a =>
      have rounding := rounded_mono (WithTop.coe_nonneg.mp nonneg) (WithTop.coe_le_coe.mp le)
      rw [near_coe, near_coe]
      split
      · split
        · exact WithTop.coe_le_coe.mpr rounding
        · exact le_top
      · next large => rw [if_neg (not_lt.mpr ((not_lt.mp large).trans rounding))]

theorem Canonical.lt_iff {m : Nat} {e : Int} (canonical : Canonical m e) :
    (m : Rat) * 2 ^ e < 2 ^ 1024 ↔ e ≤ greatestExponent := by
  have place := two_zpow_pos e
  have bits : (m : Rat) < 2 ^ 53 := by exact_mod_cast canonical.bits
  unfold greatestExponent
  constructor
  · intro less
    by_contra great
    have full : (2 : Rat) ^ 52 ≤ m := by
      obtain full | least := canonical.full
      · exact_mod_cast full
      · omega
    have power : (2 : Rat) ^ 1024 ≤ 2 ^ 52 * 2 ^ e := by
      rw [← zpow_natCast, ← zpow_natCast, ← zpow_add₀ two_ne_zero]
      exact zpow_le_zpow_right₀ one_le_two (by omega)
    exact absurd less (not_lt.mpr (power.trans (mul_le_mul_of_nonneg_right full place.le)))
  · intro le
    calc (m : Rat) * 2 ^ e < 2 ^ 53 * 2 ^ e := mul_lt_mul_of_pos_right bits place
      _ ≤ 2 ^ 1024 := by
        rw [← zpow_natCast, ← zpow_natCast, ← zpow_add₀ two_ne_zero]
        exact zpow_le_zpow_right₀ one_le_two (by omega)

/-- Packing a rounded number gives the float next to it. -/
theorem stands_pack {u : UnpackedFloat} {a : Rat} (spells : Spells u (rounded a)) :
    Stands (Float.Model.pack u).unpack (near a) := by
  rw [near_coe]
  generalize rounded a = r at spells
  cases spells with
  | @zero s =>
    rw [if_pos (by positivity), unpack_pack_zero]
    exact .finite .zero
  | @finite m e pos canonical =>
    simp only [canonical.lt_iff]
    split
    · next le =>
      rw [unpack_pack_of_le canonical le]
      exact .finite (.finite canonical)
    · next lt =>
      rw [unpack_pack_of_lt (not_le.mp lt)]
      exact .infinity

theorem stands_pack_infinity : Stands (Float.Model.pack (.infinity .positive)).unpack ⊤ := .infinity

variable {x y : Float} {a b : WithTop Rat}

theorem Reads.nonneg (reads : Reads x a) : 0 ≤ a := by
  unfold Reads at reads
  generalize x.toModel.unpack = u at reads
  obtain _ | spells := reads
  · exact le_top
  · exact WithTop.coe_nonneg.mpr spells.nonneg

theorem Reads.kept (reads : Reads x a) : near a = a := by
  unfold Reads at reads
  generalize unpacked : x.toModel.unpack = u at reads
  obtain _ | spells := reads
  · rfl
  · have finite : ∀ {q}, Spells u q → q < 2 ^ 1024 := by
      intro _ ended
      obtain _ | canonical := ended
      · positivity
      · exact canonical.lt_iff.mpr (canonical_of_unpack unpacked).2
    rw [near_coe, spells.kept, if_pos (finite spells)]

theorem Reads.add (left : Reads x a) (right : Reads y b) : Reads (x + y) (near (a + b)) := by
  show Stands (Float.Model.pack (UnpackedFloat.add _ x.toModel.unpack y.toModel.unpack)).unpack _
  unfold Reads at left right
  generalize x.toModel.unpack = u at left
  generalize y.toModel.unpack = v at right
  cases left with
  | infinity =>
    rw [WithTop.top_add, near_top]
    obtain _ | (_ | _) := right <;> exact stands_pack_infinity
  | finite left =>
    cases right with
    | infinity =>
      rw [WithTop.add_top, near_top]
      obtain _ | _ := left <;> exact stands_pack_infinity
    | finite right => exact stands_pack (spells_add left right)

theorem Reads.sub {a b : Rat} (left : Reads x a) (right : Reads y b) (le : b ≤ a) :
    Reads (x - y) (near (a - b : Rat)) := by
  show Stands (Float.Model.pack (UnpackedFloat.sub _ x.toModel.unpack y.toModel.unpack)).unpack _
  exact stands_pack (spells_sub left.spells right.spells le)

/-- A product, unless it is one of zero and infinity. -/
theorem Reads.mul (left : Reads x a) (right : Reads y b) (defined : a = ⊤ → b ≠ 0)
    (defined' : b = ⊤ → a ≠ 0) : Reads (x * y) (near (a * b)) := by
  show Stands (Float.Model.pack (UnpackedFloat.mul _ x.toModel.unpack y.toModel.unpack)).unpack _
  unfold Reads at left right
  generalize x.toModel.unpack = u at left
  generalize y.toModel.unpack = v at right
  cases left with
  | infinity =>
    rw [WithTop.top_mul (defined rfl), near_top]
    obtain _ | (_ | _) := right
    · exact stands_pack_infinity
    · exact absurd rfl (defined rfl)
    · exact stands_pack_infinity
  | finite left =>
    cases right with
    | infinity =>
      rw [WithTop.mul_top (defined' rfl), near_top]
      obtain _ | _ := left
      · exact absurd rfl (defined' rfl)
      · exact stands_pack_infinity
    | finite right =>
      rw [← WithTop.coe_mul]
      exact stands_pack (spells_mul left right)

/-- Division by a finite number. -/
theorem Reads.div {a b : Rat} (left : Reads x a) (right : Reads y b) (pos : 0 < b) :
    Reads (x / y) (near (a / b : Rat)) := by
  show Stands (Float.Model.pack (UnpackedFloat.div _ x.toModel.unpack y.toModel.unpack)).unpack _
  have left := left.spells
  have right := right.spells
  generalize y.toModel.unpack = v at right
  cases right with
  | zero => exact absurd pos (lt_irrefl 0)
  | finite => exact stands_pack (spells_div left)

theorem Reads.div_of_top {b : Rat} (left : Reads x ⊤) (right : Reads y b) (pos : 0 < b) :
    Reads (x / y) ⊤ := by
  show Stands (Float.Model.pack (UnpackedFloat.div _ x.toModel.unpack y.toModel.unpack)).unpack _
  have right := right.spells
  rw [left.eq_infinity]
  generalize y.toModel.unpack = v at right
  cases right with
  | zero => exact absurd pos (lt_irrefl 0)
  | finite => exact stands_pack_infinity

theorem Canonical.lt_of_exponent_lt {m n : Nat} {e f : Int} (left : Canonical m e)
    (right : Canonical n f) (less : e < f) : (m : Rat) * 2 ^ e < n * 2 ^ f := by
  have place := two_zpow_pos e
  have bits : (m : Rat) < 2 ^ 53 := by exact_mod_cast left.bits
  have full : (2 : Rat) ^ 52 ≤ n := by
    obtain full | least := right.full
    · exact_mod_cast full
    · have := left.least
      omega
  calc (m : Rat) * 2 ^ e < 2 ^ 53 * 2 ^ e := mul_lt_mul_of_pos_right bits place
    _ = 2 ^ 52 * 2 ^ (e + 1) := by
      rw [zpow_add_one₀ two_ne_zero]
      ring
    _ ≤ 2 ^ 52 * 2 ^ f := mul_le_mul_of_nonneg_left (zpow_le_zpow_right₀ one_le_two less) (by positivity)
    _ ≤ n * 2 ^ f := mul_le_mul_of_nonneg_right full (two_zpow_pos f).le

theorem Canonical.compare {m n : Nat} {e f : Int} (left : Canonical m e) (right : Canonical n f) :
    (Ord.compare e f).then (Ord.compare m n) = Ord.compare ((m : Rat) * 2 ^ e) (n * 2 ^ f) := by
  obtain less | same | greater := lt_trichotomy e f
  · rw [compare_lt_iff_lt.mpr less, compare_lt_iff_lt.mpr (left.lt_of_exponent_lt right less)]
    rfl
  · subst same
    have place := two_zpow_pos e
    rw [compare_eq_iff_eq.mpr rfl]
    show Ord.compare m n = _
    obtain less | same | greater := lt_trichotomy m n
    · rw [compare_lt_iff_lt.mpr less, eq_comm, compare_lt_iff_lt]
      exact mul_lt_mul_of_pos_right (Nat.cast_lt.mpr less) place
    · rw [same, compare_eq_iff_eq.mpr rfl, compare_eq_iff_eq.mpr rfl]
    · rw [compare_gt_iff_gt.mpr greater, eq_comm, compare_gt_iff_gt]
      exact mul_lt_mul_of_pos_right (Nat.cast_lt.mpr greater) place
  · rw [compare_gt_iff_gt.mpr greater, compare_gt_iff_gt.mpr (right.lt_of_exponent_lt left greater)]
    rfl

theorem Spells.compare {u v : UnpackedFloat} {a b : Rat} (left : Spells u a) (right : Spells v b) :
    u.compare v = some (Ord.compare a b) := by
  have positive {m : Nat} (pos : 0 < m) (e : Int) : (0 : Rat) < m * 2 ^ e :=
    mul_pos (Nat.cast_pos.mpr pos) (two_zpow_pos e)
  cases left with
  | zero =>
    cases right with
    | zero => exact congrArg some (compare_eq_iff_eq.mpr rfl).symm
    | @finite n f pos => exact congrArg some (compare_lt_iff_lt.mpr (positive pos f)).symm
  | @finite m e pos canonical =>
    cases right with
    | zero => exact congrArg some (compare_gt_iff_gt.mpr (positive pos e)).symm
    | finite canonical' => exact congrArg some (canonical.compare canonical')

theorem Reads.compare (left : Reads x a) (right : Reads y b) :
    x.toModel.unpack.compare y.toModel.unpack = some (Ord.compare a b) := by
  unfold Reads at left right
  generalize x.toModel.unpack = u at left
  generalize y.toModel.unpack = v at right
  cases left with
  | infinity =>
    obtain _ | (_ | _) := right
    · exact congrArg some (compare_eq_iff_eq.mpr rfl).symm
    · exact congrArg some (compare_gt_iff_gt.mpr (WithTop.coe_lt_top _)).symm
    · exact congrArg some (compare_gt_iff_gt.mpr (WithTop.coe_lt_top _)).symm
  | @finite u a left =>
    cases right with
    | infinity =>
      rw [compare_lt_iff_lt.mpr (WithTop.coe_lt_top a)]
      obtain _ | _ := left <;> rfl
    | @finite v b right =>
      rw [left.compare right]
      obtain less | same | greater := lt_trichotomy a b
      · rw [compare_lt_iff_lt.mpr less, compare_lt_iff_lt.mpr (WithTop.coe_lt_coe.mpr less)]
      · rw [same, compare_eq_iff_eq.mpr rfl, compare_eq_iff_eq.mpr rfl]
      · rw [compare_gt_iff_gt.mpr greater, compare_gt_iff_gt.mpr (WithTop.coe_lt_coe.mpr greater)]

theorem float_le_iff (x y : Float) : x ≤ y ↔ x.toModel.unpack.le y.toModel.unpack = true := by
  show decide (x.toModel ≤ y.toModel) = true ↔ _
  exact decide_eq_true_iff

theorem float_lt_iff (x y : Float) : x < y ↔ x.toModel.unpack.lt y.toModel.unpack = true := by
  show decide (x.toModel < y.toModel) = true ↔ _
  exact decide_eq_true_iff

theorem Reads.le_iff (left : Reads x a) (right : Reads y b) : x ≤ y ↔ a ≤ b := by
  rw [float_le_iff, UnpackedFloat.le, left.compare right, Option.any_some, ← compare_le_iff_le]
  cases Ord.compare a b <;> decide

theorem Reads.lt_iff (left : Reads x a) (right : Reads y b) : x < y ↔ a < b := by
  rw [float_lt_iff, UnpackedFloat.lt, left.compare right, ← compare_lt_iff_lt]
  cases Ord.compare a b <;> decide

/-- What is at least a float with a value has a value, so it is not `NaN`. -/
theorem Reads.exists_of_le (reads : Reads x a) (le : x ≤ y) : ∃ b, Reads y b := by
  rw [float_le_iff] at le
  unfold Reads at reads ⊢
  generalize x.toModel.unpack = u at reads le
  generalize unpacked : y.toModel.unpack = v at le
  rcases v with s | _ | s | ⟨s, m, e, pos⟩
  · cases s
    · obtain _ | (_ | _) := reads <;> exact absurd le Bool.false_ne_true
    · exact ⟨⊤, .infinity⟩
  · obtain _ | (_ | _) := reads <;> exact absurd le Bool.false_ne_true
  · exact ⟨(0 : Rat), .finite .zero⟩
  · cases s
    · obtain _ | (_ | _) := reads <;> exact absurd le Bool.false_ne_true
    · exact ⟨(m * 2 ^ e : Rat), .finite (.finite (canonical_of_unpack unpacked).1)⟩

/-- Mantissa and exponent of a positive finite float. -/
def parts? (x : Float) : Option (Nat × Int) :=
  match x.toModel.unpack with
  | .finite .positive m e _ => some (m, e)
  | _ => none

theorem reads_of_parts {x : Float} {m : Nat} {e : Int} {a : Rat} (parts : parts? x = some (m, e))
    (value : (m * 2 ^ e : Rat) = a) : Reads x a := by
  subst value
  unfold parts? at parts
  split at parts
  · next unpacked =>
    injection parts with parts
    injection parts with mantissa exponent
    subst mantissa exponent
    unfold Reads
    rw [unpacked]
    exact .finite (.finite (canonical_of_unpack unpacked).1)
  · cases parts

theorem reads_one : Reads 1.0 (1 : Rat) :=
  reads_of_parts (by decide +kernel : parts? 1.0 = some (4503599627370496, -52)) (by norm_num)

theorem reads_ofUInt64 (n : UInt64) : Reads n.toFloat (near (n.toNat : Rat)) := by
  have spells := spells_normalize n.toNat 0
  rw [zpow_zero, mul_one] at spells
  exact stands_pack spells

theorem reads_ofNat (n : Nat) : Reads (Float.ofNat n) (near (n : Rat)) := by
  show Reads (Float.ofScientific n false 0) _
  unfold Float.ofScientific
  split
  · next small =>
    have word : n.toUInt64.toNat = n := UInt64.toNat_ofNat_of_lt' (by show n < 2 ^ 64; omega)
    have one : Reads Float.exactlyRepresentablePowersOfTen[0] (1 : Rat) := reads_one
    have itself := reads_ofUInt64 n.toUInt64
    have product := itself.mul one (fun _ => one_ne_zero) (fun top => absurd top WithTop.coe_ne_top)
    rw [WithTop.coe_one, mul_one, itself.kept, word] at product
    exact product
  · next large =>
    show Stands (Float.Model.pack (UnpackedFloat.ofScientific Format.binary64 n 0)).unpack _
    have some : n ≠ 0 := by omega
    have product : UnpackedFloat.ofScientific Format.binary64 n 0 =
        roundWithAccuracy Format.binary64 .positive (n <<< 53 * 1) (-53) .exact := by
      have logs : ¬(0 : Int) < -((2 ^ Format.binary64.exponentBits : Int) + n.log2) := by
        have : (0 : Int) ≤ 2 ^ Format.binary64.exponentBits := by positivity
        omega
      unfold UnpackedFloat.ofScientific
      rw [dif_neg some, if_neg (by decide), if_neg logs, if_pos (by decide)]
      rfl
    have value : (n : Rat) = (n <<< 53 * 1 : Nat) * 2 ^ (-53 : Int) := by
      have shifted := shiftLeft_mul_zpow n 53 0
      rw [zpow_zero, mul_one] at shifted
      rw [mul_one]
      exact shifted.symm
    rw [product, value]
    refine stands_pack (spells_roundWithAccuracy ?_ (.natCast _) ?_)
    · rw [Nat.shiftLeft_eq]
      positivity
    · rw [Nat.shiftLeft_eq]
      omega

/-- Zero divided by anything is zero or no number. -/
theorem zero_div_cases (y : Float) : Reads (Float.ofNat 0 / y) (0 : Rat) ∨
    (Float.ofNat 0 / y).toModel.unpack = .notANumber := by
  show Stands (Float.Model.pack (UnpackedFloat.div _ (.zero .positive) y.toModel.unpack)).unpack _ ∨
    (Float.Model.pack (UnpackedFloat.div _ (.zero .positive) y.toModel.unpack)).unpack = _
  have zero (s : Sign) : Stands (Float.Model.pack (.zero s)).unpack (0 : Rat) := by
    rw [unpack_pack_zero]
    exact .finite .zero
  rcases y.toModel.unpack with s | _ | s | ⟨s, m, e, pos⟩
  · exact .inl (zero _)
  · exact .inr unpack_pack_notANumber
  · exact .inr unpack_pack_notANumber
  · exact .inl (zero _)

theorem Reads.not_lt_zero_div (reads : Reads x a) (y : Float) : ¬x < Float.ofNat 0 / y := by
  obtain zero | none := zero_div_cases y
  · rw [reads.lt_iff zero]
    exact not_lt.mpr reads.nonneg
  · rw [float_lt_iff, none]
    cases x.toModel.unpack <;> exact Bool.false_ne_true

/-- A float with a value that is not below a power of two. Lower bounds of this kind survive
rounding. -/
def AtLeast (e : Int) (x : Float) : Prop := ∃ a, Reads x a ∧ ((2 ^ e : Rat) : WithTop Rat) ≤ a

theorem near_two_zpow {e : Int} (least : -1074 ≤ e) (most : e ≤ 1023) :
    near (2 ^ e : Rat) = (2 ^ e : Rat) := by
  have kept := rounded_exact (m := 1) (by decide) least
  rw [Nat.cast_one, one_mul] at kept
  have finite : (2 : Rat) ^ e < 2 ^ 1024 := by
    rw [← zpow_natCast]
    exact zpow_lt_zpow_right₀ one_lt_two (by omega)
  rw [near_coe, kept, if_pos finite]

theorem reads_zero : Reads 0.0 (0 : Rat) := by
  have reads := reads_ofNat 0
  rw [Nat.cast_zero, near_coe, rounded_zero, if_pos (by positivity)] at reads
  exact reads

namespace AtLeast

variable {e f : Int} {x y : Float}

theorem of_near {a : WithTop Rat} (reads : Reads x (near a)) (le : ((2 ^ e : Rat) : WithTop Rat) ≤ a)
    (least : -1074 ≤ e) (most : e ≤ 1023) : AtLeast e x := by
  refine ⟨_, reads, ?_⟩
  rw [← near_two_zpow least most]
  exact near_mono (WithTop.coe_nonneg.mpr (two_zpow_pos e).le) le

theorem of_le (left : AtLeast e x) (le : x ≤ y) : AtLeast e y := by
  obtain ⟨a, reads, bound⟩ := left
  obtain ⟨b, reads'⟩ := reads.exists_of_le le
  exact ⟨b, reads', bound.trans ((reads.le_iff reads').mp le)⟩

theorem pos (bound : AtLeast e x) : 0.0 < x := by
  obtain ⟨a, reads, le⟩ := bound
  rw [reads_zero.lt_iff reads]
  exact (WithTop.coe_lt_coe.mpr (two_zpow_pos e)).trans_le le

theorem add {b : WithTop Rat} (left : AtLeast e x) (right : Reads y b) (least : -1074 ≤ e)
    (most : e ≤ 1023) : AtLeast e (x + y) := by
  obtain ⟨a, reads, le⟩ := left
  exact of_near (reads.add right) (le_add_of_le_of_nonneg le right.nonneg) least most

theorem add' {a : WithTop Rat} (left : Reads x a) (right : AtLeast e y) (least : -1074 ≤ e)
    (most : e ≤ 1023) : AtLeast e (x + y) := by
  obtain ⟨b, reads, le⟩ := right
  exact of_near (left.add reads) (le_add_of_nonneg_of_le left.nonneg le) least most

theorem mul (left : AtLeast e x) (right : AtLeast f y) (least : -1074 ≤ e + f)
    (most : e + f ≤ 1023) : AtLeast (e + f) (x * y) := by
  obtain ⟨a, reads, le⟩ := left
  obtain ⟨b, reads', le'⟩ := right
  have some : a ≠ 0 := ((WithTop.coe_lt_coe.mpr (two_zpow_pos e)).trans_le le).ne'
  have some' : b ≠ 0 := ((WithTop.coe_lt_coe.mpr (two_zpow_pos f)).trans_le le').ne'
  refine of_near (reads.mul reads' (fun _ => some') (fun _ => some)) ?_ least most
  cases a with
  | top => rw [WithTop.top_mul some']; exact le_top
  | coe a =>
    cases b with
    | top => rw [WithTop.mul_top some]; exact le_top
    | coe b =>
      rw [← WithTop.coe_mul, WithTop.coe_le_coe, zpow_add₀ two_ne_zero]
      exact mul_le_mul (WithTop.coe_le_coe.mp le) (WithTop.coe_le_coe.mp le') (two_zpow_pos f).le
        ((two_zpow_pos e).le.trans (WithTop.coe_le_coe.mp le))

end AtLeast

end WidgetRepair.Binary64
