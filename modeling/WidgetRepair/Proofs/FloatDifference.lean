import WidgetRepair.Proofs.FloatValues

/-! Differences of floats. A difference can only be positive if the float that is taken away has a
value, and the other one has a value that is not below it. -/

namespace WidgetRepair.Binary64

open Float.Model Float.Model.UnpackedFloat

/-- A float that is above no float with a value, unpacked. -/
inductive Low : UnpackedFloat → Prop where
  | infinity : Low (.infinity .negative)
  | notANumber : Low .notANumber
  | zero (s : Sign) : Low (.zero s)
  | finite {m : Nat} {e : Int} {pos : 0 < m} : Low (.finite .negative m e pos)

theorem Low.of_sign {x : Float.Model} (sign : @unpackSign Format.binary64 x.toBits.toBitVec = 1#1) :
    Low x.unpack := by
  have negative : Sign.ofBitVec (@unpackSign Format.binary64 x.toBits.toBitVec) = .negative := by
    rw [sign]
    rfl
  unfold Float.Model.unpack UnpackedFloat.unpack
  simp only [negative]
  split
  · split
    · exact .infinity
    · exact .notANumber
  · split
    · split
      · exact .zero _
      · exact .finite
    · exact .finite

theorem low_pack_finite {m : Nat} {e : Int} (pos : 0 < m) :
    Low (Float.Model.pack (.finite .negative m e pos)).unpack := by
  apply Low.of_sign
  show unpackSign (UnpackedFloat.pack Format.binary64 _) = _
  unfold UnpackedFloat.pack packedInfinity
  dsimp only
  split
  · exact unpackSign_packComponents _ _ _
  · split
    · exact unpackSign_packComponents _ _ _
    · exact unpackSign_packComponents _ _ _

theorem Low.pack {u : UnpackedFloat} (low : Low u) : Low (Float.Model.pack u).unpack := by
  cases low with
  | infinity => exact .infinity
  | notANumber => exact .notANumber
  | zero s =>
    rw [unpack_pack_zero]
    exact .zero s
  | finite => exact low_pack_finite _

theorem low_round (m : Nat) (e : Int) : Low (UnpackedFloat.round Format.binary64 .negative m e) := by
  unfold UnpackedFloat.round roundWithAccuracy
  dsimp only
  split
  · exact .zero _
  · exact .finite

theorem low_normalize {n : Int} (le : n ≤ 0) (e : Int) :
    Low (UnpackedFloat.normalize Format.binary64 n e .positive) := by
  unfold UnpackedFloat.normalize
  obtain zero | less := le.eq_or_lt
  · rw [compare_eq_iff_eq.mpr zero]
    exact .zero _
  · rw [compare_lt_iff_lt.mpr less]
    exact low_round _ e

theorem low_sub_finite {m n : Nat} {e f : Int} {pos : 0 < m} {pos' : 0 < n}
    (less : (m : Rat) * 2 ^ e < n * 2 ^ f) :
    Low (sub Format.binary64 (.finite .positive m e pos) (.finite .positive n f pos')) := by
  have shifted : m <<< (e - min e f).toNat ≤ n <<< (f - min e f).toNat := by
    have place := two_zpow_pos (min e f)
    rw [← decreased_mul_zpow m (min_le_left e f), ← decreased_mul_zpow n (min_le_right e f)] at less
    exact_mod_cast (lt_of_mul_lt_mul_right less place.le).le
  refine low_normalize ?_ (min e f)
  show ((m <<< (e - min e f).toNat : Nat) : Int) - (n <<< (f - min e f).toNat : Nat) ≤ 0
  omega

/-- A difference is low, unless the float that is taken away is at most the other one. -/
theorem low_sub {u v : UnpackedFloat} {b : Rat} (right : Spells v b)
    (canonical : ∀ s m e pos, u = .finite s m e pos → Canonical m e) :
    Low (sub Format.binary64 u v) ∨ ∃ a, Stands u a ∧ b ≤ a := by
  cases u with
  | notANumber => exact .inl (by cases right <;> exact .notANumber)
  | infinity s =>
    cases s with
    | positive => exact .inr ⟨⊤, .infinity, le_top⟩
    | negative => exact .inl (by cases right <;> exact .infinity)
  | zero s =>
    cases right with
    | @zero t => exact .inl (by cases s <;> cases t <;> exact .zero _)
    | finite => exact .inl (by exact .finite)
  | finite s m e pos =>
    cases s with
    | negative =>
      cases right with
      | zero => exact .inl .finite
      | @finite n f pos' =>
        refine .inl (low_normalize ?_ (min e f))
        show -((m <<< (e - min e f).toNat : Nat) : Int) - (n <<< (f - min e f).toNat : Nat) ≤ 0
        generalize m <<< _ = below
        generalize n <<< _ = taken
        omega
    | positive =>
      have stands : Stands (.finite .positive m e pos) (m * 2 ^ e : Rat) :=
        .finite (.finite (canonical _ _ _ _ rfl))
      by_cases le : b ≤ m * 2 ^ e
      · exact .inr ⟨_, stands, WithTop.coe_le_coe.mpr le⟩
      · cases right with
        | zero => exact absurd (by positivity) le
        | finite => exact .inl (low_sub_finite (not_le.mp le))

theorem Reads.not_lt_of_low {x y : Float} {a : WithTop Rat} (reads : Reads x a)
    (low : Low y.toModel.unpack) : ¬x < y := by
  rw [float_lt_iff]
  unfold Reads at reads
  generalize x.toModel.unpack = u at reads
  generalize y.toModel.unpack = v at low
  obtain _ | (_ | _) := reads <;> cases low <;> exact Bool.false_ne_true

/-- A float from which another one can be taken away with something positive left is not below it. -/
theorem Reads.le_of_lt_sub {x y z : Float} {b : Rat} {c : WithTop Rat} (right : Reads y b)
    (positive : Reads z c) (less : z < x - y) : ∃ a, Reads x a ∧ b ≤ a := by
  refine (low_sub right.spells fun s m e pos finite => (canonical_of_unpack finite).1).resolve_left ?_
  intro low
  exact positive.not_lt_of_low (y := x - y) low.pack less

end WidgetRepair.Binary64
