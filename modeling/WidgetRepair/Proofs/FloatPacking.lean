import WidgetRepair.Proofs.FloatRounding

/-! Packed floats. A canonical number comes back from its bits unless its exponent is too great,
and whatever number stands in some bits is canonical. -/

namespace WidgetRepair.Binary64

open Float.Model Float.Model.UnpackedFloat

/-- The greatest exponent of a finite float. -/
def greatestExponent : Int := 971

theorem unpackSign_packComponents {format : Format} (s : Sign) (e : BitVec format.exponentBits)
    (m : BitVec format.mantissaBitsWithoutImplicit) :
    unpackSign (packComponents format s e m) = s.toBitVec := by
  ext i low
  have zero : i = 0 := by omega
  subst zero
  simp [unpackSign, packComponents, BitVec.getLsbD_append, BitVec.getElem_append]

theorem unpack_subnormal {m : Nat} (pos : 0 < m) (bits : m < 2 ^ 52) :
    UnpackedFloat.unpack Format.binary64
        (packComponents Format.binary64 .positive 0#11 (BitVec.ofNat 52 m)) =
      .finite .positive m (-1074) pos := by
  have mantissa : (BitVec.ofNat 52 m).toNat = m := by
    rw [BitVec.toNat_ofNat, Nat.mod_eq_of_lt bits]
  have some : BitVec.ofNat 52 m ≠ 0#52 := by
    intro zero
    rw [zero] at mantissa
    exact pos.ne mantissa
  simp only [UnpackedFloat.unpack, unpackExponent_packComponents, unpackMantissa_packComponents,
    unpackSign_packComponents]
  rw [if_neg (by decide), if_pos trivial, dif_neg some]
  simp only [mantissa]
  rfl

theorem unpack_normal {m biased : Nat} (pos : 0 < m) (bits : m < 2 ^ 53) (full : 2 ^ 52 ≤ m)
    (low : 0 < biased) (high : biased < 2047) :
    UnpackedFloat.unpack Format.binary64
        (packComponents Format.binary64 .positive (BitVec.ofNat 11 biased) (BitVec.ofNat 52 m)) =
      .finite .positive m (biased - 1075) pos := by
  have exponent : (BitVec.ofNat 11 biased).toNat = biased := by
    rw [BitVec.toNat_ofNat, Nat.mod_eq_of_lt (by omega)]
  have mantissa : (1#1 ++ BitVec.ofNat 52 m).toNat = m := by
    rw [BitVec.toNat_append, ← Nat.shiftLeft_add_eq_or_of_lt (BitVec.isLt _), BitVec.toNat_ofNat,
      Nat.shiftLeft_eq]
    show 1 * 2 ^ 52 + m % 2 ^ 52 = m
    omega
  have finite : BitVec.ofNat 11 biased ≠ -1#11 := by
    intro top
    rw [top] at exponent
    have top : (-1#11).toNat = 2047 := by decide
    omega
  have normal : BitVec.ofNat 11 biased ≠ 0#11 := by
    intro zero
    rw [zero] at exponent
    exact low.ne exponent
  simp only [UnpackedFloat.unpack, unpackExponent_packComponents, unpackMantissa_packComponents,
    unpackSign_packComponents]
  rw [if_neg finite, if_neg normal]
  simp only [mantissa, exponent]
  rfl

theorem unpack_pack_of_le {m : Nat} {e : Int} {pos : 0 < m} (canonical : Canonical m e)
    (le : e ≤ greatestExponent) :
    (Float.Model.pack (.finite .positive m e pos)).unpack = .finite .positive m e pos := by
  show UnpackedFloat.unpack Format.binary64 (UnpackedFloat.pack Format.binary64 _) = _
  unfold greatestExponent at le
  obtain ⟨bits, least, full⟩ := canonical
  have bias : e + Format.binary64.exponentBias + Format.binary64.mantissaBitsWithoutImplicit = e + 1075 := by
    show e + (1023 : Nat) + (52 : Nat) = _
    omega
  have finite : ¬2 ^ Format.binary64.exponentBits ≤ (e + 1075).toNat + 1 := by
    show ¬2 ^ 11 ≤ _
    omega
  unfold UnpackedFloat.pack
  simp only [bias, if_neg finite]
  split
  · next normal =>
    have first : 52 ≤ m.log2 := by
      have : m.log2 + 1 = 53 := normal
      omega
    rw [unpack_normal pos bits ((Nat.le_log2 pos.ne').mp first) (by omega) (by omega)]
    congr
    omega
  · next subnormal =>
    have short : m < 2 ^ 52 := by
      by_contra long
      have first := (Nat.le_log2 pos.ne').mpr (not_lt.mp long)
      have last := (Nat.log2_lt pos.ne').mpr bits
      exact subnormal (show m.log2 + 1 = 53 by omega)
    rw [unpack_subnormal pos short]
    congr
    omega

theorem unpack_pack_of_lt {m : Nat} {e : Int} {pos : 0 < m} (lt : greatestExponent < e) :
    (Float.Model.pack (.finite .positive m e pos)).unpack = .infinity .positive := by
  show UnpackedFloat.unpack Format.binary64 (UnpackedFloat.pack Format.binary64 _) = _
  unfold greatestExponent at lt
  have infinite : 2 ^ Format.binary64.exponentBits ≤
      (e + Format.binary64.exponentBias + Format.binary64.mantissaBitsWithoutImplicit).toNat + 1 := by
    show 2 ^ 11 ≤ (e + (1023 : Nat) + (52 : Nat)).toNat + 1
    omega
  unfold UnpackedFloat.pack
  simp only [if_pos infinite]
  rfl

theorem unpack_pack_zero (s : Sign) : (Float.Model.pack (.zero s)).unpack = .zero s := by
  cases s <;> rfl

theorem unpack_pack_notANumber : (Float.Model.pack .notANumber).unpack = .notANumber := rfl

/-- Whatever stands in a packed float, a finite number among it is canonical. -/
theorem canonical_of_unpack {x : Float.Model} {s : Sign} {m : Nat} {e : Int} {pos : 0 < m}
    (finite : x.unpack = .finite s m e pos) : Canonical m e ∧ e ≤ greatestExponent := by
  unfold Float.Model.unpack UnpackedFloat.unpack at finite
  have bias : (Format.binary64.exponentBias : Int) + (52 : Nat) = 1075 := rfl
  simp only [bias] at finite
  have mantissa : (@unpackMantissa Format.binary64 x.toBits.toBitVec).toNat < 2 ^ 52 := BitVec.isLt _
  have exponent : (@unpackExponent Format.binary64 x.toBits.toBitVec).toNat < 2 ^ 11 := BitVec.isLt _
  have top : (-1#11).toNat = 2047 := rfl
  unfold greatestExponent
  split at finite
  · split at finite <;> cases finite
  · next notTop =>
    have below : (@unpackExponent Format.binary64 x.toBits.toBitVec).toNat ≠ 2047 :=
      fun all => notTop (BitVec.eq_of_toNat_eq (all.trans top.symm))
    split at finite
    · next least =>
      split at finite
      · cases finite
      · injection finite with _ mantissa_eq exponent_eq
        rw [least] at exponent_eq
        have exponent_eq : (-1074 : Int) = e := exponent_eq
        exact ⟨⟨by omega, by omega, .inr (by omega)⟩, by omega⟩
    · next normal =>
      have positive : (@unpackExponent Format.binary64 x.toBits.toBitVec).toNat ≠ 0 :=
        fun zero => normal (BitVec.eq_of_toNat_eq zero)
      injection finite with _ mantissa_eq exponent_eq
      rw [BitVec.toNat_append, ← Nat.shiftLeft_add_eq_or_of_lt mantissa, Nat.shiftLeft_eq] at mantissa_eq
      have sum : 1 * 2 ^ 52 + (@unpackMantissa Format.binary64 x.toBits.toBitVec).toNat = m := mantissa_eq
      exact ⟨⟨by omega, by omega, .inl (by omega)⟩, by omega⟩

end WidgetRepair.Binary64
