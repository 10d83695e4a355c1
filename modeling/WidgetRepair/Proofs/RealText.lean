import WidgetRepair.Proofs.DecimalText

/-! Reals read back: the text of every finite real is read as a finite real. -/

namespace WidgetRepair.Json

open Binary64 Decimal Float.Model Float.Model.UnpackedFloat

/-- Decimals up to here are read back within the range of floats, however their digits and their
power of ten are rounded. -/
def readableLimit : Nat := (2 ^ 54 - 3) * 2 ^ 970

/-- Whether a float is a power of ten. -/
def isPower (n : Nat) (x : Float) : Bool :=
  match parts? x with
  | some (m, e) => m * 2 ^ (e + 52).toNat == 10 ^ n * 2 ^ 52 && decide (-52 ≤ e)
  | none => false

theorem reads_of_isPower {n : Nat} {x : Float} (power : isPower n x = true) : Reads x (10 ^ n : Rat) := by
  unfold isPower at power
  split at power
  · next m e parts =>
    simp only [Bool.and_eq_true, beq_iff_eq, decide_eq_true_eq] at power
    obtain ⟨value, least⟩ := power
    refine reads_of_parts parts ?_
    have shifted : (2 : Rat) ^ (e + 52).toNat = 2 ^ e * 2 ^ 52 := by
      rw [← zpow_natCast, Int.toNat_of_nonneg (by omega), zpow_add₀ two_ne_zero]
      norm_num
    have scaled : (m : Rat) * 2 ^ (e + 52).toNat = 10 ^ n * 2 ^ 52 := by exact_mod_cast value
    rw [shifted, ← mul_assoc] at scaled
    exact mul_right_cancel₀ (by norm_num) scaled
  · cases power

/-- A power of ten is the float next to it. -/
theorem reads_powerOfTen {n : Nat} (within : n ≤ 308) : Reads (powerOfTen n) (near (10 ^ n : Rat)) := by
  by_cases small : n ≤ 22
  · have table : ∀ n < 23, isPower n (powerOfTen n) = true := by decide
    have reads := reads_of_isPower (table n (by omega))
    have kept := reads.kept
    rw [kept]
    exact reads
  · have large : ¬(1 < 2 ^ 53 ∧ n ≤ 22) := fun both => small both.2
    have unfolded : powerOfTen n = ⟨Float.Model.ofScientific 1 n⟩ := by
      unfold powerOfTen Float.ofScientific
      rw [dif_neg large]
      rfl
    rw [unfolded]
    show Stands (Float.Model.pack (UnpackedFloat.ofScientific Format.binary64 1 n)).unpack _
    have product : UnpackedFloat.ofScientific Format.binary64 1 n =
        roundWithAccuracy Format.binary64 .positive (1 <<< 53 * 10 ^ n) (-53) .exact := by
      have most : ¬(n : Int) > 2 ^ Format.binary64.exponentBits := by
        show ¬(n : Int) > 2 ^ 11
        omega
      have logs : ¬(n : Int) < -((2 ^ Format.binary64.exponentBits : Int) + Nat.log2 1) := by
        have : (0 : Int) ≤ 2 ^ Format.binary64.exponentBits := by positivity
        omega
      unfold UnpackedFloat.ofScientific
      rw [dif_neg Nat.one_ne_zero, if_neg most, if_neg logs, if_pos (Int.natCast_nonneg n)]
      rfl
    have value : (10 ^ n : Rat) = (1 <<< 53 * 10 ^ n : Nat) * 2 ^ (-53 : Int) := by
      rw [Nat.shiftLeft_eq]
      push_cast
      have cancel : (2 : Rat) ^ 53 * 2 ^ (-53 : Int) = 1 := by
        rw [← zpow_natCast, ← zpow_add₀ two_ne_zero]
        norm_num
      linear_combination (-(10 : Rat) ^ n) * cancel
    rw [product, value]
    refine stands_pack (spells_roundWithAccuracy ?_ (.natCast _) (.inl ?_))
    · rw [Nat.shiftLeft_eq]
      positivity
    · rw [Nat.shiftLeft_eq]
      have : 1 ≤ 10 ^ n := Nat.one_le_pow _ _ (by decide)
      omega

/-- Powers of ten within the range of floats are numbers from one on. -/
theorem exists_powerOfTen {n : Nat} (within : n ≤ 308) :
    ∃ a : Rat, Reads (powerOfTen n) a ∧ 1 ≤ a ∧ near (10 ^ n : Rat) = a := by
  have ten : (1 : Rat) ≤ 10 := by norm_num
  obtain ⟨most, greatest⟩ := exists_coe (reads_powerOfTen (Nat.le_refl 308)) (by decide +kernel)
  have below : near (10 ^ n : Rat) ≤ near (10 ^ 308 : Rat) :=
    near_mono (WithTop.coe_nonneg.mpr (by positivity)) (WithTop.coe_le_coe.mpr (pow_le_pow_right₀ ten within))
  rw [← greatest] at below
  obtain ⟨a, value, -⟩ := WithTop.le_coe_iff.mp below
  have one := near_two_zpow (e := 0) (by decide) (by decide)
  rw [zpow_zero] at one
  have above : near (1 : Rat) ≤ near (10 ^ n : Rat) :=
    near_mono (WithTop.coe_nonneg.mpr zero_le_one) (WithTop.coe_le_coe.mpr (one_le_pow₀ ten))
  rw [one, value] at above
  exact ⟨a, value ▸ reads_powerOfTen within, WithTop.coe_le_coe.mp above, value⟩

theorem exists_significand {n : Nat} (fits : n < naturalLimit) :
    ∃ a : Rat, Reads n.toUInt64.toFloat a ∧ 0 ≤ a ∧ near (n : Rat) = a := by
  have reads := reads_ofUInt64 n.toUInt64
  rw [UInt64.toNat_ofNat_of_lt' fits] at reads
  have limit := near_two_zpow (e := 64) (by decide) (by decide)
  have below : near (n : Rat) ≤ near ((2 ^ (64 : Int) : Rat)) := by
    refine near_mono (WithTop.coe_nonneg.mpr (Nat.cast_nonneg n)) (WithTop.coe_le_coe.mpr ?_)
    have le : n ≤ 2 ^ 64 := Nat.le_of_lt fits
    exact_mod_cast le
  rw [limit] at below
  obtain ⟨a, value, -⟩ := WithTop.le_coe_iff.mp below
  rw [value] at reads
  exact ⟨a, reads, WithTop.coe_nonneg.mp reads.nonneg, value⟩

theorem exists_divided {x : Float} {a : Rat} {n : Nat} (reads : Reads x a) (within : n ≤ 308) :
    ∃ b : Rat, Reads (x / powerOfTen n) b := by
  obtain ⟨d, divisor, above, -⟩ := exists_powerOfTen within
  have quotient := reads.div divisor (lt_of_lt_of_le one_pos above)
  have nonneg := WithTop.coe_nonneg.mp reads.nonneg
  have below : near (a / d : Rat) ≤ near a := by
    refine near_mono (WithTop.coe_nonneg.mpr ?_) (WithTop.coe_le_coe.mpr (div_le_self nonneg above))
    exact div_nonneg nonneg (zero_le_one.trans above)
  rw [reads.kept] at below
  obtain ⟨b, value, -⟩ := WithTop.le_coe_iff.mp below
  exact ⟨b, value ▸ quotient⟩

/-- Numbers with a negative power of ten are read, however small. -/
theorem scale?_down {x : Float} {a : Rat} {exponent : Int} (fuel : Nat) (reads : Reads x a)
    (down : exponent < 0) : ∃ y, scale? x exponent fuel = some y ∧ y.isFinite = true := by
  induction fuel generalizing x a exponent with
  | zero => exact ⟨x, rfl, reads.isFinite⟩
  | succ fuel ih =>
    unfold scale?
    by_cases near : exponent.natAbs ≤ 308
    · obtain ⟨b, quotient⟩ := exists_divided reads near
      rw [if_pos near, if_neg (not_le.mpr down)]
      exact ⟨_, rfl, quotient.isFinite⟩
    · rw [if_neg near]
      split
      · exact ⟨x, rfl, reads.isFinite⟩
      · rw [if_neg (not_le.mpr down)]
        obtain ⟨b, quotient⟩ := exists_divided reads (Nat.le_refl 308)
        exact ih quotient (by omega)

/-- The greatest whole number that is read with a power of ten. -/
def mostScaled (n : Nat) : Nat := min (readableLimit / 10 ^ n) (naturalLimit - 1)

/-- Numbers within the limit are read, with any power of ten. -/
theorem isFinite_scaled {n p : Nat} (fits : n < naturalLimit) (within : p ≤ 308)
    (bound : n * 10 ^ p ≤ readableLimit) : (n.toUInt64.toFloat * powerOfTen p).isFinite = true := by
  have greatest : ∀ k < 21, ((mostScaled (k + 288)).toUInt64.toFloat * powerOfTen (k + 288)).isFinite = true := by
    decide +kernel
  have reach : mostScaled 288 = naturalLimit - 1 := by decide +kernel
  obtain ⟨k, checked, le, most⟩ : ∃ k < 21, p ≤ k + 288 ∧ n ≤ mostScaled (k + 288) := by
    by_cases low : p ≤ 288
    · exact ⟨0, by decide, low, reach ▸ Nat.le_sub_one_of_lt fits⟩
    · refine ⟨p - 288, by omega, by omega, ?_⟩
      unfold mostScaled
      rw [Nat.sub_add_cancel (by omega)]
      exact le_min ((Nat.le_div_iff_mul_le (by positivity)).mpr bound) (by omega)
  have fits' : mostScaled (k + 288) < naturalLimit :=
    (min_le_right _ _).trans_lt (Nat.sub_one_lt (by decide))
  obtain ⟨a, significand, nonneg, aNear⟩ := exists_significand fits
  obtain ⟨b, power, above, bNear⟩ := exists_powerOfTen within
  obtain ⟨c, significand', -, cNear⟩ := exists_significand fits'
  obtain ⟨d, power', -, dNear⟩ := exists_powerOfTen (show k + 288 ≤ 308 by omega)
  have left : a ≤ c := by
    rw [← WithTop.coe_le_coe, ← aNear, ← cNear]
    exact near_mono (WithTop.coe_nonneg.mpr (Nat.cast_nonneg n)) (WithTop.coe_le_coe.mpr (by exact_mod_cast most))
  have right : b ≤ d := by
    rw [← WithTop.coe_le_coe, ← bNear, ← dNear]
    refine near_mono (WithTop.coe_nonneg.mpr (by positivity)) (WithTop.coe_le_coe.mpr ?_)
    exact pow_le_pow_right₀ (by norm_num) le
  obtain ⟨u, value⟩ := exists_coe (Reads.times significand' power') (greatest k checked)
  have below : near (a * b : Rat) ≤ near (c * d : Rat) := by
    refine near_mono (WithTop.coe_nonneg.mpr (by positivity)) (WithTop.coe_le_coe.mpr ?_)
    exact mul_le_mul left right (by linarith) (nonneg.trans left)
  rw [← value] at below
  obtain ⟨v, value, -⟩ := WithTop.le_coe_iff.mp below
  have product := Reads.times significand power
  rw [value] at product
  exact product.isFinite

theorem scale?_up {n : Nat} {exponent : Int} (fuel : Nat) (above : 0 ≤ exponent) (within : exponent ≤ 308)
    (finite : (n.toUInt64.toFloat * powerOfTen exponent.toNat).isFinite = true) :
    ∃ y, scale? n.toUInt64.toFloat exponent (fuel + 1) = some y ∧ y.isFinite = true := by
  have size : exponent.natAbs = exponent.toNat := by omega
  unfold scale?
  rw [if_pos (by omega), if_pos above, size]
  dsimp only
  rw [isInf_of_isFinite finite]
  exact ⟨_, rfl, finite⟩

/-- A power of ten with which a number stays finite; negative ones always do. -/
def Scalable (n : Nat) (exponent : Int) : Prop :=
  0 ≤ exponent → exponent ≤ 308 ∧ (n.toUInt64.toFloat * powerOfTen exponent.toNat).isFinite = true

theorem scaledReal?_finite {n : Nat} {exponent : Int} (fits : n < naturalLimit)
    (limit : Scalable n exponent) (negative : Bool) :
    ∃ y, scaledReal? negative n exponent = some (.real y) ∧ y.isFinite = true := by
  obtain ⟨y, scaled, finite⟩ : ∃ y,
      scale? n.toUInt64.toFloat exponent (exponent.natAbs / 308 + 2) = some y ∧ y.isFinite = true := by
    by_cases above : 0 ≤ exponent
    · exact scale?_up _ above (limit above).1 (limit above).2
    · obtain ⟨a, reads, -, -⟩ := exists_significand fits
      exact scale?_down _ reads (by omega)
  unfold scaledReal?
  rw [scaled]
  cases negative with
  | false => exact ⟨y, rfl, finite⟩
  | true => exact ⟨-y, rfl, isFinite_neg finite⟩

theorem digitValue_le {c : Char} (digit : isDigit c = true) : digitValue c ≤ 9 := by
  simp only [isDigit, Bool.and_eq_true, decide_eq_true_eq] at digit
  unfold digitValue
  omega

theorem digitValue_eq (c : Char) : digitValue c = c.toNat - '0'.toNat := rfl

/-- The digits that are taken are those in front. -/
theorem takeDigits_split (digits : List Char) (k : Nat) : ∃ taken left, taken ++ left = digits ∧
    takeDigits k digits = (Nat.ofDigitChars 10 taken k, left) ∧
      (k < naturalLimit → Nat.ofDigitChars 10 taken k < naturalLimit) := by
  induction digits generalizing k with
  | nil => exact ⟨[], [], rfl, rfl, id⟩
  | cons c rest ih =>
    unfold takeDigits
    dsimp only
    split
    · next next =>
      obtain ⟨taken, left, whole, scanned, small⟩ := ih (k * 10 + digitValue c)
      have first : Nat.ofDigitChars 10 (c :: taken) k = Nat.ofDigitChars 10 taken (k * 10 + digitValue c) := by
        rw [Nat.ofDigitChars_cons, Nat.mul_comm, digitValue_eq]
      refine ⟨c :: taken, left, by rw [List.cons_append, whole], ?_, fun _ => ?_⟩
      · rw [scanned, first]
      · rw [first]
        exact small next
    · exact ⟨[], c :: rest, rfl, rfl, id⟩

/-- A digit with room for it is taken. -/
theorem takeDigits_first {digits : List Char} (digit : Digits digits) {k : Nat}
    (room : k * 10 + 9 < naturalLimit) : ∃ taken left, taken ++ left = digits ∧ taken ≠ [] ∧
      takeDigits k digits = (Nat.ofDigitChars 10 taken k, left) ∧
        Nat.ofDigitChars 10 taken k < naturalLimit := by
  obtain ⟨c, rest, rfl⟩ := List.exists_cons_of_ne_nil digit.1
  have value := digitValue_le (digit.2 c List.mem_cons_self)
  have next : k * 10 + digitValue c < naturalLimit := by omega
  obtain ⟨taken, left, whole, scanned, small⟩ := takeDigits_split rest (k * 10 + digitValue c)
  have first : Nat.ofDigitChars 10 (c :: taken) k = Nat.ofDigitChars 10 taken (k * 10 + digitValue c) := by
    rw [Nat.ofDigitChars_cons, Nat.mul_comm, digitValue_eq]
  refine ⟨c :: taken, left, by rw [List.cons_append, whole], by simp, ?_, ?_⟩
  · unfold takeDigits
    simp only [next, if_true, scanned, first]
  · rw [first]
    exact small next

theorem ofDigitChars_lt {digits : List Char} (all : ∀ c ∈ digits, isDigit c = true) (k : Nat) :
    Nat.ofDigitChars 10 digits k < (k + 1) * 10 ^ digits.length := by
  induction digits generalizing k with
  | nil => simp
  | cons c rest ih =>
    have value := digitValue_le (all c List.mem_cons_self)
    have later := ih (fun d member => all d (List.mem_cons_of_mem c member)) (10 * k + digitValue c)
    rw [Nat.ofDigitChars_cons, ← digitValue_eq]
    refine later.trans_le ?_
    rw [List.length_cons, pow_succ', ← mul_assoc]
    exact Nat.mul_le_mul_right _ (by omega)

/-- A numeral that is read as a finite real. -/
def Numeral.ReadsReal (n : Numeral) : Prop := ∃ y, n.value? = some (.real y) ∧ y.isFinite = true

theorem readsReal_positional {whole fraction : List Char} (digits : Digits whole) (short : whole.length ≤ 16)
    (digits' : Digits fraction) (negative : Bool) :
    Numeral.ReadsReal ⟨negative, whole, some fraction, none⟩ := by
  have bound := ofDigitChars_lt digits.2 0
  have power : 10 ^ whole.length ≤ 10 ^ 16 := Nat.pow_le_pow_right (by decide) short
  have limit : naturalLimit = 18446744073709551616 := rfl
  have front := takeDigits_all whole 0 (by omega)
  obtain ⟨taken, left, parts, some, scanned, small⟩ :=
    takeDigits_first digits' (k := Nat.ofDigitChars 10 whole 0) (by omega)
  have length : fraction.length = taken.length + left.length := by rw [← parts, List.length_append]
  have pos : 0 < taken.length := List.length_pos_iff.mpr some
  unfold Numeral.ReadsReal Numeral.value?
  simp only [front, scanned]
  exact scaledReal?_finite small (fun above => by simp at above; omega) negative

theorem foldl_size (digits : List Char) (k : Nat) :
    digits.foldl (fun k c => min exponentLimit (k * 10 + digitValue c)) (min exponentLimit k) =
      min exponentLimit (Nat.ofDigitChars 10 digits k) := by
  induction digits generalizing k with
  | nil => rfl
  | cons c rest ih =>
    have next : min exponentLimit (min exponentLimit k * 10 + digitValue c) =
        min exponentLimit (10 * k + digitValue c) := by omega
    rw [List.foldl_cons, next, ih, Nat.ofDigitChars_cons, ← digitValue_eq]

theorem size_naturalText (n : Nat) :
    (naturalText n).foldl (fun k c => min exponentLimit (k * 10 + digitValue c)) 0 = min exponentLimit n := by
  have counted := foldl_size (Nat.toDigits 10 n) 0
  rw [Nat.ofDigitChars_ten_toDigits] at counted
  exact counted

theorem leading_lt {ds : List Char} {e : Int} (leading : Leading ds e readableLimit) :
    e < 309 := by
  have ten : (1 : Rat) < 10 := by norm_num
  have limit : (readableLimit : Rat) < 10 ^ (309 : Int) := by
    have less : readableLimit < 10 ^ 309 := by decide +kernel
    exact_mod_cast less
  exact (zpow_lt_zpow_iff_right₀ ten).mp (leading.place.trans_lt limit)

/-- The digits in front of a decimal within the limit can be scaled to their place. -/
theorem scalable_front {ds taken left : List Char} {e : Int} (leading : Leading ds e readableLimit)
    (parts : taken ++ left = ds) (some : taken ≠ [])
    (fits : Nat.ofDigitChars 10 taken 0 < naturalLimit) :
    Scalable (Nat.ofDigitChars 10 taken 0) (e + 1 - taken.length) := by
  intro above
  have most := leading_lt leading
  have pos : 0 < taken.length := List.length_pos_iff.mpr some
  refine ⟨by omega, isFinite_scaled fits (by omega) ?_⟩
  have front : Nat.ofDigitChars 10 taken 0 * 10 ^ left.length ≤ Nat.ofDigitChars 10 ds 0 := by
    rw [← parts, Nat.ofDigitChars_append, Nat.ofDigitChars_eq_ofDigitChars_zero (l := left), Nat.mul_comm]
    exact Nat.le_add_right _ _
  have length : (ds.length : Int) = taken.length + left.length := by
    rw [← parts, List.length_append, Nat.cast_add]
  have exponent : e + 1 - taken.length = left.length + (e - ds.length + 1) := by omega
  have place : (10 : Rat) ^ (e + 1 - taken.length).toNat = 10 ^ left.length * 10 ^ (e - ds.length + 1) := by
    rw [← zpow_natCast, Int.toNat_of_nonneg above, exponent, zpow_add₀ (by norm_num), zpow_natCast]
  have value : (Nat.ofDigitChars 10 taken 0 * 10 ^ (e + 1 - taken.length).toNat : Rat) ≤ readableLimit := by
    rw [place, ← mul_assoc]
    refine le_trans (mul_le_mul_of_nonneg_right ?_ (zpow_pos (by norm_num) _).le) leading.value
    exact_mod_cast front
  exact_mod_cast value

/-- A number is read with its exponent, which is counted only so far. -/
theorem exists_exponent {n : Nat} {e : Int} (shift : Int) (fits : n < naturalLimit) (shifted : shift ≤ 0)
    (limit : Scalable n (shift + e)) (most : e < 309) (negative : Bool) : ∃ y,
      (if min exponentLimit e.natAbs < exponentLimit then
        scaledReal? negative n (if decide (e < 0) = true then shift - (min exponentLimit e.natAbs : Nat)
          else shift + (min exponentLimit e.natAbs : Nat))
      else if (n != 0 && !decide (e < 0)) = true then none
      else some (.real (if negative = true then -0.0 else 0.0))) = some (.real y) ∧ y.isFinite = true := by
  have counted : exponentLimit = 2147483648 := rfl
  by_cases down : e < 0
  · simp only [down, decide_true, Bool.not_true, Bool.and_false, Bool.false_eq_true, if_true, if_false]
    split
    · exact scaledReal?_finite fits (fun above => by omega) negative
    · cases negative with
      | false => exact ⟨_, rfl, by decide⟩
      | true => exact ⟨_, rfl, by decide⟩
  · have size : ((min exponentLimit e.natAbs : Nat) : Int) = e := by omega
    have small : min exponentLimit e.natAbs < exponentLimit := by omega
    simp only [down, decide_false, Bool.false_eq_true, if_false, size, if_pos small]
    exact scaledReal?_finite fits limit negative

theorem readsReal_exponential {c : Char} {more : List Char} {e : Int}
    (leading : Leading (c :: more) e readableLimit) (negative : Bool) :
    Numeral.ReadsReal ⟨negative, [c], if more = [] then none else some more,
      some (decide (e < 0), naturalText e.natAbs)⟩ := by
  have digit : digitValue c ≤ 9 := digitValue_le (leading.digits.2 c List.mem_cons_self)
  have first : Nat.ofDigitChars 10 [c] 0 = digitValue c := by
    rw [Nat.ofDigitChars_cons, digitValue_eq]
    simp
  have limit : naturalLimit = 18446744073709551616 := rfl
  have front := takeDigits_all [c] 0 (by omega)
  obtain ⟨taken, left, parts, counted, small⟩ : ∃ taken left, taken ++ left = more ∧
      takeDigits (Nat.ofDigitChars 10 [c] 0) more = (Nat.ofDigitChars 10 (c :: taken) 0, left) ∧
        Nat.ofDigitChars 10 (c :: taken) 0 < naturalLimit := by
    obtain ⟨taken, left, parts, scanned, small⟩ := takeDigits_split more (Nat.ofDigitChars 10 [c] 0)
    have joined : Nat.ofDigitChars 10 (c :: taken) 0 = Nat.ofDigitChars 10 taken (Nat.ofDigitChars 10 [c] 0) :=
      (Nat.ofDigitChars_append 0 : Nat.ofDigitChars 10 ([c] ++ taken) 0 = _)
    exact ⟨taken, left, parts, joined ▸ scanned, joined ▸ small (by omega)⟩
  have within := scalable_front leading (congrArg (c :: ·) parts) (List.cons_ne_nil c taken) small
  have most := leading_lt leading
  have length : more.length = taken.length + left.length := by rw [← parts, List.length_append]
  have place : e + 1 - (c :: taken).length = -taken.length + e := by
    rw [List.length_cons]
    push_cast
    ring
  rw [place] at within
  unfold Numeral.ReadsReal Numeral.value?
  simp only [front, size_naturalText, List.length_nil]
  by_cases single : more = []
  · subst single
    obtain ⟨rfl, rfl⟩ := List.append_eq_nil_iff.mp parts
    exact exists_exponent 0 (by omega) (Int.le_refl 0) within most negative
  · simp only [if_neg single, counted]
    have shift : (0 : Int) - (more.length - left.length : Nat) = -taken.length := by omega
    simp only [Nat.cast_zero, shift]
    exact exists_exponent _ small (by omega) within most negative

theorem readsReal_spelled {ds : List Char} {e : Int} (leading : Leading ds e readableLimit) (negative : Bool) :
    (spelled negative ds e).ReadsReal := by
  obtain ⟨digits, first, -, -⟩ := id leading
  obtain ⟨some, all⟩ := id digits
  unfold spelled
  split
  · next near =>
    split
    · next long =>
      refine readsReal_positional ⟨by simp [some], ?_⟩ ?_ ⟨by simp, by simp [isDigit]⟩ negative
      · intro d member
        exact (List.mem_append.mp member).elim (all d) (digits_replicate _ d)
      · simp [zeros]
        omega
    · next long =>
      split
      · next whole =>
        obtain ⟨n, size⟩ : ∃ n, (e + 1).toNat = n + 1 := ⟨e.toNat, by omega⟩
        refine readsReal_positional (digits_of_mem digits (fun d => List.mem_of_mem_take) ?_) ?_
          (digits_of_mem digits (fun d => List.mem_of_mem_drop) ?_) negative
        · simp [size, some]
        · rw [List.length_take]
          omega
        · have := List.length_pos_iff.mpr some
          simp
          omega
      · refine readsReal_positional ⟨by simp, by simp [isDigit]⟩ (by simp) ⟨by simp [some], ?_⟩ negative
        intro d member
        exact (List.mem_append.mp member).elim (digits_replicate _ d) (all d)
  · obtain ⟨c, more, rfl⟩ := List.exists_cons_of_ne_nil some
    exact readsReal_exponential leading negative

theorem bound_of_plain {v : Decimal.Dyadic} (plain : v.Plain) (other : ¬(v.mantissa = 2 ^ 53 - 1 ∧ v.exponent = 971)) :
    (v.mantissa + 1 / 2 : Rat) * 2 ^ v.exponent ≤ readableLimit := by
  obtain ⟨bits, exponent⟩ := plain
  have limit : (readableLimit : Rat) = (2 ^ 54 - 3) * 2 ^ (970 : Int) := by
    have place : (2 : Rat) ^ (970 : Int) = 2 ^ 970 := zpow_natCast 2 970
    have factored : readableLimit = (2 ^ 54 - 3) * 2 ^ 970 := rfl
    rw [place, factored, Nat.cast_mul, Nat.cast_sub (by decide)]
    simp only [Nat.cast_pow, Nat.cast_ofNat]
  rw [limit]
  by_cases top : v.exponent = 971
  · have less : (v.mantissa : Rat) ≤ 2 ^ 53 - 2 := by
      have : v.mantissa + 2 ≤ 2 ^ 53 := by omega
      have : (v.mantissa + 2 : Rat) ≤ 2 ^ 53 := by exact_mod_cast this
      linarith
    have double : (2 : Rat) ^ (971 : Int) = 2 * 2 ^ (970 : Int) := by
      rw [← zpow_one_add₀ two_ne_zero]
      rfl
    rw [top, double, ← mul_assoc]
    exact mul_le_mul_of_nonneg_right (by linarith) (two_zpow_pos 970).le
  · have less : (v.mantissa : Rat) ≤ 2 ^ 53 - 1 := by
      have : v.mantissa + 1 ≤ 2 ^ 53 := by omega
      have : (v.mantissa + 1 : Rat) ≤ 2 ^ 53 := by exact_mod_cast this
      linarith
    have place : (2 : Rat) ^ v.exponent ≤ 2 ^ (970 : Int) := zpow_le_zpow_right₀ one_le_two (by omega)
    refine mul_le_mul (by linarith) place (two_zpow_pos _).le (by norm_num)

/-- The greatest float is written above the limit, and read all the same. -/
theorem readsReal_greatest (negative : Bool) :
    Numeral.ReadsReal (spelled negative
      (shortest ⟨negative, 2 ^ 53 - 1, 971⟩).significant.1 (shortest ⟨negative, 2 ^ 53 - 1, 971⟩).significant.2) := by
  have digits : (shortest ⟨negative, 2 ^ 53 - 1, 971⟩).significant = ("17976931348623157".toList, 308) := by
    cases negative <;> decide +kernel
  rw [digits]
  have value : Numeral.value? (spelled negative "17976931348623157".toList 308) =
      scaledReal? negative 17976931348623157 292 := by cases negative <;> rfl
  unfold Numeral.ReadsReal
  rw [value]
  exact scaledReal?_finite (by decide) (fun _ => ⟨by decide, by decide +kernel⟩) negative

theorem exists_spelling {x : Float} (finite : x.isFinite = true) :
    ∃ k : Numeral, k.Proper ∧ k.text = (Number.real x).text ∧ k.ReadsReal := by
  obtain ⟨v, word, plain⟩ := ofBits?_isFinite finite
  have text : (Number.real x).text = (if v.negative then ['-'] else []) ++
      (if v.mantissa = 0 then ['0', '.', '0'] else decimalText realLayout (shortest v)) := by
    show realText x = _
    unfold realText
    rw [word]
    dsimp only
    split <;> rfl
  rw [text]
  by_cases zero : v.mantissa = 0
  · have zeros : Digits ['0'] := ⟨by simp, by simp [isDigit]⟩
    refine ⟨⟨v.negative, ['0'], some ['0'], none⟩, ⟨zeros, fun _ => Nat.le_refl 1, ?_, ?_⟩, ?_,
      readsReal_positional zeros (by simp) zeros v.negative⟩
    · intro part same
      cases same
      exact zeros
    · intro exponent absent
      cases absent
    · simp [zero, Numeral.text, Numeral.fractionText, Numeral.exponentText]
  · rw [if_neg zero]
    have pos := Nat.pos_of_ne_zero zero
    obtain ⟨digits, first, -, -⟩ :=
      significant_leading (shortest_below pos (le_max_left _ _) (le_max_right _ _))
    have read : (spelled v.negative (shortest v).significant.1 (shortest v).significant.2).ReadsReal := by
      by_cases top : v.mantissa = 2 ^ 53 - 1 ∧ v.exponent = 971
      · obtain ⟨negative, mantissa, exponent⟩ := v
        obtain ⟨rfl, rfl⟩ := top
        exact readsReal_greatest negative
      · have mantissa : (v.mantissa : Rat) ≤ readableLimit := by
          have least : 2 ^ 53 ≤ readableLimit := by
            unfold readableLimit
            exact Nat.le_trans (by decide) (Nat.le_mul_of_pos_right _ (by positivity))
          exact_mod_cast (plain.bits.trans_le least).le
        exact readsReal_spelled (significant_leading
          (shortest_below pos (bound_of_plain plain top) mantissa)) v.negative
    exact ⟨_, proper_spelled digits first v.negative, text_spelled v.negative (shortest v), read⟩

/-- Finite reals are read back, as finite reals. -/
theorem real_legible {x : Float} (finite : x.isFinite = true) :
    (Number.real x).Legible ∧ (Number.real x).reread.toFloat.isFinite = true := by
  obtain ⟨k, proper, same, y, value, read⟩ := exists_spelling finite
  refine ⟨⟨k, proper, same, by rw [value]; rfl⟩, ?_⟩
  rw [Number.reread_of_text proper same value]
  exact read

end WidgetRepair.Json
