import WidgetRepair.Pattern.Basic
import WidgetRepair.Proofs.FloatValues

/-! Confidence stays between its limits, and a pattern whose error text or keyword occurs has a
positive score, however its numbers are rounded. -/

namespace WidgetRepair

open Binary64

namespace Confidence

/-- A confidence between the limits. -/
def InRange (c : Float) : Prop := least ≤ c ∧ c ≤ most

instance (c : Float) : Decidable (InRange c) := inferInstanceAs (Decidable (_ ∧ _))

theorem reads_least : Reads least (7205759403792794 * 2 ^ (-56 : Int) : Rat) :=
  reads_of_parts (by decide : parts? least = some (7205759403792794, -56)) rfl

theorem reads_gain : Reads gain (7205759403792794 * 2 ^ (-57 : Int) : Rat) :=
  reads_of_parts (by decide : parts? gain = some (7205759403792794, -57)) rfl

theorem reads_most : Reads most (1 : Rat) := reads_one

/-- A confidence between the limits has a value between theirs. -/
theorem InRange.exists_reads {c : Float} (range : InRange c) :
    ∃ a : Rat, Reads c a ∧ 7205759403792794 * 2 ^ (-56 : Int) ≤ a ∧ a ≤ 1 := by
  obtain ⟨a, reads⟩ := reads_least.exists_of_le range.1
  have low := (reads_least.le_iff reads).mp range.1
  have high := (reads.le_iff reads_most).mp range.2
  cases a with
  | top => exact absurd high (WithTop.not_top_le_coe _)
  | coe a => exact ⟨a, reads, WithTop.coe_le_coe.mp low, WithTop.coe_le_coe.mp high⟩

theorem inRange_learned : InRange learned := by decide

theorem inRange_raised {c : Float} (range : InRange c) : InRange (raised c) := by
  obtain ⟨a, reads, low, high⟩ := range.exists_reads
  have sum := reads.add reads_gain
  unfold raised atMost
  split
  · next below =>
    refine ⟨?_, ?_⟩
    · rw [reads_least.le_iff sum, ← reads_least.kept]
      exact near_mono reads_least.nonneg
        (le_add_of_le_of_nonneg (WithTop.coe_le_coe.mpr low) reads_gain.nonneg)
    · rw [sum.le_iff reads_most]
      exact ((sum.lt_iff reads_most).mp below).le
  · decide

theorem inRange_lowered {c : Float} (range : InRange c) : InRange (lowered c) := by
  obtain ⟨a, reads, low, high⟩ := range.exists_reads
  have difference := reads.sub (y := loss) reads_least low
  unfold lowered atLeast
  split
  · next above =>
    refine ⟨?_, ?_⟩
    · rw [reads_least.le_iff difference]
      exact ((reads_least.lt_iff difference).mp above).le
    · rw [difference.le_iff reads_most, ← reads_most.kept]
      refine near_mono (WithTop.coe_nonneg.mpr (sub_nonneg.mpr low)) (WithTop.coe_le_coe.mpr ?_)
      exact (sub_le_self a (by positivity)).trans high
  · decide

theorem inRange_after {c : Float} (range : InRange c) (success : Bool) : InRange (after success c) := by
  unfold after
  split
  · exact inRange_raised range
  · exact inRange_lowered range

theorem InRange.atLeast {c : Float} (range : InRange c) : AtLeast (-4) c := by
  refine AtLeast.of_le ⟨_, reads_least, WithTop.coe_le_coe.mpr ?_⟩ range.1
  norm_num

end Confidence

namespace FixPattern

/-- A pattern fits an output in which its error text or one of its keywords occurs. -/
def Fits (p : FixPattern) (output : String) : Prop :=
  (p.errorPattern ≠ "" ∧ Text.contains output p.errorPattern) ∨ 0 < p.hits (Text.lowered output)

theorem reads_signatureWeight : Reads signatureWeight (10 : Rat) :=
  reads_of_parts (by decide : parts? signatureWeight = some (5629499534213120, -49)) (by norm_num)

theorem reads_keywordWeight : Reads keywordWeight (2 : Rat) :=
  reads_of_parts (by decide : parts? keywordWeight = some (4503599627370496, -51)) (by norm_num)

theorem atLeast_rawScore {p : FixPattern} {output : String} (fits : p.Fits output) :
    AtLeast 1 (p.rawScore output) := by
  unfold rawScore
  obtain ⟨some, occurs⟩ | hit := fits
  · have whole : (!p.errorPattern.isEmpty && Text.contains output p.errorPattern) = true := by
      rw [occurs, Bool.and_true, Bool.not_eq_true', ← Bool.not_eq_true, String.isEmpty_iff]
      exact some
    have words := (reads_ofNat (p.hits (Text.lowered output))).mul reads_keywordWeight
      (fun _ => WithTop.coe_ne_zero.mpr two_ne_zero) (fun top => absurd top WithTop.coe_ne_top)
    dsimp only
    rw [if_pos whole]
    refine AtLeast.add ⟨_, reads_signatureWeight, WithTop.coe_le_coe.mpr ?_⟩ words (by decide) (by decide)
    norm_num
  · have one : AtLeast 0 (Float.ofNat (p.hits (Text.lowered output))) := by
      refine AtLeast.of_near (reads_ofNat _) (WithTop.coe_le_coe.mpr ?_) (by decide) (by decide)
      exact_mod_cast hit
    have two : AtLeast 1 keywordWeight := ⟨_, reads_keywordWeight, WithTop.coe_le_coe.mpr (by norm_num)⟩
    have words := one.mul two (by decide) (by decide)
    dsimp only
    split
    · exact AtLeast.add' reads_signatureWeight words (by decide) (by decide)
    · exact AtLeast.add' reads_zero words (by decide) (by decide)

theorem exists_reads_tenth (n : Nat) : ∃ a, Reads (Float.ofNat n / 10.0) a := by
  have ten : Reads (10.0 : Float) (10 : Rat) := reads_signatureWeight
  have count := reads_ofNat n
  generalize near (n : Rat) = a at count
  cases a with
  | top => exact ⟨_, count.div_of_top ten (by norm_num)⟩
  | coe a => exact ⟨_, count.div ten (by norm_num)⟩

/-- Successes never weigh against a pattern. -/
theorem atLeast_boost (n : Nat) : AtLeast 0 (1.0 + Float.ofNat n / 10.0) := by
  obtain ⟨b, record⟩ := exists_reads_tenth n
  exact AtLeast.add ⟨_, reads_one, WithTop.coe_le_coe.mpr (by norm_num)⟩ record (by decide) (by decide)

/-- A pattern that fits has a positive score: what it weighs is never rounded to zero. -/
theorem score_pos {p : FixPattern} {output : String} (range : Confidence.InRange p.confidence)
    (fits : p.Fits output) : 0.0 < p.score output := by
  have weighted := (atLeast_rawScore fits).mul range.atLeast (by decide) (by decide)
  exact (weighted.mul (atLeast_boost p.successes) (by decide) (by decide)).pos

end FixPattern

end WidgetRepair
