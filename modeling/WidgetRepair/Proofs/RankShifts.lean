import WidgetRepair.Proofs.FloatGrowth
import WidgetRepair.Proofs.Rankings
import WidgetRepair.Proofs.RetiredPatterns

/-! Where a pattern stands among the matches when an outcome is taken down for it. A success raises its score, so that
no more patterns stand before it, and a failure lowers it, so that no fewer do. The other patterns keep their scores,
and with them their order. -/

namespace WidgetRepair

open Binary64

variable {α : Type}

section Places

theorem countP_split {p q r : α → Bool} {items : List α} (either : ∀ a ∈ items, r a = (p a || q a))
    (apart : ∀ a ∈ items, p a = true → q a = false) : items.countP r = items.countP p + items.countP q := by
  induction items with
  | nil => rfl
  | cons a rest ih =>
    obtain ⟨first, either⟩ := List.forall_mem_cons.mp either
    obtain ⟨single, apart⟩ := List.forall_mem_cons.mp apart
    rw [List.countP_cons, List.countP_cons, List.countP_cons, ih either apart, first]
    cases above : p a with
    | true => simp [single above, Nat.add_right_comm]
    | false => simp [Nat.add_assoc]

variable {score : α → Float} {front back ranked : List α} {p q : α} {x y : Float}

/-- What is not below a score is above it or the same. -/
theorem countP_above (pos : 0.0 < x) (items : List α) : items.countP (fun a => x ≤ score a) =
    items.countP (fun a => x < score a) + items.countP fun a => 0.0 < score a && score a == x := by
  obtain ⟨b, reads⟩ := exists_reads_of_pos pos
  have value := (reads_zero.lt_iff reads).mp pos
  refine countP_split (fun a _ => ?_) fun a _ above => ?_
  · rw [Bool.eq_iff_iff, Bool.or_eq_true, Bool.and_eq_true, decide_eq_true_eq, decide_eq_true_eq, decide_eq_true_eq]
    constructor
    · intro le
      obtain ⟨c, reads'⟩ := reads.exists_of_le le
      rw [reads.lt_iff reads', reads_zero.lt_iff reads', reads'.beq_iff reads]
      rw [reads.le_iff reads'] at le
      exact le.lt_or_eq.imp_right fun same => ⟨value.trans_le le, same.symm⟩
    · rintro (less | ⟨counts, same⟩)
      · exact le_of_lt less
      · obtain ⟨c, reads'⟩ := exists_reads_of_pos counts
        exact (reads.le_iff reads').mpr ((reads'.beq_iff reads).mp same).ge
  · obtain ⟨c, reads'⟩ := reads.exists_of_le (le_of_lt (of_decide_eq_true above))
    have less := (reads.lt_iff reads').mp (of_decide_eq_true above)
    rw [Bool.and_eq_false_iff, Bool.eq_false_iff (b := score a == x), ne_eq, reads'.beq_iff reads]
    exact .inr less.ne'

/-- An item that counts in its ranking, between those that stand above and below. -/
structure Placed (score : α → Float) (front : List α) (p : α) (back above below : List α) : Prop where
  others : (above ++ below).Perm ((front ++ back).filter fun a => 0.0 < score a)
  high : ∀ a ∈ above, score p ≤ score a
  low : ∀ a ∈ below, score a ≤ score p
  level : above.filter (score · == score p) = front.filter fun a => 0.0 < score a && score a == score p

theorem Ranks.placed (ranks : Ranks score (front ++ p :: back) ranked) (pos : 0.0 < score p)
    (single : p ∉ front ++ back) :
    ∃ above below, ranked = above ++ p :: below ∧ Placed score front p back above below := by
  have counts : decide (0.0 < score p) = true := decide_eq_true pos
  have listed := ranks.listed
  rw [List.filter_append, List.filter_cons, if_pos counts] at listed
  obtain ⟨above, below, rfl⟩ := List.append_of_mem (listed.mem_iff.mpr (by simp : p ∈ _))
  have others : (above ++ below).Perm ((front ++ back).filter fun a => 0.0 < score a) := by
    rw [List.filter_append]
    exact ((List.perm_middle.symm.trans listed).trans List.perm_middle).cons_inv
  have absent : p ∉ above ++ below := fun member => single (List.mem_filter.mp (others.mem_iff.mp member)).1
  obtain ⟨-, lower, high⟩ := List.pairwise_append.mp ranks.descending
  refine ⟨above, below, rfl, others, fun a member => high a member p List.mem_cons_self,
    (List.pairwise_cons.mp lower).1, ?_⟩
  obtain ⟨b, reads⟩ := exists_reads_of_pos pos
  have itself : (score p == score p) = true := (reads.beq_iff reads).mpr rfl
  have stable := ranks.stable (score p)
  rw [List.filter_append, List.filter_cons, if_pos itself, List.filter_append, List.filter_cons, counts, itself,
    Bool.and_self, if_pos rfl, List.append_cons_inj_of_notMem] at stable
  · exact stable.1
  · exact fun member => absent (List.mem_append_left below (List.mem_filter.mp member).1)
  · exact fun member => absent (List.mem_append_right above (List.mem_filter.mp member).1)

namespace Placed

variable {above below : List α}

theorem counting (placed : Placed score front p back above below) {a : α} (member : a ∈ above ++ below) :
    a ∈ front ++ back ∧ 0.0 < score a :=
  (List.mem_filter.mp (placed.others.mem_iff.mp member)).imp_right of_decide_eq_true

/-- What scores more than an item stands above it. -/
theorem countP_higher (placed : Placed score front p back above below) (pos : 0.0 < score p) :
    above.countP (fun a => score p < score a) = (front ++ back).countP fun a => score p < score a := by
  obtain ⟨b, reads⟩ := exists_reads_of_pos pos
  have none : below.countP (fun a => score p < score a) = 0 := by
    refine List.countP_eq_zero.mpr fun a member less => ?_
    obtain ⟨c, reads'⟩ := exists_reads_of_pos (placed.counting (List.mem_append_right above member)).2
    have le := (reads'.le_iff reads).mp (placed.low a member)
    exact le.not_gt ((reads.lt_iff reads').mp (of_decide_eq_true less))
  have counted := placed.others.countP_eq fun a => score p < score a
  rw [List.countP_append, none, Nat.add_zero, List.countP_filter] at counted
  rw [counted]
  refine List.countP_congr fun a _ => ?_
  rw [Bool.and_eq_true, decide_eq_true_eq, decide_eq_true_eq]
  refine and_iff_left_of_imp fun less => ?_
  obtain ⟨c, reads'⟩ := reads.exists_of_le (le_of_lt less)
  rw [reads_zero.lt_iff reads']
  exact ((reads_zero.lt_iff reads).mp pos).trans ((reads.lt_iff reads').mp less)

/-- What scores the same as an item stands above it just if it was in front of it. -/
theorem countP_level (placed : Placed score front p back above below) :
    above.countP (fun a => 0.0 < score a && score a == score p) =
      front.countP fun a => 0.0 < score a && score a == score p := by
  rw [List.countP_eq_length_filter (l := front), ← placed.level, ← List.countP_eq_length_filter]
  refine List.countP_congr fun a member => ?_
  simp [(placed.counting (List.mem_append_left below member)).2]

theorem length_above (placed : Placed score front p back above below) (pos : 0.0 < score p) :
    above.length = front.countP (fun a => score p ≤ score a) + back.countP fun a => score p < score a := by
  have all : above.countP (fun a => score p ≤ score a) = above.length :=
    List.countP_eq_length.mpr fun a member => decide_eq_true (placed.high a member)
  rw [← all, countP_above pos, placed.countP_higher pos, placed.countP_level, List.countP_append, countP_above pos]
  omega

end Placed

/-- Before an item stand those with a higher score, and those with the same one that were before it already. -/
theorem Ranks.ahead_eq (ranks : Ranks score (front ++ p :: back) ranked) (pos : 0.0 < score p) {key : α → String}
    (apart : ∀ a ∈ front ++ back, key a ≠ key p) :
    (ranked.takeWhile (key · != key p)).length =
      front.countP (fun a => score p ≤ score a) + back.countP fun a => score p < score a := by
  obtain ⟨above, below, rfl, placed⟩ := ranks.placed pos fun member => apart p member rfl
  rw [List.takeWhile_append_of_pos, List.takeWhile_cons_of_neg (by simp), List.append_nil, placed.length_above pos]
  intro a member
  exact bne_iff_ne.mpr (apart a (placed.counting (List.mem_append_left below member)).1)

/-- An item moves up when its score grows. -/
theorem Ranks.ahead_le {ranked' : List α} (ranks : Ranks score (front ++ p :: back) ranked)
    (ranks' : Ranks score (front ++ q :: back) ranked') {key : α → String}
    (apart : ∀ a ∈ front ++ back, key a ≠ key p) (named : key q = key p) (pos : 0.0 < score p)
    (le : score p ≤ score q) :
    (ranked'.takeWhile (key · != key p)).length ≤ (ranked.takeWhile (key · != key p)).length := by
  obtain ⟨a, reads⟩ := exists_reads_of_pos pos
  obtain ⟨b, reads'⟩ := reads.exists_of_le le
  rw [reads.le_iff reads'] at le
  have pos' : 0.0 < score q :=
    (reads_zero.lt_iff reads').mpr (((reads_zero.lt_iff reads).mp pos).trans_le le)
  rw [ranks.ahead_eq pos apart, ← named, ranks'.ahead_eq pos' (named ▸ apart)]
  refine Nat.add_le_add (List.countP_mono_left fun x _ above => ?_) (List.countP_mono_left fun x _ above => ?_)
  · have above := of_decide_eq_true above
    obtain ⟨c, reads_x⟩ := reads'.exists_of_le above
    exact decide_eq_true ((reads.le_iff reads_x).mpr (le.trans ((reads'.le_iff reads_x).mp above)))
  · have above := of_decide_eq_true above
    obtain ⟨c, reads_x⟩ := reads'.exists_of_le (le_of_lt above)
    exact decide_eq_true ((reads.lt_iff reads_x).mpr (le.trans_lt ((reads'.lt_iff reads_x).mp above)))

end Places

namespace Confidence

theorem le_raised {c : Float} (range : InRange c) : c ≤ raised c := by
  obtain ⟨a, reads, -, -⟩ := range.exists_reads
  have sum := reads.add reads_gain
  unfold raised atMost
  split
  next =>
    rw [reads.le_iff sum]
    have more : (a : WithTop Rat) ≤ a + (7205759403792794 * 2 ^ (-57 : Int) : Rat) :=
      le_add_of_nonneg_right reads_gain.nonneg
    exact reads.kept.ge.trans (near_mono reads.nonneg more)
  next => exact range.2

theorem InRange.le_self {c : Float} (range : InRange c) : c ≤ c := by
  obtain ⟨a, reads, -, -⟩ := range.exists_reads
  exact (reads.le_iff reads).mpr le_rfl

end Confidence

namespace FixPattern

variable {p q : FixPattern} {output : String}

/-- A pattern with as many words in common scores no less with more confidence and more successes. -/
theorem score_le (range : Confidence.InRange p.confidence) (fits : p.Fits output)
    (raw : q.rawScore output = p.rawScore output) (confidence : p.confidence ≤ q.confidence)
    (successes : p.successes ≤ q.successes) : p.score output ≤ q.score output := by
  have words := atLeast_rawScore fits
  obtain ⟨a, reads, -⟩ := atLeast_rawScore fits
  have weighted := words.mul_le range.atLeast ((reads.le_iff reads).mpr le_rfl) confidence
  obtain ⟨b, record⟩ := exists_reads_tenth p.successes
  have boost := reads_one.add_le record
    ((reads_ofNat _).div_le reads_signatureWeight (by norm_num) (ofNat_le successes))
  unfold score
  rw [raw]
  exact (words.mul range.atLeast (by decide) (by decide)).mul_le (atLeast_boost _) weighted boost

theorem rawScore_unfit (unfit : ¬ p.Fits output) : p.rawScore output = 0.0 := by
  unfold Fits at unfit
  rw [not_or, Nat.pos_iff_ne_zero, not_not] at unfit
  obtain ⟨unmatched, none⟩ := unfit
  have apart : (!p.errorPattern.isEmpty && Text.contains output p.errorPattern) = false := by
    rw [Bool.eq_false_iff, ne_eq, Bool.and_eq_true, Bool.not_eq_true', ← Bool.not_eq_true, String.isEmpty_iff]
    exact unmatched
  unfold rawScore
  rw [apart, none]
  rfl

theorem score_pos_iff (range : Confidence.InRange p.confidence) : 0.0 < p.score output ↔ p.Fits output := by
  refine ⟨fun pos => ?_, score_pos range⟩
  by_contra unfit
  obtain ⟨c, reads, -, -⟩ := range.exists_reads
  have weighted := reads_zero.mul reads (fun top => absurd top WithTop.coe_ne_top) fun top =>
    absurd top WithTop.coe_ne_top
  rw [WithTop.coe_zero, zero_mul, ← WithTop.coe_zero, reads_zero.kept] at weighted
  unfold score at pos
  rw [rawScore_unfit unfit] at pos
  exact weighted.not_pos_mul _ pos

end FixPattern

namespace Store

/-- The matches in front of the pattern of an id; all of them where it is not listed. -/
def ahead (s : Store) (id output : String) : List (FixPattern × Float) :=
  (s.rankedMatches output).takeWhile (·.1.id != id)

/-- The matches that are of other patterns. -/
def beside (s : Store) (id output : String) : List (FixPattern × Float) :=
  (s.rankedMatches output).filter (·.1.id != id)

def Lists (s : Store) (id output : String) : Prop := ∃ m ∈ s.rankedMatches output, m.1.id = id

/-- The counter of successes of the pattern of an id can go higher. -/
def Room (s : Store) (id : String) : Prop := ∀ p ∈ s.patterns, p.id = id → ¬ p.Full true

/-- How the matches of an output change with an outcome that is taken down for the pattern of an id. -/
structure Moved (success : Bool) (id output : String) (s after : Store) : Prop where
  up : success = true → s.Room id → (after.ahead id output).length ≤ (s.ahead id output).length
  down : success = false → (s.ahead id output).length ≤ (after.ahead id output).length
  listed : after.Lists id output ↔ s.Lists id output
  others : after.beside id output = s.beside id output

variable {s after : Store} {id output : String} {success : Bool} {front back : List FixPattern} {p q : FixPattern}

theorem lists_iff : s.Lists id output ↔ ∃ p ∈ s.patterns, p.id = id ∧ 0.0 < p.score output := by
  unfold Lists rankedMatches
  constructor
  · rintro ⟨m, member, named⟩
    rw [(ranking_perm _ _).mem_iff] at member
    obtain ⟨p, counts, rfl⟩ := List.mem_map.mp member
    obtain ⟨member, pos⟩ := List.mem_filter.mp counts
    exact ⟨p, member, named, of_decide_eq_true pos⟩
  · rintro ⟨p, member, named, pos⟩
    refine ⟨(p, p.score output), (ranking_perm _ _).mem_iff.mpr ?_, named⟩
    exact List.mem_map.mpr ⟨p, List.mem_filter.mpr ⟨member, decide_eq_true pos⟩, rfl⟩

theorem beside_eq (s : Store) (id output : String) :
    s.beside id output = ranking (·.score output) (s.patterns.filter (·.id != id)) :=
  filter_ranking (fun p : FixPattern => p.score output) (fun p : FixPattern => p.id != id) s.patterns

/-- A pattern that is not listed has all others in front. -/
theorem ahead_of_unlisted (unlisted : ¬ s.Lists id output) : s.ahead id output = s.beside id output := by
  have apart : ∀ m ∈ s.rankedMatches output, (m.1.id != id) = true := fun m member =>
    bne_iff_ne.mpr fun named => unlisted ⟨m, member, named⟩
  exact (List.takeWhile_eq_self_iff.mpr apart).trans (List.filter_eq_self.mpr apart).symm

theorem length_ahead (s : Store) (id output : String) :
    (s.ahead id output).length = ((s.matches? output).takeWhile (·.id != id)).length := by
  unfold ahead matches?
  rw [List.takeWhile_map, List.length_map]
  rfl

/-- One pattern of two stores is another, and the others are the same. -/
structure Differ (s after : Store) (front : List FixPattern) (p q : FixPattern) (back : List FixPattern) : Prop where
  before : s.patterns = front ++ p :: back
  after : after.patterns = front ++ q :: back
  apart : ∀ a ∈ front ++ back, a.id ≠ p.id
  named : q.id = p.id

namespace Differ

theorem symm (differ : Differ s after front p q back) : Differ after s front q p back where
  before := differ.after
  after := differ.before
  apart := differ.named ▸ differ.apart
  named := differ.named.symm

theorem others (differ : Differ s after front p q back) : after.beside p.id output = s.beside p.id output := by
  have same : (q.id != p.id) = false := by simp [differ.named]
  rw [beside_eq, beside_eq, differ.before, differ.after]
  simp [same]

theorem lists_iff (differ : Differ s after front p q back) : s.Lists p.id output ↔ 0.0 < p.score output := by
  rw [Store.lists_iff, differ.before]
  constructor
  · rintro ⟨a, member, named, pos⟩
    obtain inFront | rfl | behind := (List.mem_append.trans (or_congr_right List.mem_cons)).mp member
    · exact absurd named (differ.apart a (List.mem_append_left back inFront))
    · exact pos
    · exact absurd named (differ.apart a (List.mem_append_right front behind))
  · exact fun pos => ⟨p, by simp, rfl, pos⟩

/-- A pattern that scores no less than before is behind no more others. -/
theorem ahead_le (differ : Differ s after front p q back) (pos : 0.0 < p.score output)
    (le : p.score output ≤ q.score output) : (after.ahead p.id output).length ≤ (s.ahead p.id output).length := by
  have ranks : Ranks (·.score output) s.patterns (s.matches? output) := ranking_ranks _ _
  have ranks' : Ranks (·.score output) after.patterns (after.matches? output) := ranking_ranks _ _
  rw [differ.before] at ranks
  rw [differ.after] at ranks'
  rw [length_ahead, length_ahead]
  exact ranks.ahead_le ranks' differ.apart differ.named pos le

end Differ

/-- Of two patterns that fit the same outputs, the one that scores no less has no more others in front. -/
theorem Differ.moved (differ : Differ s after front p q back) (listed : 0.0 < q.score output ↔ 0.0 < p.score output)
    (up : success = true → ¬ p.Full true → 0.0 < p.score output → p.score output ≤ q.score output)
    (down : success = false → 0.0 < q.score output → q.score output ≤ p.score output) :
    Moved success p.id output s after := by
  have others : after.beside p.id output = s.beside p.id output := differ.others
  have here : s.Lists p.id output ↔ 0.0 < p.score output := differ.lists_iff
  have there : after.Lists q.id output ↔ 0.0 < q.score output := differ.symm.lists_iff
  rw [differ.named] at there
  by_cases pos : 0.0 < p.score output
  · have room (spare : s.Room p.id) : ¬ p.Full true := spare p (by simp [differ.before]) rfl
    refine ⟨fun won spare => differ.ahead_le pos (up won (room spare) pos), fun lost => ?_,
      there.trans (listed.trans here.symm), others⟩
    have back := differ.symm.ahead_le (listed.mpr pos) (down lost (listed.mpr pos))
    rwa [differ.named] at back
  · have same : after.ahead p.id output = s.ahead p.id output := by
      rw [ahead_of_unlisted (mt here.mp pos), ahead_of_unlisted (mt there.mp (mt listed.mp pos)), others]
    exact ⟨fun _ _ => same ▸ le_rfl, fun _ => same ▸ le_rfl, there.trans (listed.trans here.symm), others⟩

theorem Moved.same (patterns : after.patterns = s.patterns) : Moved success id output s after := by
  have ranked : after.rankedMatches output = s.rankedMatches output := by
    unfold rankedMatches
    rw [patterns]
  constructor <;> simp [ahead, beside, Lists, ranked]

/-- The pattern of an id, where it is known, becomes what the outcome makes of it. -/
theorem differ_of_map {f : FixPattern → FixPattern} (kept : ∀ p, (f p).id = p.id)
    (distinct : (s.patterns.map (·.id)).Nodup) (member : p ∈ s.patterns)
    (changed : after.patterns = s.patterns.map fun a => if a.id = p.id then f a else a) :
    ∃ front back, Differ s after front p (f p) back := by
  obtain ⟨front, back, split⟩ := List.append_of_mem member
  have apart : ∀ a ∈ front ++ back, a.id ≠ p.id := by
    rw [split, List.map_append, List.map_cons, List.nodup_middle, List.nodup_cons, ← List.map_append] at distinct
    exact fun a inside same => distinct.1 (same ▸ List.mem_map_of_mem inside)
  refine ⟨front, back, split, ?_, apart, kept p⟩
  rw [changed, split, List.map_append, List.map_cons, if_pos rfl]
  have still (items : List FixPattern) (apart : ∀ a ∈ items, a.id ≠ p.id) :
      (items.map fun a => if a.id = p.id then f a else a) = items :=
    (List.map_congr_left fun a inside => if_neg (apart a inside)).trans (List.map_id _)
  rw [still front fun a inside => apart a (List.mem_append_left back inside),
    still back fun a inside => apart a (List.mem_append_right front inside)]

end Store

open Store StoreCall

theorem recordOutcome_left_patterns {s : Store} (distinct : (s.patterns.map (·.id)).Nodup) (d : Disk) (id : String)
    (success : Bool) (now : Timestamp) :
    Ends (OnStore.recordOutcome id success now) (s, d) fun _ left => left.1.patterns =
      s.patterns.map fun p => if p.id = id then p.afterOutcome success now else p := by
  refine Ends.of_mapped (f := StoreAnswer.confidence) ?_
  have document := perform_document (.recordOutcome id success now) s d
  exact (congrArg StoreDocument.patterns document).trans (recordOutcome_patterns distinct id success)

/-- A success puts no more patterns in front of the one that it is taken down for, unless its counter of successes is
full, a failure no fewer, and the pattern is listed just if it was before. The other patterns stay as they are listed,
in their order; that holds also where the store could not be written. -/
theorem outcome_moves_pattern {s : Store} (distinct : (s.patterns.map (·.id)).Nodup)
    (sound : ∀ p ∈ s.patterns, Confidence.InRange p.confidence) (d : Disk) (id : String) (success : Bool)
    (now : Timestamp) (output : String) :
    Ends (OnStore.recordOutcome id success now) (s, d) fun _ left => Moved success id output s left.1 := by
  refine (recordOutcome_left_patterns distinct d id success now).mono fun _ left changed => ?_
  by_cases known : ∃ p ∈ s.patterns, p.id = id
  · obtain ⟨p, member, rfl⟩ := known
    obtain ⟨front, back, differ⟩ :=
      differ_of_map (f := (·.afterOutcome success now)) (fun _ => rfl) distinct member changed
    have range := sound p member
    have range' : Confidence.InRange (p.afterOutcome success now).confidence := Confidence.inRange_after range success
    have fits : (p.afterOutcome success now).Fits output ↔ p.Fits output := Iff.rfl
    refine differ.moved ?_ ?_ ?_
    · rw [FixPattern.score_pos_iff range', FixPattern.score_pos_iff range, fits]
    · rintro rfl room pos
      have more : (p.afterOutcome true now).successes = p.successes + 1 := FixPattern.outcomes_succ_of_room room
      exact FixPattern.score_le range ((FixPattern.score_pos_iff range).mp pos) rfl (Confidence.le_raised range)
        (more ▸ Nat.le_succ _)
    · rintro rfl pos
      exact FixPattern.score_le range' ((FixPattern.score_pos_iff range').mp pos) rfl
        (Confidence.lowered_le range range.le_self) le_rfl
  · refine .same (changed.trans ?_)
    exact (List.map_congr_left fun p member => if_neg fun same => known ⟨p, member, same⟩).trans (List.map_id _)

namespace Rivals

def rival (id : String) : FixPattern where
  id := id
  errorPattern := "react"
  fix := .manual "look"

/-- Two patterns with the same score. -/
def store : Store where
  document := { (StoreDocument.empty default) with patterns := [rival "first", rival "second"] }

def rewarded : Store := ((OnStore.recordOutcome "second" true default).run store Disk.empty).2.1

end Rivals

open Rivals in
theorem second_rival_moves_up :
    (store.patterns.map (·.id)).Nodup ∧ (∀ p ∈ store.patterns, Confidence.InRange p.confidence) ∧
      Moved true "second" "react" store rewarded ∧
      (store.patterns.map (·.score "react") = [7.0, 7.0] ∧ rewarded.patterns.map (·.score "react") = [7.0, 8.25]) := by
  have distinct : (store.patterns.map (·.id)).Nodup := by decide
  have sound : ∀ p ∈ store.patterns, Confidence.InRange p.confidence := by decide +kernel
  have moved := outcome_moves_pattern distinct sound Disk.empty "second" true default "react"
  exact ⟨distinct, sound, moved, by decide +kernel⟩

namespace Rivals

def used (id : String) (successes : UInt32) : FixPattern := { rival id with successCount := successes }

/-- A pattern whose counter of successes is full, before another one. -/
def worn : Store where
  document := { (StoreDocument.empty default) with patterns := [used "first" 4294967295, used "second" 10] }

def restarted : Store := ((OnStore.recordOutcome "first" true default).run worn Disk.empty).2.1

/-- In front of the first of two patterns stands at most the second. -/
theorem ahead_first {s : Store} {p q : FixPattern} (patterns : s.patterns = [p, q]) (apart : q.id ≠ p.id)
    {output : String} (pos : 0.0 < p.score output) :
    (s.ahead p.id output).length = if p.score output < q.score output then 1 else 0 := by
  have ranks : Ranks (·.score output) ([] ++ p :: [q]) (s.matches? output) := by
    rw [List.nil_append, ← patterns]
    exact ranking_ranks _ _
  rw [length_ahead, ranks.ahead_eq pos (by simpa using apart), List.countP_nil, Nat.zero_add, List.countP_singleton]
  simp

end Rivals

open Rivals in
/-- A success of a pattern whose counter of successes is full puts another one in front of it. -/
theorem worn_rival_falls_behind :
    (worn.patterns.map (·.id)).Nodup ∧ (∀ p ∈ worn.patterns, Confidence.InRange p.confidence) ∧
      worn.patterns.map (·.successes) = [4294967295, 10] ∧ restarted.patterns.map (·.successes) = [0, 10] ∧
      (worn.ahead "first" "react").length = 0 ∧ (restarted.ahead "first" "react").length = 1 := by
  have before : (worn.ahead "first" "react").length = 0 := by
    have pos : 0.0 < (used "first" 4294967295).score "react" := by decide +kernel
    have still : ¬ (used "first" 4294967295).score "react" < (used "second" 10).score "react" := by decide +kernel
    exact (ahead_first rfl (by decide) pos).trans (if_neg still)
  have after : (restarted.ahead "first" "react").length = 1 := by
    have pos : 0.0 < ((used "first" 4294967295).afterOutcome true default).score "react" := by decide +kernel
    have behind : ((used "first" 4294967295).afterOutcome true default).score "react" <
        (used "second" 10).score "react" := by decide +kernel
    exact (ahead_first (s := restarted) rfl (by decide) pos).trans (if_pos behind)
  exact ⟨by decide, by decide +kernel, by decide +kernel, by decide +kernel, before, after⟩

end WidgetRepair

