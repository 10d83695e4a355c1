import WidgetRepair.Proofs.FloatDifference
import WidgetRepair.Proofs.PatternScore
import WidgetRepair.Proofs.PatternTries

/-! Patterns that never work. Every failure that is taken down lowers the confidence in a pattern, and
after four of them it is no longer tried, whatever else happens to the store. -/

namespace WidgetRepair

open StoreCall

namespace Confidence

open Binary64

variable {b c : Float}

theorem exists_reads_of_above (range : InRange b) (le : c ≤ b) (above : least < c - loss) :
    ∃ x y : Rat, Reads b y ∧ 7205759403792794 * 2 ^ (-56 : Int) ≤ x ∧ x ≤ y ∧
      Reads (c - loss) (near (x - 7205759403792794 * 2 ^ (-56 : Int) : Rat)) := by
  have reads_loss : Reads loss (7205759403792794 * 2 ^ (-56 : Int) : Rat) := reads_least
  obtain ⟨y, reads, -, -⟩ := range.exists_reads
  obtain ⟨x, reads', low⟩ := reads_loss.le_of_lt_sub reads_least above
  have high := (reads'.le_iff reads).mp le
  cases x with
  | top => exact absurd high (WithTop.not_top_le_coe _)
  | coe x =>
    have low := WithTop.coe_le_coe.mp low
    exact ⟨x, y, reads, low, WithTop.coe_le_coe.mp high, reads'.sub reads_loss low⟩

theorem lowered_mono (range : InRange b) (le : c ≤ b) : lowered c ≤ lowered b := by
  by_cases above : least < c - loss
  · obtain ⟨x, y, reads, low, high, difference⟩ := exists_reads_of_above range le above
    have other := reads.sub (y := loss) reads_least (low.trans high)
    have less : c - loss ≤ b - loss := by
      rw [difference.le_iff other]
      refine near_mono (WithTop.coe_nonneg.mpr (sub_nonneg.mpr low)) (WithTop.coe_le_coe.mpr ?_)
      exact sub_le_sub_right high _
    have above' : least < b - loss := by
      rw [reads_least.lt_iff other]
      exact ((reads_least.lt_iff difference).mp above).trans_le ((difference.le_iff other).mp less)
    unfold lowered atLeast
    rwa [if_pos above, if_pos above']
  · have none : lowered c = least := if_neg above
    rw [none]
    exact (inRange_lowered range).1

theorem lowered_le (range : InRange b) (le : c ≤ b) : lowered c ≤ b := by
  by_cases above : least < c - loss
  · obtain ⟨x, y, reads, low, high, difference⟩ := exists_reads_of_above range le above
    unfold lowered atLeast
    rw [if_pos above, difference.le_iff reads, ← reads.kept]
    refine near_mono (WithTop.coe_nonneg.mpr (sub_nonneg.mpr low)) (WithTop.coe_le_coe.mpr ?_)
    exact (sub_le_self x (by positivity)).trans high
  · have none : lowered c = least := if_neg above
    rw [none]
    exact range.1

/-- What is left of the greatest confidence after some failures. -/
def afterFailures : Nat → Float
  | 0 => most
  | n + 1 => lowered (afterFailures n)

theorem inRange_afterFailures (n : Nat) : InRange (afterFailures n) := by
  induction n with
  | zero => decide +kernel
  | succ n ih => exact inRange_lowered ih

/-- The third failure leaves a confidence just above the threshold, the fourth one does not. -/
theorem not_trusted_after_four (le : c ≤ afterFailures 4) : ¬trusted ≤ c := by
  intro above
  have reads : Reads trusted (6305039478318694 * 2 ^ (-53 : Int) : Rat) :=
    reads_of_parts (by decide +kernel : parts? trusted = some (6305039478318694, -53)) rfl
  obtain ⟨x, reads'⟩ := reads.exists_of_le above
  obtain ⟨y, last, -, -⟩ := (inRange_afterFailures 4).exists_reads
  have whole : trusted ≤ afterFailures 4 := by
    rw [reads.le_iff last]
    exact ((reads.le_iff reads').mp above).trans ((reads'.le_iff last).mp le)
  exact absurd whole (by decide +kernel)

end Confidence

namespace StoreDocument

def successesOf (doc : StoreDocument) (id : String) : Nat :=
  ((doc.patterns.filter (·.id == id)).map (·.successes)).sum

theorem successesOf_withPattern (doc : StoreDocument) {id : String} {p : FixPattern} (same : p.id = id)
    (now : Timestamp) : (doc.withPattern p now).successesOf id = doc.successesOf id + p.successes := by
  simp [successesOf, StoreDocument.withPattern, same]

/-- A document has one pattern of an id, and trusts it no more than a bound. -/
def Bounds (doc : StoreDocument) (id : String) (bound : Float) : Prop :=
  ∃ q, doc.patterns.filter (·.id == id) = [q] ∧ q.confidence ≤ bound

namespace Bounds

variable {doc : StoreDocument} {id : String} {bound : Float}

theorem of_distinct {p : FixPattern} (distinct : (doc.patterns.map (·.id)).Nodup)
    (member : p ∈ doc.patterns) (le : p.confidence ≤ bound) : doc.Bounds p.id bound :=
  ⟨p, Store.filter_of_distinct distinct member, le⟩

theorem named {q : FixPattern} (single : doc.patterns.filter (·.id == id) = [q]) :
    q ∈ doc.patterns ∧ q.id = id := by
  have member : q ∈ doc.patterns.filter (·.id == id) := single ▸ List.mem_singleton_self q
  obtain ⟨member, same⟩ := List.mem_filter.mp member
  exact ⟨member, beq_iff_eq.mp same⟩

theorem filter_afterOutcome (other : String) (success : Bool) (now : Timestamp) {q : FixPattern}
    (single : doc.patterns.filter (·.id == id) = [q]) :
    (doc.afterOutcome other success now).patterns.filter (·.id == id) =
      [if other = id then q.afterOutcome success now else q] := by
  have kept (p : FixPattern) : (p.afterOutcome success now).id = p.id := rfl
  have changed : (doc.afterOutcome other success now).patterns.filter (·.id == id) =
      Store.changeFirst (·.id == other) (·.afterOutcome success now) (doc.patterns.filter (·.id == id)) :=
    Store.filter_changeFirst kept other doc.patterns
  rw [changed, single, Store.changeFirst, (named single).2]
  by_cases same : other = id
  · rw [if_pos (beq_iff_eq.mpr same.symm), if_pos same]
  · rw [if_neg (mt beq_iff_eq.mp (Ne.symm same)), if_neg same]
    rfl

theorem withPattern {p : FixPattern} (different : p.id ≠ id) (bounds : doc.Bounds id bound)
    (now : Timestamp) : (doc.withPattern p now).Bounds id bound := by
  obtain ⟨q, single, le⟩ := bounds
  refine ⟨q, ?_, le⟩
  unfold StoreDocument.withPattern
  rw [List.filter_append, single, List.filter_cons_of_neg (by simpa using different)]
  rfl

theorem afterFailure (range : Confidence.InRange bound) (bounds : doc.Bounds id bound) (now : Timestamp) :
    (doc.afterOutcome id false now).Bounds id (Confidence.lowered bound) := by
  obtain ⟨q, single, le⟩ := bounds
  have changed := filter_afterOutcome id false now single
  rw [if_pos rfl] at changed
  exact ⟨_, changed, Confidence.lowered_mono range le⟩

theorem afterOther {other : String} (different : other ≠ id) (bounds : doc.Bounds id bound)
    (success : Bool) (now : Timestamp) : (doc.afterOutcome other success now).Bounds id bound := by
  obtain ⟨q, single, le⟩ := bounds
  have same := filter_afterOutcome other success now single
  rw [if_neg different] at same
  exact ⟨q, same, le⟩

/-- Whatever outcome is taken down, the bound stands, unless it is a success of the pattern. -/
theorem afterOutcome (range : Confidence.InRange bound) (bounds : doc.Bounds id bound) (other : String)
    (success : Bool) (now : Timestamp)
    (unrewarded : (doc.afterOutcome other success now).successesOf id = doc.successesOf id) :
    (doc.afterOutcome other success now).Bounds id bound := by
  by_cases same : other = id
  · obtain ⟨q, single, le⟩ := bounds
    have changed := filter_afterOutcome other success now single
    rw [if_pos same] at changed
    cases success with
    | true =>
      unfold successesOf at unrewarded
      rw [single, changed] at unrewarded
      exact absurd unrewarded (q.outcomes_succ_ne true now)
    | false => exact ⟨_, changed, Confidence.lowered_le range le⟩
  · exact bounds.afterOther same success now

/-- A call that takes down no success of the pattern leaves the bound. -/
theorem documentAfter (range : Confidence.InRange bound) (bounds : doc.Bounds id bound) (call : StoreCall)
    (unrewarded : (call.documentAfter doc).successesOf id = doc.successesOf id) :
    (call.documentAfter doc).Bounds id bound := by
  revert unrewarded
  unfold StoreCall.documentAfter
  cases call with
  | recordOutcome other success now =>
    simp only [StoreCall.verdict]
    split
    · exact fun _ => bounds
    · exact bounds.afterOutcome range other success now
  | learn error description fix success stamp =>
    simp only [StoreCall.verdict, learnVerdict]
    split
    · exact fun _ => bounds
    · split
      · exact bounds.afterOutcome range _ success stamp.now
      · split
        · intro unrewarded
          refine bounds.withPattern ?_ stamp.now
          intro same
          have more := successesOf_withPattern doc same stamp.now
          exact absurd (more.symm.trans unrewarded) (Nat.succ_ne_self _)
        · exact fun _ => bounds
  | addPattern p now =>
    simp only [StoreCall.verdict]
    split
    · exact fun _ => bounds
    · next free =>
      refine fun _ => bounds.withPattern ?_ now
      intro same
      obtain ⟨q, single, -⟩ := bounds
      obtain ⟨member, known⟩ := named single
      refine free (List.find?_isSome.mpr ⟨q, member, ?_⟩)
      exact beq_iff_eq.mpr (known.trans same.symm)
  | recordTemplateOutcome other success now =>
    simp only [StoreCall.verdict]
    split <;> exact fun _ => bounds
  | save => exact fun _ => bounds

theorem afterTries {n : Nat} {tries : List PatternTry} (bounds : doc.Bounds id (Confidence.afterFailures n))
    (fruitless : ∀ t ∈ tries, t.pattern.id = id → t.applied = false) (now : Timestamp) :
    (documentAfterAll (tries.map (·.record now)) doc).Bounds id
      (Confidence.afterFailures (n + tries.countP (·.pattern.id == id))) := by
  induction tries generalizing doc n with
  | nil => exact bounds
  | cons t rest ih =>
    obtain ⟨first, fruitless⟩ := List.forall_mem_cons.mp fruitless
    have step : (documentAfterAll ((t :: rest).map (·.record now)) doc) =
      documentAfterAll (rest.map (·.record now)) ((t.record now).documentAfter doc) := rfl
    rw [step, List.countP_cons]
    by_cases own : t.pattern.id = id
    · have known : t.pattern.id ∈ doc.patterns.map (·.id) := by
        obtain ⟨q, single, -⟩ := bounds
        obtain ⟨member, same⟩ := named single
        exact List.mem_map.mpr ⟨q, member, same.trans own.symm⟩
      rw [PatternRepair.record_known known, first own, own, if_pos (beq_self_eq_true id), Nat.add_comm _ 1,
        ← Nat.add_assoc]
      exact ih (bounds.afterFailure (Confidence.inRange_afterFailures n) now) fruitless
    · rw [if_neg (mt beq_iff_eq.mp own)]
      refine ih ?_ fruitless
      by_cases known : t.pattern.id ∈ doc.patterns.map (·.id)
      · rw [PatternRepair.record_known known]
        exact bounds.afterOther own t.applied now
      · rw [PatternRepair.record_unknown known]
        exact bounds

end Bounds

end StoreDocument

/-- What happens to a store: a repair by its patterns on some disk, or another call. -/
inductive RepairTurn where
  | repair (stamps : Stamps) (f : Failure) (d : Disk)
  | call (call : StoreCall) (d : Disk)

namespace RepairTurn

def world (s : Store) (d : Disk) : World Unit where
  disk := d
  store := s
  outside := ()

def tries (s : Store) : RepairTurn → List PatternTry
  | repair stamps f d => PatternRepair.tries stamps f (world s d)
  | call .. => []

def after (s : Store) : RepairTurn → Store
  | repair stamps f d => (PatternRepair.attempt stamps f (world s d)).2.store
  | call made d => (made.perform.run s d).2.1

/-- All that is tried, one turn after the other. -/
def allTries : List RepairTurn → Store → List PatternTry
  | [], _ => []
  | turn :: rest, s => turn.tries s ++ allTries rest (turn.after s)

/-- The pattern of an id does not work in a turn: trying it changes nothing, and no other call takes down
a success of it. -/
def Fails (id : String) (s : Store) : RepairTurn → Prop
  | repair stamps f d =>
    ∀ t ∈ PatternRepair.tries stamps f (world s d), t.pattern.id = id → t.applied = false
  | call made d =>
    (made.perform.run s d).2.1.document.successesOf id = s.document.successesOf id

def NeverWorks (id : String) : List RepairTurn → Store → Prop
  | [], _ => True
  | turn :: rest, s => turn.Fails id s ∧ NeverWorks id rest (turn.after s)

section Steps

variable {s : Store} {id : String} {n : Nat}

/-- A repair tries the pattern of an id at most once, and not at all if it is not trusted. -/
theorem countP_tries (stamps : Stamps) (f : Failure) (d : Disk) {q : FixPattern}
    (single : s.document.patterns.filter (·.id == id) = [q]) :
    ((PatternRepair.tries stamps f (world s d)).countP (·.pattern.id == id)) ≤ if q.trusted then 1 else 0 := by
  calc (PatternRepair.tries stamps f (world s d)).countP (·.pattern.id == id)
    _ = ((PatternRepair.tries stamps f (world s d)).map (·.pattern)).countP (·.id == id) :=
      by rw [List.countP_map]; rfl
    _ ≤ (PatternRepair.candidates s f.diagnostic).countP (·.id == id) :=
      (PatternRepair.tries_candidates stamps f (world s d)).sublist.countP_le
    _ ≤ (s.patterns.filter (·.trusted)).countP (·.id == id) := by
      rw [(PatternRepair.candidates_perm s f.diagnostic).countP_eq]
      exact (List.filter_sublist.filter _).countP_le
    _ = (s.document.patterns.filter (·.id == id)).countP (·.trusted) := by
      rw [List.countP_filter, List.countP_filter]
      exact List.countP_congr fun p _ => by rw [Bool.and_comm]
    _ = if q.trusted then 1 else 0 := by rw [single, List.countP_singleton]

/-- After four failures a pattern is not trusted, so a further try means that there were fewer. -/
theorem bounds_after (turn : RepairTurn) (bounds : s.document.Bounds id (Confidence.afterFailures n))
    (fails : turn.Fails id s) (few : n ≤ 4) :
    n + (turn.tries s).countP (·.pattern.id == id) ≤ 4 ∧
      (turn.after s).document.Bounds id
        (Confidence.afterFailures (n + (turn.tries s).countP (·.pattern.id == id))) := by
  cases turn with
  | repair stamps f d =>
    refine ⟨?_, ?_⟩
    · obtain ⟨q, single, le⟩ := bounds
      have once := countP_tries stamps f d single
      by_cases trusted : q.trusted = true
      · have more : n ≠ 4 := by
          rintro rfl
          exact Confidence.not_trusted_after_four le (of_decide_eq_true trusted)
        rw [if_pos trusted] at once
        show n + (PatternRepair.tries stamps f (world s d)).countP _ ≤ 4
        omega
      · rw [if_neg trusted] at once
        show n + (PatternRepair.tries stamps f (world s d)).countP _ ≤ 4
        omega
    · have after := PatternRepair.attempt_document stamps f (world s d)
      show (PatternRepair.attempt stamps f (world s d)).2.store.document.Bounds id _
      rw [after]
      exact bounds.afterTries fails _
  | call made d =>
    refine ⟨few, ?_⟩
    have after : (made.perform.run s d).2.1.document = made.documentAfter s.document :=
      perform_document made s d
    show (made.perform.run s d).2.1.document.Bounds id _
    have unrewarded : (made.perform.run s d).2.1.document.successesOf id = s.document.successesOf id := fails
    rw [after] at unrewarded ⊢
    exact bounds.documentAfter (Confidence.inRange_afterFailures n) made unrewarded

theorem countP_allTries (turns : List RepairTurn) (bounds : s.document.Bounds id (Confidence.afterFailures n))
    (fails : NeverWorks id turns s) (few : n ≤ 4) :
    n + (allTries turns s).countP (·.pattern.id == id) ≤ 4 := by
  induction turns generalizing s n with
  | nil => exact few
  | cons turn rest ih =>
    obtain ⟨first, fails⟩ := fails
    obtain ⟨few, bounds⟩ := bounds_after turn bounds first few
    rw [allTries, List.countP_append, ← Nat.add_assoc]
    exact ih bounds fails few

end Steps

/-- A pattern that never works retires: if its confidence is at most the greatest one, then repairs try it
at most four times, however many failures come and whatever else is done to the store in between. -/
theorem hopeless_pattern_retires {s : Store} {p : FixPattern} {turns : List RepairTurn}
    (distinct : (s.patterns.map (·.id)).Nodup) (member : p ∈ s.patterns)
    (bounded : p.confidence ≤ Confidence.most) (fails : NeverWorks p.id turns s) :
    (allTries turns s).countP (·.pattern.id == p.id) ≤ 4 := by
  have bounds : s.document.Bounds p.id (Confidence.afterFailures 0) := .of_distinct distinct member bounded
  have few := countP_allTries turns bounds fails (Nat.zero_le 4)
  rwa [Nat.zero_add] at few

namespace OnlyAdvice

/-- A pattern of the greatest confidence, after some failures. -/
def pattern : Nat → FixPattern
  | 0 => { id := "own-1", errorPattern := "TS2304", fix := .manual "Add the import", confidence := 1.0 }
  | n + 1 => (pattern n).afterOutcome false default

def store : Store where
  document := { StoreDocument.empty default with patterns := [pattern 0] }

def failure : Failure := ⟨"error TS2304: Cannot find name 'React'.", ⟨"/w"⟩, { name := "w" }⟩

def turn : RepairTurn := .repair (fun _ => ⟨default, "id"⟩) failure Disk.empty

theorem fits : ∀ n < 5, 0.0 < (pattern n).score failure.diagnostic ∧ ((pattern n).trusted ↔ n < 4) := by
  decide +kernel

variable {s : Store} {n : Nat}

theorem gives_advice (n : Nat) : (pattern n).fix = .manual "Add the import" := by
  induction n with
  | zero => rfl
  | succ n ih => exact ih

theorem candidates_single (few : n < 5) (only : s.patterns = [pattern n]) :
    PatternRepair.candidates s failure.diagnostic = if n < 4 then [pattern n] else [] := by
  obtain ⟨positive, trusted⟩ := fits n few
  have perm := PatternRepair.candidates_perm s failure.diagnostic
  simp only [only, List.filter_cons, List.filter_nil, positive, decide_true, if_true, trusted] at perm
  by_cases below : n < 4
  · rw [if_pos below] at perm ⊢
    exact List.perm_singleton.mp perm
  · rw [if_neg below] at perm ⊢
    exact List.perm_nil.mp perm

theorem start_fruitless (n : Nat) : (PatternTry.start failure.folder (pattern n) Disk.empty).applied = false := by
  unfold PatternTry.start
  rw [gives_advice]
  rfl

theorem tries_trusted (few : n < 4) (only : s.patterns = [pattern n]) :
    turn.tries s = [.start failure.folder (pattern n) Disk.empty] := by
  show PatternRepair.triesOf _ failure.folder (PatternRepair.candidates s failure.diagnostic) _ = _
  rw [candidates_single (by omega) only, if_pos few, PatternRepair.triesOf]
  show _ :: (if (PatternTry.start failure.folder (pattern n) Disk.empty).applied = true then _ else _) = _
  rw [start_fruitless]
  rfl

theorem patterns_after (few : n < 4) (only : s.patterns = [pattern n]) :
    (turn.after s).patterns = [pattern (n + 1)] := by
  have document := PatternRepair.attempt_document (fun _ => ⟨default, "id"⟩) failure (world s Disk.empty)
  have tries : PatternRepair.tries (fun _ => ⟨default, "id"⟩) failure (world s Disk.empty) =
    [.start failure.folder (pattern n) Disk.empty] := tries_trusted few only
  have distinct : (s.document.patterns.map (·.id)).Nodup := by
    rw [show s.document.patterns = [pattern n] from only]
    exact List.nodup_singleton _
  rw [tries] at document
  show (PatternRepair.attempt (fun _ => ⟨default, "id"⟩) failure (world s Disk.empty)).2.store.document.patterns = _
  rw [document]
  show ((PatternTry.record default (.start failure.folder (pattern n) Disk.empty)).documentAfter s.document).patterns = _
  rw [PatternRepair.record_patterns _ distinct, start_fruitless, show s.document.patterns = [pattern n] from only]
  exact congrArg ([·]) (if_pos rfl)

theorem tries_retired (only : s.patterns = [pattern 4]) : turn.tries s = [] := by
  show PatternRepair.triesOf _ failure.folder (PatternRepair.candidates s failure.diagnostic) _ = _
  rw [candidates_single (by omega) only]
  rfl

theorem fails (few : n < 5) (only : s.patterns = [pattern n]) : turn.Fails "own-1" s := by
  show ∀ t ∈ turn.tries s, _
  by_cases below : n < 4
  · rw [tries_trusted below only]
    exact List.forall_mem_singleton.mpr fun _ => start_fruitless n
  · have last : n = 4 := by omega
    subst last
    rw [tries_retired only]
    exact List.forall_mem_nil _

end OnlyAdvice

open OnlyAdvice in
/-- The bound is reached by a pattern that only gives advice. -/
theorem advice_retires :
    let turns := [turn, turn, turn, turn, turn]
    (store.patterns.map (·.id)).Nodup ∧ pattern 0 ∈ store.patterns ∧
      (pattern 0).confidence ≤ Confidence.most ∧ NeverWorks "own-1" turns store ∧
      (allTries turns store).countP (·.pattern.id == "own-1") ≤ 4 ∧
      (allTries turns store).length = 4 := by
  intro turns
  have distinct : (store.patterns.map (·.id)).Nodup := List.nodup_singleton _
  have member : pattern 0 ∈ store.patterns := List.mem_singleton_self _
  have bounded : (pattern 0).confidence ≤ Confidence.most := by decide +kernel
  have first := patterns_after (s := store) (n := 0) (by omega) rfl
  have second := patterns_after (by omega) first
  have third := patterns_after (by omega) second
  have fourth := patterns_after (by omega) third
  have never : NeverWorks "own-1" turns store :=
    ⟨fails (n := 0) (by omega) rfl, fails (by omega) first, fails (by omega) second,
      fails (by omega) third, fails (by omega) fourth, trivial⟩
  refine ⟨distinct, member, bounded, never, hopeless_pattern_retires distinct member bounded never, ?_⟩
  simp only [turns, allTries, List.length_append]
  rw [tries_trusted (n := 0) (by omega) rfl, tries_trusted (by omega) first, tries_trusted (by omega) second,
    tries_trusted (by omega) third, tries_retired fourth]
  rfl

end RepairTurn

end WidgetRepair
