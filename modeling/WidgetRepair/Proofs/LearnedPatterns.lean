import WidgetRepair.Proofs.ErrorTexts
import WidgetRepair.Proofs.PatternScore
import WidgetRepair.Proofs.StoreEffects

/-! Learning and matching agree. A pattern that was learned from an error is found for that error,
and a new one for every output around it, whatever else is done to the store. -/

namespace WidgetRepair

open StoreCall

theorem FixPattern.Fits.of_same {p q : FixPattern} {output : String} (fits : p.Fits output)
    (text : q.errorPattern = p.errorPattern) (keywords : q.keywords = p.keywords) : q.Fits output := by
  unfold FixPattern.Fits FixPattern.hits
  rwa [text, keywords]

namespace Store

theorem mem_rankedMatches {s : Store} {p : FixPattern} {output : String} (member : p ∈ s.patterns)
    (pos : 0.0 < p.score output) : (p, p.score output) ∈ s.rankedMatches output := by
  refine List.mem_mergeSort.mpr (List.mem_filter.mpr ⟨List.mem_map_of_mem member, ?_⟩)
  exact decide_eq_true pos

/-- A pattern of a store that is in range and fits an output is among the matches. -/
theorem mem_matches {s : Store} {p : FixPattern} {output : String} (member : p ∈ s.patterns)
    (range : Confidence.InRange p.confidence) (fits : p.Fits output) :
    p ∈ s.matches? output ∧ 0.0 < p.score output :=
  have pos := FixPattern.score_pos range fits
  ⟨List.mem_map_of_mem (mem_rankedMatches member pos), pos⟩

/-- A pattern for the same error as a text fits that text. -/
theorem fits_of_sameError {p : FixPattern} {error : String} (some : Diagnostic.signature error ≠ "")
    (same : sameError (Diagnostic.signature error)
      (Diagnostic.keywords (Diagnostic.errorSummary error.toList)) p = true) : p.Fits error := by
  obtain equal | similar := Bool.or_eq_true_iff.mp same
  · left
    rw [beq_iff_eq.mp equal]
    exact ⟨some, Diagnostic.contains_signature error⟩
  · right
    obtain ⟨keyword, own, theirs⟩ := Diagnostic.shared_of_similar (of_decide_eq_true similar)
    obtain ⟨filled, occurs⟩ := Diagnostic.contains_keyword theirs (Diagnostic.errorSummary_part _)
    refine List.length_pos_of_mem (a := keyword) (List.mem_filter.mpr ⟨own, ?_⟩)
    rw [occurs, Bool.and_true, Bool.not_eq_true', ← Bool.not_eq_true, String.isEmpty_iff]
    exact filled

end Store

/-- A pattern stays where one is tried once more: only the record of a pattern changes. -/
theorem afterOutcome_keeps {doc : StoreDocument} {p : FixPattern} (member : p ∈ doc.patterns)
    (range : Confidence.InRange p.confidence) (id : String) (success : Bool) (now : Timestamp) :
    ∃ q ∈ (doc.afterOutcome id success now).patterns, q.id = p.id ∧ q.errorPattern = p.errorPattern ∧
      q.keywords = p.keywords ∧ Confidence.InRange q.confidence := by
  obtain kept | changed :=
    @Store.mem_changeFirst FixPattern (·.id == id) (·.afterOutcome success now) _ p member
  · exact ⟨p, kept, rfl, rfl, rfl, range⟩
  · exact ⟨_, changed, rfl, rfl, rfl, Confidence.inRange_after range success⟩

/-- A document holds a pattern of this id, for this error text, with a confidence in range. -/
def StoreDocument.Knows (doc : StoreDocument) (id errorPattern : String) : Prop :=
  ∃ p ∈ doc.patterns, p.id = id ∧ p.errorPattern = errorPattern ∧ Confidence.InRange p.confidence

namespace StoreDocument.Knows

variable {doc : StoreDocument} {id errorPattern : String}

theorem documentAfter (knows : doc.Knows id errorPattern) (call : StoreCall) :
    (call.documentAfter doc).Knows id errorPattern := by
  obtain ⟨p, member, named, text, range⟩ := knows
  have effect := documentAfter_effect call doc
  generalize call.documentAfter doc = after at effect ⊢
  cases effect with
  | kept | used => exact ⟨p, member, named, text, range⟩
  | tried =>
    obtain ⟨q, kept, same, held, -, range⟩ := afterOutcome_keeps member range _ _ _
    exact ⟨q, kept, same.trans named, held.trans text, range⟩
  | added | learned => exact ⟨p, List.mem_append_left _ member, named, text, range⟩

theorem documentAfterAll (knows : doc.Knows id errorPattern) (calls : List StoreCall) :
    (documentAfterAll calls doc).Knows id errorPattern := by
  induction calls generalizing doc with
  | nil => exact knows
  | cons call rest ih => exact ih (knows.documentAfter call)

end StoreDocument.Knows

/-- A known pattern is found for every output its error text occurs in. -/
theorem found_of_knows {s : Store} {id errorPattern output : String}
    (knows : s.document.Knows id errorPattern) (some : errorPattern ≠ "")
    (occurs : Text.contains output errorPattern = true) :
    ∃ p ∈ s.matches? output, p.id = id ∧ 0.0 < p.score output := by
  obtain ⟨p, member, named, rfl, range⟩ := knows
  obtain ⟨found, pos⟩ := Store.mem_matches member range (.inl ⟨some, occurs⟩)
  exact ⟨p, found, named, pos⟩

theorem answer_of_verdict {call : StoreCall} {s : Store} {d : Disk} {answer : StoreAnswer}
    {after : Store × Disk} (ran : call.perform.run s d = (.ok answer, after)) :
    call.verdict s = .kept answer ∨ ∃ doc, call.verdict s = .changed answer doc := by
  have ends : Ends call.perform (s, d) fun result _ => ∀ a, result = .ok a →
      call.verdict s = .kept a ∨ ∃ doc, call.verdict s = .changed a doc := by
    apply ends_of_follow
    cases call.verdict s with
    | refused fault => exact .failed nofun
    | kept answer => exact .returned fun a same => .inl (by cases same; rfl)
    | changed answer doc =>
      simp only [Verdict.follow, OnStore.commit, OnStore.setStore, bind_assoc, pure_bind]
      have any : Ends OnStore.save ({ s with document := doc, dirty := true }, d) fun _ _ => True := trivial
      refine .modified (any.bind ?_ fun _ _ _ => nofun)
      exact fun _ _ _ => .returned fun a same => .inr ⟨doc, by cases same; rfl⟩
  unfold Ends at ends
  have same : ExceptT.run call.perform (s, d) = (.ok answer, after) := ran
  rw [same] at ends
  exact ends answer rfl

theorem run_learn {error description : String} {fix : FixAction} {success : Bool} {stamp : Stamp}
    {s : Store} {d : Disk} {outcome : LearnOutcome} {after : Store × Disk}
    (ran : (OnStore.learn error description fix success stamp).run s d = (.ok outcome, after)) :
    (StoreCall.learn error description fix success stamp).perform.run s d =
      (.ok (.learned outcome), after) := by
  have plain : ExceptT.run (OnStore.learn error description fix success stamp) (s, d) =
    (.ok outcome, after) := ran
  exact run_bind_ok plain fun outcome => (pure (.learned outcome) : OnStore StoreAnswer)

/-- What learning comes to when it names a pattern: one for the same error was tried once more, or
a new one was added. -/
inductive LearnedFrom (error : String) (doc : StoreDocument) : LearnOutcome → StoreDocument → Prop where
  | reinforced {p : FixPattern} {success : Bool} {now : Timestamp} (member : p ∈ doc.patterns)
      (same : Store.sameError (Diagnostic.signature error)
        (Diagnostic.keywords (Diagnostic.errorSummary error.toList)) p = true) :
      LearnedFrom error doc (.reinforced p.id) (doc.afterOutcome p.id success now)
  | created {description : String} {fix : FixAction} {stamp : Stamp} :
      LearnedFrom error doc (.created stamp.id)
        (doc.withPattern (Store.learnedPattern stamp (Diagnostic.signature error)
          (Diagnostic.keywords (Diagnostic.errorSummary error.toList)) description fix) stamp.now)

theorem learn_cases {error description id : String} {fix : FixAction} {success : Bool} {stamp : Stamp}
    {s : Store} {d : Disk} {outcome : LearnOutcome} {after : Store × Disk}
    (ran : (OnStore.learn error description fix success stamp).run s d = (.ok outcome, after))
    (named : outcome.patternId? = some id) :
    Diagnostic.signature error ≠ "" ∧ LearnedFrom error s.document outcome after.1.document := by
  have document := perform_document (.learn error description fix success stamp) s d
  have answer := answer_of_verdict (run_learn ran)
  rw [run_learn ran, ← verdict_document] at document
  rw [document]
  revert answer
  simp only [verdict, learnVerdict]
  split
  · rintro (same | ⟨_, same⟩) <;> cases same
    cases named
  · next filled =>
    have some : Diagnostic.signature error ≠ "" := mt String.isEmpty_iff.mpr filled
    split
    · next p found =>
      rintro (same | ⟨_, same⟩) <;> cases same
      exact ⟨some, .reinforced (List.mem_of_find?_eq_some found) (List.find?_some found)⟩
    · split
      · rintro (same | ⟨_, same⟩) <;> cases same
        exact ⟨some, .created⟩
      · rintro (same | ⟨_, same⟩) <;> cases same
        cases named

/-- A pattern that learning names is found for the error it was learned from, with a positive
score. A new one is found for every output its signature occurs in, so for every output around the
error, whatever is done to the store afterwards. -/
theorem learned_pattern_found {error description id : String} {fix : FixAction} {success : Bool}
    {stamp : Stamp} {s : Store} {d : Disk} {outcome : LearnOutcome} {after : Store × Disk}
    (confident : ∀ p ∈ s.patterns, Confidence.InRange p.confidence)
    (ran : (OnStore.learn error description fix success stamp).run s d = (.ok outcome, after))
    (named : outcome.patternId? = some id) :
    (∃ p ∈ after.1.matches? error, p.id = id ∧ 0.0 < p.score error) ∧
      (outcome = .created id → ∀ calls output,
        Text.contains output (Diagnostic.signature error) ∨ Text.contains output error →
        ∃ p ∈ (performAll calls after).1.matches? output, p.id = id ∧ 0.0 < p.score output) := by
  obtain ⟨some, learned⟩ := learn_cases ran named
  generalize document : after.1.document = doc at learned
  cases learned with
  | @reinforced p success now member same =>
    cases named
    obtain ⟨q, kept, id_eq, text, keywords, range⟩ :=
      afterOutcome_keeps member (confident p member) p.id success now
    have fits : q.Fits error := (Store.fits_of_sameError some same).of_same text keywords
    have among : q ∈ after.1.patterns := by
      unfold Store.patterns
      rwa [document]
    obtain ⟨found, pos⟩ := Store.mem_matches among range fits
    exact ⟨⟨q, found, id_eq, pos⟩, nofun⟩
  | @created description fix stamp =>
    cases named
    have knows : after.1.document.Knows stamp.id (Diagnostic.signature error) := by
      rw [document]
      exact ⟨_, List.mem_append_right _ List.mem_cons_self, rfl, rfl, Confidence.inRange_learned⟩
    refine ⟨found_of_knows knows some (Diagnostic.contains_signature error), ?_⟩
    intro _ calls output occurs
    have later : (performAll calls after).1.document.Knows stamp.id (Diagnostic.signature error) := by
      rw [performAll_document]
      exact knows.documentAfterAll calls
    apply found_of_knows later some
    obtain itself | around := occurs
    · exact itself
    · have within := Text.contains_iff.mp (Diagnostic.contains_signature error)
      exact Text.contains_iff.mpr (within.trans (Text.contains_iff.mp around))

theorem learned_pattern_found_for_missing_import :
    let error := "src/App.tsx(3,7): error TS2304: Cannot find name 'React'."
    let fix := FixAction.prepend "**/*.tsx" "import * as React from 'react';"
    let own : FixPattern :=
      { id := "own-1", errorPattern := "TS7006", keywords := ["implicit"], fix := .manual "Add a type" }
    let s : Store := { document := { StoreDocument.empty default with patterns := [own] } }
    let learned := OnStore.learn error "Add the import" fix true ⟨default, "learned-1"⟩
    (∀ p ∈ s.patterns, Confidence.InRange p.confidence) ∧
      ∃ after, learned.run s Disk.empty = (.ok (.created "learned-1"), after) ∧
        (∃ p ∈ after.1.matches? error, p.id = "learned-1" ∧ 0.0 < p.score error) ∧
        ∀ calls, ∃ p ∈ (performAll calls after).1.matches? ("npm ERR! " ++ error ++ "\n"),
          p.id = "learned-1" ∧ 0.0 < p.score ("npm ERR! " ++ error ++ "\n") := by
  intro error fix own s learned
  have filled : (Diagnostic.signature error).isEmpty = false := by decide +kernel
  have other : Store.sameError (Diagnostic.signature error)
      (Diagnostic.keywords (Diagnostic.errorSummary error.toList)) own = false := by decide +kernel
  have confident : ∀ p ∈ s.patterns, Confidence.InRange p.confidence :=
    List.forall_mem_singleton.mpr Confidence.inRange_learned
  have ran : learned.run s Disk.empty = (.ok (.created "learned-1"), (learned.run s Disk.empty).2) := by
    have new : s.patterns.find? (Store.sameError (Diagnostic.signature error)
        (Diagnostic.keywords (Diagnostic.errorSummary error.toList))) = none := by
      refine List.find?_eq_none.mpr (List.forall_mem_singleton.mpr ?_)
      rw [other]
      exact Bool.false_ne_true
    unfold learned OnStore.learn
    simp only [filled, Bool.false_eq_true, if_false]
    rw [run_store, new]
    rfl
  obtain ⟨found, later⟩ := learned_pattern_found confident ran rfl
  refine ⟨confident, _, ran, found, fun calls => later rfl calls _ (.inr ?_)⟩
  decide +kernel
end WidgetRepair
