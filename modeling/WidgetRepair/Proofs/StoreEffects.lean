import WidgetRepair.Proofs.StoreRuns

/-! What a call does to a document, and why. A call takes one outcome down for one thing that the document holds,
or adds one pattern, or leaves the document as it was. -/

namespace WidgetRepair

/-- Something a document holds that outcomes are taken down for. It keeps its place, since nothing is removed. -/
inductive Holder where
  | pattern (index : Nat)
  | template (index : Nat)
  deriving DecidableEq

namespace Store

/-- Whether a pattern is for the error of a text, by its signature or by its keywords. -/
def speaksOf (error : String) : FixPattern → Bool :=
  sameError (Diagnostic.signature error) (Diagnostic.keywords (Diagnostic.errorSummary error.toList))

/-- The pattern that is made of an error. -/
def lessonOf (error description : String) (fix : FixAction) (stamp : Stamp) : FixPattern :=
  learnedPattern stamp (Diagnostic.signature error)
    (Diagnostic.keywords (Diagnostic.errorSummary error.toList)) description fix

end Store

namespace StoreDocument

def patternOutcome? (doc : StoreDocument) (id : String) (success : Bool) : Option (Holder × Bool) :=
  (doc.patterns.findIdx? (·.id == id)).map fun i => (.pattern i, success)

def templateOutcome? (doc : StoreDocument) (id : String) (success : Bool) : Option (Holder × Bool) :=
  (doc.templates.findIdx? (·.id == id)).map fun i => (.template i, success)

end StoreDocument

open Store

namespace StoreCall

/-- The outcome that a call takes down, and what for. -/
def outcome? (doc : StoreDocument) : StoreCall → Option (Holder × Bool)
  | recordOutcome id success _ => doc.patternOutcome? id success
  | learn error _ _ success _ =>
    if Diagnostic.signature error = "" then none
    else (doc.patterns.find? (speaksOf error)).bind fun p => doc.patternOutcome? p.id success
  | recordTemplateOutcome id success _ => doc.templateOutcome? id success
  | addPattern .. | save => none

/-- What a call makes of a document, with what had to hold for it. -/
inductive Effect (doc : StoreDocument) (call : StoreCall) : StoreDocument → Prop where
  | kept (still : call.outcome? doc = none) : Effect doc call doc
  | tried {id : String} {i : Nat} {success : Bool} {now : Timestamp}
    (first : doc.patterns.findIdx? (·.id == id) = some i)
    (outcome : call.outcome? doc = some (.pattern i, success)) :
    Effect doc call (doc.afterOutcome id success now)
  | used {id : String} {i : Nat} {success : Bool} {now : Timestamp}
    (first : doc.templates.findIdx? (·.id == id) = some i)
    (outcome : call.outcome? doc = some (.template i, success)) :
    Effect doc call (doc.afterTemplateOutcome id success now)
  | added {p : FixPattern} {now : Timestamp} (still : call.outcome? doc = none)
    (adding : call = .addPattern p now) : Effect doc call (doc.withPattern p now)
  | learned {error description : String} {fix : FixAction} {stamp : Stamp} (still : call.outcome? doc = none)
    (learning : call = .learn error description fix true stamp) (filled : Diagnostic.signature error ≠ "")
    (novel : ∀ p ∈ doc.patterns, speaksOf error p = false) :
    Effect doc call (doc.withPattern (lessonOf error description fix stamp) stamp.now)

variable {doc : StoreDocument}

theorem exists_patternOutcome {id : String} (known : ∃ p ∈ doc.patterns, p.id = id) (success : Bool) :
    ∃ i, doc.patterns.findIdx? (·.id == id) = some i ∧ doc.patternOutcome? id success = some (.pattern i, success) := by
  obtain ⟨p, member, named⟩ := known
  have found : (doc.patterns.findIdx? (·.id == id)).isSome := by
    rw [List.findIdx?_isSome, List.any_eq_true]
    exact ⟨p, member, beq_iff_eq.mpr named⟩
  obtain ⟨i, first⟩ := Option.isSome_iff_exists.mp found
  exact ⟨i, first, by rw [StoreDocument.patternOutcome?, first]; rfl⟩

theorem recordOutcome_effect (id : String) (success : Bool) (now : Timestamp) :
    Effect doc (recordOutcome id success now) ((recordOutcome id success now).documentAfter doc) := by
  by_cases known : ∃ p ∈ doc.patterns, p.id = id
  · obtain ⟨i, first, outcome⟩ := exists_patternOutcome known success
    rw [recordOutcome_known (by simpa using known)]
    exact .tried first outcome
  · rw [recordOutcome_unknown (by simpa using known)]
    refine .kept (Option.map_eq_none_iff.mpr (List.findIdx?_eq_none_iff.mpr fun p member => ?_))
    exact beq_eq_false_iff_ne.mpr fun named => known ⟨p, member, named⟩

theorem learn_effect (error description : String) (fix : FixAction) (success : Bool) (stamp : Stamp) :
    Effect doc (learn error description fix success stamp)
      ((learn error description fix success stamp).documentAfter doc) := by
  simp only [documentAfter, verdict, learnVerdict]
  split
  next empty => exact .kept (if_pos (String.isEmpty_iff.mp empty))
  next filled =>
    have filled : Diagnostic.signature error ≠ "" := mt String.isEmpty_iff.mpr filled
    have outcome : (learn error description fix success stamp).outcome? doc =
        (doc.patterns.find? (speaksOf error)).bind fun p => doc.patternOutcome? p.id success := if_neg filled
    split
    next p found =>
      obtain ⟨i, first, tried⟩ := exists_patternOutcome ⟨p, List.mem_of_find?_eq_some found, rfl⟩ success
      refine .tried first (outcome.trans ?_)
      rw [speaksOf, found]
      exact tried
    next novel =>
      have still : (learn error description fix success stamp).outcome? doc = none := by
        rw [outcome, speaksOf, novel]
        rfl
      split
      next success =>
        subst success
        exact .learned still rfl filled fun p member => Bool.eq_false_iff.mpr (List.find?_eq_none.mp novel p member)
      next => exact .kept still

theorem documentAfter_effect (call : StoreCall) (doc : StoreDocument) : Effect doc call (call.documentAfter doc) := by
  cases call with
  | recordOutcome id success now => exact recordOutcome_effect id success now
  | learn error description fix success stamp => exact learn_effect error description fix success stamp
  | addPattern p now =>
    simp only [documentAfter, verdict]
    split
    next => exact .kept rfl
    next => exact .added rfl rfl
  | recordTemplateOutcome id success now =>
    simp only [documentAfter, verdict]
    split
    next known =>
      obtain ⟨i, first⟩ := Option.isSome_iff_exists.mp (List.findIdx?_isSome.trans known)
      exact .used first (by rw [outcome?, StoreDocument.templateOutcome?, first]; rfl)
    next unknown =>
      refine .kept (Option.map_eq_none_iff.mpr (List.findIdx?_eq_none_iff.mpr fun t member => ?_))
      exact Bool.eq_false_iff.mpr fun named => unknown (List.any_eq_true.mpr ⟨t, member, named⟩)
  | save => exact .kept rfl

end StoreCall

open StoreCall

/-- The document of a store after some of the calls. -/
def documentAt (calls : List StoreCall) (s : Store) (d : Disk) (n : Nat) : StoreDocument :=
  (performAll (calls.take n) (s, d)).1.document

theorem documentAt_eq (calls : List StoreCall) (s : Store) (d : Disk) (n : Nat) :
    documentAt calls s d n = documentAfterAll (calls.take n) s.document := performAll_document _ s d

theorem documentAt_succ {calls : List StoreCall} {n : Nat} {call : StoreCall} (next : calls[n]? = some call)
    (s : Store) (d : Disk) : documentAt calls s d (n + 1) = call.documentAfter (documentAt calls s d n) := by
  rw [documentAt_eq, documentAt_eq, List.take_add_one, next, documentAfterAll, List.foldl_append]
  rfl

end WidgetRepair
