import WidgetRepair.Proofs.FirstChange
import WidgetRepair.Proofs.Stateful

/-! The calls that change a store. What a call makes of the document does not depend on the disk:
it is decided first, and only then written. -/

namespace WidgetRepair

inductive StoreCall where
  | recordOutcome (id : String) (success : Bool) (now : Timestamp)
  | learn (error description : String) (fix : FixAction) (success : Bool) (stamp : Stamp)
  | addPattern (p : FixPattern) (now : Timestamp)
  | recordTemplateOutcome (id : String) (success : Bool) (now : Timestamp)
  | save

inductive StoreAnswer where
  | confidence (value : Float)
  | learned (outcome : LearnOutcome)
  | saved (written : Bool)
  | done

/-- What a call comes to before anything is written. -/
inductive Verdict where
  | refused (fault : StoreFault)
  | kept (answer : StoreAnswer)
  | changed (answer : StoreAnswer) (document : StoreDocument)

namespace StoreDocument

def afterOutcome (doc : StoreDocument) (id : String) (success : Bool) (now : Timestamp) :
    StoreDocument :=
  { doc with
    updated := now
    patterns := Store.changeFirst (·.id == id) (fun p => p.afterOutcome success now) doc.patterns }

def withPattern (doc : StoreDocument) (p : FixPattern) (now : Timestamp) : StoreDocument :=
  { doc with updated := now, patterns := doc.patterns ++ [p] }

def afterTemplateOutcome (doc : StoreDocument) (id : String) (success : Bool) (now : Timestamp) :
    StoreDocument :=
  { doc with
    updated := now
    templates := Store.changeFirst (·.id == id) (fun t => t.afterOutcome success) doc.templates }

end StoreDocument

namespace StoreCall

def perform : StoreCall → OnStore StoreAnswer
  | recordOutcome id success now => return .confidence (← OnStore.recordOutcome id success now)
  | learn error description fix success stamp =>
    return .learned (← OnStore.learn error description fix success stamp)
  | addPattern p now => do
    OnStore.addPattern p now
    return .done
  | recordTemplateOutcome id success now => do
    OnStore.recordTemplateOutcome id success now
    return .done
  | save => return .saved (← OnStore.save)

def learnVerdict (doc : StoreDocument) (error description : String) (fix : FixAction) (success : Bool)
    (stamp : Stamp) : Verdict :=
  let signature := Diagnostic.signature error
  let keywords := Diagnostic.keywords (Diagnostic.errorSummary error.toList)
  if signature.isEmpty then .kept (.learned .discarded)
  else
    match doc.patterns.find? (Store.sameError signature keywords) with
    | some p => .changed (.learned (.reinforced p.id)) (doc.afterOutcome p.id success stamp.now)
    | none =>
      if success then
        .changed (.learned (.created stamp.id))
          (doc.withPattern (Store.learnedPattern stamp signature keywords description fix) stamp.now)
      else .kept (.learned .discarded)

/-- The verdict on a call. A store with changes that are not written has something to save. -/
def verdict (s : Store) : StoreCall → Verdict
  | recordOutcome id success now =>
    match s.get? id with
    | none => .refused (.patternNotFound id)
    | some p =>
      .changed (.confidence (p.afterOutcome success now).confidence)
        (s.document.afterOutcome id success now)
  | learn error description fix success stamp =>
    learnVerdict s.document error description fix success stamp
  | addPattern p now =>
    if (s.get? p.id).isSome then .refused (.patternExists p.id)
    else .changed .done (s.document.withPattern p now)
  | recordTemplateOutcome id success now =>
    if s.document.templates.any (·.id == id) then
      .changed .done (s.document.afterTemplateOutcome id success now)
    else .refused (.templateNotFound id)
  | save => if s.dirty then .changed (.saved s.path.isSome) s.document else .kept (.saved false)

end StoreCall

def Verdict.follow (s : Store) : Verdict → OnStore StoreAnswer
  | refused fault => OnStore.fail fault
  | kept answer => return answer
  | changed answer doc => do
    OnStore.commit { s with document := doc, dirty := true }
    return answer

section Follows

variable (s : Store) (d : Disk)

theorem run_store {α : Type} (next : Store → OnStore α) :
    (OnStore.store >>= next).run s d = (next s).run s d := rfl

theorem recordOutcome_follows (id : String) (success : Bool) (now : Timestamp) :
    (StoreCall.recordOutcome id success now).perform.run s d =
      (((StoreCall.recordOutcome id success now).verdict s).follow s).run s d := by
  simp only [StoreCall.perform, StoreCall.verdict, OnStore.recordOutcome, bind_assoc]
  rw [run_store]
  cases s.get? id with
  | none => rfl
  | some p =>
    simp only [bind_assoc, pure_bind]
    rfl

theorem addPattern_follows (p : FixPattern) (now : Timestamp) :
    (StoreCall.addPattern p now).perform.run s d =
      (((StoreCall.addPattern p now).verdict s).follow s).run s d := by
  simp only [StoreCall.perform, StoreCall.verdict, OnStore.addPattern, bind_assoc]
  rw [run_store]
  cases (s.get? p.id).isSome <;> rfl

theorem recordTemplateOutcome_follows (id : String) (success : Bool) (now : Timestamp) :
    (StoreCall.recordTemplateOutcome id success now).perform.run s d =
      (((StoreCall.recordTemplateOutcome id success now).verdict s).follow s).run s d := by
  simp only [StoreCall.perform, StoreCall.verdict, OnStore.recordTemplateOutcome, bind_assoc]
  rw [run_store]
  cases s.document.templates.any (·.id == id) <;> rfl

/-- The pattern that is reinforced is found by its id, and may be an earlier one of the same id. -/
theorem learn_follows (error description : String) (fix : FixAction) (success : Bool) (stamp : Stamp) :
    (StoreCall.learn error description fix success stamp).perform.run s d =
      (((StoreCall.learn error description fix success stamp).verdict s).follow s).run s d := by
  simp only [StoreCall.perform, StoreCall.verdict, StoreCall.learnVerdict, OnStore.learn]
  cases (Diagnostic.signature error).isEmpty with
  | true => rfl
  | false =>
    simp only [Bool.false_eq_true, if_false, bind_assoc]
    rw [run_store]
    unfold Store.patterns
    cases found : s.document.patterns.find? (Store.sameError (Diagnostic.signature error)
        (Diagnostic.keywords (Diagnostic.errorSummary error.toList))) with
    | some p =>
      have known : (s.get? p.id).isSome := by
        refine List.find?_isSome.mpr ⟨p, List.mem_of_find?_eq_some found, ?_⟩
        exact beq_self_eq_true p.id
      obtain ⟨q, known⟩ := Option.isSome_iff_exists.mp known
      simp only [OnStore.recordOutcome, bind_assoc]
      rw [run_store, known]
      simp only [bind_assoc, pure_bind]
      rfl
    | none =>
      cases success with
      | true =>
        simp only [Bool.not_true, Bool.false_eq_true, if_false, bind_assoc, pure_bind]
        rfl
      | false => rfl

theorem save_follows : StoreCall.save.perform.run s d = ((StoreCall.save.verdict s).follow s).run s d := by
  simp only [StoreCall.perform, StoreCall.verdict]
  cases dirty : s.dirty with
  | false =>
    simp only [OnStore.save, bind_assoc]
    rw [run_store, dirty]
    rfl
  | true =>
    have same : { s with dirty := true } = s := by
      cases s
      cases dirty
      rfl
    simp only [if_true, Verdict.follow, OnStore.commit, same, bind_assoc]
    have again (next : OnStore StoreAnswer) :
        (OnStore.setStore s >>= fun _ => next).run s d = next.run s d := rfl
    rw [again]
    simp only [OnStore.save, bind_assoc]
    rw [run_store, run_store, dirty]
    cases s.path <;> simp only [Bool.not_true, Bool.false_eq_true, if_false, bind_assoc, pure_bind] <;> rfl

/-- Every call does what its verdict says. -/
theorem perform_follows (call : StoreCall) :
    call.perform.run s d = ((call.verdict s).follow s).run s d := by
  cases call with
  | recordOutcome id success now => exact recordOutcome_follows s d id success now
  | learn error description fix success stamp =>
    exact learn_follows s d error description fix success stamp
  | addPattern p now => exact addPattern_follows s d p now
  | recordTemplateOutcome id success now => exact recordTemplateOutcome_follows s d id success now
  | save => exact save_follows s d

end Follows

/-- What a verdict makes of a document. -/
def Verdict.document (doc : StoreDocument) : Verdict → StoreDocument
  | changed _ new => new
  | _ => doc

/-- The document after a call, whatever becomes of the file. -/
def StoreCall.documentAfter (call : StoreCall) (doc : StoreDocument) : StoreDocument :=
  (call.verdict { document := doc }).document doc

theorem verdict_document (s : Store) (call : StoreCall) :
    (call.verdict s).document s.document = call.documentAfter s.document := by
  cases call with
  | save =>
    unfold StoreCall.documentAfter
    simp only [StoreCall.verdict]
    split <;> rfl
  | _ => rfl

end WidgetRepair
