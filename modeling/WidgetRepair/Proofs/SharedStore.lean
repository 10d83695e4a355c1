import Mathlib
import WidgetRepair.Proofs.OutcomeCounters
import WidgetRepair.Proofs.StoreRuns

/-! A store that several handles share. The calls of all handles come through one after the other,
in whatever order; no order loses an update or drops a pattern, also where saving fails. -/

namespace WidgetRepair

open Store

/-- What stays of a pattern however often it is tried. -/
structure PatternIdentity where
  id : String
  errorPattern : String
  keywords : List String
  fix : FixAction
  description : String
  provenance : Provenance
  deriving DecidableEq

namespace FixPattern

def identity (p : FixPattern) : PatternIdentity :=
  ⟨p.id, p.errorPattern, p.keywords, p.fix, p.description, p.provenance⟩

end FixPattern

namespace StoreDocument

def identities (doc : StoreDocument) : List PatternIdentity := doc.patterns.map (·.identity)

def outcomes (doc : StoreDocument) (success : Bool) : Nat := (doc.patterns.map (·.outcomes success)).sum

/-- How often the outcome takes the counter of the pattern of an id past its end. -/
def overrun (doc : StoreDocument) (id : String) (kind success : Bool) : Nat :=
  match doc.patterns.find? (·.id == id) with
  | some p => p.overrun kind success
  | none => 0

end StoreDocument

namespace Store

def identities (s : Store) : List PatternIdentity := s.document.identities

/-- A sum changes by what becomes of the one item that is changed. -/
theorem sum_changeFirst {α : Type} {test : α → Bool} {f : α → α} {items : List α} {a : α} (g : α → Nat)
    (found : items.find? test = some a) :
    ((changeFirst test f items).map g).sum + g a = (items.map g).sum + g (f a) := by
  induction items with
  | nil => cases found
  | cons first rest ih =>
    rw [changeFirst_cons]
    cases here : test first with
    | true =>
      rw [List.find?_cons_of_pos here] at found
      cases found
      simp only [if_true, List.map_cons, List.sum_cons]
      omega
    | false =>
      rw [List.find?_cons_of_neg (by simp [here])] at found
      simp only [Bool.false_eq_true, if_false, List.map_cons, List.sum_cons]
      have later := ih found
      omega

theorem foldl_outcomes (doc : StoreDocument) (success : Bool) :
    doc.patterns.foldl (fun n p => n + p.outcomes success) 0 = doc.outcomes success := by
  rw [← List.foldl_map, ← List.sum_eq_foldl_nat]
  rfl

theorem stats_successes (s : Store) : s.stats.successes = s.document.outcomes true :=
  foldl_outcomes s.document true

theorem stats_failures (s : Store) : s.stats.failures = s.document.outcomes false :=
  foldl_outcomes s.document false

end Store

namespace StoreCall

/-- The answer of a call where there is no file to write, so that nothing fails for the disk. -/
def unfiled (call : StoreCall) (s : Store) : Except StoreFault StoreAnswer :=
  (call.perform.run { s with path := none } Disk.empty).1

/-- The patterns that a call with this result adds. -/
def added : StoreCall → Except StoreFault StoreAnswer → Nat
  | learn .., .ok (.learned (.created _)) => 1
  | addPattern .., .ok _ => 1
  | _, _ => 0

/-- The outcomes of one kind that a call with this result takes down or brings along. -/
def outcomes (kind : Bool) : StoreCall → Except StoreFault StoreAnswer → Nat
  | recordOutcome _ success _, .ok _ => if success = kind then 1 else 0
  | learn _ _ _ success _, .ok (.learned outcome) =>
    if outcome.patternId?.isSome && success == kind then 1 else 0
  | addPattern p _, .ok _ => p.outcomes kind
  | _, _ => 0

/-- The pattern that a call with this result takes an outcome down for, and the outcome. -/
def reached? : StoreCall → Except StoreFault StoreAnswer → Option (String × Bool)
  | recordOutcome id success _, .ok _ => some (id, success)
  | learn _ _ _ success _, .ok (.learned (.reinforced id)) => some (id, success)
  | _, _ => none

/-- How many counters of one kind a call with this result takes past their end. -/
def overruns (kind : Bool) (call : StoreCall) (result : Except StoreFault StoreAnswer)
    (doc : StoreDocument) : Nat :=
  match call.reached? result with
  | some (id, success) => doc.overrun id kind success
  | none => 0

end StoreCall

def Verdict.answer : Verdict → Except StoreFault StoreAnswer
  | refused fault => .error fault
  | kept answer => .ok answer
  | changed answer _ => .ok answer

theorem unfiled_verdict (call : StoreCall) (s : Store) :
    call.unfiled s = (call.verdict { s with path := none }).answer := by
  unfold StoreCall.unfiled
  rw [perform_follows]
  cases call.verdict { s with path := none } <;> rfl

/-- How a document grew: nothing that was there is lost, and what was added is counted, but for what counters lose
that are taken past their end. -/
structure StoreDocument.Grown (before after : StoreDocument) (added : Nat) (outcomes overruns : Bool → Nat) : Prop where
  kept : before.identities <+: after.identities
  length : after.identities.length = before.identities.length + added
  outcomes : ∀ kind, after.outcomes kind + counterLimit * overruns kind = before.outcomes kind + outcomes kind

namespace StoreDocument.Grown

variable {doc : StoreDocument}

theorem same (doc : StoreDocument) : doc.Grown doc 0 (fun _ => 0) fun _ => 0 :=
  ⟨List.prefix_rfl, rfl, fun _ => rfl⟩

theorem afterOutcome {id : String} (known : ∃ p ∈ doc.patterns, p.id = id) (success : Bool)
    (now : Timestamp) :
    doc.Grown (doc.afterOutcome id success now) 0 (fun kind => if success = kind then 1 else 0)
      fun kind => doc.overrun id kind success := by
  have same : (doc.afterOutcome id success now).identities = doc.identities := by
    refine map_changeFirst (fun p => ?_) doc.patterns
    rfl
  refine ⟨same ▸ List.prefix_rfl, same ▸ rfl, fun kind => ?_⟩
  have there : (doc.patterns.find? (·.id == id)).isSome := by simpa using known
  obtain ⟨p, found⟩ := Option.isSome_iff_exists.mp there
  have sum : (doc.afterOutcome id success now).outcomes kind + p.outcomes kind =
      doc.outcomes kind + (p.afterOutcome success now).outcomes kind :=
    sum_changeFirst (·.outcomes kind) found
  have counted := p.outcomes_counted kind success now
  have overrun : doc.overrun id kind success = p.overrun kind success := by rw [StoreDocument.overrun, found]
  rw [overrun]
  omega

theorem withPattern (p : FixPattern) (now : Timestamp) :
    doc.Grown (doc.withPattern p now) 1 p.outcomes fun _ => 0 := by
  refine ⟨⟨[p.identity], ?_⟩, ?_, fun kind => ?_⟩
  all_goals simp [identities, StoreDocument.outcomes, StoreDocument.withPattern]

theorem afterTemplateOutcome (id : String) (success : Bool) (now : Timestamp) :
    doc.Grown (doc.afterTemplateOutcome id success now) 0 (fun _ => 0) fun _ => 0 :=
  ⟨List.prefix_rfl, rfl, fun _ => rfl⟩

end StoreDocument.Grown

theorem known_of_get? {s : Store} {id : String} {p : FixPattern} (found : s.get? id = some p) :
    ∃ q ∈ s.document.patterns, q.id = id :=
  ⟨p, List.mem_of_find?_eq_some found, by simpa using List.find?_some found⟩

theorem verdict_grown (call : StoreCall) (s : Store) :
    s.document.Grown ((call.verdict s).document s.document) (call.added (call.verdict s).answer)
      (call.outcomes · (call.verdict s).answer)
      (call.overruns · (call.verdict s).answer s.document) := by
  cases call with
  | recordOutcome id success now =>
    cases found : s.get? id with
    | none =>
      simp only [StoreCall.verdict, found]
      exact .same _
    | some p =>
      simp only [StoreCall.verdict, found]
      exact .afterOutcome (known_of_get? found) success now
  | learn error description fix success stamp =>
    simp only [StoreCall.verdict, StoreCall.learnVerdict]
    generalize Diagnostic.signature error = signature
    generalize Diagnostic.keywords _ = keywords
    cases signature.isEmpty with
    | true => exact .same _
    | false =>
      simp only [Bool.false_eq_true, if_false]
      cases found : s.document.patterns.find? (sameError signature keywords) with
      | some p =>
        have known : ∃ q ∈ s.document.patterns, q.id = p.id := ⟨p, List.mem_of_find?_eq_some found, rfl⟩
        simpa [Verdict.answer, Verdict.document, StoreCall.added, StoreCall.outcomes, StoreCall.overruns,
          StoreCall.reached?, LearnOutcome.patternId?] using
          StoreDocument.Grown.afterOutcome known success stamp.now
      | none =>
        cases success with
        | false => exact .same _
        | true =>
          let p := learnedPattern stamp signature keywords description fix
          have grown : s.document.Grown (s.document.withPattern p stamp.now) 1 p.outcomes fun _ => 0 :=
            .withPattern p stamp.now
          refine ⟨grown.kept, grown.length, fun kind => (grown.outcomes kind).trans ?_⟩
          cases kind <;> rfl
  | addPattern p now =>
    cases found : (s.get? p.id).isSome with
    | true =>
      simp only [StoreCall.verdict, found, if_true]
      exact .same _
    | false =>
      simp only [StoreCall.verdict, found, Bool.false_eq_true, if_false]
      exact .withPattern p now
  | recordTemplateOutcome id success now =>
    simp only [StoreCall.verdict]
    cases s.document.templates.any (·.id == id) with
    | true => exact .afterTemplateOutcome id success now
    | false => exact .same _
  | save =>
    simp only [StoreCall.verdict]
    cases s.dirty <;> exact .same _

theorem save_faults (s : Store) (d : Disk) :
    Ends OnStore.save (s, d) fun result _ => ∀ fault, result = .error fault → ∃ f, fault = .disk f := by
  simp only [OnStore.save, OnStore.store, bind_assoc, pure_bind]
  refine .looked ?_
  have saved (written : Bool) (fault : StoreFault)
      (failed : (.ok written : Except StoreFault Bool) = .error fault) : ∃ f, fault = .disk f := by
    cases failed
  cases s.dirty with
  | false => exact .returned (saved false)
  | true =>
    simp only [Bool.not_true, Bool.false_eq_true, if_false]
    cases s.path with
    | none => exact .modified (.returned (saved false))
    | some path =>
      have any : Ends (writeDocument path s.document) d fun _ _ => True := trivial
      refine (onDisk_ends any).bind ?_ ?_
      · rintro _ ⟨_, after⟩ -
        exact .modified (.returned (saved true))
      · rintro e ⟨_, after⟩ ⟨came, -, -, same⟩ fault failed
        cases failed
        cases came with
        | ok _ => cases same
        | error f => exact ⟨f, Except.error.inj same⟩

/-- A call answers as it would without a file, or the disk keeps it from saving a change. -/
theorem perform_result (call : StoreCall) (s : Store) (d : Disk) :
    (call.perform.run s d).1 = (call.verdict s).answer ∨
      ∃ f answer, (call.perform.run s d).1 = .error (.disk f) ∧ (call.verdict s).answer = .ok answer := by
  rw [perform_follows]
  cases call.verdict s with
  | refused fault => exact .inl rfl
  | kept answer => exact .inl rfl
  | changed answer doc =>
    have ends : Ends ((Verdict.changed answer doc).follow s) (s, d) fun result _ =>
        result = .ok answer ∨ ∃ f, result = .error (.disk f) := by
      simp only [Verdict.follow, OnStore.commit, OnStore.setStore, bind_assoc, pure_bind]
      refine .modified ((save_faults _ d).bind ?_ ?_)
      · exact fun _ _ _ => .returned (.inl rfl)
      · intro fault _ broke
        obtain ⟨f, rfl⟩ := broke fault rfl
        exact .inr ⟨f, rfl⟩
    obtain done | ⟨f, failed⟩ := ends
    · exact .inl done
    · exact .inr ⟨f, answer, failed, rfl⟩

theorem unfiled_eq {call : StoreCall} (changes : call ≠ .save) (s : Store) :
    call.unfiled s = (call.verdict s).answer := by
  rw [unfiled_verdict]
  cases call with
  | save => exact absurd rfl changes
  | _ => rfl

/-- A call that came through, with the store that it found and its result. -/
structure Passage where
  before : Store
  call : StoreCall
  result : Except StoreFault StoreAnswer

namespace Passage

/-- The result that the call would have had without a file. -/
def unfiled (e : Passage) : Except StoreFault StoreAnswer := e.call.unfiled e.before

def added (e : Passage) : Nat := e.call.added e.unfiled

def outcomes (kind : Bool) (e : Passage) : Nat := e.call.outcomes kind e.unfiled

def overruns (kind : Bool) (e : Passage) : Nat := e.call.overruns kind e.unfiled e.before.document

end Passage

/-- Whoever holds a handle: the next call, by the results of the calls before. -/
abbrev Caller := List (Except StoreFault StoreAnswer) → Option StoreCall

structure SharedStore where
  store : Store
  disk : Disk
  /-- The calls that came through, each with the number of its handle. -/
  passed : List (Nat × Passage) := []

namespace SharedStore

def resultsOf (shared : SharedStore) (handle : Nat) : List (Except StoreFault StoreAnswer) :=
  (shared.passed.filter (·.1 == handle)).map (·.2.result)

def pass (shared : SharedStore) (handle : Nat) (call : StoreCall) : SharedStore :=
  let (result, store, disk) := call.perform.run shared.store shared.disk
  { store := store
    disk := disk
    passed := shared.passed ++ [(handle, ⟨shared.store, call, result⟩)] }

/-- The turn of a handle. Its call comes through as a whole, before the turn of any other. -/
def turn (callers : Nat → Caller) (shared : SharedStore) (handle : Nat) : SharedStore :=
  match callers handle (shared.resultsOf handle) with
  | some call => shared.pass handle call
  | none => shared

def turns (callers : Nat → Caller) (shared : SharedStore) (order : List Nat) : SharedStore :=
  order.foldl (turn callers) shared

/-- What became of a store while some calls came through. A total is what the calls add to it, but for the counters
that they take past their end, of which each starts again from zero. -/
structure Accounted (before after : Store) (passed : List Passage) : Prop where
  kept : before.identities <+: after.identities
  grown : after.identities.length = before.identities.length + (passed.map (·.added)).sum
  successes : after.stats.successes + counterLimit * (passed.map (·.overruns true)).sum =
    before.stats.successes + (passed.map (·.outcomes true)).sum
  failures : after.stats.failures + counterLimit * (passed.map (·.overruns false)).sum =
    before.stats.failures + (passed.map (·.outcomes false)).sum
  /-- Nothing but a file that cannot be written keeps a result from being the one without a file. -/
  unsaved : ∀ e ∈ passed, e.call ≠ .save → e.result = e.unfiled ∨
    ∃ f answer, e.result = .error (.disk f) ∧ e.unfiled = .ok answer

namespace Accounted

theorem refl (s : Store) : Accounted s s [] :=
  ⟨List.prefix_rfl, rfl, rfl, rfl, by simp⟩

theorem trans {before between after : Store} {passed more : List Passage}
    (first : Accounted before between passed) (second : Accounted between after more) :
    Accounted before after (passed ++ more) where
  kept := first.kept.trans second.kept
  grown := by rw [second.grown, first.grown, List.map_append, List.sum_append, Nat.add_assoc]
  successes := by
    have counted := first.successes
    have further := second.successes
    simp only [List.map_append, List.sum_append, Nat.mul_add]
    omega
  failures := by
    have counted := first.failures
    have further := second.failures
    simp only [List.map_append, List.sum_append, Nat.mul_add]
    omega
  unsaved := fun e member => (List.mem_append.mp member).elim (first.unsaved e) (second.unsaved e)

theorem of_call (call : StoreCall) (s : Store) (d : Disk) :
    Accounted s (call.perform.run s d).2.1 [⟨s, call, (call.perform.run s d).1⟩] := by
  have grown := verdict_grown call { s with path := none }
  rw [← unfiled_verdict, verdict_document] at grown
  have document := perform_document call s d
  refine ⟨?_, ?_, ?_, ?_, ?_⟩
  · rw [identities, identities, document]
    exact grown.kept
  · rw [identities, identities, document, grown.length]
    simp [Passage.added, Passage.unfiled]
  · rw [stats_successes, stats_successes, document]
    simpa [Passage.outcomes, Passage.overruns, Passage.unfiled] using grown.outcomes true
  · rw [stats_failures, stats_failures, document]
    simpa [Passage.outcomes, Passage.overruns, Passage.unfiled] using grown.outcomes false
  · intro e member changes
    cases List.mem_singleton.mp member
    rw [Passage.unfiled, unfiled_eq changes]
    exact perform_result call s d

end Accounted

theorem pass_accounted (shared : SharedStore) (handle : Nat) (call : StoreCall) :
    ∃ e, (shared.pass handle call).passed = shared.passed ++ [(handle, e)] ∧
      Accounted shared.store (shared.pass handle call).store [e] :=
  ⟨_, rfl, .of_call call shared.store shared.disk⟩

/-- Whoever holds handles on a store and in whatever order their calls come through, whether or not
they can be saved: from any moment to any later one the patterns that were there stay in their
places, and what was added and taken down is what the calls between tell. -/
theorem shared_store_accounted (callers : Nat → Caller) (order : List Nat) (shared : SharedStore) :
    ∃ passed, (shared.turns callers order).passed = shared.passed ++ passed ∧
      Accounted shared.store (shared.turns callers order).store (passed.map (·.2)) := by
  induction order generalizing shared with
  | nil => exact ⟨[], (List.append_nil _).symm, .refl _⟩
  | cons handle rest ih =>
    obtain ⟨later, told, kept⟩ := ih (shared.turn callers handle)
    rw [turns, List.foldl_cons]
    cases next : callers handle (shared.resultsOf handle) with
    | none =>
      have idle : shared.turn callers handle = shared := by rw [turn, next]
      rw [idle] at told kept ⊢
      exact ⟨later, told, kept⟩
    | some call =>
      have passed : shared.turn callers handle = shared.pass handle call := by rw [turn, next]
      rw [passed] at told kept ⊢
      obtain ⟨e, one, accounted⟩ := pass_accounted shared handle call
      refine ⟨(handle, e) :: later, ?_, ?_⟩
      · rw [turns] at told
        rw [told, one, List.append_assoc]
        rfl
      · exact accounted.trans kept

end SharedStore

end WidgetRepair
