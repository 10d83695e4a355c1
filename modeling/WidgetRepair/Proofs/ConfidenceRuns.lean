import WidgetRepair.Proofs.RankShifts
import WidgetRepair.Proofs.SharedStore
import WidgetRepair.Proofs.StoreEffects

/-! How far the patterns and templates of a store are trusted while calls are made on it. Every confidence stays
between its limits and goes the way of the outcomes, by the same rule for patterns and for templates. -/

namespace WidgetRepair

open StoreCall

structure Standing where
  confidence : Float
  successes : UInt32
  failures : UInt32

def Standing.after (r : Standing) (success : Bool) : Standing where
  confidence := Confidence.after success r.confidence
  successes := if success then r.successes + 1 else r.successes
  failures := if success then r.failures else r.failures + 1

def FixPattern.standing (p : FixPattern) : Standing := ⟨p.confidence, p.successCount, p.failureCount⟩

def WidgetTemplate.standing (t : WidgetTemplate) : Standing := ⟨t.confidence, t.successCount, t.failureCount⟩

theorem FixPattern.standing_afterOutcome (p : FixPattern) (success : Bool) (now : Timestamp) :
    (p.afterOutcome success now).standing = p.standing.after success := rfl

theorem WidgetTemplate.standing_afterOutcome (t : WidgetTemplate) (success : Bool) :
    (t.afterOutcome success).standing = t.standing.after success := rfl

namespace StoreDocument

def standing? (doc : StoreDocument) : Holder → Option Standing
  | .pattern i => doc.patterns[i]?.map (·.standing)
  | .template i => doc.templates[i]?.map (·.standing)

/-- A document whose confidences are all between the limits. -/
structure Confident (doc : StoreDocument) : Prop where
  patterns : ∀ p ∈ doc.patterns, Confidence.InRange p.confidence
  templates : ∀ t ∈ doc.templates, Confidence.InRange t.confidence

variable {doc : StoreDocument} {h : Holder} {r : Standing}

theorem Confident.inRange (confident : doc.Confident) (stands : doc.standing? h = some r) :
    Confidence.InRange r.confidence := by
  cases h with
  | pattern i =>
    obtain ⟨p, found, rfl⟩ := Option.map_eq_some_iff.mp stands
    exact confident.patterns p (List.mem_of_getElem? found)
  | template i =>
    obtain ⟨t, found, rfl⟩ := Option.map_eq_some_iff.mp stands
    exact confident.templates t (List.mem_of_getElem? found)

theorem standing?_withPattern (stands : doc.standing? h = some r) (p : FixPattern) (now : Timestamp) :
    (doc.withPattern p now).standing? h = some r := by
  cases h with
  | pattern i =>
    obtain ⟨q, found, rfl⟩ := Option.map_eq_some_iff.mp stands
    have inside := (List.getElem?_eq_some_iff.mp found).1
    simp only [standing?, withPattern, List.getElem?_append_left inside, found]
    rfl
  | template i => exact stands

theorem standing?_afterOutcome (stands : doc.standing? h = some r) {id : String} {i : Nat}
    (first : doc.patterns.findIdx? (·.id == id) = some i) (success : Bool) (now : Timestamp) :
    (doc.afterOutcome id success now).standing? h =
      some (if .pattern i = h then r.after success else r) := by
  cases h with
  | pattern j =>
    obtain ⟨p, found, rfl⟩ := Option.map_eq_some_iff.mp stands
    simp only [standing?, afterOutcome, Store.getElem?_changeFirst, first, found, Option.some_inj,
      Holder.pattern.injEq]
    split
    · exact congrArg some (p.standing_afterOutcome success now)
    · rfl
  | template j => exact stands

theorem standing?_afterTemplateOutcome (stands : doc.standing? h = some r) {id : String} {i : Nat}
    (first : doc.templates.findIdx? (·.id == id) = some i) (success : Bool) (now : Timestamp) :
    (doc.afterTemplateOutcome id success now).standing? h =
      some (if .template i = h then r.after success else r) := by
  cases h with
  | pattern j => exact stands
  | template j =>
    obtain ⟨t, found, rfl⟩ := Option.map_eq_some_iff.mp stands
    simp only [standing?, afterTemplateOutcome, Store.getElem?_changeFirst, first, found, Option.some_inj,
      Holder.template.injEq]
    split
    · exact congrArg some (t.standing_afterOutcome success)
    · rfl

end StoreDocument

namespace StoreCall

/-- The outcomes that a call takes down for one holder: one or none. -/
def outcomesFor (h : Holder) (call : StoreCall) (doc : StoreDocument) : List Bool :=
  ((call.outcome? doc).toList.filter (·.1 = h)).map (·.2)

/-- The outcomes that a run takes down for one holder, in their order. -/
def receivedBy (h : Holder) : List StoreCall → StoreDocument → List Bool
  | [], _ => []
  | call :: rest, doc => call.outcomesFor h doc ++ receivedBy h rest (call.documentAfter doc)

variable {doc after : StoreDocument} {call : StoreCall} {h : Holder} {r : Standing}

theorem outcomesFor_none (still : call.outcome? doc = none) : call.outcomesFor h doc = [] := by
  rw [outcomesFor, still]
  rfl

theorem outcomesFor_some {other : Holder} {success : Bool} (outcome : call.outcome? doc = some (other, success)) :
    call.outcomesFor h doc = if other = h then [success] else [] := by
  rw [outcomesFor, outcome]
  by_cases same : other = h <;> simp [same]

/-- What a call leaves of a standing is decided by the outcomes it takes down for it. -/
theorem Effect.standing? (effect : Effect doc call after) (stands : doc.standing? h = some r) :
    after.standing? h = some ((call.outcomesFor h doc).foldl Standing.after r) := by
  cases effect with
  | kept still =>
    rw [outcomesFor_none still]
    exact stands
  | tried first outcome =>
    rw [outcomesFor_some outcome, StoreDocument.standing?_afterOutcome stands first]
    split <;> rfl
  | used first outcome =>
    rw [outcomesFor_some outcome, StoreDocument.standing?_afterTemplateOutcome stands first]
    split <;> rfl
  | added still | learned still =>
    rw [outcomesFor_none still]
    exact StoreDocument.standing?_withPattern stands _ _

/-- What a run leaves of a standing is decided by all the outcomes that it takes down for it. -/
theorem standing?_documentAfterAll (stands : doc.standing? h = some r) (calls : List StoreCall) :
    (documentAfterAll calls doc).standing? h = some ((receivedBy h calls doc).foldl Standing.after r) := by
  induction calls generalizing doc r with
  | nil => exact stands
  | cons call rest ih =>
    rw [receivedBy, List.foldl_append]
    exact ih ((documentAfter_effect call doc).standing? stands)

/-- Patterns that are added come with a confidence between the limits. -/
def AddsConfident (call : StoreCall) : Prop :=
  ∀ p now, call = .addPattern p now → Confidence.InRange p.confidence

end StoreCall

namespace StoreDocument.Confident

variable {doc : StoreDocument}

theorem withPattern (confident : doc.Confident) {p : FixPattern} (range : Confidence.InRange p.confidence)
    (now : Timestamp) : (doc.withPattern p now).Confident where
  patterns := List.forall_mem_append.mpr ⟨confident.patterns, List.forall_mem_singleton.mpr range⟩
  templates := confident.templates

theorem effect (confident : doc.Confident) {call : StoreCall} (adds : call.AddsConfident) {after : StoreDocument}
    (effect : Effect doc call after) : after.Confident := by
  cases effect with
  | kept => exact confident
  | tried =>
    refine ⟨Store.forall_changeFirst (fun p range => ?_) confident.patterns, confident.templates⟩
    exact Confidence.inRange_after range _
  | used =>
    refine ⟨confident.patterns, Store.forall_changeFirst (fun t range => ?_) confident.templates⟩
    exact Confidence.inRange_after range _
  | added _ adding => exact confident.withPattern (adds _ _ adding) _
  | @learned error description fix stamp =>
    have range : Confidence.InRange (Store.lessonOf error description fix stamp).confidence :=
      Confidence.inRange_learned
    exact confident.withPattern range _

theorem documentAfterAll (confident : doc.Confident) {calls : List StoreCall}
    (adds : ∀ call ∈ calls, call.AddsConfident) : (documentAfterAll calls doc).Confident := by
  induction calls generalizing doc with
  | nil => exact confident
  | cons call rest ih =>
    obtain ⟨first, later⟩ := List.forall_mem_cons.mp adds
    exact ih (confident.effect first (documentAfter_effect call doc)) later

end StoreDocument.Confident

/-- How a call moves the confidences of a document. -/
structure Nudged (call : StoreCall) (before after : StoreDocument) : Prop where
  success : ∀ h, call.outcome? before = some (h, true) → ∃ r r', before.standing? h = some r ∧
    after.standing? h = some r' ∧ r.confidence ≤ r'.confidence
  failure : ∀ h, call.outcome? before = some (h, false) → ∃ r r', before.standing? h = some r ∧
    after.standing? h = some r' ∧ r'.confidence ≤ r.confidence
  others : ∀ h r, before.standing? h = some r → (∀ success, call.outcome? before ≠ some (h, success)) →
    after.standing? h = some r
  /-- Patterns and templates stay where they are. -/
  patterns : before.identities <+: after.identities
  templates : after.templates.map (·.id) = before.templates.map (·.id)

namespace StoreCall.Effect

variable {doc after : StoreDocument} {call : StoreCall} {h : Holder} {success : Bool}

/-- What an outcome is taken down for is there. -/
theorem exists_standing (effect : Effect doc call after) (outcome : call.outcome? doc = some (h, success)) :
    ∃ r, doc.standing? h = some r := by
  have known {α : Type} {test : α → Bool} {items : List α} {i : Nat} (first : items.findIdx? test = some i) :
      ∃ a, items[i]? = some a := ⟨_, List.getElem?_eq_getElem (List.findIdx?_eq_some_iff_getElem.mp first).1⟩
  cases effect with
  | kept still | added still | learned still =>
    rw [outcome] at still
    cases still
  | tried first same | used first same =>
    rw [outcome] at same
    cases same
    obtain ⟨a, found⟩ := known first
    exact ⟨a.standing, congrArg (Option.map _) found⟩

theorem standing?_outcome (effect : Effect doc call after) (outcome : call.outcome? doc = some (h, success)) :
    ∃ r, doc.standing? h = some r ∧ after.standing? h = some (r.after success) := by
  obtain ⟨r, stands⟩ := effect.exists_standing outcome
  have later := effect.standing? stands
  rw [outcomesFor_some outcome, if_pos rfl] at later
  exact ⟨r, stands, later⟩

theorem standing?_other (effect : Effect doc call after) {r : Standing} (stands : doc.standing? h = some r)
    (other : ∀ success, call.outcome? doc ≠ some (h, success)) : after.standing? h = some r := by
  have none : call.outcomesFor h doc = [] := by
    cases outcome : call.outcome? doc with
    | none => exact outcomesFor_none outcome
    | some taken =>
      rw [outcomesFor_some outcome, if_neg]
      rintro rfl
      exact other taken.2 outcome
  have later := effect.standing? stands
  rwa [none] at later

theorem templates (effect : Effect doc call after) :
    after.templates.map (·.id) = doc.templates.map (·.id) := by
  cases effect with
  | used =>
    refine Store.map_changeFirst (fun t => ?_) doc.templates
    rfl
  | _ => rfl

end StoreCall.Effect

theorem documentAfter_nudged {doc : StoreDocument} (confident : doc.Confident) (call : StoreCall) :
    Nudged call doc (call.documentAfter doc) := by
  have effect := documentAfter_effect call doc
  refine ⟨fun h outcome => ?_, fun h outcome => ?_, fun h r => effect.standing?_other,
    (verdict_grown call { document := doc }).kept, effect.templates⟩
  · obtain ⟨r, stands, later⟩ := effect.standing?_outcome outcome
    exact ⟨r, _, stands, later, Confidence.le_raised (confident.inRange stands)⟩
  · obtain ⟨r, stands, later⟩ := effect.standing?_outcome outcome
    have range := confident.inRange stands
    exact ⟨r, _, stands, later, Confidence.lowered_le range range.le_self⟩

/-- Confidence while calls are made on a store, whatever becomes of its file. -/
structure KeepsConfidence (calls : List StoreCall) (s : Store) (d : Disk) : Prop where
  bounded : ∀ n, (documentAt calls s d n).Confident
  nudged : ∀ n call, calls[n]? = some call → Nudged call (documentAt calls s d n) (documentAt calls s d (n + 1))
  /-- A pattern ends like any template, of this or another store, that began like it and met the same outcomes. -/
  alike : ∀ (calls' : List StoreCall) (s' : Store) (d' : Disk) (i j : Nat) (r : Standing),
    s.document.standing? (.pattern i) = some r → s'.document.standing? (.template j) = some r →
    receivedBy (.pattern i) calls s.document = receivedBy (.template j) calls' s'.document →
    ∃ r', (performAll calls (s, d)).1.document.standing? (.pattern i) = some r' ∧
      (performAll calls' (s', d')).1.document.standing? (.template j) = some r'

/-- Whatever calls are made on a store, each confidence stays between the limits and goes up with successes and
down with failures only, and for patterns as for templates. -/
theorem confidence_kept {calls : List StoreCall} {s : Store} (d : Disk) (confident : s.document.Confident)
    (adds : ∀ p now, .addPattern p now ∈ calls → Confidence.InRange p.confidence) : KeepsConfidence calls s d := by
  have bounded (n : Nat) : (documentAt calls s d n).Confident := by
    rw [documentAt_eq]
    refine confident.documentAfterAll fun call member p now adding => adds p now ?_
    exact adding ▸ List.mem_of_mem_take member
  refine ⟨bounded, fun n call next => ?_, fun calls' s' d' i j r pattern template same => ?_⟩
  · rw [documentAt_succ next]
    exact documentAfter_nudged (bounded n) call
  · rw [performAll_document, performAll_document]
    refine ⟨_, standing?_documentAfterAll pattern calls, ?_⟩
    rw [same]
    exact standing?_documentAfterAll template calls'

/-- A pattern and a template near the upper limit, and a pattern at the lower one. -/
theorem confidence_kept_near_limits :
    let sure : FixPattern :=
      { id := "sure", errorPattern := "TS2304", fix := .manual "Add the import", confidence := 0.98 }
    let poor : FixPattern :=
      { id := "poor", errorPattern := "TS7006", fix := .manual "Add a type", confidence := 0.1 }
    let list : WidgetTemplate := { id := "list", name := "List", confidence := 0.98 }
    let s : Store := {
      path := some ⟨"nucleus.json"⟩
      document := { StoreDocument.empty default with patterns := [sure], templates := [list] } }
    let d : Disk := { Disk.empty with hitches := [.cut 10] }
    let calls : List StoreCall := [.recordOutcome "sure" true default, .addPattern poor default,
      .recordTemplateOutcome "list" true default, .recordOutcome "poor" false default]
    s.document.Confident ∧ (∀ p now, .addPattern p now ∈ calls → Confidence.InRange p.confidence) ∧
      KeepsConfidence calls s d ∧
      receivedBy (.pattern 0) calls s.document = receivedBy (.template 0) calls s.document := by
  intro sure poor list s d calls
  have confident : s.document.Confident :=
    ⟨List.forall_mem_singleton.mpr (by decide), List.forall_mem_singleton.mpr (by decide)⟩
  have adds : ∀ p now, .addPattern p now ∈ calls → Confidence.InRange p.confidence := by
    intro p now member
    have added : p = poor ∧ now = default := by simpa [calls] using member
    rw [added.1]
    decide
  exact ⟨confident, adds, confidence_kept d confident adds, rfl⟩

end WidgetRepair
