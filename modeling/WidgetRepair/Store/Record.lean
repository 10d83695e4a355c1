import WidgetRepair.Pattern.Codec

/-! What a store keeps besides patterns: shapes of widgets that are known to work, notes on the
programming interface, and good practices. -/

namespace WidgetRepair

open Source Json

/-- A shape of widget with its record of success. -/
structure WidgetTemplate where
  id : String
  name : String
  category : String := ""
  description : String := ""
  /-- The kinds of property the shape is good with. -/
  propertyKinds : List String := []
  keywords : List String := []
  confidence : Float := 0.8
  successCount : UInt32 := 0
  failureCount : UInt32 := 0

structure ApiNote where
  name : String
  source : String := ""
  usage : String := ""
  notes : List String := []
  deriving DecidableEq, Repr

structure Practice where
  id : String
  title : String
  description : String := ""
  category : String
  deriving DecidableEq, Repr

namespace WidgetTemplate

def successes (t : WidgetTemplate) : Nat := t.successCount.toNat

def failures (t : WidgetTemplate) : Nat := t.failureCount.toNat

/-- The shape after it has been tried once more, counted as for a pattern. -/
def afterOutcome (t : WidgetTemplate) (success : Bool) : WidgetTemplate :=
  { t with
    successCount := if success then t.successCount + 1 else t.successCount
    failureCount := if success then t.failureCount else t.failureCount + 1
    confidence := Confidence.after success t.confidence }

/-- Whether a search term speaks of the shape. -/
def answers (t : WidgetTemplate) (term : String) : Bool :=
  t.keywords.contains term || Text.sameName t.category term ||
    t.propertyKinds.any fun kind => Text.sameName kind term

/-- The number of terms that speak of the shape, weighted by confidence. -/
def relevance (t : WidgetTemplate) (terms : List String) : Float :=
  Float.ofNat (terms.filter t.answers).length * t.confidence

end WidgetTemplate

structure TemplateFields where
  id : Option String := none
  name : Option String := none
  category : Option String := none
  description : Option String := none
  propertyKinds : Option (List String) := none
  keywords : Option (List String) := none
  confidence : Option Float := none
  successes : Option Nat := none
  failures : Option Nat := none

def TemplateFields.all : List (Field Place (Except Fault) TemplateFields) := [
  .of "id" (·.id) (fun v s => { s with id := v }) text,
  .of "name" (·.name) (fun v s => { s with name := v }) text,
  .of "category" (·.category) (fun v s => { s with category := v }) text,
  .of "description" (·.description) (fun v s => { s with description := v }) text,
  .of "propertyTypes" (·.propertyKinds) (fun v s => { s with propertyKinds := v }) (listOf text),
  .of "keywords" (·.keywords) (fun v s => { s with keywords := v }) (listOf text),
  .of "confidence" (·.confidence) (fun v s => { s with confidence := v }) Place.real,
  .of "successCount" (·.successes) (fun v s => { s with successes := v })
    (Place.below counterLimit),
  .of "failureCount" (·.failures) (fun v s => { s with failures := v })
    (Place.below counterLimit)]

def TemplateFields.finish (s : TemplateFields) : Option WidgetTemplate := do
  return {
    id := ← s.id
    name := ← s.name
    category := s.category.getD ""
    description := s.description.getD ""
    propertyKinds := s.propertyKinds.getD []
    keywords := s.keywords.getD []
    confidence := ← s.confidence
    successCount := (s.successes.getD 0).toUInt32
    failureCount := (s.failures.getD 0).toUInt32 }

def WidgetTemplate.read : Place → Except Fault WidgetTemplate :=
  recordOf TemplateFields.all {} TemplateFields.finish

def WidgetTemplate.toJson (t : WidgetTemplate) : Value :=
  .record [("id", .text t.id), ("name", .text t.name), ("category", .text t.category),
    ("description", .text t.description), ("propertyTypes", Value.ofTexts t.propertyKinds),
    ("keywords", Value.ofTexts t.keywords), ("confidence", .ofFloat t.confidence),
    ("successCount", .ofNat t.successes), ("failureCount", .ofNat t.failures)]

structure NoteFields where
  name : Option String := none
  source : Option String := none
  usage : Option String := none
  notes : Option (List String) := none

def NoteFields.all : List (Field Place (Except Fault) NoteFields) := [
  .of "name" (·.name) (fun v s => { s with name := v }) text,
  .of "module" (·.source) (fun v s => { s with source := v }) text,
  .of "usage" (·.usage) (fun v s => { s with usage := v }) text,
  .of "notes" (·.notes) (fun v s => { s with notes := v }) (listOf text)]

def ApiNote.read : Place → Except Fault ApiNote :=
  recordOf NoteFields.all {} fun s => do
    return ⟨← s.name, s.source.getD "", s.usage.getD "", s.notes.getD []⟩

def ApiNote.toJson (n : ApiNote) : Value :=
  .record [("name", .text n.name), ("module", .text n.source), ("usage", .text n.usage),
    ("notes", Value.ofTexts n.notes)]

structure PracticeFields where
  id : Option String := none
  title : Option String := none
  description : Option String := none
  category : Option String := none

def PracticeFields.all : List (Field Place (Except Fault) PracticeFields) := [
  .of "id" (·.id) (fun v s => { s with id := v }) text,
  .of "title" (·.title) (fun v s => { s with title := v }) text,
  .of "description" (·.description) (fun v s => { s with description := v }) text,
  .of "category" (·.category) (fun v s => { s with category := v }) text]

def Practice.read : Place → Except Fault Practice :=
  recordOf PracticeFields.all {} fun s => do
    return ⟨← s.id, ← s.title, s.description.getD "", ← s.category⟩

def Practice.toJson (p : Practice) : Value :=
  .record [("id", .text p.id), ("title", .text p.title), ("description", .text p.description),
    ("category", .text p.category)]

end WidgetRepair
