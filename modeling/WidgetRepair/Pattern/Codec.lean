import WidgetRepair.Pattern.Basic

/-! Patterns as records of a document. -/

namespace WidgetRepair

open Source Json

structure PatternFields where
  id : Option String := none
  errorPattern : Option String := none
  keywords : Option (List String) := none
  fix : Option FixAction := none
  description : Option String := none
  confidence : Option Float := none
  successes : Option Nat := none
  failures : Option Nat := none
  lastUsed : Option (Option Timestamp) := none
  provenance : Option Provenance := none

def PatternFields.all : List (Field Place (Except Fault) PatternFields) := [
  .of "id" (·.id) (fun v s => { s with id := v }) text,
  .of "errorPattern" (·.errorPattern) (fun v s => { s with errorPattern := v }) text,
  .of "keywords" (·.keywords) (fun v s => { s with keywords := v }) (listOf text),
  .of "fix" (·.fix) (fun v s => { s with fix := v }) FixAction.read,
  .of "description" (·.description) (fun v s => { s with description := v }) text,
  .of "confidence" (·.confidence) (fun v s => { s with confidence := v }) Place.real,
  .of "successCount" (·.successes) (fun v s => { s with successes := v })
    (Place.below counterLimit),
  .of "failureCount" (·.failures) (fun v s => { s with failures := v })
    (Place.below counterLimit),
  .of "lastUsed" (·.lastUsed) (fun v s => { s with lastUsed := v })
    (option (parsed Timestamp.ofText?)),
  .of "provenance" (·.provenance) (fun v s => { s with provenance := v })
    (choice Provenance.ofName?)]

def PatternFields.finish (s : PatternFields) : Option FixPattern := do
  return {
    id := ← s.id
    errorPattern := ← s.errorPattern
    keywords := s.keywords.getD []
    fix := ← s.fix
    description := s.description.getD ""
    confidence := ← s.confidence
    successCount := (s.successes.getD 0).toUInt32
    failureCount := (s.failures.getD 0).toUInt32
    lastUsed := s.lastUsed.getD none
    provenance := ← s.provenance }

def FixPattern.read : Place → Except Fault FixPattern :=
  recordOf PatternFields.all {} PatternFields.finish

def Timestamp.toJson (t : Timestamp) : Value := .text t.toText

def FixPattern.toJson (p : FixPattern) : Value :=
  .record ([("id", .text p.id), ("errorPattern", .text p.errorPattern),
      ("keywords", Value.ofTexts p.keywords), ("fix", p.fix.toJson),
      ("description", .text p.description), ("confidence", .ofFloat p.confidence),
      ("successCount", .ofNat p.successes), ("failureCount", .ofNat p.failures)] ++
    Value.fieldOf "lastUsed" Timestamp.toJson p.lastUsed ++
    [("provenance", .text p.provenance.name)])

end WidgetRepair
