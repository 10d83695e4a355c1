import WidgetRepair.Proofs.ObjectScan

/-! Plans of edits read back from an answer. A plan that is written as JSON is found in any prose
that opens no brace in front of it, and comes back as it was. -/

namespace WidgetRepair

open Source Json

variable {room : Nat}

theorem EditKind.ofName?_name (kind : EditKind) : EditKind.ofName? kind.name = some kind := by
  cases kind <;> rfl

theorem PlannedEdit.read_toJson (inside : 1 < room) (e : PlannedEdit) :
    PlannedEdit.read ⟨room, e.toJson.draft⟩ = .ok e := by
  obtain ⟨file, kind, search, replacement, content⟩ := e
  have named : choice EditKind.ofName? (⟨room - 1, (Value.text kind.name).draft⟩ : Place) = .ok kind :=
    choice_draft kind.ofName?_name
  refine recordOf_draft inside
    ⟨some file, some kind, search.map some, replacement.map some, content.map some⟩ ?_ ?_
  · cases search <;> cases replacement <;> cases content <;>
      simp [namedFields, EditFields.all, Field.of, bind, Except.bind, pure, Except.pure, Value.fieldOf,
        named, option_text_draft]
  · cases search <;> cases replacement <;> cases content <;> rfl

theorem PlannedEdit.legible (e : PlannedEdit) : e.toJson.Legible := by
  obtain ⟨file, kind, search, replacement, content⟩ := e
  cases search <;> cases replacement <;> cases content <;>
    simp [PlannedEdit.toJson, Value.Legible, Value.fieldOf]

namespace EditPlan

theorem read_toJson (inside : 3 < room) (p : EditPlan) : EditPlan.read ⟨room, p.toJson.draft⟩ = .ok p := by
  have edits : listOf PlannedEdit.read ⟨room - 1, (Value.list (p.edits.map PlannedEdit.toJson)).draft⟩ =
      .ok (p.edits.map id) :=
    listOf_draft (by omega) p.edits _ _ fun e _ => e.read_toJson (by omega)
  rw [List.map_id] at edits
  refine recordOf_draft (by omega) ⟨some p.analysis, some p.edits, some p.description⟩ ?_ rfl
  simp [namedFields, Fields.all, Field.of, bind, Except.bind, pure, Except.pure, edits]

theorem legible (p : EditPlan) : p.toJson.Legible := by
  have edits : ∀ e ∈ p.edits, e.toJson.Legible := fun e _ => e.legible
  simpa [EditPlan.toJson, Value.Legible] using edits

/-- A plan with edits is read from any text in which its own is the first object. -/
theorem parse_found {p : EditPlan} (edits : p.edits ≠ []) {answer : String} (o : Layout)
    (found : firstObject? answer.toList = some (p.toJson.laid o 0)) : EditPlan.parse answer = .ok p := by
  have decoded : Json.decode EditPlan.read (String.ofList (p.toJson.laid o 0)) = .ok p :=
    (decode_laid EditPlan.read o 0 p.legible).trans (p.read_toJson (by decide))
  have filled : p.edits.isEmpty = false := by simpa using edits
  simp [EditPlan.parse, found, decoded, filled, Except.mapError, bind, Except.bind]
  rfl

theorem parse_laid {p : EditPlan} (edits : p.edits ≠ []) {before : String} (unopened : '\x7b' ∉ before.toList)
    (after : String) (o : Layout) :
    EditPlan.parse (before ++ String.ofList (p.toJson.laid o 0) ++ after) = .ok p := by
  refine parse_found edits o ?_
  have legible := p.legible
  unfold EditPlan.toJson at legible ⊢
  have found := firstObject?_laid (o := o) legible 0 unopened after.toList
  simpa using found

/-- A plan survives the prose around it. Whatever its texts hold, and on one line or over several, it is
read from any answer that holds it behind a text without an opening brace. -/
theorem plan_survives_prose {p : EditPlan} (edits : p.edits ≠ []) {before : String}
    (unopened : '\x7b' ∉ before.toList) (after : String) :
    EditPlan.parse (before ++ p.toJson.render ++ after) = .ok p ∧
      EditPlan.parse (before ++ p.toJson.pretty ++ after) = .ok p := by
  rw [Value.render, compact_eq p.toJson 0, Value.pretty, indented_eq]
  exact ⟨parse_laid edits unopened after .compact, parse_laid edits unopened after .pretty⟩

/-- Braces, quotes and backslashes in a plan, and a second object behind it, do not get in the way. -/
theorem braced_plan_survives_prose :
    let p : EditPlan := {
      analysis := "The \"\x7d\" is one too many"
      edits := [⟨"src/App.tsx", .replace, some "\x7d\x7d\\", some "\x7b\n\x7d", none⟩]
      description := "" }
    let before := "Here is the \"plan\":\n"
    let after := " \x7b\"fixes\":[]\x7d"
    p.edits ≠ [] ∧ '\x7b' ∉ before.toList ∧ EditPlan.parse (before ++ p.toJson.render ++ after) = .ok p ∧
      EditPlan.parse (before ++ p.toJson.pretty ++ after) = .ok p := by
  intro p before after
  have edits : p.edits ≠ [] := by simp [p]
  have unopened : '\x7b' ∉ before.toList := by simp [before]
  exact ⟨edits, unopened, plan_survives_prose edits unopened after⟩

end EditPlan

end WidgetRepair
