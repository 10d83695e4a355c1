import WidgetRepair.Proofs.TextParts
import WidgetRepair.Widget.Basic

/-! The names that are made of a widget's name: those of its package and of its component. Their characters
are letters and digits of the name, in either case. -/

namespace WidgetRepair

theorem isNameChar_cased {c : Char} (char : isNameChar c = true) :
    isNameChar c.toLower = true ∧ isNameChar c.toUpper = true ∧ c.toUpper ≠ 'p' :=
  Text.of_ascii (P := fun c => isNameChar c = true → isNameChar c.toLower = true ∧ isNameChar c.toUpper = true ∧
    c.toUpper ≠ 'p') (by decide +kernel) (Text.ascii_of_isAlphanum char) char

theorem toLower_toUpper {c : Char} (char : isNameChar c = true) : c.toUpper.toLower = c.toLower :=
  Text.of_ascii (P := fun c => c.toUpper.toLower = c.toLower) (by decide +kernel) (Text.ascii_of_isAlphanum char)

namespace Widget

theorem packageName_chars {w : Widget} {c : Char} (member : c ∈ w.packageName.toList) : isNameChar c = true := by
  rw [packageName, String.toList_ofList] at member
  obtain ⟨d, kept, rfl⟩ := List.mem_map.mp member
  exact (isNameChar_cased (List.mem_filter.mp kept).2).1

theorem packageName_relative (w : Widget) : w.packageName.toList.head? ≠ some '/' := by
  intro slash
  cases packageName_chars (List.mem_of_mem_head? slash)

theorem capitalizeRuns_chars {inside : Bool} {name : List Char} {c : Char} (member : c ∈ capitalizeRuns inside name) :
    isNameChar c = true := by
  induction name generalizing inside with
  | nil => cases member
  | cons d rest ih =>
    rw [capitalizeRuns] at member
    split at member
    next char =>
      obtain rfl | later := List.mem_cons.mp member
      · split
        next => exact char
        next => exact (isNameChar_cased char).2.1
      · exact ih later
    next => exact ih member

theorem componentName_chars {w : Widget} {c : Char} (member : c ∈ w.componentName.toList) : isNameChar c = true := by
  rw [componentName, String.toList_ofList] at member
  exact capitalizeRuns_chars member

theorem componentName_slashless (w : Widget) : ∀ c ∈ w.componentName.toList, (c == '/') = false := by
  intro c member
  rw [beq_eq_false_iff_ne]
  rintro rfl
  cases componentName_chars member

theorem capitalizeRuns_head (name : List Char) : (capitalizeRuns false name).head? ≠ some 'p' := by
  induction name with
  | nil => nofun
  | cons c rest ih =>
    rw [capitalizeRuns]
    split
    next char => simpa using (isNameChar_cased char).2.2
    next => exact ih

theorem componentName_ne_package (w : Widget) : w.componentName ≠ "package" := by
  intro same
  have head := capitalizeRuns_head w.name.toList
  have chars : capitalizeRuns false w.name.toList = "package".toList := by
    rw [← same, componentName, String.toList_ofList]
  rw [chars] at head
  exact head rfl

end Widget

end WidgetRepair
