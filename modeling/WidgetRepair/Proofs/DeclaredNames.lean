import WidgetRepair.Proofs.DeclaredTypes
import WidgetRepair.Proofs.WellFormedWidgets

/-! The names that typings declare. A description without flaws has no key and no event name twice. In its
typings they still meet the members that every widget has, and the types of the options are named by keys
whose first letter is made capital. -/

namespace WidgetRepair

namespace Widget

/-- What the properties and the events of a widget are known by. -/
def ownNames (w : Widget) : List String := w.properties.map (·.key) ++ w.events.map (·.name)

theorem ownNames_nodup {w : Widget} (valid : w.check.valid = true) : w.ownNames.Nodup := by
  have wellFormed := check_flawless.mp (valid_iff.mp valid)
  refine List.nodup_append'.mpr ⟨wellFormed.distinctKeys, wellFormed.distinctEvents, fun n key name => ?_⟩
  obtain ⟨p, property, rfl⟩ := List.mem_map.mp key
  obtain ⟨e, event, same⟩ := List.mem_map.mp name
  exact wellFormed.apart e event p property same

end Widget

namespace Typings

/-- No name is exported twice, and no interface has two members of one name. -/
def Clashless (ds : List Declaration) : Prop :=
  (ds.flatMap Declaration.exports).Nodup ∧
    ∀ name members, .interface name members ∈ ds → (members.map (·.name)).Nodup

/-- A widget whose own names are apart from those of the typings, and its enumerations from each other in
more than the case of a first letter. -/
structure Distinguished (w : Widget) : Prop where
  members : ∀ n ∈ w.ownNames, n ∉ (standardMembers ++ standardPreviewMembers).map (·.name)
  options : ∀ p ∈ w.properties, ∀ q ∈ w.properties, p.kind = .enumeration → q.kind = .enumeration →
    capitalized p.key = capitalized q.key → p.key = q.key

section Clashes

variable {w : Widget}

theorem runMembers_names (w : Widget) : (runMembers w).map (·.name) = w.ownNames := by
  simp [runMembers, Widget.ownNames, Function.comp_def]

theorem previewMembers_names (w : Widget) : (previewMembers w).map (·.name) = w.ownNames := by
  simp [previewMembers, Widget.ownNames, Function.comp_def]

theorem mem_interface {name : String} {members : List Member} : .interface name members ∈ declarations w ↔
    (name = w.componentName ++ "ContainerProps" ∧ members = standardMembers ++ runMembers w) ∨
      (name = w.componentName ++ "PreviewProps" ∧ members = standardPreviewMembers ++ previewMembers w) := by
  have importing : .interface name members ∉ importDeclarations w := by
    rw [importDeclarations]
    split <;> split <;> simp
  simp [declarations, interfaceDeclarations, importing]

/-- The types of options end with `Enum` and the interfaces with `Props`. -/
theorem optionsType_ne (p : Property) (component : String) :
    optionsType p ≠ component ++ "ContainerProps" ∧ optionsType p ≠ component ++ "PreviewProps" := by
  constructor <;> intro same <;> simpa [optionsType] using congrArg (·.toList.getLast?) same

theorem exports_nodup_iff (distinct : (w.properties.map (·.key)).Nodup) :
    ((declarations w).flatMap Declaration.exports).Nodup ↔
      ∀ p ∈ w.properties, ∀ q ∈ w.properties, p.kind = .enumeration → q.kind = .enumeration →
        capitalized p.key = capitalized q.key → p.key = q.key := by
  have apart : List.Disjoint ((w.properties.filter (·.kind == .enumeration)).map optionsType)
      [w.componentName ++ "ContainerProps", w.componentName ++ "PreviewProps"] := by
    intro n options interfaces
    obtain ⟨p, -, rfl⟩ := List.mem_map.mp options
    have ⟨run, preview⟩ := optionsType_ne p w.componentName
    simp [run, preview] at interfaces
  have enumerations : (w.properties.filter (·.kind == .enumeration)).Nodup := (List.Nodup.of_map _ distinct).filter _
  rw [exports_eq, List.nodup_append', List.nodup_map_iff_inj_on enumerations]
  constructor
  · rintro ⟨injective, -⟩ p first q second kind kind' same
    have one := injective p (List.mem_filter.mpr ⟨first, by simp [kind]⟩) q
      (List.mem_filter.mpr ⟨second, by simp [kind']⟩) (by rw [optionsType, optionsType, same])
    rw [one]
  · refine fun distinguished => ⟨fun p first q second same => ?_, by simp, apart⟩
    obtain ⟨first, kind⟩ := List.mem_filter.mp first
    obtain ⟨second, kind'⟩ := List.mem_filter.mp second
    have heads : capitalized p.key = capitalized q.key := by simpa [optionsType] using same
    exact List.inj_on_of_nodup_map distinct first second
      (distinguished p first q second (by simpa using kind) (by simpa using kind') heads)

theorem members_nodup_iff (distinct : w.ownNames.Nodup) :
    (∀ name members, .interface name members ∈ declarations w → (members.map (·.name)).Nodup) ↔
      ∀ n ∈ w.ownNames, n ∉ (standardMembers ++ standardPreviewMembers).map (·.name) := by
  have standard : (standardMembers.map (·.name)).Nodup := by decide
  have preview : (standardPreviewMembers.map (·.name)).Nodup := by decide
  simp only [mem_interface, List.map_append, List.mem_append, not_or]
  constructor
  · intro clashless n own
    have run := clashless _ _ (.inl ⟨rfl, rfl⟩)
    have shown := clashless _ _ (.inr ⟨rfl, rfl⟩)
    rw [List.map_append, runMembers_names, List.nodup_append'] at run
    rw [List.map_append, previewMembers_names, List.nodup_append'] at shown
    exact ⟨fun met => run.2.2 met own, fun met => shown.2.2 met own⟩
  · rintro apart name members (⟨-, rfl⟩ | ⟨-, rfl⟩)
    · rw [List.map_append, runMembers_names, List.nodup_append']
      exact ⟨standard, distinct, fun n met own => (apart n own).1 met⟩
    · rw [List.map_append, previewMembers_names, List.nodup_append']
      exact ⟨preview, distinct, fun n met own => (apart n own).2 met⟩

theorem clashless_iff (distinct : w.ownNames.Nodup) : Clashless (declarations w) ↔ Distinguished w := by
  have keys : (w.properties.map (·.key)).Nodup := (List.nodup_append'.mp distinct).1
  rw [Clashless, exports_nodup_iff keys, members_nodup_iff distinct]
  exact ⟨fun ⟨options, members⟩ => ⟨members, options⟩, fun ⟨members, options⟩ => ⟨options, members⟩⟩

end Clashes

/-- The typings of a description without flaws have no name twice, unless a property or an event is called
like a member that is always there, or two enumerations differ in the case of the first letter alone. -/
theorem typings_clashless_iff {w : Widget} (valid : w.check.valid = true) :
    render w = header w.componentName ++ String.join ((declarations w).map Declaration.text) ∧
      (Spelled w → Typings.read (render w) = some (declarations w)) ∧
      (Clashless (declarations w) ↔ Distinguished w) :=
  ⟨render_eq w, read_render, clashless_iff (Widget.ownNames_nodup valid)⟩

/-- An enumeration of two options. -/
def level (key : String) : Property where
  key := key
  kind := .enumeration
  options := [⟨"low", "Low"⟩, ⟨"high", "High"⟩]

def gauge (keys : List String) : Widget where
  name := "Gauge"
  description := "Shows a value"
  properties := keys.map level

theorem gauge_spelled {keys : List String} (words : ∀ key ∈ keys, IsWord key) : Spelled (gauge keys) where
  keys := by simpa [gauge, level] using words
  events := by simp [gauge]
  options := by simp [gauge, level, Unquoted]

theorem gauge_clashless : (gauge ["size", "level"]).check.valid = true ∧ Spelled (gauge ["size", "level"]) ∧
    Typings.read (render (gauge ["size", "level"])) = some (declarations (gauge ["size", "level"])) ∧
    Clashless (declarations (gauge ["size", "level"])) := by
  have valid : (gauge ["size", "level"]).check.valid = true := by decide
  have spelled : Spelled (gauge ["size", "level"]) := gauge_spelled (by simp [isWord_iff, inWord])
  obtain ⟨-, read, clashless⟩ := typings_clashless_iff valid
  refine ⟨valid, spelled, read spelled, clashless.mpr ⟨by decide, ?_⟩⟩
  decide

theorem gauge_clashing {keys : List String} (words : ∀ key ∈ keys, IsWord key) (valid : (gauge keys).check.valid = true)
    (met : ¬ Distinguished (gauge keys)) :
    ∃ declared, Typings.read (render (gauge keys)) = some declared ∧ ¬ Clashless declared :=
  ⟨_, read_render (gauge_spelled words), mt (clashless_iff (Widget.ownNames_nodup valid)).mp met⟩

/-- A check looks neither for the members that are always there nor for the types of other options. -/
theorem gauge_clashes :
    ((gauge ["name"]).check.valid = true ∧
      ∃ declared, Typings.read (render (gauge ["name"])) = some declared ∧ ¬ Clashless declared) ∧
    (gauge ["size", "Size"]).check.valid = true ∧
      ∃ declared, Typings.read (render (gauge ["size", "Size"])) = some declared ∧ ¬ Clashless declared := by
  have named : (gauge ["name"]).check.valid = true := by decide
  have sized : (gauge ["size", "Size"]).check.valid = true := by decide
  refine ⟨⟨named, gauge_clashing (by simp [isWord_iff, inWord]) named fun distinguished => ?_⟩,
    sized, gauge_clashing (by simp [isWord_iff, inWord]) sized fun distinguished => ?_⟩
  · exact absurd distinguished.members (by decide)
  · exact absurd distinguished.options (by decide)

end Typings

end WidgetRepair
