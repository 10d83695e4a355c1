import Mathlib
import WidgetRepair.Package.Typings
import WidgetRepair.Proofs.DeclarationReading
import WidgetRepair.Proofs.WidgetNames

/-! The types that typings use, import and export. Every type they import is used; whether every type they
use can be found depends on the kinds of the properties. -/

namespace WidgetRepair.Typings

def importDeclarations (w : Widget) : List Declaration :=
  [.imported ["CSSProperties"] "react"] ++
    (if usesDecimals w then [.imported ["Big"] "big.js"] else []) ++
    if (platformTypes w).isEmpty then [] else [.imported (platformTypes w) "mendix"]

def interfaceDeclarations (w : Widget) : List Declaration :=
  [.interface (w.componentName ++ "ContainerProps") (standardMembers ++ runMembers w),
    .interface (w.componentName ++ "PreviewProps") (standardPreviewMembers ++ previewMembers w)]

/-- What the typings of a widget declare. -/
def declarations (w : Widget) : List Declaration :=
  importDeclarations w ++ (aliases w).map .alias ++ interfaceDeclarations w

theorem imports_lines (w : Widget) : imports w = String.join ((importDeclarations w).map Declaration.text) := by
  unfold imports importDeclarations
  apply String.toList_inj.mp
  split <;> split <;> simp [imported_text, String.toList_intercalate]

theorem alias_lines (a : Alias) : "\n" ++ a.lines = (Declaration.alias a).text ++ "\n" := by
  rw [alias_text]
  unfold Alias.lines
  apply String.toList_inj.mp
  simp only [String.toList_append, String.reduceToList, List.append_assoc, List.cons_append, List.nil_append]

theorem aliases_lines (aliases : List Alias) : "\n" ++ String.join (aliases.map Alias.lines) =
    String.join ((aliases.map Declaration.alias).map Declaration.text) ++ "\n" := by
  induction aliases with
  | nil => simp
  | cons a aliases ih =>
    rw [List.map_cons, List.map_cons, List.map_cons, String.join_cons, String.join_cons, ← String.append_assoc,
      alias_lines, String.append_assoc, ih, String.append_assoc]

theorem interfaces_lines (w : Widget) :
    "\n" ++ (interface (w.componentName ++ "ContainerProps") (standardMembers ++ runMembers w) ++ "\n" ++
        interface (w.componentName ++ "PreviewProps") (standardPreviewMembers ++ previewMembers w)) =
      String.join ((interfaceDeclarations w).map Declaration.text) := by
  rw [interfaceDeclarations, List.map_cons, List.map_cons, List.map_nil, String.join_cons, String.join_cons,
    interface_text, interface_text]
  unfold Typings.interface
  apply String.toList_inj.mp
  simp

/-- The typings are their declarations, printed behind the comment they begin with. -/
theorem render_eq (w : Widget) :
    render w = header w.componentName ++ String.join ((declarations w).map Declaration.text) := by
  have middle := aliases_lines (aliases w)
  calc render w
    _ = header w.componentName ++ (imports w ++ (("\n" ++ String.join ((aliases w).map Alias.lines)) ++
          (interface (w.componentName ++ "ContainerProps") (standardMembers ++ runMembers w) ++ "\n" ++
            interface (w.componentName ++ "PreviewProps") (standardPreviewMembers ++ previewMembers w)))) := by
      unfold render header
      simp only [String.append_assoc]
    _ = header w.componentName ++ String.join ((declarations w).map Declaration.text) := by
      rw [middle, String.append_assoc, interfaces_lines, imports_lines, ← String.join_append, ← String.join_append,
        ← List.map_append, ← List.map_append, declarations, List.append_assoc]

/-- A widget whose texts can stand where the typings put them: identifiers for its properties and events,
and plain texts for the options. -/
structure Spelled (w : Widget) : Prop where
  keys : ∀ p ∈ w.properties, IsWord p.key
  events : ∀ e ∈ w.events, IsWord e.name
  options : ∀ p ∈ w.properties, p.kind = .enumeration → ∀ o ∈ p.options, Unquoted o.key

theorem isWord_append {s t : String} (first : ∀ c ∈ s.toList, inWord c = true) (second : IsWord t) :
    IsWord (s ++ t) := by
  refine ⟨fun none => second.filled (String.append_eq_empty_iff.mp none).2, fun c member => ?_⟩
  rw [String.toList_append, List.mem_append] at member
  exact member.elim (first c) (second.legal c)

theorem inWord_toUpper {c : Char} (char : inWord c = true) : inWord c.toUpper = true := by
  by_cases lower : c.isLower
  · have letter : c.isAlpha = true := by simp [Char.isAlpha, lower]
    simp [inWord, Char.isAlphanum, letter]
  · rwa [Char.toUpper_eq_of_not_isLower lower]

theorem componentName_legal (w : Widget) : ∀ c ∈ w.componentName.toList, inWord c = true := by
  intro c member
  have char := Widget.componentName_chars member
  rw [isNameChar] at char
  simp [inWord, char]

theorem capitalized_legal {s : String} (legal : ∀ c ∈ s.toList, inWord c = true) :
    ∀ c ∈ (capitalized s).toList, inWord c = true := by
  unfold capitalized
  split
  next => simp
  next c rest chars =>
    rw [chars] at legal
    obtain ⟨first, others⟩ := List.forall_mem_cons.mp legal
    rw [String.toList_ofList]
    exact List.forall_mem_cons.mpr ⟨inWord_toUpper first, others⟩

theorem optionsType_word {p : Property} (named : IsWord p.key) : IsWord (optionsType p) :=
  isWord_append (capitalized_legal named.legal) (by simp [isWord_iff, inWord])

/-- The types that need no import. -/
def builtins : List String := ["string", "number", "boolean", "unknown", "any", "null"]

/-- Whether what the type of a property names can be found. -/
def Supplied (p : Property) : Prop := (p.kind = .widgets → p.source ≠ none) ∧ p.kind ≠ .image ∧ p.kind ≠ .icon

/-- The types that are used without being imported. -/
def unsupplied : List String := ["ReactNode", "WebImage", "WebIcon"]

theorem runType_names {p : Property} (supplied : Supplied p) : ∀ n ∈ (runType p).names,
    n ∈ builtins ∨ platformType? p = some n ∨ (p.kind = .decimal ∧ n = "Big") ∨
      (p.kind = .enumeration ∧ n = optionsType p) := by
  obtain ⟨widgets, image, icon⟩ := supplied
  cases source : p.source <;> cases kind : p.kind <;>
    simp_all [runType, PropType.names, platformType?, PropType.head?, platformNames, builtins]

theorem runType_unsupplied {p : Property} (missing : ¬ Supplied p) : ∃ n ∈ (runType p).names, n ∈ unsupplied := by
  simp only [Supplied, not_and_or, Classical.not_imp, not_not] at missing
  obtain ⟨kind, source⟩ | kind | kind := missing
  · simp [runType, PropType.names, unsupplied, kind, source]
  · simp [runType, PropType.names, unsupplied, kind]
  · simp [runType, PropType.names, unsupplied, kind]

theorem platformType?_used {p : Property} {n : String} (needed : platformType? p = some n) :
    n ∈ (runType p).names ∧ n ∈ platformNames := by
  obtain ⟨front, known⟩ := Option.filter_eq_some_iff.mp needed
  refine ⟨?_, by simpa using known⟩
  cases type : runType p <;> simp_all [PropType.head?, PropType.names]

theorem previewType_names (p : Property) : ∀ n ∈ (previewType p).names, n ∈ builtins := by
  unfold previewType
  cases p.kind <;> simp [PropType.names, builtins]

namespace Declaration

def imports : Declaration → List String
  | imported names _ => names
  | _ => []

def exports : Declaration → List String
  | .alias a => [a.name]
  | interface name _ => [name]
  | _ => []

/-- The types that a declaration names. The options of an alias are none; without any it is a `string`. -/
def uses : Declaration → List String
  | .alias a => if a.keys.isEmpty then ["string"] else []
  | interface _ members => members.flatMap fun m => m.type.names
  | _ => []

end Declaration

/-- Every type that is used is built in, imported or exported. -/
def Closed (ds : List Declaration) : Prop :=
  ∀ n ∈ ds.flatMap Declaration.uses,
    n ∈ builtins ∨ n ∈ ds.flatMap Declaration.imports ∨ n ∈ ds.flatMap Declaration.exports

section Lists

variable {w : Widget} {n : String}

theorem mem_platformTypes : n ∈ platformTypes w ↔
    (∃ p ∈ w.properties, platformType? p = some n) ∨ (w.events ≠ [] ∧ n = "ActionValue") := by
  rw [platformTypes, List.mem_mergeSort, List.mem_eraseDups, List.mem_append, List.mem_filterMap,
    List.map_const', List.mem_replicate, Ne, List.length_eq_zero_iff]

theorem mem_imports : n ∈ (declarations w).flatMap Declaration.imports ↔
    n = "CSSProperties" ∨ (usesDecimals w = true ∧ n = "Big") ∨ n ∈ platformTypes w := by
  have aliases : ((aliases w).map Declaration.alias).flatMap Declaration.imports = [] := by
    simp [Declaration.imports, List.flatMap_map]
  have interfaces : (interfaceDeclarations w).flatMap Declaration.imports = [] := rfl
  rw [declarations, List.flatMap_append, List.flatMap_append, aliases, interfaces, importDeclarations]
  split <;> split <;> simp_all [Declaration.imports]

/-- The typings export the types of the options and the two interfaces. -/
theorem exports_eq (w : Widget) : (declarations w).flatMap Declaration.exports =
    (w.properties.filter (·.kind == .enumeration)).map optionsType ++
      [w.componentName ++ "ContainerProps", w.componentName ++ "PreviewProps"] := by
  have imports : (importDeclarations w).flatMap Declaration.exports = [] := by
    rw [importDeclarations]
    split <;> split <;> rfl
  have interfaces : (interfaceDeclarations w).flatMap Declaration.exports =
    [w.componentName ++ "ContainerProps", w.componentName ++ "PreviewProps"] := rfl
  have named : ((aliases w).map Declaration.alias).flatMap Declaration.exports =
      (w.properties.filter (·.kind == .enumeration)).map optionsType := by
    rw [List.flatMap_map, aliases, List.flatMap_map]
    exact List.flatMap_pure_eq_map _ _
  rw [declarations, List.flatMap_append, List.flatMap_append, imports, interfaces, named, List.nil_append]

theorem mem_exports : n ∈ (declarations w).flatMap Declaration.exports ↔
    (∃ p ∈ w.properties, p.kind = .enumeration ∧ optionsType p = n) ∨
      n = w.componentName ++ "ContainerProps" ∨ n = w.componentName ++ "PreviewProps" := by
  rw [exports_eq, List.mem_append, List.mem_map]
  simp only [List.mem_filter, beq_iff_eq, List.mem_cons, List.not_mem_nil, or_false, and_assoc]

theorem uses_of_member {m : Member} (member : m ∈ standardMembers ++ runMembers w) (named : n ∈ m.type.names) :
    n ∈ (declarations w).flatMap Declaration.uses := by
  have declared : .interface (w.componentName ++ "ContainerProps") (standardMembers ++ runMembers w) ∈ declarations w :=
    List.mem_append_right _ List.mem_cons_self
  exact List.mem_flatMap.mpr ⟨_, declared, List.mem_flatMap.mpr ⟨m, member, named⟩⟩

theorem uses_of_property {p : Property} (member : p ∈ w.properties) (named : n ∈ (runType p).names) :
    n ∈ (declarations w).flatMap Declaration.uses := by
  have own := List.mem_map_of_mem (f := fun p => Member.mk p.key (!(p.required || alwaysPresent p.kind)) (runType p)) member
  exact uses_of_member (List.mem_append_right _ (List.mem_append_left _ own)) named

theorem uses_of_event (raised : w.events ≠ []) : "ActionValue" ∈ (declarations w).flatMap Declaration.uses := by
  obtain ⟨e, member⟩ := List.exists_mem_of_ne_nil _ raised
  have own := List.mem_map_of_mem (f := fun e : WidgetEvent => Member.mk e.name true (.name "ActionValue")) member
  exact uses_of_member (List.mem_append_right _ (List.mem_append_right _ own)) List.mem_cons_self

theorem importDeclarations_uses (w : Widget) : ∀ d ∈ importDeclarations w, d.uses = [] := by
  simp only [importDeclarations, List.forall_mem_append]
  refine ⟨⟨?react, ?decimals⟩, ?platform⟩
  case react => simp [Declaration.uses]
  case decimals => split <;> simp [Declaration.uses]
  case platform => split <;> simp [Declaration.uses]

theorem alias_uses (a : Alias) : ∀ n ∈ (Declaration.alias a).uses, n ∈ builtins := by
  rw [Declaration.uses]
  split <;> simp [builtins]

theorem mem_run {m : Member} (member : m ∈ standardMembers ++ runMembers w) (named : n ∈ m.type.names) :
    n ∈ builtins ∨ n = "CSSProperties" ∨ (∃ p ∈ w.properties, n ∈ (runType p).names) ∨
      (w.events ≠ [] ∧ n = "ActionValue") := by
  simp only [runMembers, List.mem_append, List.mem_map] at member
  obtain standard | ⟨p, member, rfl⟩ | ⟨e, member, rfl⟩ := member
  · simp only [standardMembers, List.mem_cons, List.not_mem_nil, or_false] at standard
    obtain rfl | rfl | rfl | rfl := standard <;> simp_all [PropType.names, builtins]
  · exact .inr (.inr (.inl ⟨p, member, named⟩))
  · exact .inr (.inr (.inr ⟨List.ne_nil_of_mem member, List.mem_singleton.mp named⟩))

theorem mem_preview {m : Member} (member : m ∈ standardPreviewMembers ++ previewMembers w)
    (named : n ∈ m.type.names) : n ∈ builtins := by
  simp only [standardPreviewMembers, previewMembers, List.mem_append, List.mem_map, List.mem_singleton] at member
  obtain rfl | ⟨p, -, rfl⟩ | ⟨e, -, rfl⟩ := member
  · simp_all [PropType.names, builtins]
  · exact previewType_names p n named
  · simp_all [PropType.names, builtins]

/-- What is used is built in or a type of a running widget's members. -/
theorem mem_of_uses (used : n ∈ (declarations w).flatMap Declaration.uses) :
    n ∈ builtins ∨ n = "CSSProperties" ∨ (∃ p ∈ w.properties, n ∈ (runType p).names) ∨
      (w.events ≠ [] ∧ n = "ActionValue") := by
  obtain ⟨d, member, own⟩ := List.mem_flatMap.mp used
  simp only [declarations, interfaceDeclarations, List.mem_append, List.mem_cons, List.not_mem_nil, or_false] at member
  obtain (importing | exporting) | rfl | rfl := member
  · rw [importDeclarations_uses w d importing] at own
    cases own
  · obtain ⟨a, -, rfl⟩ := List.mem_map.mp exporting
    exact .inl (alias_uses a n own)
  · obtain ⟨m, member, named⟩ := List.mem_flatMap.mp own
    exact mem_run member named
  · obtain ⟨m, member, named⟩ := List.mem_flatMap.mp own
    exact .inl (mem_preview member named)

theorem imports_used (imported : n ∈ (declarations w).flatMap Declaration.imports) :
    n ∈ (declarations w).flatMap Declaration.uses := by
  obtain rfl | ⟨decimals, rfl⟩ | platform := mem_imports.mp imported
  · have style : ⟨"style", true, .name "CSSProperties"⟩ ∈ standardMembers ++ runMembers w := by
      simp [standardMembers]
    exact uses_of_member style List.mem_cons_self
  · obtain ⟨p, member, kind⟩ := List.any_eq_true.mp decimals
    exact uses_of_property member (by simp_all [runType, PropType.names])
  · obtain ⟨p, member, needed⟩ | ⟨raised, rfl⟩ := mem_platformTypes.mp platform
    · exact uses_of_property member (platformType?_used needed).1
    · exact uses_of_event raised

theorem unsupplied_not_builtin (missing : n ∈ unsupplied) : n ∉ builtins := by
  simp only [unsupplied, List.mem_cons, List.not_mem_nil, or_false] at missing
  obtain rfl | rfl | rfl := missing <;> simp [builtins]

/-- Aliases end with `Enum` and interfaces with `Props`; the types without an import with neither. -/
theorem unsupplied_not_exported (missing : n ∈ unsupplied) : n ∉ (declarations w).flatMap Declaration.exports := by
  intro exported
  have last : n.toList.getLast? = some 'm' ∨ n.toList.getLast? = some 's' := by
    obtain ⟨p, -, -, rfl⟩ | rfl | rfl := mem_exports.mp exported
    · simp [optionsType]
    · simp
    · simp
  simp only [unsupplied, List.mem_cons, List.not_mem_nil, or_false] at missing
  obtain rfl | rfl | rfl := missing <;> simp at last

theorem unsupplied_not_imported (missing : n ∈ unsupplied) : n ∉ (declarations w).flatMap Declaration.imports := by
  intro imported
  obtain rfl | ⟨-, rfl⟩ | platform := mem_imports.mp imported
  · simp [unsupplied] at missing
  · simp [unsupplied] at missing
  · obtain ⟨p, -, needed⟩ | ⟨-, rfl⟩ := mem_platformTypes.mp platform
    · have known := (platformType?_used needed).2
      simp only [unsupplied, List.mem_cons, List.not_mem_nil, or_false] at missing
      obtain rfl | rfl | rfl := missing <;> simp [platformNames] at known
    · simp [unsupplied] at missing

/-- All that is used comes from a property or an event, and an unsupplied property names a type that no import and no
export can supply. -/
theorem closed_iff : Closed (declarations w) ↔ ∀ p ∈ w.properties, Supplied p := by
  constructor
  · intro closed p member
    by_contra missing
    obtain ⟨n, named, unsupplied⟩ := runType_unsupplied missing
    obtain known | imported | exported := closed n (uses_of_property member named)
    · exact unsupplied_not_builtin unsupplied known
    · exact unsupplied_not_imported unsupplied imported
    · exact unsupplied_not_exported unsupplied exported
  · intro supplied n used
    obtain known | rfl | ⟨p, member, named⟩ | ⟨raised, rfl⟩ := mem_of_uses used
    · exact .inl known
    · exact .inr (.inl (mem_imports.mpr (.inl rfl)))
    · obtain known | needed | ⟨kind, rfl⟩ | ⟨kind, rfl⟩ := runType_names (supplied p member) n named
      · exact .inl known
      · exact .inr (.inl (mem_imports.mpr (.inr (.inr (mem_platformTypes.mpr (.inl ⟨p, member, needed⟩))))))
      · have decimals : usesDecimals w = true := List.any_eq_true.mpr ⟨p, member, by simp [kind]⟩
        exact .inr (.inl (mem_imports.mpr (.inr (.inl ⟨decimals, rfl⟩))))
      · exact .inr (.inr (mem_exports.mpr (.inl ⟨p, member, kind, rfl⟩)))
    · exact .inr (.inl (mem_imports.mpr (.inr (.inr (mem_platformTypes.mpr (.inr ⟨raised, rfl⟩))))))

end Lists

/-- The names that do not come from a widget are identifiers. -/
theorem known_words : ∀ n ∈ builtins ++ platformNames ++ unsupplied ++ ["Big"], IsWord n := by
  simp [builtins, platformNames, unsupplied, isWord_iff, inWord]

theorem runType_spelled {p : Property} (named : IsWord p.key) : (runType p).Spelled := by
  have own := optionsType_word named
  have known := known_words
  simp only [builtins, platformNames, unsupplied, List.cons_append, List.nil_append, List.forall_mem_cons] at known
  cases source : p.source <;> cases kind : p.kind <;> simp [runType, PropType.Spelled, source, kind, own, known]

theorem previewType_spelled (p : Property) : (previewType p).Spelled := by
  have known := known_words
  simp only [builtins, platformNames, unsupplied, List.cons_append, List.nil_append, List.forall_mem_cons] at known
  have fields : IsWord "widgetCount" ∧ IsWord "renderer" ∧ IsWord "type" := by simp [isWord_iff, inWord]
  unfold previewType
  cases p.kind <;> simp [PropType.Spelled, known, fields]

theorem platformTypes_word {w : Widget} : ∀ n ∈ platformTypes w, IsWord n := by
  have known : ∀ n ∈ platformNames, IsWord n := fun n member =>
    known_words n (List.mem_append_left _ (List.mem_append_left _ (List.mem_append_right _ member)))
  intro n member
  obtain ⟨p, -, needed⟩ | ⟨-, rfl⟩ := mem_platformTypes.mp member
  · exact known n (platformType?_used needed).2
  · exact known _ List.mem_cons_self

theorem importDeclarations_spelled (w : Widget) : ∀ d ∈ importDeclarations w, d.Spelled ∧ d.Filled := by
  simp only [importDeclarations, List.forall_mem_append]
  refine ⟨⟨?react, ?decimals⟩, ?platform⟩
  case react => simp [Declaration.Spelled, Declaration.Filled, isWord_iff, inWord, Unquoted]
  case decimals => split <;> simp [Declaration.Spelled, Declaration.Filled, isWord_iff, inWord, Unquoted]
  case platform =>
    split
    next => exact List.forall_mem_nil _
    next filled =>
      have source : Unquoted "mendix" := by simp [Unquoted]
      exact List.forall_mem_singleton.mpr ⟨⟨platformTypes_word, source⟩, mt List.isEmpty_iff.mpr filled⟩

theorem alias_spelled {w : Widget} (spelled : Spelled w) : ∀ a ∈ aliases w, (Declaration.alias a).Spelled := by
  intro a member
  obtain ⟨p, chosen, rfl⟩ := List.mem_map.mp member
  obtain ⟨member, kind⟩ := List.mem_filter.mp chosen
  have options := spelled.options p member (by simpa using kind)
  exact ⟨optionsType_word (spelled.keys p member), List.forall_mem_map.mpr options⟩

theorem runMembers_spelled {w : Widget} (spelled : Spelled w) :
    ∀ m ∈ standardMembers ++ runMembers w, m.Spelled := by
  have action : IsWord "ActionValue" := known_words _ (by simp [platformNames])
  rw [runMembers, List.forall_mem_append, List.forall_mem_append, List.forall_mem_map, List.forall_mem_map]
  refine ⟨?standard, fun p member => ?property, fun e member => ?event⟩
  case standard => simp [standardMembers, Member.Spelled, PropType.Spelled, isWord_iff, inWord]
  case property => exact ⟨spelled.keys p member, runType_spelled (spelled.keys p member)⟩
  case event => exact ⟨spelled.events e member, action⟩

theorem previewMembers_spelled {w : Widget} (spelled : Spelled w) :
    ∀ m ∈ standardPreviewMembers ++ previewMembers w, m.Spelled := by
  rw [previewMembers, List.forall_mem_append, List.forall_mem_append, List.forall_mem_map, List.forall_mem_map]
  refine ⟨?standard, fun p member => ?property, fun e member => ?event⟩
  case standard => simp [standardPreviewMembers, Member.Spelled, PropType.Spelled, isWord_iff, inWord]
  case property => exact ⟨spelled.keys p member, previewType_spelled p⟩
  case event => exact ⟨spelled.events e member, List.forall_mem_nil _⟩

theorem interfaces_spelled {w : Widget} (spelled : Spelled w) :
    ∀ d ∈ interfaceDeclarations w, d.Spelled ∧ d.Filled := by
  have run : IsWord (w.componentName ++ "ContainerProps") :=
    isWord_append (componentName_legal w) (by simp [isWord_iff, inWord])
  have preview : IsWord (w.componentName ++ "PreviewProps") :=
    isWord_append (componentName_legal w) (by simp [isWord_iff, inWord])
  simp only [interfaceDeclarations, List.forall_mem_cons, List.not_mem_nil, false_implies, implies_true, and_true]
  exact ⟨⟨⟨run, runMembers_spelled spelled⟩, trivial⟩, ⟨preview, previewMembers_spelled spelled⟩, trivial⟩

/-- What a reader finds in the typings of a plainly named widget is what they declare. -/
theorem read_render {w : Widget} (spelled : Spelled w) : Typings.read (render w) = some (declarations w) := by
  have each : ∀ d ∈ declarations w, d.Spelled ∧ d.Filled := by
    rw [declarations, List.forall_mem_append, List.forall_mem_append, List.forall_mem_map]
    exact ⟨⟨importDeclarations_spelled w, fun a member => ⟨alias_spelled spelled a member, trivial⟩⟩,
      interfaces_spelled spelled⟩
  have starless : ∀ c ∈ w.componentName.toList, c ≠ '*' := by
    rintro c member rfl
    cases componentName_legal w _ member
  rw [render_eq]
  exact read_printed starless (fun d member => (each d member).1) fun d member => (each d member).2

/-- Every type that the typings of a widget use is built in, imported or exported, unless a property has
widgets without a source, an image or an icon: their types come without an import. What is imported is used. -/
theorem typings_closed_iff (w : Widget) :
    render w = header w.componentName ++ String.join ((declarations w).map Declaration.text) ∧
      (Spelled w → Typings.read (render w) = some (declarations w)) ∧
      (Closed (declarations w) ↔ ∀ p ∈ w.properties, Supplied p) ∧
      ∀ n ∈ (declarations w).flatMap Declaration.imports, n ∈ (declarations w).flatMap Declaration.uses :=
  ⟨render_eq w, read_render, closed_iff, fun _ => imports_used⟩

/-- A widget around others. -/
def frame (source : Option String) : Widget where
  name := "Frame"
  properties := [
    ⟨"items", .datasource, "", "", true, none, [], [], none⟩,
    ⟨"content", .widgets, "", "", false, none, [], [], source⟩]

theorem frame_spelled (source : Option String) : Spelled (frame source) where
  keys := by simp [frame, isWord_iff, inWord]
  events := by simp [frame]
  options := by simp [frame]

theorem sourced_frame_closed : Spelled (frame (some "items")) ∧
    Typings.read (render (frame (some "items"))) = some (declarations (frame (some "items"))) ∧
    Closed (declarations (frame (some "items"))) := by
  have spelled := frame_spelled (some "items")
  obtain ⟨-, read, closed, -⟩ := typings_closed_iff (frame (some "items"))
  exact ⟨spelled, read spelled, closed.mpr (by simp [frame, Supplied])⟩

/-- Around widgets of its own it uses a type that it does not import. -/
theorem frame_unclosed : (frame none).runnable = true ∧
    ∃ declared, Typings.read (render (frame none)) = some declared ∧ ¬ Closed declared := by
  refine ⟨by decide, declarations (frame none), read_render (frame_spelled none), fun closed => ?_⟩
  have supplied := closed_iff.mp closed
  simp [frame, Supplied] at supplied

end WidgetRepair.Typings
