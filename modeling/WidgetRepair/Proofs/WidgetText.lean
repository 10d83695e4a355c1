import WidgetRepair.Proofs.JsonDrafts
import WidgetRepair.Repair.Generated
import WidgetRepair.Widget.Document

/-! Descriptions of widgets read back from JSON. What was left out when a description was written is supplied
when it is read, so every description comes back as it was. -/

namespace WidgetRepair

open Source Json

variable {room : Nat}

theorem PropertyKind.ofName?_name (kind : PropertyKind) : PropertyKind.ofName? kind.name = some kind := by
  cases kind <;> rfl

theorem EnumOption.read_toJson (inside : 1 < room) (o : EnumOption) :
    EnumOption.read (⟨room, o.toJson.draft⟩ : Place) = .ok o := by
  refine recordOf_draft inside (some o.key, some o.caption) ?_ rfl
  simp [namedFields, Field.of, bind, Except.bind, pure, Except.pure]

theorem EnumOption.read_options (inside : 2 < room) (options : List EnumOption) :
    listOf EnumOption.read (⟨room, (Value.list (options.map EnumOption.toJson)).draft⟩ : Place) = .ok options := by
  have each := listOf_draft (show 1 < room by omega) options EnumOption.toJson id
    fun o _ => o.read_toJson (show 1 < room - 1 by omega)
  rwa [List.map_id] at each

theorem WidgetEvent.read_toJson (inside : 1 < room) (e : WidgetEvent) :
    WidgetEvent.read (⟨room, e.toJson.draft⟩ : Place) = .ok e := by
  refine recordOf_draft inside ⟨some e.name, some e.caption, some e.description⟩ ?_ rfl
  simp [namedFields, EventFields.all, Field.of, bind, Except.bind, pure, Except.pure]

/-- The items of a list as they are read: a list without items was not written. -/
def writtenItems {α : Type} (items : List α) : Option (List α) := if items.isEmpty then none else some items

theorem writtenItems_getD {α : Type} (items : List α) : (writtenItems items).getD [] = items := by
  cases items <;> rfl

/-- Each of the four fields behind the required ones may be missing. -/
theorem Property.read_toJson (inside : 3 < room) (p : Property) :
    Property.read (⟨room, p.toJson.draft⟩ : Place) = .ok p := by
  obtain ⟨key, kind, caption, description, required, defaultValue, options, attributeKinds, source⟩ := p
  have named : choice PropertyKind.ofName? (⟨room - 1, (Value.text kind.name).draft⟩ : Place) = .ok kind :=
    choice_draft kind.ofName?_name
  have chosen := EnumOption.read_options (show 2 < room - 1 by omega) options
  have kinds := texts_draft (show 1 < room - 1 by omega) attributeKinds
  unfold Value.ofTexts at kinds
  refine recordOf_draft (by omega) ⟨some key, some kind, some caption, some description, some required,
    defaultValue.map some, writtenItems options, writtenItems attributeKinds, source.map some⟩ ?_ ?_
  · cases defaultValue <;> cases withOptions : options.isEmpty <;> cases withKinds : attributeKinds.isEmpty <;>
      cases source <;>
      simp [namedFields, PropertyFields.all, Field.of, bind, Except.bind, pure, Except.pure, Value.fieldOf, listField,
        writtenItems, named, option_text_draft, chosen, kinds, withOptions, withKinds]
  · simp only [PropertyFields.finish, writtenItems_getD]
    cases defaultValue <;> cases source <;> rfl

namespace Widget

theorem read_toJson (inside : 5 < room) (w : Widget) : Widget.read (⟨room, w.toJson.draft⟩ : Place) = .ok w := by
  have properties : listOf Property.read (⟨room - 1, (Value.list (w.properties.map Property.toJson)).draft⟩ : Place) =
      .ok (w.properties.map id) :=
    listOf_draft (by omega) w.properties _ _ fun p _ => p.read_toJson (by omega)
  have events : listOf WidgetEvent.read (⟨room - 1, (Value.list (w.events.map WidgetEvent.toJson)).draft⟩ : Place) =
      .ok (w.events.map id) :=
    listOf_draft (by omega) w.events _ _ fun e _ => e.read_toJson (by omega)
  rw [List.map_id] at properties events
  obtain ⟨name, shownName, description, category, company, properties', events', targetProject⟩ := w
  refine recordOf_draft (by omega) ⟨some name, some shownName, some description, some category, some company,
    some properties', some events', targetProject.map some⟩ ?_ ?_
  · cases targetProject <;>
      simp [namedFields, WidgetFields.all, Field.of, bind, Except.bind, pure, Except.pure, Value.fieldOf,
        properties, events, option_text_draft]
  · cases targetProject <;> rfl

theorem legible (w : Widget) : w.toJson.Legible := by
  have options (o : EnumOption) : o.toJson.Legible := by simp [EnumOption.toJson, Value.Legible]
  have properties (p : Property) : p.toJson.Legible := by
    obtain ⟨key, kind, caption, description, required, defaultValue, chosen, kinds, source⟩ := p
    cases defaultValue <;> cases chosen <;> cases kinds <;> cases source <;>
      simp [Property.toJson, Value.Legible, Value.fieldOf, listField, options]
  have events (e : WidgetEvent) : e.toJson.Legible := by simp [WidgetEvent.toJson, Value.Legible]
  obtain ⟨name, shownName, description, category, company, properties', events', targetProject⟩ := w
  cases targetProject <;> simp [Widget.toJson, Value.Legible, Value.fieldOf, properties, events]

/-- A description is read from its text in any layout, and blanks behind the text do not matter. -/
theorem ofText_laid (w : Widget) (o : Layout) {blank : List Char} (all : ∀ c ∈ blank, isSpace c = true) :
    ofText .json (String.ofList (w.toJson.laid o 0 ++ blank)) = .ok w := by
  have decoded : decode Widget.read (String.ofList (w.toJson.laid o 0 ++ blank)) = .ok w :=
    (decode_laid_blank Widget.read o 0 w.legible all).trans (w.read_toJson (by decide))
  rw [ofText, decoded]
  rfl

theorem ofText_render (w : Widget) : ofText .json w.toJson.render = .ok w := by
  have back := w.ofText_laid .compact (List.forall_mem_nil _)
  rwa [List.append_nil, ← compact_eq] at back

theorem ofText_pretty (w : Widget) : ofText .json w.toJson.pretty = .ok w := by
  have back := w.ofText_laid .pretty (List.forall_mem_nil _)
  rwa [List.append_nil, ← indented_eq] at back

/-- A description survives being written as JSON, on one line or over several: what was left out because it is
absent or empty is supplied again. -/
theorem description_survives_json (w : Widget) :
    ofText .json w.toJson.render = .ok w ∧ ofText .json w.toJson.pretty = .ok w :=
  ⟨w.ofText_render, w.ofText_pretty⟩

/-- A language model that plans a repair is shown all of the description. -/
theorem shown_config_complete (d : Disk) (f : Failure) :
    ofText .json (PlannedRepair.request d f).config = .ok f.widget :=
  f.widget.ofText_pretty

end Widget

end WidgetRepair
