import Mathlib
import WidgetRepair.Package.Definition
import WidgetRepair.Proofs.MarkupReading

/-! What a reader of markup makes of a widget definition: one element for each part, around the strings of
the description as they are. Two descriptions give one definition exactly when they agree on all that is
shown of them. -/

namespace WidgetRepair.Definition

open Markup

/-- What a definition shows of a property; `none` where its kind leaves a part out. -/
structure ShownProperty where
  key : String
  kind : PropertyKind
  start : Option String
  source : Option String
  caption : String
  description : String
  required : Option Bool
  attributeKinds : Option (List String)
  options : Option (List EnumOption)
  deriving DecidableEq, Repr

/-- What a definition shows of a widget. -/
structure ShownWidget where
  id : String
  displayName : String
  description : String
  category : String
  properties : List ShownProperty
  events : List WidgetEvent
  deriving DecidableEq, Repr

def shownProperty (p : Property) : ShownProperty where
  key := p.key
  kind := p.kind
  start := startValue? p
  source := p.source
  caption := p.caption
  description := p.description
  required := if p.kind = .boolean ∨ p.kind = .enumeration then none else some p.required
  attributeKinds := if p.kind = .entityAttribute then some (attributeKinds p) else none
  options := if p.kind = .enumeration then some p.options else none

def shownWidget (w : Widget) : ShownWidget where
  id := widgetId w
  displayName := w.displayName
  description := w.description
  category := w.category
  properties := w.properties.map shownProperty
  events := w.events

def rootAttributes (w : Widget) : List Attribute :=
  [⟨"id", widgetId w⟩, ⟨"pluginWidget", "true"⟩, ⟨"offlineCapable", "true"⟩]

def vocabulary : Attribute := ⟨"xmlns", "http://www.mendix.com/widget/1.0/"⟩

/-- What a reader makes of a definition. -/
def tree (w : Widget) : List Node :=
  [gapNode 0, .element "widget" (rootAttributes w ++ [vocabulary]) (Element.allNodes 1 (body w) ++ [gapNode 0]),
    gapNode 0]

theorem attributes_named (p : Property) : ∀ a ∈ attributes p, IsName a.name.toList := by
  simp only [attributes, List.forall_mem_append]
  refine ⟨⟨⟨⟨?own, ?list⟩, ?required⟩, ?start⟩, ?source⟩
  case own => simp [isName_iff, inName]
  case list => split <;> simp [isName_iff, inName]
  case required => split <;> simp [isName_iff, inName]
  case start => cases startValue? p <;> simp [isName_iff, inName]
  case source => cases p.source <;> simp [isName_iff, inName]

theorem details_proper (p : Property) : ∀ e ∈ details p, e.Proper := by
  unfold details
  split <;> simp [Element.Proper, Element.allProper_iff, isName_iff, inName]

theorem property_proper (p : Property) : (property p).Proper := by
  have name : IsName "property".toList := by simp [isName_iff, inName]
  refine ⟨name, attributes_named p, Element.allProper_iff.mpr ?_⟩
  rw [List.forall_mem_append]
  refine ⟨?_, details_proper p⟩
  simp [label, Element.Proper, isName_iff, inName]

theorem event_proper (e : WidgetEvent) : (event e).Proper := by
  simp [event, label, Element.Proper, Element.AllProper, isName_iff, inName]

theorem section_proper {caption : String} {children : List Element} (all : ∀ e ∈ children, e.Proper) :
    (section_ caption children).Proper := by
  have named : IsName "propertyGroup".toList := by simp [isName_iff, inName]
  exact ⟨named, by simp [isName_iff, inName], Element.allProper_iff.mpr all⟩

theorem sections_proper (w : Widget) : ∀ e ∈ sections w, e.Proper := by
  rw [sections, List.forall_mem_cons]
  constructor
  · exact section_proper (List.forall_mem_map.mpr fun p _ => property_proper p)
  · split
    · simp
    · rw [List.forall_mem_singleton]
      exact section_proper (List.forall_mem_map.mpr fun e _ => event_proper e)

theorem body_proper (w : Widget) : Element.AllProper (body w) := by
  have general : (section_ "General" (sections w)).Proper := section_proper (sections_proper w)
  simp [body, label, Element.Proper, Element.AllProper, isName_iff, inName, general]

def declaration : String := "<?xml version=\"1.0\" encoding=\"utf-8\" ?>"

def rest (w : Widget) : List Char :=
  gap 0 ++ ('<' :: ("widget".toList ++ ((rootAttributes w).flatMap attribute_ ++
    (gap 2 ++ (vocabulary.name.toList ++ '=' :: '"' :: (escape vocabulary.value ++ '"' ::
      '>' :: ('\n' :: Element.allLines 1 (body w) ++ (closingTag "widget".toList ++ gap 0))))))))

theorem render_eq (w : Widget) : (render w).toList = declaration.toList ++ rest w := by
  have address : escape vocabulary.value = vocabulary.value.toList := by
    simp [escape, escapeChar, vocabulary]
  refine Eq.trans String.toList_ofList ?_
  rw [rest, address]
  simp [declaration, opening, rootAttributes, vocabulary, closing, closingTag, gap, indent]

theorem reads_rest (w : Widget) : ReadsAs (rest w) (tree w) [] := by
  have last : ReadsAs (gap 0 ++ []) [gapNode 0] [] := ReadsAs.nil.gap 0 (by simp)
  rw [List.append_nil] at last
  let content := '\n' :: Element.allLines 1 (body w)
  have inside : ReadsAs (content ++ (closingTag "widget".toList ++ gap 0))
      (Element.allNodes 1 (body w) ++ [gapNode 0]) (closingTag "widget".toList ++ gap 0) :=
    Element.allReads 1 (body w) (body_proper w)
      ((ReadsAs.closing "widget".toList (gap 0)).gap 0 (by simp [closingTag]))
  have named : ∀ a ∈ rootAttributes w, IsName a.name.toList := by simp [rootAttributes, isName_iff, inName]
  have blank : ∀ c ∈ gap 2, isSpace c = true := by simp [gap, indent, isSpace]
  have own : IsName vocabulary.name.toList := by simp [vocabulary, isName_iff, inName]
  have tag := ((ReadsTag.opened (content ++ (closingTag "widget".toList ++ gap 0))).cons blank own).append named
  have widget : IsName "widget".toList := by simp [isName_iff, inName]
  have element := ReadsAs.element widget (noName_attributes _ (noName_cons rfl)) tag inside (by simp; omega)
    (by simp; omega) last
  exact element.gap 0 (by simp)

theorem afterDeclaration_declaration (text : List Char) : afterDeclaration (declaration.toList ++ text) = text := by
  simp only [declaration, String.reduceToList]
  rfl

section Declared

variable {document : String} {text : List Char} {nodes : List Node}

theorem declared_begins (text : List Char) : ['<', '?'].isPrefixOf (declaration.toList ++ text) = true := by
  simp [declaration]

theorem read_of_reads (split : document.toList = declaration.toList ++ text) (reads : ReadsAs text nodes []) :
    Markup.read document = some nodes := by
  have found := reads (text.length + 1) (by omega)
  simp [Markup.read, split, declared_begins, afterDeclaration_declaration, found]

theorem finds_of_read (split : document.toList = declaration.toList ++ text)
    (read : Markup.read document = some nodes) : Finds text nodes := by
  simp only [Markup.read, split, declared_begins, if_true, afterDeclaration_declaration] at read
  split at read
  next found =>
    cases read
    exact ⟨_, _, by omega, found⟩
  next => cases read

end Declared

/-- A reader makes of a definition its tree. -/
theorem read_render (w : Widget) : Markup.read (render w) = some (tree w) := read_of_reads (render_eq w) (reads_rest w)

theorem map_congr {α β γ : Type} {f : α → β} {g : α → γ} (finer : ∀ a b, f a = f b → g a = g b) :
    ∀ {items others : List α}, items.map f = others.map f → items.map g = others.map g
  | [], [], _ => rfl
  | a :: items, b :: others, same => by
    obtain ⟨first, later⟩ := List.cons.inj same
    rw [List.map_cons, List.map_cons, finer a b first, map_congr finer later]

theorem kindName_injective : Function.Injective PropertyKind.name := by
  intro kind other same
  cases kind <;> cases other <;> first | rfl | (simp [PropertyKind.name] at same)

theorem flagText_injective : Function.Injective flagText := by decide

theorem optional_inj {name other : String} (apart : name ≠ other) {v v' u u' : Option String}
    (same : (v.map (Attribute.mk name)).toList ++ (u.map (Attribute.mk other)).toList =
      (v'.map (Attribute.mk name)).toList ++ (u'.map (Attribute.mk other)).toList) : v = v' ∧ u = u' := by
  have crossed := apart.symm
  cases v <;> cases v' <;> cases u <;> cases u' <;> simp_all

/-- Only flags and enumerations leave out whether a value is required. -/
theorem attributes_inj {p p' : Property} (same : attributes p = attributes p') :
    p.key = p'.key ∧ p.kind = p'.kind ∧ (shownProperty p).required = (shownProperty p').required ∧
      startValue? p = startValue? p' ∧ p.source = p'.source := by
  simp only [attributes, List.append_assoc, List.cons_append, List.nil_append, List.cons.injEq,
    Attribute.mk.injEq, true_and] at same
  obtain ⟨key, kind, rest⟩ := same
  have kind := kindName_injective kind
  rw [kind] at rest
  have rest := List.append_cancel_left rest
  by_cases optional : p'.kind = .boolean ∨ p'.kind = .enumeration
  · have skipped : (p'.kind == .boolean || p'.kind == .enumeration) = true := by simpa using optional
    rw [if_pos skipped, if_pos skipped] at rest
    obtain ⟨start, source⟩ := optional_inj (by decide) rest
    exact ⟨key, kind, by simp [shownProperty, kind, optional], start, source⟩
  · have stated : ¬ (p'.kind == .boolean || p'.kind == .enumeration) = true := by simpa using optional
    rw [if_neg stated, if_neg stated] at rest
    obtain ⟨required, rest⟩ := List.cons.inj rest
    have required := flagText_injective (Attribute.mk.inj required).2
    obtain ⟨start, source⟩ := optional_inj (by decide) rest
    exact ⟨key, kind, by simp [shownProperty, kind, required], start, source⟩

theorem items_inj {α : Type} {level : Nat} {print : α → Element} {items others : List α}
    (apart : Function.Injective fun a => (print a).node level)
    (same : (items.map print).map (Element.node level) = (others.map print).map (Element.node level)) :
    items = others := by
  rw [List.map_map, List.map_map] at same
  exact List.map_injective_iff.mpr apart same

theorem attributeType_inj (level : Nat) :
    Function.Injective fun kind => (Element.empty "attributeType" [⟨"name", kind⟩]).node level := by
  intro kind other same
  simpa [Element.node] using same

theorem enumerationValue_inj (level : Nat) :
    Function.Injective fun o : EnumOption =>
      (Element.leaf "enumerationValue" [⟨"key", o.key⟩] o.caption).node level := by
  intro o other same
  obtain ⟨key, caption⟩ := Element.leaf_inj same
  cases o
  cases other
  simp_all

theorem details_inj {p p' : Property} {level : Nat} (kind : p.kind = p'.kind)
    (same : (details p).map (Element.node level) = (details p').map (Element.node level)) :
    (shownProperty p).attributeKinds = (shownProperty p').attributeKinds ∧
      (shownProperty p).options = (shownProperty p').options := by
  by_cases bound : p'.kind = .entityAttribute
  · simp only [details, kind, bound, List.map_cons, List.map_nil, List.cons.injEq, and_true] at same
    have kinds := items_inj (attributeType_inj _) (Element.group_inj same).2
    simp [shownProperty, kind, bound, kinds]
  by_cases listed : p'.kind = .enumeration
  · simp only [details, kind, listed, List.map_cons, List.map_nil, List.cons.injEq, and_true] at same
    have options := items_inj (enumerationValue_inj _) (Element.group_inj same).2
    simp [shownProperty, kind, listed, options]
  · simp [shownProperty, kind, bound, listed]

theorem property_inj {p p' : Property} {level : Nat}
    (same : (property p).node level = (property p').node level) : shownProperty p = shownProperty p' := by
  obtain ⟨own, parts⟩ := Element.group_inj same
  obtain ⟨key, kind, required, start, source⟩ := attributes_inj own
  simp only [label, List.map_cons, List.cons_append, List.nil_append, List.cons.injEq] at parts
  obtain ⟨caption, description, parts⟩ := parts
  obtain ⟨kinds, options⟩ := details_inj kind parts
  have caption := (Element.leaf_inj caption).2
  have description := (Element.leaf_inj description).2
  simp only [shownProperty, ShownProperty.mk.injEq]
  exact ⟨key, kind, start, source, caption, description, required, kinds, options⟩

theorem event_inj (level : Nat) : Function.Injective fun e => (event e).node level := by
  intro e other same
  obtain ⟨own, parts⟩ := Element.group_inj same
  simp only [label, List.map_cons, List.map_nil, List.cons.injEq, and_true] at parts
  have caption := (Element.leaf_inj parts.1).2
  have description := (Element.leaf_inj parts.2).2
  cases e
  cases other
  simp_all

theorem sections_inj {w w' : Widget} {level : Nat}
    (same : (sections w).map (Element.node level) = (sections w').map (Element.node level)) :
    w.properties.map shownProperty = w'.properties.map shownProperty ∧ w.events = w'.events := by
  simp only [sections, section_, List.map_cons, List.cons.injEq] at same
  obtain ⟨general, events⟩ := same
  constructor
  · have properties := (Element.group_inj general).2
    rw [List.map_map, List.map_map] at properties
    exact map_congr (fun p p' => property_inj) properties
  · by_cases none : w.events = [] <;> by_cases none' : w'.events = []
    · rw [none, none']
    · simp [none, none'] at events
    · simp [none, none'] at events
    · simp only [List.isEmpty_iff, none, none', if_false, List.map_cons, List.map_nil, List.cons.injEq,
        and_true] at events
      exact items_inj (event_inj _) (Element.group_inj events).2

/-- Descriptions whose definitions read the same show the same. -/
theorem tree_inj {w w' : Widget} (same : tree w = tree w') : shownWidget w = shownWidget w' := by
  simp only [tree, List.cons.injEq, Node.element.injEq, List.append_left_inj, true_and, and_true] at same
  obtain ⟨root, children⟩ := same
  have id : widgetId w = widgetId w' := by simpa [rootAttributes] using root
  have parts := Element.map_node children
  simp only [body, label, section_, List.map_cons, List.map_nil, List.cons.injEq, and_true] at parts
  obtain ⟨name, description, category, properties⟩ := parts
  have inner := (Element.group_inj properties).2
  simp only [List.map_cons, List.map_nil, List.cons.injEq, and_true] at inner
  obtain ⟨shown, events⟩ := sections_inj (Element.group_inj inner).2
  have name := (Element.leaf_inj name).2
  have description := (Element.leaf_inj description).2
  have category := (Element.leaf_inj category).2
  simp [shownWidget, id, name, description, category, shown, events]

theorem attributes_congr {p p' : Property} (same : shownProperty p = shownProperty p') :
    attributes p = attributes p' := by
  obtain ⟨key, kind, start, source, -, -, required, -, -⟩ := ShownProperty.mk.inj same
  rw [kind] at required
  by_cases optional : p'.kind = .boolean ∨ p'.kind = .enumeration
  · have skipped : (p'.kind == .boolean || p'.kind == .enumeration) = true := by simpa using optional
    simp only [attributes, key, kind, start, source, if_pos skipped]
  · rw [if_neg optional, if_neg optional, Option.some.injEq] at required
    simp only [attributes, key, kind, start, source, required]

theorem details_congr {p p' : Property} (same : shownProperty p = shownProperty p') : details p = details p' := by
  obtain ⟨-, kind, -, -, -, -, -, kinds, options⟩ := ShownProperty.mk.inj same
  unfold details
  rw [kind] at kinds options ⊢
  split
  case h_1 bound => simp_all
  case h_2 listed => simp_all
  all_goals rfl

theorem property_congr {p p' : Property} (same : shownProperty p = shownProperty p') : property p = property p' := by
  obtain ⟨-, -, -, -, caption, description, -, -, -⟩ := ShownProperty.mk.inj same
  rw [property, property, attributes_congr same, details_congr same, caption, description]

theorem body_congr {w w' : Widget} (same : shownWidget w = shownWidget w') : body w = body w' := by
  obtain ⟨-, name, description, category, properties, events⟩ := ShownWidget.mk.inj same
  have printed : w.properties.map property = w'.properties.map property :=
    map_congr (fun p p' => property_congr) properties
  simp only [body, sections, name, description, category, printed, events]

theorem render_congr {w w' : Widget} (same : shownWidget w = shownWidget w') : render w = render w' := by
  have id : widgetId w = widgetId w' := congrArg ShownWidget.id same
  apply String.toList_inj.mp
  rw [render_eq, render_eq, rest, rest, rootAttributes, rootAttributes, id, body_congr same]

theorem render_inj {w w' : Widget} (same : render w = render w') : shownWidget w = shownWidget w' := by
  have read := read_render w
  rw [same, read_render w'] at read
  exact (tree_inj (Option.some.inj read)).symm

def respelledProperty (f : String → String) (p : Property) : Property where
  key := f p.key
  kind := p.kind
  caption := f p.caption
  description := f p.description
  required := p.required
  defaultValue := p.defaultValue.map f
  options := p.options.map fun o => ⟨f o.key, f o.caption⟩
  attributeKinds := p.attributeKinds.map f
  source := p.source.map f

/-- The description with another string for each of its strings. -/
def respelled (f : String → String) (w : Widget) : Widget where
  name := f w.name
  shownName := f w.shownName
  description := f w.description
  category := f w.category
  company := f w.company
  properties := w.properties.map (respelledProperty f)
  events := w.events.map fun e => ⟨f e.name, f e.caption, f e.description⟩
  targetProject := w.targetProject.map f

section Respelling

variable (f : String → String)

theorem startValue?_respelled (p : Property) :
    (startValue? (respelledProperty f p)).isSome = (startValue? p).isSome := by
  cases given : p.defaultValue with
  | some v => simp [startValue?, respelledProperty, given]
  | none =>
    by_cases flag : p.kind = .boolean
    · simp [startValue?, respelledProperty, given, flag]
    · simp [startValue?, respelledProperty, given, flag]

theorem optional_names (name : String) (v : Option String) :
    (v.map (Attribute.mk name)).toList.map (·.name) = if v.isSome then [name] else [] := by
  cases v <;> rfl

theorem attributes_names (p : Property) :
    (attributes (respelledProperty f p)).map (·.name) = (attributes p).map (·.name) := by
  have source : (respelledProperty f p).source.isSome = p.source.isSome := Option.isSome_map
  have kind : (respelledProperty f p).kind = p.kind := rfl
  simp only [attributes, List.map_append, List.map_cons, List.map_nil, optional_names,
    startValue?_respelled, source, kind]
  split <;> split <;> rfl

theorem attributeKinds_length (p : Property) :
    (attributeKinds (respelledProperty f p)).length = (attributeKinds p).length := by
  cases given : p.attributeKinds with
  | nil => simp [attributeKinds, respelledProperty, given]
  | cons kind kinds => simp [attributeKinds, respelledProperty, given]

theorem details_outline (p : Property) :
    (details (respelledProperty f p)).map Element.outline = (details p).map Element.outline := by
  have kind : (respelledProperty f p).kind = p.kind := rfl
  unfold details
  rw [kind]
  split
  case h_1 =>
    simp [Element.outline, Element.allOutlines_eq, Function.comp_def, List.map_const', attributeKinds_length]
  case h_2 =>
    simp [Element.outline, Element.allOutlines_eq, Function.comp_def, List.map_const', respelledProperty]
  all_goals rfl

theorem property_outline (p : Property) : (property (respelledProperty f p)).outline = (property p).outline := by
  simp only [property, Element.outline, Element.allOutlines_eq, List.map_append, attributes_names,
    details_outline, label, List.map_cons]

theorem sections_outline (w : Widget) :
    (sections (respelled f w)).map Element.outline = (sections w).map Element.outline := by
  have quiet : (respelled f w).events.isEmpty = w.events.isEmpty := List.isEmpty_map
  simp only [sections, quiet, List.map_cons, List.cons.injEq]
  constructor
  · simp [section_, Element.outline, Element.allOutlines_eq, respelled, Function.comp_def, property_outline]
  · split
    · rfl
    · simp [section_, event, label, Element.outline, Element.allOutlines_eq, respelled, Function.comp_def]

theorem body_outline (w : Widget) : (body (respelled f w)).map Element.outline = (body w).map Element.outline := by
  simp [body, section_, label, Element.outline, Element.allOutlines_eq, sections_outline]

end Respelling

theorem outline_tree (w : Widget) :
    Node.allOutlines (tree w) = [.element "widget" ["id", "pluginWidget", "offlineCapable", "xmlns"]
      ((body w).map Element.outline)] := by
  simp [tree, Node.allOutlines, Node.outlines, gapNode, Node.allOutlines_append, Element.allNodes_outlines,
    Element.allOutlines_eq, rootAttributes, vocabulary]

theorem outline?_render (w : Widget) : outline? (render w) = some (Node.allOutlines (tree w)) := by
  rw [outline?, read_render, Option.map_some]

end WidgetRepair.Definition
