import WidgetRepair.Widget.Check
import Mathlib.Data.List.Nodup
import Mathlib.Data.List.Perm.Basic

/-! What a description without flaws is. The check goes through the properties once, with the keys it has seen so
far, and looks a source up by the first property of its key. The flag that it carries tells of flaws as they are added.
What it accepts says nothing of an order. -/

namespace WidgetRepair

namespace Findings

variable {f : Findings}

/-- A flag that is down just if there are flaws. -/
def Honest (f : Findings) : Prop := f.valid = f.flaws.isEmpty

theorem addFlaw_honest (f : Findings) (flaw : WidgetFlaw) : (f.addFlaw flaw).Honest := by
  simp [Honest, addFlaw]

theorem Honest.addDoubts (honest : f.Honest) (doubts : List WidgetDoubt) : (f.addDoubts doubts).Honest := by
  induction doubts generalizing f with
  | nil => exact honest
  | cons doubt rest ih => exact ih (f := f.addDoubt doubt) honest

theorem Honest.addFlaws (honest : f.Honest) (flaws : List WidgetFlaw) : (f.addFlaws flaws).Honest := by
  induction flaws generalizing f with
  | nil => exact honest
  | cons flaw rest ih => exact ih (f.addFlaw_honest flaw)

@[simp] theorem addFlaws_flaws (f : Findings) (flaws : List WidgetFlaw) :
    (f.addFlaws flaws).flaws = f.flaws ++ flaws := by
  induction flaws generalizing f with
  | nil => exact (List.append_nil _).symm
  | cons flaw rest ih => exact (ih (f.addFlaw flaw)).trans (List.append_assoc f.flaws [flaw] rest)

@[simp] theorem addDoubts_flaws (f : Findings) (doubts : List WidgetDoubt) :
    (f.addDoubts doubts).flaws = f.flaws := by
  induction doubts generalizing f with
  | nil => rfl
  | cons doubt rest ih => exact ih (f.addDoubt doubt)

end Findings

namespace Widget

/-- A description that a widget can be generated from. -/
structure WellFormed (w : Widget) : Prop where
  named : w.packageName ≠ ""
  keyed : ∀ p ∈ w.properties, ∃ c ∈ p.key.toList, Text.isBlank c = false
  distinctKeys : (w.properties.map (·.key)).Nodup
  chosen : ∀ p ∈ w.properties, p.kind = .enumeration → p.options ≠ []
  linked : ∀ p ∈ w.properties, ∀ source, p.source = some source →
    p.kind.linkable = true ∧ ∃ q ∈ w.properties, q.key = source ∧ q.kind = .datasource
  distinctEvents : (w.events.map (·.name)).Nodup
  apart : ∀ e ∈ w.events, ∀ p ∈ w.properties, e.name ≠ p.key

section Properties

variable {w : Widget} {seen : List String} {p : Property} {found : Findings}

/-- A property can be linked as it says, with the source looked up by its key. -/
def LinksUp (w : Widget) (p : Property) : Prop :=
  ∀ source, p.source = some source → p.kind.linkable = true ∧ w.hasSource source = true

theorem linkFlaws_eq_nil : w.linkFlaws p = [] ↔ w.LinksUp p := by
  unfold linkFlaws LinksUp
  cases p.source with
  | none => simp
  | some source => simp

/-- What one property has to be like, whatever the others are. -/
structure Sound (w : Widget) (p : Property) : Prop where
  keyed : Text.blank p.key = false
  chosen : p.kind = .enumeration → p.options ≠ []
  linked : w.LinksUp p

theorem propertyFlaws_eq_nil (keyed : Text.blank p.key = false) :
    w.propertyFlaws seen p = [] ↔ p.key ∉ seen ∧ w.Sound p := by
  have parts : w.propertyFlaws seen p = [] ↔
      p.key ∉ seen ∧ (p.kind = .enumeration → p.options ≠ []) ∧ w.LinksUp p := by
    simp [propertyFlaws, linkFlaws_eq_nil]
  rw [parts]
  exact and_congr_right fun _ =>
    ⟨fun ⟨chosen, linked⟩ => ⟨keyed, chosen, linked⟩, fun sound => ⟨sound.chosen, sound.linked⟩⟩

/-- By induction on the properties, while the keys that were seen grow. -/
theorem checkProperties_flawless {properties : List Property} :
    (w.checkProperties seen properties found).flaws = [] ↔ found.flaws = [] ∧
      (properties.map (·.key)).Nodup ∧ ∀ p ∈ properties, p.key ∉ seen ∧ w.Sound p := by
  induction properties generalizing seen found with
  | nil => simp [checkProperties]
  | cons p rest ih =>
    rw [checkProperties, List.forall_mem_cons, List.map_cons, List.nodup_cons]
    split
    next blank =>
      rw [ih]
      refine iff_of_false (by simp [Findings.addFlaw]) ?_
      rintro ⟨-, -, ⟨-, sound⟩, -⟩
      simp [sound.keyed] at blank
    next filled =>
      rw [ih, Findings.addDoubts_flaws, Findings.addFlaws_flaws, List.append_eq_nil_iff,
        propertyFlaws_eq_nil (by simpa using filled), and_assoc]
      refine and_congr_right fun _ => ?_
      have fresh : p.key ∉ rest.map (·.key) ↔ ∀ q ∈ rest, q.key ≠ p.key := by simp [eq_comm]
      simp only [fresh, List.mem_cons, not_or]
      constructor
      · rintro ⟨own, distinct, others⟩
        exact ⟨⟨fun q member => (others q member).1.1, distinct⟩, own,
          fun q member => ⟨(others q member).1.2, (others q member).2⟩⟩
      · rintro ⟨⟨single, distinct⟩, own, others⟩
        exact ⟨own, distinct, fun q member => ⟨⟨single q member, (others q member).1⟩, (others q member).2⟩⟩

theorem checkProperties_honest (honest : found.Honest) (properties : List Property) :
    (w.checkProperties seen properties found).Honest := by
  induction properties generalizing seen found with
  | nil => exact honest
  | cons p rest ih =>
    rw [checkProperties]
    split
    · exact ih (found.addFlaw_honest .emptyKey)
    · exact ih ((honest.addFlaws _).addDoubts _)

/-- Among distinct keys the first property of a key is the only one. -/
theorem hasSource_iff (distinct : (w.properties.map (·.key)).Nodup) {source : String} :
    w.hasSource source = true ↔ ∃ q ∈ w.properties, q.key = source ∧ q.kind = .datasource := by
  unfold hasSource property?
  cases found : w.properties.find? (·.key == source) with
  | none =>
    have missing := List.find?_eq_none.mp found
    refine iff_of_false Bool.false_ne_true ?_
    rintro ⟨q, member, same, -⟩
    exact missing q member (beq_iff_eq.mpr same)
  | some p =>
    have member := List.mem_of_find?_eq_some found
    have same : p.key = source := by simpa using List.find?_some found
    constructor
    · intro kind
      exact ⟨p, member, same, beq_iff_eq.mp kind⟩
    · rintro ⟨q, other, same', kind⟩
      rw [List.inj_on_of_nodup_map distinct member other (same.trans same'.symm)]
      exact beq_iff_eq.mpr kind

end Properties

section Events

variable {w : Widget} {seen : List String} {events : List WidgetEvent} {found : Findings}

theorem checkEvents_flawless : (w.checkEvents seen events found).flaws = [] ↔ found.flaws = [] ∧
    (events.map (·.name)).Nodup ∧ ∀ e ∈ events, e.name ∉ seen ∧ e.name ∉ w.keys := by
  induction events generalizing seen found with
  | nil => simp [checkEvents]
  | cons e rest ih =>
    have own : w.eventFlaws seen e = [] ↔ e.name ∉ seen ∧ e.name ∉ w.keys := by simp [eventFlaws]
    have fresh : e.name ∉ rest.map (·.name) ↔ ∀ f ∈ rest, f.name ≠ e.name := by simp [eq_comm]
    rw [checkEvents, ih, Findings.addFlaws_flaws, List.append_eq_nil_iff, own, List.forall_mem_cons, List.map_cons,
      List.nodup_cons, fresh, and_assoc]
    refine and_congr_right fun _ => ?_
    simp only [List.mem_cons, not_or]
    constructor
    · rintro ⟨first, distinct, others⟩
      exact ⟨⟨fun f member => (others f member).1.1, distinct⟩, first,
        fun f member => ⟨(others f member).1.2, (others f member).2⟩⟩
    · rintro ⟨⟨single, distinct⟩, first, others⟩
      exact ⟨first, distinct, fun f member => ⟨⟨single f member, (others f member).1⟩, (others f member).2⟩⟩

theorem checkEvents_honest (honest : found.Honest) (events : List WidgetEvent) :
    (w.checkEvents seen events found).Honest := by
  induction events generalizing seen found with
  | nil => exact honest
  | cons e rest ih => exact ih (honest.addFlaws _)

end Events

section Descriptions

variable {w : Widget}

theorem filled_iff {key : String} : Text.blank key = false ↔ ∃ c ∈ key.toList, Text.isBlank c = false := by
  simp [Text.blank]

theorem keys_of_filled (filled : ∀ p ∈ w.properties, Text.blank p.key = false) :
    w.keys = w.properties.map (·.key) := by
  refine List.filter_eq_self.mpr fun key member => ?_
  obtain ⟨p, property, rfl⟩ := List.mem_map.mp member
  simp [filled p property]

theorem runnable_iff : w.runnable = true ↔ w.packageName ≠ "" := by
  simp [runnable]

/-- A check finds no flaws in what is well-formed, and only there. -/
theorem check_flawless : w.check.flaws = [] ↔ w.WellFormed := by
  have named : (if Text.blank w.description
      then (if w.runnable then {} else Findings.addFlaw {} .emptyName).addDoubt .noDescription
      else if w.runnable then {} else Findings.addFlaw {} .emptyName).flaws = [] ↔ w.packageName ≠ "" := by
    rw [← runnable_iff]
    cases w.runnable <;> cases Text.blank w.description <;> simp [Findings.addDoubt, Findings.addFlaw]
  rw [check, checkEvents_flawless, checkProperties_flawless, named]
  constructor
  · rintro ⟨⟨name, keys, sound⟩, events, apart⟩
    refine ⟨name, fun p member => filled_iff.mp (sound p member).2.keyed, keys,
      fun p member => (sound p member).2.chosen, fun p member source link => ?_, events,
      fun e event p property same => ?_⟩
    · obtain ⟨linkable, found⟩ := (sound p member).2.linked source link
      exact ⟨linkable, (hasSource_iff keys).mp found⟩
    · refine (apart e event).2 ?_
      rw [keys_of_filled fun q member => (sound q member).2.keyed, same]
      exact List.mem_map_of_mem property
  · intro wellFormed
    have filled p (member : p ∈ w.properties) := filled_iff.mpr (wellFormed.keyed p member)
    refine ⟨⟨wellFormed.named, wellFormed.distinctKeys, fun p member => ⟨List.not_mem_nil, filled p member,
      wellFormed.chosen p member, fun source link => ?_⟩⟩, wellFormed.distinctEvents, fun e event =>
      ⟨List.not_mem_nil, fun met => ?_⟩⟩
    · obtain ⟨linkable, found⟩ := wellFormed.linked p member source link
      exact ⟨linkable, (hasSource_iff wellFormed.distinctKeys).mpr found⟩
    · rw [keys_of_filled filled] at met
      obtain ⟨p, property, same⟩ := List.mem_map.mp met
      exact wellFormed.apart e event p property same.symm

/-- Nothing in what is well-formed depends on an order. -/
theorem WellFormed.reordered {v : Widget} (name : v.packageName = w.packageName)
    (sameProperties : v.properties.Perm w.properties) (sameEvents : v.events.Perm w.events)
    (wellFormed : w.WellFormed) : v.WellFormed where
  named := name ▸ wellFormed.named
  keyed p member := wellFormed.keyed p (sameProperties.mem_iff.mp member)
  distinctKeys := (sameProperties.map (·.key)).nodup_iff.mpr wellFormed.distinctKeys
  chosen p member := wellFormed.chosen p (sameProperties.mem_iff.mp member)
  linked p member source link := by
    obtain ⟨linkable, q, found, named⟩ := wellFormed.linked p (sameProperties.mem_iff.mp member) source link
    exact ⟨linkable, q, sameProperties.mem_iff.mpr found, named⟩
  distinctEvents := (sameEvents.map (·.name)).nodup_iff.mpr wellFormed.distinctEvents
  apart e event p member := wellFormed.apart e (sameEvents.mem_iff.mp event) p (sameProperties.mem_iff.mp member)

theorem check_honest (w : Widget) : w.check.Honest := by
  refine checkEvents_honest (checkProperties_honest ?_ _) _
  cases w.runnable <;> cases Text.blank w.description <;> rfl

theorem valid_iff : w.check.valid = true ↔ w.check.flaws = [] := by
  rw [check_honest w]
  exact List.isEmpty_iff

end Descriptions

/-- A check accepts just the well-formed descriptions, in whatever order their properties and events stand. -/
theorem accepts_well_formed (w : Widget) :
    (w.check.valid = true ↔ w.WellFormed) ∧ (w.check.valid = true ↔ w.check.flaws = []) ∧
      ∀ properties events, properties.Perm w.properties → events.Perm w.events →
        ({ w with properties := properties, events := events } : Widget).check.valid = w.check.valid := by
  refine ⟨valid_iff.trans check_flawless, valid_iff, fun properties events sameProperties sameEvents => ?_⟩
  have name : ({ w with properties := properties, events := events } : Widget).packageName = w.packageName := rfl
  rw [Bool.eq_iff_iff, valid_iff, valid_iff, check_flawless, check_flawless]
  exact ⟨fun moved => moved.reordered name.symm sameProperties.symm sameEvents.symm,
    fun wellFormed => wellFormed.reordered name sameProperties sameEvents⟩

/-- A link may point ahead, to a source that stands behind it. -/
example : ({ name := "List", properties := [⟨"label", .entityAttribute, "", "", false, none, [], [], some "items"⟩,
    ⟨"items", .datasource, "", "", true, none, [], [], none⟩] } : Widget).check.valid = true := by decide

end Widget

end WidgetRepair
