import WidgetRepair.Proofs.RealText
import WidgetRepair.Proofs.TimestampText
import WidgetRepair.Proofs.JsonDrafts
import WidgetRepair.Store.File

/-! Documents of a store read back. -/

namespace WidgetRepair

open Source Json

/-- A value that is taken from its draft unchanged. -/
def Json.Value.Kept (room : Nat) (v : Value) : Prop := v.draft.value room = .ok v

namespace Json.Value.Kept

variable {room : Nat}

theorem text (s : String) : (Value.text s).Kept room := by
  simp [Value.Kept, Value.draft, Draft.value, Except.map]

theorem flag (b : Bool) : (Value.flag b).Kept room := by
  simp [Value.Kept, Value.draft, Draft.value]

theorem list {items : List Value} (inside : 1 < room) (each : ∀ v ∈ items, v.Kept (room - 1)) :
    (Value.list items).Kept room := by
  have deep : ¬room ≤ 1 := Nat.not_le.mpr inside
  have content : Draft.valueItems (room - 1) (items.map Value.draft) = .ok items := by
    induction items with
    | nil => rfl
    | cons v rest ih =>
      have first : v.draft.value (room - 1) = .ok v := each v List.mem_cons_self
      have later := ih fun w member => each w (List.mem_cons_of_mem v member)
      simp only [List.map_cons, Draft.valueItems, first, later]
      rfl
  simp [Value.Kept, Value.draft, Draft.value, enter, deep, content, Draft.close, bind, Except.bind]
  rfl

theorem record {fields : List (String × Value)} (inside : 1 < room)
    (each : ∀ field ∈ fields, field.2.Kept (room - 1)) : (Value.record fields).Kept room := by
  have deep : ¬room ≤ 1 := Nat.not_le.mpr inside
  have content : Draft.valueFields (room - 1)
      (fields.map fun field => (.ok field.1, field.2.draft)) = .ok fields := by
    induction fields with
    | nil => rfl
    | cons field rest ih =>
      have first : field.2.draft.value (room - 1) = .ok field.2 := each field List.mem_cons_self
      have later := ih fun w member => each w (List.mem_cons_of_mem field member)
      simp only [List.map_cons, Draft.valueFields, first, later]
      rfl
  simp [Value.Kept, Value.draft, Draft.value, enter, deep, content, Draft.close, bind, Except.bind]
  rfl

theorem texts (inside : 1 < room) (texts : List String) : (Value.ofTexts texts).Kept room := by
  refine .list inside fun v member => ?_
  obtain ⟨s, -, rfl⟩ := List.mem_map.mp member
  exact .text s

end Json.Value.Kept

namespace FixAction

/-- A repair as it is read back: its scripts are sorted. -/
def reread : FixAction → FixAction
  | configChange scripts => configChange (sortScripts scripts)
  | fix => fix

variable {room : Nat}

theorem readFields_kept {fields : List (String × Value)} (reader : Value → Except Fault FixAction)
    (other : ∀ field ∈ fields, field.1 ≠ "type") (kept : ∀ field ∈ fields, field.2.Kept room)
    (before : List (String × Value)) :
    readFields (fields.map fun field => .ok (field.1, ⟨room, field.2.draft⟩)) (some reader) before =
      reader (.record (before.reverse ++ fields)) := by
  induction fields generalizing before with
  | nil => simp [readFields]
  | cons field rest ih =>
    have first : field.2.draft.value room = .ok field.2 := kept field List.mem_cons_self
    have later := ih (fun f member => other f (List.mem_cons_of_mem _ member))
      (fun f member => kept f (List.mem_cons_of_mem _ member)) ((field.1, field.2) :: before)
    simp only [List.map_cons, readFields, bind, Except.bind, if_neg (other field List.mem_cons_self),
      Place.value, first, later]
    simp

/-- A record that begins with a kind is read by the reader of that kind. -/
theorem read_record {kind : String} {reader : Value → Except Fault FixAction}
    {fields : List (String × Value)} (inside : 1 < room) (known : readerOf? kind = some reader)
    (other : ∀ field ∈ fields, field.1 ≠ "type") (kept : ∀ field ∈ fields, field.2.Kept (room - 1)) :
    FixAction.read ⟨room, (Value.record (("type", .text kind) :: fields)).draft⟩ =
      reader (.record fields) := by
  have deep : ¬room ≤ 1 := Nat.not_le.mpr inside
  have content := readFields_kept reader other kept []
  simp [FixAction.read, Value.draft, Place.record, enter, deep, withEnding, bind, Except.bind, pure,
    Except.pure, Except.map, readFields, readKind, Place.text, known]
  exact content

/-- The answer of a record that is complete. -/
theorem recordOf_value {σ α : Type} {fields : List (Field Value (Except Fault) σ)} {start : σ}
    {finish : σ → Option α} {a : α} {entries : List (String × Value)} (filled : σ)
    (read : namedFields fields (entries.map .ok) start = .ok filled) (complete : finish filled = some a) :
    recordOf fields start finish (Value.record entries) = .ok a := by
  simp [recordOf, Source.record, Value.asRecord, bind, Except.bind, read, complete]
  rfl

theorem readScripts_toJson (scripts : List (String × String)) :
    readScripts (.record (scripts.map fun script => (script.1, .text script.2))) =
      .ok (sortScripts scripts) := by
  have each : (scripts.map fun script => (script.1, Value.text script.2)).mapM (fun field => do
      return (field.1, ← field.2.asText)) = (.ok (scripts.map id) : Except Fault _) :=
    mapM_ok scripts _ id fun script _ => rfl
  rw [List.map_id] at each
  show (List.mapM (fun field : String × Value => do return (field.1, ← field.2.asText)) _ >>=
    fun read => pure (sortScripts read) : Except Fault _) = _
  rw [each]
  rfl

theorem listOf_texts (texts : List String) : listOf text (Value.ofTexts texts) = .ok texts := by
  have each : (texts.map fun s => .ok (Value.text s)).mapM (fun place : Except Fault Value => do
      text (← place)) = (.ok (texts.map id) : Except Fault _) := mapM_ok texts _ id fun s _ => rfl
  rw [List.map_id] at each
  simp only [listOf, Value.ofTexts, Source.items, Value.asItems, List.map_map]
  exact each

theorem read_toJson (inside : 3 < room) (fix : FixAction) :
    FixAction.read ⟨room, fix.toJson.draft⟩ = .ok fix.reread := by
  cases fix with
  | fileEdit file search replace =>
    have kept : ∀ field ∈ [("file", Value.text file), ("search", .text search), ("replace", .text replace)],
        field.2.Kept (room - 1) := by simp [Value.Kept.text]
    refine (read_record (by omega) rfl (by simp) kept).trans ?_
    exact recordOf_value (some file, some search, some replace) rfl rfl
  | configChange scripts =>
    have kept : ∀ field ∈ [("scripts", Value.record (scripts.map fun script => (script.1, .text script.2)))],
        field.2.Kept (room - 1) := by
      simp only [List.mem_singleton, forall_eq]
      refine .record (by omega) fun field member => ?_
      obtain ⟨script, -, rfl⟩ := List.mem_map.mp member
      exact .text _
    refine (read_record (by omega) rfl (by simp) kept).trans ?_
    refine recordOf_value (some (sortScripts scripts)) ?_ rfl
    simp [namedFields, Field.of, readScripts_toJson, bind, Except.bind]
    rfl
  | dependencyAdd packages dev =>
    have kept : ∀ field ∈ [("packages", Value.ofTexts packages), ("dev", .flag dev)],
        field.2.Kept (room - 1) := by
      have inner : (Value.ofTexts packages).Kept (room - 1) := .texts (by omega) packages
      simp [inner, Value.Kept.flag]
    refine (read_record (by omega) rfl (by simp) kept).trans ?_
    refine recordOf_value (some packages, some dev) ?_ rfl
    simp [namedFields, Field.of, listOf_texts, bind, Except.bind, pure, Except.pure, Source.flag, Value.asFlag]
  | manual instructions =>
    have kept : ∀ field ∈ [("instructions", Value.text instructions)],
        field.2.Kept (room - 1) := by simp [Value.Kept.text]
    refine (read_record (by omega) rfl (by simp) kept).trans ?_
    exact recordOf_value (some instructions) rfl rfl

end FixAction

variable {room : Nat}

theorem Practice.read_toJson (inside : 1 < room) (p : Practice) :
    Practice.read ⟨room, p.toJson.draft⟩ = .ok p := by
  refine recordOf_draft inside ⟨some p.id, some p.title, some p.description, some p.category⟩ ?_ rfl
  simp [namedFields, PracticeFields.all, Field.of, bind, Except.bind, pure, Except.pure]

theorem ApiNote.read_toJson (inside : 2 < room) (n : ApiNote) :
    ApiNote.read ⟨room, n.toJson.draft⟩ = .ok n := by
  have notes := texts_draft (show 1 < room - 1 by omega) n.notes
  refine recordOf_draft (by omega)
    ⟨some n.name, some n.source, some n.usage, some n.notes⟩ ?_ rfl
  simp [namedFields, NoteFields.all, Field.of, bind, Except.bind, pure, Except.pure, notes]

/-- A shape of widget as it is read back: its confidence is the real its text stands for. -/
def WidgetTemplate.reread (t : WidgetTemplate) : WidgetTemplate :=
  { t with confidence := rereadReal t.confidence }

/-- A counter is written as a number that is read back. -/
theorem counter_draft (room : Nat) (count : UInt32) :
    Place.below counterLimit ⟨room, (Value.ofNat count.toNat).draft⟩ = .ok count.toNat :=
  below_draft room count.toNat_lt (by decide)

theorem WidgetTemplate.read_toJson (inside : 2 < room) (t : WidgetTemplate) :
    WidgetTemplate.read ⟨room, t.toJson.draft⟩ = .ok t.reread := by
  have inner : 1 < room - 1 := by omega
  have kinds := texts_draft inner t.propertyKinds
  have keywords := texts_draft inner t.keywords
  have succeeded := counter_draft (room - 1) t.successCount
  have failed := counter_draft (room - 1) t.failureCount
  refine recordOf_draft (by omega)
    ⟨some t.id, some t.name, some t.category, some t.description, some t.propertyKinds,
      some t.keywords, some (rereadReal t.confidence), some t.successes, some t.failures⟩ ?_ ?_
  · simp [namedFields, TemplateFields.all, Field.of, bind, Except.bind, pure, Except.pure, kinds, keywords,
      WidgetTemplate.successes, WidgetTemplate.failures, succeeded, failed]
  · simp [TemplateFields.finish, WidgetTemplate.reread, WidgetTemplate.successes, WidgetTemplate.failures]

/-- A pattern as it is read back. -/
def FixPattern.reread (p : FixPattern) : FixPattern :=
  { p with fix := p.fix.reread, confidence := rereadReal p.confidence }

theorem FixPattern.read_toJson (inside : 4 < room) {p : FixPattern}
    (moment : ∀ t ∈ p.lastUsed, Timestamp.ofText? t.toText = some t) :
    FixPattern.read ⟨room, p.toJson.draft⟩ = .ok p.reread := by
  have keywords := texts_draft (show 1 < room - 1 by omega) p.keywords
  have fix := FixAction.read_toJson (show 3 < room - 1 by omega) p.fix
  have succeeded := counter_draft (room - 1) p.successCount
  have failed := counter_draft (room - 1) p.failureCount
  have origin : choice Provenance.ofName? (⟨room - 1, (Value.text p.provenance.name).draft⟩ : Place) =
      .ok p.provenance := choice_draft (by cases p.provenance <;> rfl)
  refine recordOf_draft (by omega)
    ⟨some p.id, some p.errorPattern, some p.keywords, some p.fix.reread, some p.description,
      some (rereadReal p.confidence), some p.successes, some p.failures, p.lastUsed.map some,
      some p.provenance⟩ ?_ ?_
  · cases used : p.lastUsed with
    | none =>
      simp [namedFields, PatternFields.all, Field.of, bind, Except.bind, pure, Except.pure, keywords, fix,
        FixPattern.successes, FixPattern.failures, succeeded, failed, origin, Value.fieldOf]
    | some t =>
      have last := option_draft (parsed_draft (room - 1) (moment t used))
      simp [namedFields, PatternFields.all, Field.of, bind, Except.bind, pure, Except.pure, keywords, fix,
        FixPattern.successes, FixPattern.failures, succeeded, failed, origin, Value.fieldOf, Timestamp.toJson, last]
  · cases used : p.lastUsed <;>
      simp [PatternFields.finish, FixPattern.reread, FixPattern.successes, FixPattern.failures, used]

/-- What a document is read back as: only confidences may differ, and scripts are sorted. -/
def StoreDocument.reread (doc : StoreDocument) : StoreDocument :=
  { doc with
    patterns := doc.patterns.map (·.reread)
    templates := doc.templates.map (·.reread) }

theorem StoreDocument.read_toJson (inside : 6 < room) {doc : StoreDocument}
    (moment : Timestamp.ofText? doc.updated.toText = some doc.updated)
    (patterns : ∀ p ∈ doc.patterns, ∀ t ∈ p.lastUsed, Timestamp.ofText? t.toText = some t) :
    StoreDocument.read ⟨room, doc.toJson.draft⟩ = .ok doc.reread := by
  have updated := parsed_draft (room - 1) moment
  have fixes : listOf FixPattern.read ⟨room - 1, (Value.list (doc.patterns.map FixPattern.toJson)).draft⟩ =
      .ok (doc.patterns.map (·.reread)) :=
    listOf_draft (by omega) doc.patterns _ _ fun p member => p.read_toJson (by omega) (patterns p member)
  have shapes : listOf WidgetTemplate.read
      ⟨room - 1, (Value.list (doc.templates.map WidgetTemplate.toJson)).draft⟩ =
        .ok (doc.templates.map (·.reread)) :=
    listOf_draft (by omega) doc.templates _ _ fun t _ => t.read_toJson (by omega)
  have notes : listOf ApiNote.read ⟨room - 1, (Value.list (doc.notes.map ApiNote.toJson)).draft⟩ =
      .ok (doc.notes.map id) :=
    listOf_draft (by omega) doc.notes _ _ fun n _ => n.read_toJson (by omega)
  have practices : listOf Practice.read ⟨room - 1, (Value.list (doc.practices.map Practice.toJson)).draft⟩ =
      .ok (doc.practices.map id) :=
    listOf_draft (by omega) doc.practices _ _ fun p _ => p.read_toJson (by omega)
  rw [List.map_id] at notes practices
  refine recordOf_draft (by omega)
    ⟨some doc.version, some doc.updated, some (doc.patterns.map (·.reread)),
      some (doc.templates.map (·.reread)), some doc.notes, some doc.practices⟩ ?_ rfl
  simp [namedFields, DocumentFields.all, Field.of, bind, Except.bind, pure, Except.pure, Timestamp.toJson,
    updated, fixes, shapes, notes, practices]

/-- A pattern that can be written so that it is read back: its confidence is a number, and it was
used at a moment of the calendar. -/
structure FixPattern.Sound (p : FixPattern) : Prop where
  confidence : p.confidence.isFinite = true
  lastUsed : ∀ t ∈ p.lastUsed, t.Valid

structure StoreDocument.Sound (doc : StoreDocument) : Prop where
  updated : doc.updated.Valid
  patterns : ∀ p ∈ doc.patterns, p.Sound
  templates : ∀ t ∈ doc.templates, t.confidence.isFinite = true

/-- The builtin patterns can be written. -/
theorem Builtin.sound_patterns : ∀ p ∈ Builtin.patterns, p.Sound := by
  have checked : ∀ p ∈ Builtin.patterns, p.confidence.isFinite = true ∧ p.lastUsed = none := by decide +kernel
  intro p member
  obtain ⟨finite, unused⟩ := checked p member
  refine ⟨finite, fun t used => ?_⟩
  rw [unused] at used
  cases used

namespace Json.Value

@[simp] theorem legible_text (s : String) : (Value.text s).Legible := by simp [Value.Legible]

@[simp] theorem legible_texts (texts : List String) : (Value.ofTexts texts).Legible := by
  simp [Value.ofTexts, Value.Legible]

@[simp] theorem legible_counter (count : UInt32) : (Value.ofNat count.toNat).Legible := by
  have limit : 2 ^ 32 ≤ naturalLimit := by decide
  simpa [Value.ofNat, Value.Legible] using Number.legible_natural (count.toNat_lt.trans_le limit)

theorem legible_real {x : Float} (finite : x.isFinite = true) : (Value.ofFloat x).Legible := by
  simpa [Value.ofFloat, Value.Legible] using (real_legible finite).1

end Json.Value

open Json.Value

theorem FixAction.legible (fix : FixAction) : fix.toJson.Legible := by
  cases fix with
  | configChange scripts =>
    simp only [FixAction.toJson, Value.Legible, legibleFields_iff, List.mem_cons, List.not_mem_nil, or_false]
    rintro field (rfl | rfl)
    · simp
    · simp only [Value.Legible, legibleFields_iff, List.mem_map]
      rintro script ⟨pair, -, rfl⟩
      exact legible_text _
  | _ => simp [FixAction.toJson, Value.Legible]

theorem FixPattern.legible {p : FixPattern} (sound : p.Sound) : p.toJson.Legible := by
  have fix := p.fix.legible
  have confidence := legible_real sound.confidence
  cases used : p.lastUsed <;>
    simp [FixPattern.toJson, Value.Legible, Value.fieldOf, Timestamp.toJson, used, fix, confidence,
      FixPattern.successes, FixPattern.failures]

theorem WidgetTemplate.legible {t : WidgetTemplate} (sound : t.confidence.isFinite = true) : t.toJson.Legible := by
  simp [WidgetTemplate.toJson, Value.Legible, legible_real sound, WidgetTemplate.successes, WidgetTemplate.failures]

namespace StoreDocument

variable {doc : StoreDocument}

theorem legible (sound : doc.Sound) : doc.toJson.Legible := by
  have patterns : ∀ p ∈ doc.patterns, p.toJson.Legible := fun p member => p.legible (sound.patterns p member)
  have templates : ∀ t ∈ doc.templates, t.toJson.Legible := fun t member => t.legible (sound.templates t member)
  simpa [StoreDocument.toJson, Value.Legible, Timestamp.toJson, ApiNote.toJson, Practice.toJson] using
    ⟨patterns, templates⟩

/-- The text of a document is read, and only confidences may be read as other numbers. -/
theorem ofText_toText (sound : doc.Sound) : StoreDocument.ofText doc.toText = .ok doc.reread := by
  refine (decode_pretty StoreDocument.read (legible sound)).trans ?_
  refine read_toJson (by decide) (Timestamp.ofText?_toText sound.updated) fun p member t used => ?_
  exact Timestamp.ofText?_toText ((sound.patterns p member).lastUsed t used)

/-- A document that is read back can be written again. -/
theorem Sound.reread (sound : doc.Sound) : doc.reread.Sound := by
  obtain ⟨updated, patterns, templates⟩ := sound
  refine ⟨updated, fun p member => ?_, fun t member => ?_⟩
  · obtain ⟨q, among, rfl⟩ := List.mem_map.mp member
    exact ⟨(real_legible (patterns q among).confidence).2, (patterns q among).lastUsed⟩
  · obtain ⟨u, among, rfl⟩ := List.mem_map.mp member
    exact (real_legible (templates u among)).2

theorem Sound.completed (sound : doc.Sound) : doc.completed.Sound where
  updated := sound.updated
  patterns := List.forall_mem_append.mpr ⟨sound.patterns, fun p member =>
    Builtin.sound_patterns p (List.mem_filter.mp member).1⟩
  templates := sound.templates

end StoreDocument

end WidgetRepair
