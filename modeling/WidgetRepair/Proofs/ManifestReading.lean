import WidgetRepair.Proofs.DocumentReading
import WidgetRepair.Proofs.PlannedRepair

/-! A manifest is read back from the text that is written for it. Its numbers have a text, its records are no deeper
than before, and sorting its fields loses none of their names. -/

namespace WidgetRepair

namespace Json

/-- Fields by name, each name once. -/
def Ascending (fields : List (String × Value)) : Prop := fields.Pairwise (·.1 < ·.1)

section Sorted

variable {name m : String} {v : Value} {fields done : List (String × Value)} {x : String × Value}

theorem eq_or_mem_of_mem_insertSorted (member : x ∈ insertSorted name v fields) : x = (name, v) ∨ x ∈ fields := by
  induction fields with
  | nil => exact .inl (List.mem_singleton.mp member)
  | cons first rest ih =>
    obtain ⟨other, w⟩ := first
    unfold insertSorted at member
    split at member
    next =>
      rcases List.mem_cons.mp member with new | old
      · exact .inl new
      · exact .inr (List.mem_cons_of_mem _ old)
    next =>
      split at member
      next => exact List.mem_cons.mp member
      next =>
        rcases List.mem_cons.mp member with same | later
        · exact .inr (same ▸ List.mem_cons_self)
        · exact (ih later).imp_right (List.mem_cons_of_mem _)

theorem name_mem_insertSorted :
    m ∈ (insertSorted name v fields).map (·.1) ↔ m = name ∨ m ∈ fields.map (·.1) := by
  induction fields with
  | nil => simp [insertSorted]
  | cons first rest ih =>
    obtain ⟨other, w⟩ := first
    unfold insertSorted
    split
    next same => simp [same]
    next =>
      split
      next => simp
      next =>
        rw [List.map_cons, List.mem_cons, ih, List.map_cons, List.mem_cons]
        exact or_left_comm

theorem insertSorted_ascending (v : Value) (ascending : Ascending fields) : Ascending (insertSorted name v fields) := by
  induction fields with
  | nil => exact List.pairwise_singleton ..
  | cons first rest ih =>
    obtain ⟨before, ascending⟩ := List.pairwise_cons.mp ascending
    unfold insertSorted
    split
    next same => exact List.pairwise_cons.mpr ⟨fun x inRest => same ▸ before x inRest, ascending⟩
    next different =>
      split
      next less =>
        refine List.pairwise_cons.mpr ⟨fun x inRest => ?_, List.pairwise_cons.mpr ⟨before, ascending⟩⟩
        rcases List.mem_cons.mp inRest with rfl | later
        · exact less
        · exact less.trans (before x later)
      next notLess =>
        refine List.pairwise_cons.mpr ⟨fun x inPut => ?_, ih ascending⟩
        rcases eq_or_mem_of_mem_insertSorted inPut with rfl | old
        · exact lt_of_le_of_ne (not_lt.mp notLess) (Ne.symm different)
        · exact before x old

/-- A field behind all others is put at the end. -/
theorem insertSorted_last (last : ∀ field ∈ fields, field.1 < name) :
    insertSorted name v fields = fields ++ [(name, v)] := by
  induction fields with
  | nil => rfl
  | cons first rest ih =>
    obtain ⟨earlier, later⟩ := List.forall_mem_cons.mp last
    simp [insertSorted, earlier.ne', earlier.not_gt, ih later]

/-- A field that was put in is found. -/
theorem find_insertSorted : (insertSorted name v fields).find? (·.1 == name) = some (name, v) := by
  induction fields with
  | nil => simp [insertSorted]
  | cons first rest ih =>
    obtain ⟨other, w⟩ := first
    unfold insertSorted
    split
    next => simp
    next different =>
      split
      next => simp
      next =>
        rw [List.find?_cons_of_neg, ih]
        simpa using Ne.symm different

theorem sortedItems_eq (items : List Value) : Value.sortedItems items = items.map Value.sorted := by
  induction items with
  | nil => rfl
  | cons v rest ih => rw [Value.sortedItems, ih, List.map_cons]

theorem mem_sortedFields (member : x ∈ Value.sortedFields fields done) :
    x ∈ done ∨ ∃ field ∈ fields, x = (field.1, field.2.sorted) := by
  induction fields generalizing done with
  | nil => exact .inl member
  | cons first rest ih =>
    rcases ih member with put | ⟨field, inRest, same⟩
    · rcases eq_or_mem_of_mem_insertSorted put with new | old
      · exact .inr ⟨first, List.mem_cons_self, new⟩
      · exact .inl old
    · exact .inr ⟨field, List.mem_cons_of_mem _ inRest, same⟩

theorem name_mem_sortedFields :
    m ∈ (Value.sortedFields fields done).map (·.1) ↔ m ∈ fields.map (·.1) ∨ m ∈ done.map (·.1) := by
  induction fields generalizing done with
  | nil => simp [Value.sortedFields]
  | cons first rest ih =>
    rw [Value.sortedFields, ih, name_mem_insertSorted, List.map_cons, List.mem_cons]
    exact or_left_comm.trans or_assoc.symm

theorem sortedFields_ascending (fields : List (String × Value)) (ascending : Ascending done) :
    Ascending (Value.sortedFields fields done) := by
  induction fields generalizing done with
  | nil => exact ascending
  | cons first rest ih => exact ih (insertSorted_ascending _ ascending)

/-- Fields that are in order stay where they are. -/
theorem sortedFields_of_ascending (ascending : Ascending (done ++ fields)) :
    Value.sortedFields fields done = done ++ fields.map fun field => (field.1, field.2.sorted) := by
  induction fields generalizing done with
  | nil => simp [Value.sortedFields]
  | cons first rest ih =>
    have last : ∀ other ∈ done, other.1 < first.1 := fun other member =>
      (List.pairwise_append.mp ascending).2.2 other member first List.mem_cons_self
    have later : Ascending (done ++ [(first.1, first.2.sorted)] ++ rest) := by
      have names : ((done ++ [(first.1, first.2.sorted)] ++ rest).map (·.1)) = (done ++ first :: rest).map (·.1) := by
        simp
      unfold Ascending at ascending ⊢
      rw [← List.pairwise_map (f := Prod.fst)] at ascending ⊢
      exact names ▸ ascending
    rw [Value.sortedFields, insertSorted_last last, ih later, List.append_assoc, List.singleton_append, List.map_cons]

theorem sorted_of_ascending (ascending : Ascending fields) :
    (Value.record fields).sorted = .record (fields.map fun field => (field.1, field.2.sorted)) :=
  congrArg Value.record (@sortedFields_of_ascending fields [] ascending)

theorem ascending_map (f : Value → Value) (ascending : Ascending fields) :
    Ascending (fields.map fun field => (field.1, f field.2)) := List.pairwise_map.mpr ascending

end Sorted

mutual

/-- A value whose numbers have a text, and that is no deeper than may be entered. -/
def Value.Readable (room : Nat) : Value → Prop
  | .number n => n.Legible
  | .list items => 1 < room ∧ Value.ReadableItems (room - 1) items
  | .record fields => 1 < room ∧ Value.ReadableFields (room - 1) fields
  | _ => True

def Value.ReadableItems (room : Nat) : List Value → Prop
  | [] => True
  | v :: rest => v.Readable room ∧ Value.ReadableItems room rest

def Value.ReadableFields (room : Nat) : List (String × Value) → Prop
  | [] => True
  | (_, v) :: rest => v.Readable room ∧ Value.ReadableFields room rest

end

mutual

/-- A value as it is read back: numbers may come back as others. -/
def Value.reread : Value → Value
  | .number n => .number n.reread
  | .list items => .list (Value.rereadItems items)
  | .record fields => .record (Value.rereadFields fields)
  | v => v

def Value.rereadItems : List Value → List Value
  | [] => []
  | v :: rest => v.reread :: Value.rereadItems rest

def Value.rereadFields : List (String × Value) → List (String × Value)
  | [] => []
  | (name, v) :: rest => (name, v.reread) :: Value.rereadFields rest

end

section Readable

variable {room : Nat} {v : Value}

@[simp] theorem readableItems_iff (items : List Value) :
    Value.ReadableItems room items ↔ ∀ v ∈ items, v.Readable room := by
  induction items with
  | nil => simp [Value.ReadableItems]
  | cons v rest ih => simp [Value.ReadableItems, ih]

@[simp] theorem readableFields_iff (fields : List (String × Value)) :
    Value.ReadableFields room fields ↔ ∀ field ∈ fields, field.2.Readable room := by
  induction fields with
  | nil => simp [Value.ReadableFields]
  | cons field rest ih => simp [Value.ReadableFields, ih]

theorem readable_record_iff {fields : List (String × Value)} :
    (Value.record fields).Readable room ↔ 1 < room ∧ ∀ field ∈ fields, field.2.Readable (room - 1) := by
  rw [Value.Readable, readableFields_iff]

@[simp] theorem rereadFields_eq (fields : List (String × Value)) :
    Value.rereadFields fields = fields.map fun field => (field.1, field.2.reread) := by
  induction fields with
  | nil => rfl
  | cons field rest ih => rw [Value.rereadFields, ih, List.map_cons]

theorem enter_ok {inside : Nat} : enter room = .ok inside ↔ 1 < room ∧ inside = room - 1 := by
  unfold enter
  split
  next shallow => simp; omega
  next deep =>
    constructor
    · rintro ⟨⟩
      exact ⟨by omega, rfl⟩
    · rintro ⟨-, rfl⟩
      rfl

mutual

/-- What is read can be written so that it is read back. -/
theorem readable_value (d : Draft) (room : Nat) {v : Value} (numbers : d.Numbers Number.Legible)
    (read : d.value room = .ok v) : v.Readable room := by
  cases d with
  | null | flag =>
    cases read
    simp [Value.Readable]
  | number n =>
    cases n with
    | error f => cases read
    | ok n =>
      cases read
      rw [Value.Readable]
      exact numbers n rfl
  | text s =>
    cases s with
    | error f => cases read
    | ok s =>
      cases read
      simp [Value.Readable]
  | list items ending =>
    rw [Draft.value] at read
    obtain ⟨inside, entered, read⟩ := bind_ok read
    obtain ⟨values, each, read⟩ := bind_ok read
    obtain ⟨_, _, same⟩ := bind_ok read
    cases same
    obtain ⟨deep, rfl⟩ := enter_ok.mp entered
    rw [Value.Readable]
    exact ⟨deep, readable_valueItems items _ numbers each⟩
  | record fields ending =>
    rw [Draft.value] at read
    obtain ⟨inside, entered, read⟩ := bind_ok read
    obtain ⟨values, each, read⟩ := bind_ok read
    obtain ⟨_, _, same⟩ := bind_ok read
    cases same
    obtain ⟨deep, rfl⟩ := enter_ok.mp entered
    rw [Value.Readable]
    exact ⟨deep, readable_valueFields fields _ numbers each⟩
  | broken => cases read

theorem readable_valueItems (items : List Draft) (room : Nat) {values : List Value}
    (numbers : Draft.NumbersItems Number.Legible items) (read : Draft.valueItems room items = .ok values) :
    Value.ReadableItems room values := by
  cases items with
  | nil =>
    cases read
    trivial
  | cons item rest =>
    obtain ⟨first, others⟩ := numbers
    obtain ⟨v, value, read⟩ := bind_ok read
    obtain ⟨values, later, same⟩ := bind_ok read
    cases same
    exact ⟨readable_value item room first value, readable_valueItems rest room others later⟩

theorem readable_valueFields (fields : List (Except Fault String × Draft)) (room : Nat)
    {values : List (String × Value)} (numbers : Draft.NumbersFields Number.Legible fields)
    (read : Draft.valueFields room fields = .ok values) : Value.ReadableFields room values := by
  cases fields with
  | nil =>
    cases read
    trivial
  | cons field rest =>
    obtain ⟨name, item⟩ := field
    obtain ⟨first, others⟩ := numbers
    obtain ⟨_, _, read⟩ := bind_ok read
    obtain ⟨v, value, read⟩ := bind_ok read
    obtain ⟨values, later, same⟩ := bind_ok read
    cases same
    exact ⟨readable_value item room first value, readable_valueFields rest room others later⟩

end

theorem Value.Readable.legible (readable : v.Readable room) : v.Legible := by
  induction v using Value.contents generalizing room with
  | null | flag | text => simp [Value.Legible]
  | number n => simpa [Value.Legible, Value.Readable] using readable
  | list items ih =>
    simp only [Value.Readable, readableItems_iff, Value.Legible, legibleItems_iff] at readable ⊢
    exact fun v member => ih v member (readable.2 v member)
  | record fields ih =>
    simp only [Value.Readable, readableFields_iff, Value.Legible, legibleFields_iff] at readable ⊢
    exact fun field member => ih field member (readable.2 field member)

theorem Value.Readable.sorted (readable : v.Readable room) : v.sorted.Readable room := by
  induction v using Value.contents generalizing room with
  | null | flag | text | number => exact readable
  | list items ih =>
    simp only [Value.sorted, Value.Readable, readableItems_iff, sortedItems_eq, List.forall_mem_map] at readable ⊢
    exact ⟨readable.1, fun v member => ih v member (readable.2 v member)⟩
  | record fields ih =>
    simp only [Value.sorted, Value.Readable, readableFields_iff] at readable ⊢
    refine ⟨readable.1, fun x member => ?_⟩
    obtain ⟨⟨⟩⟩ | ⟨field, among, rfl⟩ := mem_sortedFields member
    exact ih field among (readable.2 field among)

theorem Value.Readable.value (readable : v.Readable room) : v.draft.value room = .ok v.reread := by
  induction v using Value.contents generalizing room with
  | null | flag | text | number => simp [Value.draft, Draft.value, Value.reread, Except.map]
  | list items ih =>
    simp only [Value.Readable, readableItems_iff] at readable
    obtain ⟨deep, each⟩ := readable
    have items : Draft.valueItems (room - 1) (Value.draftItems items) = .ok (Value.rereadItems items) := by
      clear deep
      induction items with
      | nil => rfl
      | cons v rest later =>
        have first := ih v List.mem_cons_self (each v List.mem_cons_self)
        have others := later (fun w member => ih w (List.mem_cons_of_mem _ member))
          fun w member => each w (List.mem_cons_of_mem _ member)
        rw [Value.draftItems, Draft.valueItems, first, others]
        rfl
    rw [Value.draft, Draft.value, enter_ok.mpr ⟨deep, rfl⟩, Value.reread]
    simp only [bind, Except.bind, items]
    rfl
  | record fields ih =>
    simp only [Value.Readable, readableFields_iff] at readable
    obtain ⟨deep, each⟩ := readable
    have fields : Draft.valueFields (room - 1) (Value.draftFields fields) = .ok (Value.rereadFields fields) := by
      clear deep
      induction fields with
      | nil => rfl
      | cons field rest later =>
        have first := ih field List.mem_cons_self (each field List.mem_cons_self)
        have others := later (fun w member => ih w (List.mem_cons_of_mem _ member))
          fun w member => each w (List.mem_cons_of_mem _ member)
        rw [Value.draftFields, Draft.valueFields, first, others]
        rfl
    rw [Value.draft, Draft.value, enter_ok.mpr ⟨deep, rfl⟩, Value.reread]
    simp only [bind, Except.bind, fields]
    rfl

end Readable

end Json

namespace Edit

open Json Disk

variable {folder : Path} {d : Disk} {text name : String} {manifest fields : List (String × Value)}
  {wanted added : Scripts}

theorem readManifest_ok (read : readManifest text = .ok manifest) :
    ∃ v, parse text = .ok v ∧ v.sorted = .record manifest := by
  unfold readManifest at read
  cases parsed : parse text with
  | error f =>
    rw [parsed] at read
    cases read
  | ok v =>
    refine ⟨v, rfl, ?_⟩
    rw [parsed] at read
    cases v with
    | record fields =>
      cases read
      rfl
    | _ => cases read

theorem readManifest_error {f : EditFault} (bad : readManifest text = .error f) :
    (∃ g, parse text = .error g ∧ f = .manifestText g) ∨
      ∃ v, parse text = .ok v ∧ (∀ fields, v ≠ .record fields) ∧ f = .manifestShape := by
  unfold readManifest at bad
  cases parsed : parse text with
  | error g =>
    rw [parsed] at bad
    cases bad
    exact .inl ⟨g, rfl, rfl⟩
  | ok v =>
    refine .inr ⟨v, rfl, ?_⟩
    rw [parsed] at bad
    cases v with
    | record fields => cases bad
    | _ =>
      cases bad
      exact ⟨nofun, rfl⟩

theorem readManifest_sound (read : readManifest text = .ok manifest) :
    Ascending manifest ∧ (Value.record manifest).Readable 128 := by
  obtain ⟨v, parsed, sorted⟩ := readManifest_ok read
  have numbers := Draft.numbers_ofText (fun _ _ => legible_value) text.toList
  have readable := (readable_value _ 128 numbers (decode_ok parsed)).sorted
  cases v with
  | record fields =>
    cases sorted
    exact ⟨sortedFields_ascending fields List.Pairwise.nil, readable⟩
  | _ => cases sorted

/-- A field as it is read back from a manifest. -/
def rewritten (field : String × Value) : String × Value := (field.1, field.2.sorted.reread.sorted)

/-- A manifest is read back from the text that is written for it. -/
theorem readManifest_fileText (ascending : Ascending fields) (readable : (Value.record fields).Readable 128) :
    readManifest (Manifest.fileText (.record fields)) = .ok (fields.map rewritten) := by
  have parsed : parse (Manifest.fileText (.record fields)) = .ok (Value.record fields).sorted.reread := by
    have blank : ∀ c ∈ ['\n'], isSpace c = true := by simp [isSpace]
    have text : Manifest.fileText (.record fields) =
        String.ofList ((Value.record fields).sorted.laid .pretty 0 ++ ['\n']) := by
      rw [String.ofList_append, ← indented_eq]
      rfl
    unfold parse
    rw [text, decode_laid_blank _ _ _ readable.sorted.legible blank]
    exact readable.sorted.value
  have sorted : (Value.record fields).sorted.reread.sorted = .record (fields.map rewritten) := by
    have again := sorted_of_ascending (ascending_map (fun v => v.sorted.reread) ascending)
    rw [List.map_map] at again
    rw [sorted_of_ascending ascending, Value.reread, rereadFields_eq, List.map_map]
    exact again
  unfold readManifest
  rw [parsed]
  simp only [Except.mapError, bind, Except.bind, sorted]
  rfl

theorem scriptsOf_readable (readable : (Value.record manifest).Readable 128) :
    (Value.record (scriptsOf manifest)).Readable 127 := by
  unfold scriptsOf
  split
  next found => exact (readable_record_iff.mp readable).2 _ (List.mem_of_find?_eq_some found)
  next => exact readable_record_iff.mpr ⟨by decide, nofun⟩

/-- The scripts of a manifest with others put in. -/
def scriptsWith (manifest : List (String × Value)) (added : Scripts) : List (String × Value) :=
  added.foldl (fun all (name, command) => insertSorted name (.text command) all) (scriptsOf manifest)

theorem name_mem_scriptsWith : name ∈ (scriptsWith manifest added).map (·.1) ↔
    name ∈ added.map (·.1) ∨ name ∈ (scriptsOf manifest).map (·.1) := by
  unfold scriptsWith
  generalize scriptsOf manifest = scripts
  induction added generalizing scripts with
  | nil => simp
  | cons script rest ih =>
    rw [List.foldl_cons, ih, name_mem_insertSorted, List.map_cons, List.mem_cons]
    exact or_left_comm.trans or_assoc.symm

theorem scriptsWith_readable (readable : (Value.record manifest).Readable 128) (added : Scripts) :
    (Value.record (scriptsWith manifest added)).Readable 127 := by
  obtain ⟨deep, each⟩ := readable_record_iff.mp (scriptsOf_readable readable)
  refine readable_record_iff.mpr ⟨deep, ?_⟩
  unfold scriptsWith
  generalize scriptsOf manifest = scripts at each
  induction added generalizing scripts with
  | nil => exact each
  | cons script rest ih =>
    refine ih (insertSorted script.1 (.text script.2) scripts) fun field member => ?_
    rcases eq_or_mem_of_mem_insertSorted member with rfl | old
    · simp [Value.Readable]
    · exact each field old

theorem withScripts_readable (readable : (Value.record manifest).Readable 128) (added : Scripts) :
    (Value.record (withScripts manifest added)).Readable 128 := by
  refine readable_record_iff.mpr ⟨by decide, fun field member => ?_⟩
  rcases eq_or_mem_of_mem_insertSorted member with rfl | old
  · exact scriptsWith_readable readable added
  · exact (readable_record_iff.mp readable).2 field old

/-- Scripts that were put in are found when the manifest is read back. -/
theorem name_mem_scriptsOf_rewritten : name ∈ (scriptsOf ((withScripts manifest added).map rewritten)).map (·.1) ↔
    name ∈ (scriptsWith manifest added).map (·.1) := by
  have found : ((withScripts manifest added).map rewritten).find? (·.1 == "scripts") =
      some (rewritten ("scripts", .record (scriptsWith manifest added))) := by
    rw [List.find?_map]
    exact congrArg (Option.map rewritten) find_insertSorted
  unfold scriptsOf
  rw [found]
  simp only [rewritten, Value.sorted, Value.reread, rereadFields_eq, name_mem_sortedFields, List.map_map, List.map_nil,
    List.not_mem_nil, or_false, Function.comp_def]

theorem any_name {scripts : List (String × Value)} :
    scripts.any (·.1 == name) = true ↔ name ∈ scripts.map (·.1) := by
  rw [List.any_eq_true, List.mem_map]
  simp only [beq_iff_eq]

theorem lacks_iff {scripts : List (String × Value)} :
    (!scripts.any (·.1 == name)) = true ↔ name ∉ scripts.map (·.1) := by
  rw [Bool.not_eq_true', Bool.eq_false_iff, ne_eq, any_name]

/-- Nothing is missing any more from a manifest that what was missing was put into. -/
theorem missingScripts_rewritten (manifest : List (String × Value)) (wanted : Scripts) :
    missingScripts ((withScripts manifest (missingScripts manifest wanted)).map rewritten) wanted = [] := by
  refine List.filter_eq_nil_iff.mpr ?_
  rintro ⟨name, command⟩ member lacking
  refine lacks_iff.mp lacking (name_mem_scriptsOf_rewritten.mpr (name_mem_scriptsWith.mpr ?_))
  by_cases present : name ∈ (scriptsOf manifest).map (·.1)
  · exact .inr present
  · exact .inl (List.mem_map.mpr ⟨(name, command), List.mem_filter.mpr ⟨member, lacks_iff.mpr present⟩, rfl⟩)

/-- Where no script is missing nothing is written. -/
theorem ensureScripts_idle (read : d.readText (folder / Manifest.fileName) = .ok text)
    (known : readManifest text = .ok manifest) (complete : missingScripts manifest wanted = []) :
    Ends (ensureScripts folder wanted) d fun result after => result = .ok [] ∧ after = d := by
  unfold ensureScripts
  refine .looked ?_
  dsimp only
  split
  next missing => simp [isFile_of_readText read] at missing
  next =>
    refine (read_ends _ d).bind ?_ ?_
    · rintro _ _ ⟨rfl, ⟨_, ⟨⟩, read'⟩ | ⟨_, ⟨⟩, _⟩⟩
      cases read.symm.trans read'
      refine .granted ?_ ?_
      · intro _ known'
        cases known.symm.trans known'
        rw [complete]
        exact .returned ⟨rfl, rfl⟩
      · intro _ unknown
        cases known.symm.trans unknown
    · rintro _ _ ⟨rfl, ⟨_, ⟨⟩, _⟩ | ⟨_, ⟨⟩, unread⟩⟩
      cases unread.symm.trans read

/-- Scripts are added once: where they were added none is missing. -/
theorem ensureScripts_again (folder : Path) (wanted : Scripts) (tree : d.IsTree) :
    Ends (ensureScripts folder wanted) d fun result after => ∀ names, result = .ok names →
      (ensureScripts folder wanted).run after = (.ok [], after) := by
  have idle {now : Disk} {text : String} {manifest : List (String × Value)}
      (read : now.readText (folder / Manifest.fileName) = .ok text) (known : readManifest text = .ok manifest)
      (complete : missingScripts manifest wanted = []) :
      (ensureScripts folder wanted).run now = (.ok [], now) := by
    obtain ⟨result, same⟩ := ensureScripts_idle read known complete
    exact Prod.ext result same
  rw [ensureScripts]
  refine .looked ?_
  dsimp only
  split
  next => exact .broken nofun
  next =>
    refine (read_ends _ d).bind ?_ nofun
    rintro text _ ⟨rfl, ⟨_, ⟨⟩, read⟩ | ⟨_, ⟨⟩, _⟩⟩
    refine .granted ?_ nofun
    intro manifest known
    obtain ⟨ascending, readable⟩ := readManifest_sound known
    have again := missingScripts_rewritten manifest wanted
    have back := readManifest_fileText (insertSorted_ascending _ ascending)
      (withScripts_readable readable (missingScripts manifest wanted))
    cases added : missingScripts manifest wanted with
    | nil => exact .returned fun _ _ => idle read known added
    | cons first others =>
      rw [added] at again back
      refine (write_put _ _ tree).bind ?_ nofun
      rintro _ _ (⟨-, l, writable, -, rfl⟩ | ⟨⟨_, ⟨⟩⟩, -⟩)
      exact .returned fun _ _ => idle (readText_put writable _) back again

end Edit

end WidgetRepair
