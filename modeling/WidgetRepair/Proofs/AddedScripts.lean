import WidgetRepair.Proofs.ManifestReading

/-! Scripts that are added to a manifest. Those that it lacks come into it with their commands; what else it holds
stays as it is, and nothing is written where none is lacking. -/

namespace WidgetRepair

namespace Json

section Fields

variable {name other : String} {v : Value} {fields : List (String × Value)}

/-- Where names come once, the last field of a name is the first one. -/
theorem find_reverse (ascending : Ascending fields) (name : String) :
    fields.reverse.find? (·.1 == name) = fields.find? (·.1 == name) := by
  induction fields with
  | nil => rfl
  | cons first rest ih =>
    obtain ⟨before, ascending⟩ := List.pairwise_cons.mp ascending
    rw [List.reverse_cons, List.find?_append, ih ascending, List.find?_cons]
    cases same : first.1 == name with
    | true =>
      have none : rest.find? (·.1 == name) = none := List.find?_eq_none.mpr fun field member found =>
        (before field member).ne ((beq_iff_eq.mp same).trans (beq_iff_eq.mp found).symm)
      simp [none, same]
    | false => simp [same]

theorem get?_record (ascending : Ascending fields) (name : String) :
    (Value.record fields).get? name = (fields.find? (·.1 == name)).map (·.2) :=
  congrArg (Option.map Prod.snd) (find_reverse ascending name)

theorem get?_eq_none : (Value.record fields).get? name = none ↔ name ∉ fields.map (·.1) := by
  simp only [Value.get?, Option.map_eq_none_iff, List.find?_eq_none, List.mem_reverse, List.mem_map, not_exists,
    not_and, beq_iff_eq]

theorem find_insertSorted_other (different : other ≠ name) :
    (insertSorted name v fields).find? (·.1 == other) = fields.find? (·.1 == other) := by
  induction fields with
  | nil => simp [insertSorted, different.symm]
  | cons first rest ih =>
    obtain ⟨head, w⟩ := first
    unfold insertSorted
    split
    next same => simp [same ▸ different.symm, different.symm]
    next =>
      split
      next => rw [List.find?_cons_of_neg (by simpa using different.symm)]
      next => rw [List.find?_cons, List.find?_cons, ih]

/-- Setting a field changes what is found under its name, and nothing else. -/
theorem get?_insertSorted (ascending : Ascending fields) (name other : String) (v : Value) :
    (Value.record (insertSorted name v fields)).get? other =
      if other = name then some v else (Value.record fields).get? other := by
  rw [get?_record (insertSorted_ascending v ascending), get?_record ascending]
  split
  next same => rw [same, find_insertSorted, Option.map_some]
  next different => rw [find_insertSorted_other different]

/-- A record is in order if its names are and its values are. -/
theorem sorted_record_iff : (Value.record fields).sorted = .record fields ↔
    Ascending fields ∧ ∀ field ∈ fields, field.2.sorted = field.2 := by
  constructor
  · intro sorted
    have ascending : Ascending fields := by
      have ordered : Ascending (Value.sortedFields fields []) := sortedFields_ascending fields List.Pairwise.nil
      rwa [Value.record.inj sorted] at ordered
    refine ⟨ascending, fun field member => ?_⟩
    rw [sorted_of_ascending ascending] at sorted
    have same := (Value.record.inj sorted).trans (List.map_id fields).symm
    exact (Prod.ext_iff.mp (List.map_inj_left.mp same field member)).2
  · rintro ⟨ascending, each⟩
    rw [sorted_of_ascending ascending]
    refine congrArg Value.record (Eq.trans (List.map_congr_left fun field member => ?_) (List.map_id fields))
    rw [each field member, id]

theorem sorted_sorted (v : Value) : v.sorted.sorted = v.sorted := by
  induction v using Value.contents with
  | null | flag | text | number => rfl
  | list items ih =>
    rw [Value.sorted, Value.sorted, sortedItems_eq, sortedItems_eq, List.map_map]
    exact congrArg Value.list (List.map_congr_left ih)
  | record fields ih =>
    refine sorted_record_iff.mpr ⟨sortedFields_ascending fields List.Pairwise.nil, fun x member => ?_⟩
    obtain ⟨⟨⟩⟩ | ⟨field, among, rfl⟩ := mem_sortedFields member
    exact ih field among

theorem sorted_insertSorted (sorted : (Value.record fields).sorted = .record fields) (value : v.sorted = v) :
    (Value.record (insertSorted name v fields)).sorted = .record (insertSorted name v fields) := by
  obtain ⟨ascending, each⟩ := sorted_record_iff.mp sorted
  refine sorted_record_iff.mpr ⟨insertSorted_ascending v ascending, fun field member => ?_⟩
  rcases eq_or_mem_of_mem_insertSorted member with rfl | old
  · exact value
  · exact each field old

end Fields

/-- What a manifest has for a script of a name; nothing where its scripts are no record. -/
def Value.script? (manifest : Value) (name : String) : Option Value :=
  (manifest.get? "scripts").bind (·.get? name)

end Json

namespace Edit

open Json Disk

/-- The names of the wanted scripts that a manifest lacks, in order. -/
structure Lacks (old : Value) (wanted : Scripts) (names : List String) : Prop where
  ordered : names.Pairwise (· < ·)
  exact : ∀ name, name ∈ names ↔ name ∈ wanted.map (·.1) ∧ old.script? name = none

/-- What a manifest is when scripts were added to it. -/
structure Supplied (old written : Value) (wanted : Scripts) (added : List String) : Prop where
  others : ∀ name, name ≠ "scripts" → written.get? name = old.get? name
  scripts : ∃ all, written.get? "scripts" = some (.record all)
  kept : ∀ name, name ∉ added → written.script? name = old.script? name
  given : ∀ name command, (name, command) ∈ wanted → name ∈ added → written.script? name = some (.text command)
  sorted : written.sorted = written

section Scripts

variable {manifest : List (String × Value)} {wanted added : Scripts}

theorem find_named {script : String × String} (distinct : (added.map (·.1)).Nodup) (member : script ∈ added) :
    added.find? (·.1 == script.1) = some script := by
  cases first : added.find? (·.1 == script.1) with
  | none => exact absurd (beq_self_eq_true script.1) (List.find?_eq_none.mp first script member)
  | some other =>
    have same := List.find?_some first
    rw [List.inj_on_of_nodup_map distinct (List.mem_of_find?_eq_some first) member (beq_iff_eq.mp same)]

section Sorted

variable (sorted : (Value.record manifest).sorted = .record manifest)

include sorted

theorem scriptsOf_sorted : (Value.record (scriptsOf manifest)).sorted = .record (scriptsOf manifest) := by
  unfold scriptsOf
  split
  next found => exact (sorted_record_iff.mp sorted).2 _ (List.mem_of_find?_eq_some found)
  next => rfl

theorem script?_scriptsOf (name : String) :
    (Value.record manifest).script? name = (Value.record (scriptsOf manifest)).get? name := by
  unfold Value.script? scriptsOf
  rw [get?_record (sorted_record_iff.mp sorted).1]
  split
  next found =>
    rw [found]
    rfl
  next other =>
    cases found : manifest.find? (·.1 == "scripts") with
    | none => rfl
    | some field =>
      obtain ⟨first, v⟩ := field
      cases v with
      | record scripts => exact absurd found (other first scripts)
      | _ => rfl

theorem sorted_scriptsWith (added : Scripts) :
    (Value.record (scriptsWith manifest added)).sorted = .record (scriptsWith manifest added) := by
  have inOrder := scriptsOf_sorted sorted
  unfold scriptsWith
  generalize scriptsOf manifest = scripts at inOrder
  induction added generalizing scripts with
  | nil => exact inOrder
  | cons script rest ih => exact ih _ (sorted_insertSorted inOrder rfl)

/-- Under the name of a script is its command where it was added, and else what was there. -/
theorem get?_scriptsWith (distinct : (added.map (·.1)).Nodup) (name : String) :
    (Value.record (scriptsWith manifest added)).get? name =
      ((added.find? (·.1 == name)).map fun script => .text script.2).or ((Value.record manifest).script? name) := by
  rw [script?_scriptsOf sorted]
  have ascending := (sorted_record_iff.mp (scriptsOf_sorted sorted)).1
  unfold scriptsWith
  generalize scriptsOf manifest = scripts at ascending
  induction added generalizing scripts with
  | nil => rfl
  | cons script rest ih =>
    obtain ⟨single, distinct⟩ := List.nodup_cons.mp distinct
    rw [List.foldl_cons, ih distinct _ (insertSorted_ascending _ ascending), get?_insertSorted ascending,
      List.find?_cons]
    by_cases same : script.1 = name
    · have none : rest.find? (·.1 == name) = none := List.find?_eq_none.mpr fun other member found =>
        single (List.mem_map.mpr ⟨other, member, (beq_iff_eq.mp found).trans same.symm⟩)
      rw [none, if_pos same.symm, beq_iff_eq.mpr same]
      rfl
    · rw [if_neg (Ne.symm same), beq_eq_false_iff_ne.mpr same]

theorem lacks_missingScripts (ordered : wanted.Pairwise (·.1 < ·.1)) :
    Lacks (.record manifest) wanted ((missingScripts manifest wanted).map (·.1)) where
  ordered := List.pairwise_map.mpr (ordered.filter _)
  exact name := by
    rw [script?_scriptsOf sorted, get?_eq_none]
    constructor
    · intro missing
      obtain ⟨script, member, rfl⟩ := List.mem_map.mp missing
      obtain ⟨among, lacking⟩ := List.mem_filter.mp member
      exact ⟨List.mem_map_of_mem among, lacks_iff.mp lacking⟩
    · rintro ⟨member, lacking⟩
      obtain ⟨script, among, rfl⟩ := List.mem_map.mp member
      exact List.mem_map_of_mem (List.mem_filter.mpr ⟨among, lacks_iff.mpr lacking⟩)

theorem get?_scripts : (Value.record (withScripts manifest added)).get? "scripts" =
    some (.record (scriptsWith manifest added)) :=
  (get?_insertSorted (sorted_record_iff.mp sorted).1 _ _ _).trans (if_pos rfl)

theorem script?_withScripts (distinct : (added.map (·.1)).Nodup) (name : String) :
    (Value.record (withScripts manifest added)).script? name =
      ((added.find? (·.1 == name)).map fun script => .text script.2).or ((Value.record manifest).script? name) := by
  rw [Value.script?, get?_scripts sorted, Option.bind_some, get?_scriptsWith sorted distinct]

/-- What is missing in a manifest comes into it, and nothing else changes. -/
theorem supplied_withScripts (ordered : wanted.Pairwise (·.1 < ·.1)) :
    Supplied (.record manifest) (.record (withScripts manifest (missingScripts manifest wanted))) wanted
      ((missingScripts manifest wanted).map (·.1)) := by
  have distinct : (wanted.map (·.1)).Nodup := (List.pairwise_map.mpr ordered).imp ne_of_lt
  have distinct' : ((missingScripts manifest wanted).map (·.1)).Nodup := distinct.sublist (List.filter_sublist.map _)
  constructor
  case others =>
    exact fun name other => (get?_insertSorted (sorted_record_iff.mp sorted).1 _ _ _).trans (if_neg other)
  case scripts => exact ⟨_, get?_scripts sorted⟩
  case kept =>
    intro name other
    have none : (missingScripts manifest wanted).find? (·.1 == name) = none :=
      List.find?_eq_none.mpr fun script member same => other (List.mem_map.mpr ⟨script, member, beq_iff_eq.mp same⟩)
    rw [script?_withScripts sorted distinct', none]
    rfl
  case given =>
    intro name command among added
    obtain ⟨script, member, rfl⟩ := List.mem_map.mp added
    have same := List.inj_on_of_nodup_map distinct (List.mem_filter.mp member).1 among rfl
    rw [script?_withScripts sorted distinct', find_named distinct' member, same]
    rfl
  case sorted => exact sorted_insertSorted sorted (sorted_scriptsWith sorted _)

end Sorted

end Scripts

section Files

variable {d : Disk} {file : Path} {text : String}

/-- A file that was read can be written. -/
theorem writable_of_readText (tree : d.IsTree) (read : d.readText file = .ok text) :
    Writable d file (d.reach file) := by
  obtain ⟨l, located, held⟩ := readText_iff.mp read
  have standing := file?_eq_some.mp held
  have writable : Writable d file l :=
    ⟨located, fun folder => by simp [folder] at standing, tree.rooted _ _ standing, fun free => by
      simp [free] at standing⟩
  exact locate_reach tree located ▸ writable

/-- Writing a file that was read changes nothing else; it fails only where the disk does. -/
theorem write_read (new : String) (tree : d.IsTree) (read : d.readText file = .ok text) :
    Ends (onDisk (OnDisk.writeText file new)) d fun result after =>
      (∀ l, l ≠ d.reach file → after.get? l = d.get? l) ∧
        (result = .ok () ∧ d.hitch = .none ∧ after.readText file = .ok new ∨
          ∃ f, result = .error (.disk f) ∧ d.hitch ≠ .none) := by
  refine .adapted (OnDisk.write_ends file new.toUTF8 tree) ?_
  have place := writable_of_readText tree read
  have elsewhere {l : Location} (writable : Writable d file l) (content : ByteArray) (m : Location)
      (other : m ≠ d.reach file) : (d.spent.put l (.file content)).get? m = d.get? m := by
    rw [get?_put _ writable.inner, if_neg]
    · exact (Alike.spent d).get? m
    · rintro rfl
      exact other (locate_reach tree writable.located)
  intro result after written
  cases written with
  | refused f alike barred =>
    exact ⟨fun l _ => alike.get? l, .inr ⟨f, rfl, fun free => by simp [barred _ place] at free⟩⟩
  | whole writable free => exact ⟨elsewhere writable _, .inl ⟨rfl, free, readText_put writable new⟩⟩
  | cut writable short =>
    exact ⟨elsewhere writable _, .inr ⟨.full, rfl, fun free => by simp [short] at free⟩⟩

end Files

/-- A file holds a manifest with these fields, as they are written. -/
def HoldsManifest (d : Disk) (file : Path) (fields : List (String × Value)) : Prop :=
  ∃ text, d.readText file = .ok text ∧ parse text = .ok (.record fields)

/-- How adding scripts to the manifest in a file ends. -/
inductive ScriptsEnd (file : Path) (wanted : Scripts) (d : Disk) : Except EditFault (List String) → Disk → Prop where
  | missing (absent : d.isFile file = false) : ScriptsEnd file wanted d (.error (.missingManifest file)) d
  | unreadable {f : DiskFault} (present : d.isFile file = true) (unread : d.readText file = .error f) :
    ScriptsEnd file wanted d (.error (.disk f)) d
  | malformed {text : String} {f : Fault} (read : d.readText file = .ok text) (broken : parse text = .error f) :
    ScriptsEnd file wanted d (.error (.manifestText f)) d
  | shapeless {text : String} {v : Value} (read : d.readText file = .ok text) (parsed : parse text = .ok v)
    (other : ∀ fields, v ≠ .record fields) : ScriptsEnd file wanted d (.error .manifestShape) d
  | complete {old : List (String × Value)} (holds : HoldsManifest d file old)
    (lacks : Lacks (Value.record old).sorted wanted []) : ScriptsEnd file wanted d (.ok []) d
  | written {old : List (String × Value)} {new : Value} {added : List String} {after : Disk}
    (holds : HoldsManifest d file old) (lacks : Lacks (Value.record old).sorted wanted added) (some : added ≠ [])
    (supplied : Supplied (Value.record old).sorted new wanted added)
    (held : after.readText file = .ok (new.pretty ++ "\n"))
    (elsewhere : ∀ l, l ≠ d.reach file → after.get? l = d.get? l) (free : d.hitch = .none) :
    ScriptsEnd file wanted d (.ok added) after
  | unwritten {old : List (String × Value)} {added : List String} {f : DiskFault} {after : Disk}
    (holds : HoldsManifest d file old) (lacks : Lacks (Value.record old).sorted wanted added) (some : added ≠ [])
    (elsewhere : ∀ l, l ≠ d.reach file → after.get? l = d.get? l) (trouble : d.hitch ≠ .none) :
    ScriptsEnd file wanted d (.error (.disk f)) after

/-- Adding scripts writes the manifest just if it lacks some of them, and then with these added and nothing else
changed. -/
theorem scripts_only_added {d : Disk} {wanted : Scripts} (tree : d.IsTree) (ordered : wanted.Pairwise (·.1 < ·.1))
    (folder : Path) :
    Ends (ensureScripts folder wanted) d (ScriptsEnd (folder / Manifest.fileName) wanted d) := by
  unfold ensureScripts
  refine .looked ?_
  dsimp only
  split
  next absent => exact .broken (.missing (by simpa using absent))
  next present =>
    refine (read_ends _ d).bind ?_ ?_
    · rintro text _ ⟨rfl, ⟨_, ⟨⟩, read⟩ | ⟨_, ⟨⟩, _⟩⟩
      refine .granted ?_ ?_
      · intro manifest known
        obtain ⟨v, parsed, inOrder⟩ := readManifest_ok known
        cases v with
        | record old =>
          have holds : HoldsManifest _ (folder / Manifest.fileName) old := ⟨text, read, parsed⟩
          have sorted : (Value.record manifest).sorted = .record manifest := inOrder ▸ sorted_sorted _
          have lacks := lacks_missingScripts sorted ordered
          have supplied := supplied_withScripts sorted ordered
          rw [← inOrder] at lacks supplied
          split
          next some =>
            refine (write_read _ tree read).bind ?_ ?_
            · rintro _ _ ⟨elsewhere, ⟨-, free, held⟩ | ⟨_, ⟨⟩, -⟩⟩
              refine .returned (.written holds lacks (by simpa using some) supplied ?_ elsewhere free)
              rw [held, Manifest.fileText, supplied.sorted]
            · rintro _ _ ⟨elsewhere, ⟨⟨⟩, -⟩ | ⟨_, ⟨⟩, trouble⟩⟩
              exact .unwritten holds lacks (by simpa using some) elsewhere trouble
          next none =>
            have nothing : missingScripts manifest wanted = [] := by simpa using none
            rw [nothing] at lacks ⊢
            exact .returned (.complete holds lacks)
        | _ => cases inOrder
      · intro f unknown
        obtain ⟨g, broken, rfl⟩ | ⟨v, parsed, other, rfl⟩ := readManifest_error unknown
        · exact .malformed read broken
        · exact .shapeless read parsed other
    · rintro f _ ⟨rfl, ⟨_, ⟨⟩, _⟩ | ⟨_, ⟨⟩, unread⟩⟩
      exact .unreadable (by simpa using present) unread

namespace CustomBuild

/-- A widget whose manifest has a script of its own. -/
def disk : Disk :=
  (Disk.empty.put ["w"] .folder).put ["w", "package.json"]
    (.file "\x7b\"scripts\": \x7b\"build\": \"custom\"\x7d, \"private\": true\x7d".toUTF8)

theorem disk_isTree : disk.IsTree := by
  have folder : (Disk.empty.put ["w"] .folder).IsTree := empty_isTree.put (by decide) rfl nofun
  exact folder.put (by decide) rfl nofun

def wanted : Scripts := [("build", "tools build"), ("dev", "tools start")]

def extended : String :=
  "\x7b\n  \"private\": true,\n  \"scripts\": \x7b\n    \"build\": \"custom\",\n" ++
    "    \"dev\": \"tools start\"\n  \x7d\n\x7d\n"

def left : Except EditFault (List String) × Disk := (ensureScripts ⟨"/w"⟩ wanted).run disk

end CustomBuild

open CustomBuild in
theorem dev_script_added :
    disk.IsTree ∧ wanted.Pairwise (·.1 < ·.1) ∧
      ScriptsEnd (Path.mk "/w" / Manifest.fileName) wanted disk left.1 left.2 ∧
      left.1.toOption = some ["dev"] ∧ (left.2.readText ⟨"/w/package.json"⟩).toOption = some extended := by
  have ordered : wanted.Pairwise (·.1 < ·.1) := by decide
  exact ⟨disk_isTree, ordered, scripts_only_added disk_isTree ordered ⟨"/w"⟩, by decide +kernel, by decide +kernel⟩

end Edit

end WidgetRepair
