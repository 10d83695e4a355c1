import WidgetRepair.Proofs.EditTasks
import WidgetRepair.Proofs.EscapedRoots

/-! Where a repair writes. The manifest lies in the widget, and so does all that a pattern stands for, unless a
part of the pattern stands for two points: then it may lead out of the widget, and the edit follows it there. -/

namespace WidgetRepair

open Disk

theorem Disk.destination_inside {steps : List Step} (upless : .up ∉ steps) (l : Location) :
    l <+: destination l steps := by
  induction steps generalizing l with
  | nil => exact List.prefix_refl l
  | cons step rest ih =>
    rw [List.mem_cons, not_or] at upless
    cases step with
    | stay => exact ih upless.2 l
    | up => exact absurd rfl upless.1
    | into name => exact (List.prefix_append l [name]).trans (ih upless.2 _)

theorem Path.points_of_up {name : List Char} (step : .up ∈ (stepOf? name).toList) : name = ['.', '.'] := by
  unfold stepOf? at step
  split at step <;> simp_all

namespace Glob

variable {d : Disk} {l : Location} {part : List Token} {parts : List (List Token)} {q : Path}

/-- Whether two points are among what a part stands for, so that it may lead out of a folder. -/
def climbs (part : List Token) : Bool := part.head? = some (.char '.') && covers part ['.', '.']

theorem Follows.climbless {steps : List Step} (follows : Follows part steps) (still : climbs part = false) :
    .up ∉ steps := by
  intro up
  cases follows with
  | name covered meant =>
    have points := Path.points_of_up up
    subst points
    simp [climbs, covered, meant rfl] at still
  | folders => simp at up

theorem Leads.inside (leads : Leads d l parts q) (still : ∀ part ∈ parts, climbs part = false) :
    l <+: d.reach q := by
  obtain ⟨ways, each, reached⟩ := leads
  rw [reached]
  apply destination_inside
  clear reached
  induction each with
  | nil => exact List.not_mem_nil
  | cons follows others ih =>
    obtain ⟨first, later⟩ := List.forall_mem_cons.mp still
    rw [List.flatten_cons, List.mem_append, not_or]
    exact ⟨follows.climbless first, ih later⟩

end Glob

namespace Edit

variable {d : Disk} {folder file : Path} {files : List Path} {pattern search replace : String}
  {watched : Location → Prop}

/-- Whether no part of the pattern of a repair climbs. -/
def climbless : FixAction → Bool
  | .fileEdit pattern .. => (Glob.partTexts (withoutHere pattern.toList)).all fun text =>
    match Glob.tokens text with
    | .ok part => !Glob.climbs part
    | .error _ => true
  | .configChange _ | .dependencyAdd .. | .manual _ => true

/-- What does not lie in the folder of the widget. -/
def Outside (d : Disk) (folder : Path) (l : Location) : Prop := ¬ d.reach folder <+: l

theorem root_inside (d : Disk) (folder : Path) : d.reach folder <+: d.reach (root d folder) := by
  have plain : Path.Plain "src" := ⟨rfl, by simp⟩
  unfold root
  split
  · rw [reach_div plain.relative, Glob.way_plain plain]
    exact List.prefix_append _ _
  · exact List.prefix_refl _

theorem root_some (some_text : folder.isEmpty = false) : (root d folder).isEmpty = false := by
  unfold root
  split
  · have relative : "src".toList.head? ≠ some '/' := by decide
    show (Path.join folder "src").isEmpty = false
    unfold Path.join
    rw [if_neg relative]
    split <;> simp [Path.isEmpty]
  · exact some_text

theorem found_of_matching (matching : matchingFiles d folder pattern = .ok files) (member : file ∈ files) :
    ∃ found, Glob.paths d (Glob.escape (root d folder).text ++ "/" ++
      String.ofList (withoutHere pattern.toList)) = .ok found ∧ file ∈ found := by
  obtain ⟨found, matched, same⟩ := bind_ok matching
  cases same
  exact ⟨found, matched, (List.mem_filter.mp (List.mem_mergeSort.mp member)).1⟩

theorem matching_inside (named : d.Named) (some_text : folder.isEmpty = false)
    (still : climbless (.fileEdit pattern search replace) = true)
    (matching : matchingFiles d folder pattern = .ok files) (member : file ∈ files) :
    d.reach folder <+: d.reach file := by
  obtain ⟨found, matched, inside⟩ := found_of_matching matching member
  obtain ⟨parts, read, leads⟩ := Glob.paths_leads named (root_some some_text) matched inside
  rw [String.toList_ofList] at read
  refine (root_inside d folder).trans (leads.inside ?_)
  intro part among
  obtain ⟨text, from_, part_read⟩ := mem_of_mapM read part among
  have free := List.all_eq_true.mp still text from_
  rw [part_read] at free
  simpa using free

theorem marks_reach {content : ByteArray} (marks : Marks watched file content d) (tree : d.IsTree) :
    watched (d.reach file) := by
  obtain ⟨l, _, writable, inside, _⟩ := marks
  exact locate_reach tree writable.located ▸ inside

theorem eachMarks_reach (tree : d.IsTree) (marks : EachMarks watched search replace files d) :
    ∃ file ∈ files, watched (d.reach file) := by
  obtain ⟨done, file, rest, changed, before, rfl, ran, content, read, text, new, differs, marks⟩ := marks
  have ended := editEach_ends watched search replace done tree
  unfold Ends at ended
  rw [ran] at ended
  refine ⟨file, by simp, ?_⟩
  rw [← reach_of_origin ended.2.1 file]
  exact marks_reach marks ended.1

/-- The manifest lies in the widget. -/
theorem scripts_inside {scripts : Scripts} (tree : d.IsTree) :
    ¬ ScriptMarks (Outside d folder) folder scripts d := by
  intro ⟨_, _, _, _, _, marks⟩
  have plain : Path.Plain Manifest.fileName := ⟨rfl, by simp [Manifest.fileName]⟩
  have outside := marks_reach marks tree
  rw [Outside, reach_div plain.relative, Glob.way_plain plain] at outside
  exact outside (List.prefix_append _ _)

/-- Repairs touch nothing outside the widget but for edits of files that a pattern stands for. -/
theorem outside_marks_iff (tree : d.IsTree) (folder : Path) (fix : FixAction) :
    (Task.repair fix).Marks (Outside d folder) folder d ↔
      ∃ pattern search replace files, fix = .fileEdit pattern search replace ∧
        matchingFiles d folder pattern = .ok files ∧
        EachMarks (Outside d folder) search replace files d := by
  cases fix with
  | fileEdit pattern search replace =>
    constructor
    · intro ⟨files, matching, marks⟩
      exact ⟨pattern, search, replace, files, rfl, matching, marks⟩
    · intro ⟨_, _, _, files, same, matching, marks⟩
      cases same
      exact ⟨files, matching, marks⟩
  | configChange scripts => exact iff_of_false (scripts_inside tree) (by simp)
  | dependencyAdd | manual => exact iff_of_false id (by simp)

/-- Carrying out a repair changes, adds and removes no file outside the widget, unless the repair edits files
and comes to write other bytes to one outside that its pattern stands for. A pattern without a part that climbs
stands for none, if the path of the widget is not empty: then the pattern would start from the root. -/
theorem repair_stays_inside (tree : d.IsTree) (named : d.Named) (folder : Path) (fix : FixAction) :
    ((∀ seen, Task.Seen folder d (.repair fix) seen → Spares (Outside d folder) d seen) ↔
      ¬ ∃ pattern search replace files, fix = .fileEdit pattern search replace ∧
        matchingFiles d folder pattern = .ok files ∧
        EachMarks (Outside d folder) search replace files d) ∧
    (folder.isEmpty = false → climbless fix = true →
      ∀ seen, Task.Seen folder d (.repair fix) seen → Spares (Outside d folder) d seen) := by
  have spared := (Task.tried (Outside d folder) folder (.repair fix) tree).spared
  rw [outside_marks_iff tree] at spared
  refine ⟨spared, fun some_text still => spared.mpr ?_⟩
  rintro ⟨pattern, search, replace, files, rfl, matching, marks⟩
  obtain ⟨file, member, outside⟩ := eachMarks_reach tree marks
  exact outside (matching_inside named some_text still matching member)

namespace Neighbour

/-- A widget with a source, and a file beside the widget. -/
def disk : Disk :=
  ((Disk.empty.put ["outside.txt"] (.file "a".toUTF8)).put ["w"] .folder).put ["w", "a.tsx"]
    (.file "x".toUTF8)

def inner : FixAction := .fileEdit "a.tsx" "x" "y"

def outer : FixAction := .fileEdit "../outside.txt" "a" "b"

theorem disk_isTree : disk.IsTree := by
  have beside : (Disk.empty.put ["outside.txt"] (.file "a".toUTF8)).IsTree :=
    empty_isTree.put (by decide) rfl nofun
  have folder := IsTree.put (l := ["w"]) (e := .folder) beside (by decide) rfl nofun
  exact folder.put (by decide) rfl nofun

theorem disk_named : disk.Named := by
  have plain {name : String} (among : name ∈ ["outside.txt", "w", "a.tsx"]) : Path.Plain name := by
    simp only [List.mem_cons, List.not_mem_nil, or_false] at among
    obtain rfl | rfl | rfl := among <;> exact ⟨rfl, by simp⟩
  have beside := empty_named.put (l := ["outside.txt"]) (fun name among => plain (by simp_all)) (.file "a".toUTF8)
  have folder := beside.put (l := ["w"]) (fun name among => plain (by simp_all)) .folder
  exact folder.put (fun name among => plain (by simp_all)) _

/-- What carrying out an edit of one file comes to. -/
theorem performs {pattern search replace : String} {file : Path} {after : Disk}
    (matching : matchingFiles disk ⟨"/w"⟩ pattern = .ok [file])
    (each : (editEach search replace [file]).run disk = (.ok [file], after)) :
    (perform ⟨"/w"⟩ (.fileEdit pattern search replace)).run disk =
      (.ok ⟨true, "edited " ++ toString 1 ++ " file(s) matching " ++ pattern⟩, after) :=
  run_bind_ok ((Task.editFiles_run matching).trans each) _

theorem performs_inner : (perform ⟨"/w"⟩ inner).run disk =
    (.ok ⟨true, "edited 1 file(s) matching a.tsx"⟩, disk.spent.put ["w", "a.tsx"] (.file "y".toUTF8)) := by
  have pattern : Glob.escape (root disk ⟨"/w"⟩).text ++ "/" ++
      String.ofList (withoutHere "a.tsx".toList) = "/w/a.tsx" := by decide +kernel
  have found : Glob.paths disk "/w/a.tsx" = .ok [⟨"/w/a.tsx"⟩] := by decide +kernel
  exact performs (matchingFiles_single (pattern ▸ found) (by decide +kernel)) rfl

theorem performs_outer : (perform ⟨"/w"⟩ outer).run disk =
    (.ok ⟨true, "edited 1 file(s) matching ../outside.txt"⟩,
      disk.spent.put ["outside.txt"] (.file "b".toUTF8)) := by
  have pattern : Glob.escape (root disk ⟨"/w"⟩).text ++ "/" ++
      String.ofList (withoutHere "../outside.txt".toList) = "/w/../outside.txt" := by decide +kernel
  have found : Glob.paths disk "/w/../outside.txt" = .ok [⟨"/w/../outside.txt"⟩] := by decide +kernel
  exact performs (matchingFiles_single (pattern ▸ found) (by decide +kernel)) rfl

end Neighbour

open Neighbour in
theorem inner_repair_stays :
    disk.IsTree ∧ disk.Named ∧ climbless inner = true ∧
      (perform ⟨"/w"⟩ inner).run disk = (.ok ⟨true, "edited 1 file(s) matching a.tsx"⟩,
        disk.spent.put ["w", "a.tsx"] (.file "y".toUTF8)) ∧
      Spares (Outside disk ⟨"/w"⟩) disk (disk.spent.put ["w", "a.tsx"] (.file "y".toUTF8)) := by
  have still : climbless inner = true := by decide +kernel
  have seen : Task.Seen ⟨"/w"⟩ disk (.repair inner) (disk.spent.put ["w", "a.tsx"] (.file "y".toUTF8)) :=
    .ended (run_bind_ok performs_inner _)
  have stays := (repair_stays_inside disk_isTree disk_named ⟨"/w"⟩ inner).2 rfl still _ seen
  exact ⟨disk_isTree, disk_named, still, performs_inner, stays⟩

open Neighbour in
/-- A pattern that goes up edits a file beside the widget. -/
theorem outer_repair_strays :
    (perform ⟨"/w"⟩ outer).run disk = (.ok ⟨true, "edited 1 file(s) matching ../outside.txt"⟩,
        disk.spent.put ["outside.txt"] (.file "b".toUTF8)) ∧
      ¬ Spares (Outside disk ⟨"/w"⟩) disk (disk.spent.put ["outside.txt"] (.file "b".toUTF8)) := by
  refine ⟨performs_outer, fun spares => ?_⟩
  have outside : Outside disk ⟨"/w"⟩ ["outside.txt"] := by
    have home : disk.reach ⟨"/w"⟩ = ["w"] := by decide +kernel
    rw [Outside, home]
    decide
  have kept := spares _ outside
  rw [file?_put _ (by decide), if_pos rfl] at kept
  exact absurd kept (by decide +kernel)

end Edit

end WidgetRepair
