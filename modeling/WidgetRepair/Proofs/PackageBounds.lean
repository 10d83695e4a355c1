import WidgetRepair.Build.Loop
import WidgetRepair.Proofs.GlobWays
import WidgetRepair.Proofs.PackageRenewal

/-! Where the package of a widget goes, whatever the widget is called. Its folder is a child of the work folder, and
generating it writes nothing but files below that folder. -/

namespace WidgetRepair

open Disk

namespace Widget

/-- Where runs of letters and digits begin is seen in the case of the letters only. -/
theorem capitalizeRuns_toLower (inside : Bool) (name : List Char) :
    (capitalizeRuns inside name).map Char.toLower = (name.filter isNameChar).map Char.toLower := by
  induction name generalizing inside with
  | nil => rfl
  | cons c rest ih =>
    rw [capitalizeRuns]
    by_cases char : isNameChar c = true
    · rw [if_pos char, List.filter_cons_of_pos char, List.map_cons, List.map_cons, ih]
      cases inside with
      | true => rfl
      | false => exact congrArg (· :: _) (toLower_toUpper char)
    · rw [if_neg char, List.filter_cons_of_neg char, ih]

theorem lowered_componentName (w : Widget) : Text.lowered w.componentName = w.packageName := by
  have plain : Text.Plain w.componentName.toList := fun c member =>
    Text.ascii_of_isAlphanum (componentName_chars member)
  rw [Text.lowered, Text.lower_plain plain, componentName, String.toList_ofList, capitalizeRuns_toLower, packageName]

theorem packageName_plain {w : Widget} (named : w.packageName ≠ "") : Path.Plain w.packageName where
  step := by
    have step : Path.stepOf? w.packageName.toList = some (.into (String.ofList w.packageName.toList)) := by
      have pointless : '.' ∉ w.packageName.toList := fun member => by cases packageName_chars member
      apply Path.stepOf?_name
      · simpa using named
      all_goals
        intro points
        exact pointless (points ▸ List.mem_cons_self)
    rwa [String.ofList_toList] at step
  slashless := by
    intro c member
    rw [beq_eq_false_iff_ne]
    rintro rfl
    cases packageName_chars member

end Widget

namespace Path

/-- A path that starts from where one is and consists of names. -/
structure Normal (p : Path) : Prop where
  relative : p.absolute = false
  pieces : ∀ piece ∈ p.between, piece ≠ [] ∧ piece ≠ ['.'] ∧ piece ≠ ['.', '.']
  names : ∀ part ∈ p.parts, ∃ name, part = .name name

theorem along_normal {names : List String} (filled : names ≠ []) (plain : ∀ name ∈ names, Plain name) :
    (along false names).Normal where
  relative := along_absolute filled plain
  pieces := by
    have between : (along false names).between = names.map String.toList := between_along filled plain
    intro piece member
    obtain ⟨name, among, rfl⟩ := List.mem_map.mp (between ▸ member)
    have step := (plain name among).step
    refine ⟨?_, ?_, ?_⟩ <;>
      · intro same
        rw [same] at step
        cases step
  names := by
    have parts : (along false names).parts = names.map .name := parts_along false filled plain
    intro part member
    obtain ⟨name, -, rfl⟩ := List.mem_map.mp (parts ▸ member)
    exact ⟨name, rfl⟩

theorem parts_behind {p q : Path} {name : String} (plain : Plain name) {piece : List Char}
    {front blank : List (List Char)} (outer : p.between = piece :: (front ++ blank)) (empty : ∀ b ∈ blank, b = [])
    (inner : q.between = piece :: (front ++ [name.toList])) (absolute : q.absolute = p.absolute) :
    q.parts = p.parts ++ [.name name] := by
  have part : partOf? false name.toList = some (.name name) := partOf?_into plain.step false
  have none : blank.filterMap (partOf? false) = [] := by
    refine List.filterMap_eq_nil_iff.mpr fun b member => ?_
    rw [empty b member]
    rfl
  rw [parts_eq outer, parts_eq inner, absolute, List.filterMap_append, List.filterMap_append, none, List.append_nil,
    List.append_assoc, List.filterMap_cons, part]
  rfl

/-- A name behind a path is one more part of it. -/
theorem parts_div {name : String} (plain : Plain name) (p : Path) : (p / name).parts = p.parts ++ [.name name] := by
  have absolute := absolute_div plain.relative p
  have piece : Text.splitWhere (· == '/') name.toList = [name.toList] := Text.splitWhere_uncut plain.slashless
  have joined : p / name = Path.join p name := rfl
  unfold Path.join at joined
  rw [if_neg plain.relative] at joined
  by_cases empty : p.isEmpty = true
  · have text : p = ⟨""⟩ := congrArg Path.mk (by simpa [isEmpty] using empty)
    subst text
    have alone : Path.mk "" / name = along false [name] := by
      rw [joined, if_pos (by simp [empty])]
      refine congrArg Path.mk (String.toList_inj.mp ?_)
      show ("" ++ name).toList = (along false [name]).text.toList
      rw [toList_along]
      simp
    have parts := parts_along false (List.cons_ne_nil name []) (List.forall_mem_singleton.mpr plain)
    rw [alone, parts]
    rfl
  by_cases slash : p.text.toList.getLast? = some '/'
  · obtain ⟨front, text⟩ := List.getLast?_eq_some_iff.mp slash
    obtain ⟨first, rest, pieces⟩ := Path.between_some ⟨String.ofList front⟩
    unfold between at pieces
    rw [String.toList_ofList] at pieces
    have outer : p.between = first :: (rest ++ [[]]) := by
      rw [between, text, between_cut, pieces]
      rfl
    have inner : (p / name).between = first :: (rest ++ [name.toList]) := by
      rw [joined, if_pos (by simp [slash]), between, String.toList_append, text, List.append_assoc,
        List.singleton_append, between_cut, pieces, piece]
      rfl
    exact parts_behind plain outer (List.forall_mem_singleton.mpr rfl) inner absolute
  · obtain ⟨first, rest, pieces⟩ := p.between_some
    have outer : p.between = first :: (rest ++ []) := by rw [pieces, List.append_nil]
    have inner : (p / name).between = first :: (rest ++ [name.toList]) := by
      rw [joined, if_neg (by simp [empty, slash]), between, String.toList_append, String.toList_append,
        List.append_assoc]
      show Text.splitWhere _ (p.text.toList ++ '/' :: name.toList) = _
      rw [between_cut, piece]
      exact congrArg (· ++ [name.toList]) pieces
    exact parts_behind plain outer (List.forall_mem_nil _) inner absolute

end Path

namespace Disk

/-- A place behind that of a folder. -/
def Below (d : Disk) (folder : Path) (l : Location) : Prop := d.reach folder <+: l ∧ l ≠ d.reach folder

/-- A disk that differs from another only below a folder, and by folders that were made on the way there. -/
structure ChangedBelow (folder : Path) (d after : Disk) : Prop where
  tree : after.IsTree
  kept : Kept d after
  changed : ∀ l, after.get? l ≠ d.get? l → d.Below folder l ∨
    (∃ front, front <+: folder.way ∧ l = destination (d.start folder) front) ∧
      d.get? l = none ∧ after.get? l = some .folder

namespace ChangedBelow

variable {folder : Path} {d between after : Disk}

theorem refl (tree : d.IsTree) : ChangedBelow folder d d := ⟨tree, .refl d, fun _ differs => absurd rfl differs⟩

theorem trans (first : ChangedBelow folder d between) (second : ChangedBelow folder between after) :
    ChangedBelow folder d after where
  tree := second.tree
  kept := first.kept.trans second.kept
  changed := by
    intro l differs
    by_cases late : after.get? l = between.get? l
    · rw [late] at differs ⊢
      exact first.changed l differs
    obtain below | ⟨way, free, folder'⟩ := second.changed l late
    · rw [Below, reach_of_origin first.kept.origin] at below
      exact .inl below
    by_cases early : between.get? l = d.get? l
    · rw [start_of_origin first.kept.origin] at way
      exact .inr ⟨way, early ▸ free, folder'⟩
    · obtain below | ⟨-, -, made⟩ := first.changed l early
      · exact .inl below
      · rw [free] at made
        cases made

/-- Files stay as they are where one is not below the folder. -/
theorem file? (changed : ChangedBelow folder d after) {l : Location} (outside : ¬ d.Below folder l) :
    after.file? l = d.file? l := by
  by_cases same : after.get? l = d.get? l
  · exact file?_congr same
  · obtain below | ⟨-, free, made⟩ := changed.changed l same
    · exact absurd below outside
    · unfold Disk.file?
      rw [free, made]

theorem of_alike (tree : d.IsTree) (alike : Alike d after) : ChangedBelow folder d after where
  tree := alike.isTree tree
  kept := ⟨alike.origin, fun l folder' => alike.get? l ▸ folder'⟩
  changed := fun l differs => absurd (alike.get? l) differs

theorem of_grown (grown : GrownAlong folder d after) : ChangedBelow folder d after where
  tree := grown.tree
  kept := grown.kept
  changed := by
    intro l differs
    exact .inr ⟨grown.added l differs, (grown.grown l).resolve_left differs⟩

end ChangedBelow

end Disk

namespace Package

theorem onDisk_leaves {job : OnDisk Unit} {d : Disk} {left : Disk → Prop} (ends : Ends job d fun _ => left) :
    Ends (onDisk job) d fun _ => left :=
  .adapted ends fun _ _ leaves => leaves

section Place

variable {folder p : Path} {names : List String} (named : Named p names) {d between : Disk}

include named

theorem below_named : d.Below folder (d.reach (folder / p.text)) := by
  rw [Below, named.path, reach_behind named.filled named.plain, reach_way]
  exact ⟨List.prefix_append _ _, by simpa using named.filled⟩

theorem changedBelow_of_grown (grown : GrownAlong (folder / p.text) d between) : ChangedBelow folder d between where
  tree := grown.tree
  kept := grown.kept
  changed := by
    intro l differs
    obtain ⟨front, along, place⟩ := grown.added l differs
    rw [named.path, start_behind named.filled named.plain] at place
    rw [named.path, way_behind named.filled named.plain] at along
    obtain ⟨rest, split⟩ := along
    rcases List.append_eq_append_iff.mp split with ⟨more, way, -⟩ | ⟨more, rfl, names_eq⟩
    · exact .inr ⟨⟨front, ⟨more, way.symm⟩, place⟩, (grown.grown l).resolve_left differs⟩
    · obtain ⟨inner, outer, rfl, rfl, -⟩ := List.map_eq_append_iff.mp names_eq
      rw [destination_append, destination_names, ← reach_way] at place
      cases inner with
      | nil =>
        refine .inr ⟨⟨folder.way, List.prefix_rfl, ?_⟩, (grown.grown l).resolve_left differs⟩
        rw [place, List.append_nil, reach_way]
      | cons name inner => exact .inl (place ▸ ⟨List.prefix_append _ _, by simp⟩)

theorem changedBelow_of_put {l : Location} (grown : GrownAlong (folder / p.text) d between)
    (writable : Writable between (folder / p.text) l) (content : ByteArray) :
    ChangedBelow folder between (between.spent.put l (.file content)) where
  tree := writable.put_isTree grown.tree content
  kept := writable.put_kept content
  changed := by
    intro m differs
    rw [get?_put _ writable.inner] at differs
    split at differs
    next same =>
      rw [← same, locate_reach grown.tree writable.located]
      exact .inl (below_named named)
    next => exact absurd rfl differs

theorem changedBelow_of_met {content : ByteArray} {result : Except DiskFault Unit} {after : Disk}
    (met : MetAround (folder / p.text) content d result after) : ChangedBelow folder d after := by
  cases met with
  | unmade fault grown => exact changedBelow_of_grown named grown
  | wrote grown written =>
    refine (changedBelow_of_grown named grown).trans ?_
    cases written with
    | refused f alike => exact .of_alike grown.tree alike
    | whole writable | cut writable => exact changedBelow_of_put named grown writable _

/-- Putting a file in place changes something below the folder only, whether or not it succeeds. -/
theorem place_changedBelow (mode : Mode) (content : String) (done : Generated) (tree : d.IsTree) :
    Ends (place folder mode done (p, content)) d fun _ after => ChangedBelow folder d after := by
  unfold place
  refine .looked ?_
  split
  next => exact .returned (.refl tree)
  next =>
    have wrote := onDisk_leaves ((writeAround_met (folder / p.text) content tree).mono fun _ _ met =>
      changedBelow_of_met named met)
    exact wrote.bind (fun _ _ changed => .returned changed) fun _ _ changed => changed

end Place

theorem placeAll_changedBelow (folder : Path) (mode : Mode) {all : List (Path × String)}
    (named : ∀ f ∈ all, ∃ names, Named f.1 names) (done : Generated) {d : Disk} (tree : d.IsTree) :
    Ends (all.foldlM (place folder mode) done) d fun _ after => ChangedBelow folder d after := by
  induction all generalizing d done with
  | nil => exact .returned (.refl tree)
  | cons f rest ih =>
    obtain ⟨⟨names, first⟩, later⟩ := List.forall_mem_cons.mp named
    rw [List.foldlM_cons]
    refine (place_changedBelow first mode f.2 done tree).bind ?_ fun _ _ changed => changed
    intro placed between changed
    exact (ih later placed changed.tree).mono fun _ _ further => changed.trans further

/-- Generating a package changes something below its folder only, at whatever point it may fail. -/
theorem generate_changedBelow (w : Widget) (folder : Path) (mode : Mode) {d : Disk} (tree : d.IsTree) :
    Ends (generate w folder mode) d fun _ after => ChangedBelow folder d after := by
  unfold generate
  refine .looked ?_
  split
  next => exact .broken (.refl tree)
  next =>
    have folders : Ends (onDisk (OnDisk.makeFolders folder)) d fun _ after => ChangedBelow folder d after :=
      onDisk_leaves ((OnDisk.makeFolders_along (.refl folder) tree).mono fun _ _ grown => .of_grown grown)
    refine folders.bind ?_ fun _ _ changed => changed
    intro _ made changed
    refine .granted ?_ fun _ _ => changed
    intro all rendered
    have named : ∀ f ∈ all, ∃ names, Named f.1 names := render_eq_ok rendered ▸ (files_spread w).named
    exact (placeAll_changedBelow folder mode named _ changed.tree).mono fun _ _ further => changed.trans further

theorem Named.parts {p : Path} {names : List String} (named : Named p names) : p.parts = names.map .name := by
  rw [named.path]
  exact Path.parts_along false named.filled named.plain

theorem Separate.parts_ne {p q : Path} (separate : Separate p q) : p.parts ≠ q.parts := by
  obtain ⟨names, others, named, other, apart⟩ := separate
  rw [named.parts, other.parts]
  intro same
  have equal : names = others := (List.map_inj_right fun _ _ => PathPart.name.inj).mp same
  exact apart.1 (equal ▸ List.prefix_rfl)

theorem parts_nodup (w : Widget) : ((files w).map (·.1.parts)).Nodup :=
  List.pairwise_map.mpr ((files_spread w).separate.imp Separate.parts_ne)

theorem files_normal (w : Widget) : ∀ f ∈ files w, f.1.Normal := by
  intro f member
  obtain ⟨names, named⟩ := (files_spread w).named f member
  rw [named.path]
  exact Path.along_normal named.filled named.plain

theorem render_named {w : Widget} (named : w.packageName ≠ "") : render w = .ok (files w) :=
  render_of_runnable (by simpa [Widget.runnable] using named)

/-- Whatever a widget is called, its package stays in a folder of its own. The name of the package is that of the
component in lower case. Where it is not empty, the nine files have paths of their own that only go down, and the
folder of the package is a child of the work folder. Generating the package changes nothing but what is below its
folder, and makes at most folders on the way there. -/
theorem package_stays_inside (w : Widget) :
    Text.lowered w.componentName = w.packageName ∧
    (w.packageName ≠ "" → ∃ all, render w = .ok all ∧ all.length = 9 ∧ (all.map (·.1.parts)).Nodup ∧
      ∀ f ∈ all, f.1.Normal) ∧
    (∀ (folder : Path) (mode : Mode) (d : Disk), d.IsTree →
      Ends (generate w folder mode) d fun _ after => ChangedBelow folder d after) ∧
    (w.packageName ≠ "" → ∀ job : Job, job.widget = w →
      job.folder.parts = job.workFolder.parts ++ [.name w.packageName] ∧
      ∀ d : Disk, d.reach job.folder = d.reach job.workFolder ++ [w.packageName]) := by
  refine ⟨w.lowered_componentName, ?_, fun folder mode d tree => generate_changedBelow w folder mode tree, ?_⟩
  · intro named
    exact ⟨files w, render_named named, rfl, parts_nodup w, files_normal w⟩
  · rintro named job rfl
    have plain := Widget.packageName_plain named
    refine ⟨Path.parts_div plain job.workFolder, fun d => ?_⟩
    rw [Job.folder, reach_div plain.relative, Glob.way_plain plain]
    rfl

/-- A name that climbs out of its folder by its slashes and points leaves a plain name. -/
theorem climbing_package_stays_inside :
    let w : Widget := { name := "../../etc/Ｇauge ÉX.tsx" }
    let d := Disk.empty.put ["work"] .folder
    let job : Job := { widget := w, workFolder := ⟨"/work/."⟩, limit := 3 }
    w.packageName = "etcaugextsx" ∧ w.componentName = "EtcAugeXTsx" ∧
      Text.lowered w.componentName = w.packageName ∧
      (∃ all, render w = .ok all ∧ all.length = 9 ∧ (all.map (·.1.parts)).Nodup ∧ ∀ f ∈ all, f.1.Normal) ∧
      (Ends (generate w job.folder .fresh) d fun _ after => ChangedBelow job.folder d after) ∧
      job.folder.parts = job.workFolder.parts ++ [.name "etcaugextsx"] ∧
      d.reach job.folder = ["work", "etcaugextsx"] := by
  intro w d job
  have packageName : w.packageName = "etcaugextsx" := by decide +kernel
  have componentName : w.componentName = "EtcAugeXTsx" := by decide +kernel
  have named : w.packageName ≠ "" := by
    rw [packageName]
    decide
  have tree : d.IsTree := by decide +kernel
  obtain ⟨lowered, rendered, generated, child⟩ := package_stays_inside w
  obtain ⟨parts, reached⟩ := child named job rfl
  refine ⟨packageName, componentName, lowered, rendered named, generated job.folder .fresh d tree, ?_, ?_⟩
  · rw [parts, packageName]
  · rw [reached, packageName]
    decide +kernel

end Package

end WidgetRepair
