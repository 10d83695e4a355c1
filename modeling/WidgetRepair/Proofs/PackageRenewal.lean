import WidgetRepair.Proofs.OpenWays
import WidgetRepair.Proofs.PackagePlaces

/-! What generating a package does to the files that are there. Without regard for them every file gets
its rendered content; when they are to be kept, only files that are missing are written. -/

namespace WidgetRepair

open Disk

namespace Package

/-- A path that consists of names. -/
structure Named (p : Path) (names : List String) : Prop where
  filled : names ≠ []
  plain : ∀ name ∈ names, Path.Plain name
  path : p = Path.along false names

/-- Paths of which neither leads to the other. -/
def Separate (p q : Path) : Prop := ∃ names others, Named p names ∧ Named q others ∧ Apart names others

/-- Files with names, each separate from those behind it. -/
structure Spread (all : List (Path × String)) : Prop where
  named : ∀ f ∈ all, ∃ names, Named f.1 names
  separate : all.Pairwise fun f g => Separate f.1 g.1

theorem Spread.tail {f : Path × String} {rest : List (Path × String)} (spread : Spread (f :: rest)) :
    Spread rest where
  named := (List.forall_mem_cons.mp spread.named).2
  separate := (List.pairwise_cons.mp spread.separate).2

theorem files_spread (w : Widget) : Spread (files w) where
  named := by
    intro f member
    have path : f.1 ∈ (fileNames w).map (Path.along false) := files_paths w ▸ List.mem_map_of_mem member
    obtain ⟨names, among, same⟩ := List.mem_map.mp path
    obtain ⟨filled, plain⟩ := fileNames_plain w names among
    exact ⟨names, filled, plain, same.symm⟩
  separate := by
    have separate : ((fileNames w).map (Path.along false)).Pairwise Separate := by
      refine List.pairwise_map.mpr ((fileNames_apart w).imp_of_mem ?_)
      intro names others among others_among apart
      obtain ⟨filled, plain⟩ := fileNames_plain w names among
      obtain ⟨others_filled, others_plain⟩ := fileNames_plain w others others_among
      exact ⟨names, others, ⟨filled, plain, rfl⟩, ⟨others_filled, others_plain, rfl⟩, apart⟩
    rw [← files_paths] at separate
    exact List.pairwise_map.mp separate

section Separate

variable {d between : Disk} {folder p q : Path}

theorem Separate.reach_ne (separate : Separate p q) :
    d.reach (folder / q.text) ≠ d.reach (folder / p.text) := by
  obtain ⟨names, others, named, other, apart⟩ := separate
  rw [named.path, other.path, reach_behind named.filled named.plain, reach_behind other.filled other.plain]
  intro same
  exact apart.1 (List.append_cancel_left same ▸ List.prefix_rfl)

/-- Folders that are made for one file do not take the place of another. -/
theorem Separate.free (separate : Separate p q) (opened : d.Opened folder)
    (grown : GrownAlong (folder / p.text) d between) (free : d.get? (d.reach (folder / q.text)) = none) :
    between.get? (d.reach (folder / q.text)) = none := by
  obtain ⟨names, others, named, other, apart⟩ := separate
  rw [other.path, reach_behind other.filled other.plain] at free ⊢
  rw [named.path] at grown
  by_contra taken
  obtain ⟨front, ⟨rest, split⟩, place⟩ := grown.added _ (free ▸ taken)
  rw [way_behind named.filled named.plain] at split
  rw [start_behind named.filled named.plain] at place
  rcases List.append_eq_append_iff.mp split with ⟨more, way, -⟩ | ⟨more, rfl, names_eq⟩
  · rw [place, opened front ⟨more, way.symm⟩] at free
    cases free
  · obtain ⟨inner, outer, rfl, rfl, -⟩ := List.map_eq_append_iff.mp names_eq
    rw [destination_append, destination_names] at place
    exact apart.2 (List.append_cancel_left place ▸ List.prefix_append inner outer)

end Separate

/-- What putting a file in place does, where it succeeds. -/
inductive Placed (mode : Mode) (target : Path) (content : ByteArray) (d : Disk) : Disk → Prop where
  | kept (preserve : mode = .preserve) (found : d.exists? target = true) : Placed mode target content d d
  | written {between : Disk} {l : Location} (absent : mode = .preserve → d.exists? target = false)
    (grown : GrownAlong target d between) (writable : Writable between target l) :
    Placed mode target content d (between.spent.put l (.file content))

theorem reach_of_writable {target : Path} {d between : Disk} {l : Location}
    (grown : GrownAlong target d between) (writable : Writable between target l) : l = d.reach target := by
  rw [locate_reach grown.tree writable.located, reach_of_origin grown.origin]

theorem onDisk_ends {job : OnDisk Unit} {d : Disk} {post : Disk → Prop}
    (ends : Ends job d fun result after => result = .ok () → post after) :
    Ends (onDisk job) d fun result after => result = .ok () → post after := by
  refine .adapted ends ?_
  intro result after ended same
  cases result with
  | ok _ => exact ended rfl
  | error f => cases same

/-- How writing a file ends when the folders around it are made first. -/
inductive MetAround (target : Path) (content : ByteArray) (d : Disk) : Except DiskFault Unit → Disk → Prop where
  | unmade {between : Disk} (fault : DiskFault) (grown : GrownAlong target d between) :
    MetAround target content d (.error fault) between
  | wrote {between after : Disk} {result : Except DiskFault Unit} (grown : GrownAlong target d between)
    (written : Written target content between result after) : MetAround target content d result after

theorem writeAround_met (target : Path) (content : String) {d : Disk} (tree : d.IsTree) :
    Ends (do
      match target.parent? with
      | some around => OnDisk.makeFolders around
      | none => pure ()
      OnDisk.writeText target content) d (MetAround target content.toUTF8 d) := by
  have parts : (do
      match target.parent? with
      | some around => OnDisk.makeFolders around
      | none => pure ()
      OnDisk.writeText target content) = (match target.parent? with
        | some around => OnDisk.makeFolders around
        | none => pure ()) >>= fun _ => OnDisk.writeText target content := by
    cases target.parent? <;> rfl
  rw [parts]
  refine (OnDisk.makeAround_along target tree).bind ?_ fun fault _ grown => .unmade fault grown
  intro _ between grown
  exact (OnDisk.write_ends target content.toUTF8 grown.tree).mono fun _ _ written => .wrote grown written

theorem writeAround_ends (target : Path) (content : String) {d : Disk} (tree : d.IsTree) :
    Ends (do
      match target.parent? with
      | some around => OnDisk.makeFolders around
      | none => pure ()
      OnDisk.writeText target content) d fun result after => result = .ok () →
        ∃ between l, GrownAlong target d between ∧ Writable between target l ∧
          after = between.spent.put l (.file content.toUTF8) := by
  refine (writeAround_met target content tree).mono ?_
  rintro _ _ met rfl
  cases met with
  | @wrote between _ _ grown written =>
    cases written with
    | whole writable => exact ⟨between, _, grown, writable, rfl⟩

theorem place_ends (folder : Path) (mode : Mode) (done : Generated) (f : Path × String) {d : Disk}
    (tree : d.IsTree) : Ends (place folder mode done f) d fun result after =>
      ∀ g, result = .ok g → Placed mode (folder / f.1.text) f.2.toUTF8 d after := by
  obtain ⟨path, content⟩ := f
  unfold place
  refine .looked ?_
  split
  next both =>
    rw [Bool.and_eq_true, beq_iff_eq] at both
    exact .returned fun _ _ => .kept both.1 both.2
  next write =>
    have absent : mode = .preserve → d.exists? (folder / path.text) = false := by
      rintro rfl
      simpa using write
    refine (onDisk_ends (writeAround_ends (folder / path.text) content tree)).bind ?_ ?_
    · intro _ after wrote
      obtain ⟨between, l, grown, writable, rfl⟩ := wrote rfl
      exact .returned fun _ _ => .written absent grown writable
    · intro _ _ _ _ same
      cases same

namespace Placed

variable {mode : Mode} {target : Path} {content : ByteArray} {d after : Disk}

theorem isTree (placed : Placed mode target content d after) (tree : d.IsTree) : after.IsTree := by
  cases placed with
  | kept => exact tree
  | written _ grown writable => exact writable.put_isTree grown.tree content

theorem folders (placed : Placed mode target content d after) : Kept d after := by
  cases placed with
  | kept => exact ⟨rfl, fun _ folder => folder⟩
  | written _ grown writable => exact grown.kept.trans (writable.put_kept content)

theorem elsewhere (placed : Placed mode target content d after) {l : Location} (other : l ≠ d.reach target) :
    after.file? l = d.file? l := by
  cases placed with
  | kept => rfl
  | @written between m _ grown writable =>
    rw [file?_put _ writable.inner, if_neg (reach_of_writable grown writable ▸ other.symm)]
    exact grown.file? l

theorem reads (placed : Placed mode target content d after)
    (missing : mode = .preserve → d.exists? target = false) : after.read target = .ok content := by
  cases placed with
  | kept preserve found =>
    rw [missing preserve] at found
    cases found
  | @written between m _ grown writable =>
    refine read_file ((writable.put_kept content).locate writable.located) ?_
    rw [get?_put _ writable.inner, if_pos rfl]

section Behind

variable {folder p q : Path} (opened : d.Opened folder) (tree : d.IsTree)

include opened tree

/-- A file that is there is found again where files are kept. -/
theorem spared (placed : Placed .preserve (folder / p.text) content d after) {names : List String}
    (named : Named p names) {l : Location} {old : ByteArray} (file : d.file? l = some old) :
    after.file? l = some old := by
  by_cases here : l = d.reach (folder / p.text)
  · cases placed with
    | kept => exact file
    | written absent grown writable =>
      rw [named.path] at absent grown writable here
      have stands : d.get? (d.reach (folder / (Path.along false names).text)) ≠ none := by
        intro none
        simp [Disk.file?, here, none] at file
      have found := exists_behind named.filled named.plain tree opened grown.origin writable.located stands
      rw [absent rfl] at found
      cases found
  · rw [placed.elsewhere here, file]

theorem missing (placed : Placed mode (folder / p.text) content d after) (separate : Separate p q)
    (missing : d.exists? (folder / q.text) = false) : after.exists? (folder / q.text) = false := by
  refine eq_false_of_ne_true fun found => ?_
  obtain ⟨l, located, stands⟩ := exists?_iff.mp found
  have place : l = d.reach (folder / q.text) := by
    rw [locate_reach (placed.isTree tree) located, reach_of_origin placed.folders.origin]
  have free : d.get? (d.reach (folder / q.text)) = none := by
    by_contra stands
    obtain ⟨names, others, -, other, -⟩ := id separate
    rw [other.path] at located stands missing
    rw [exists_behind other.filled other.plain tree opened placed.folders.origin located stands] at missing
    cases missing
  apply stands
  cases placed with
  | kept => exact place ▸ free
  | @written between m absent grown writable =>
    have target : m = d.reach (folder / p.text) := reach_of_writable grown writable
    have still := separate.free opened grown free
    rw [place, get?_put _ writable.inner, if_neg (target ▸ separate.reach_ne.symm)]
    exact still

end Behind

end Placed

/-- What putting files in place does, where it succeeds for all. -/
structure Renewed (mode : Mode) (folder : Path) (all : List (Path × String)) (d after : Disk) : Prop where
  tree : after.IsTree
  folders : Kept d after
  elsewhere : ∀ l, (∀ f ∈ all, l ≠ d.reach (folder / f.1.text)) → after.file? l = d.file? l
  /-- Files that are there are found again where files are kept. -/
  spared : mode = .preserve → ∀ l content, d.file? l = some content → after.file? l = some content
  made : ∀ f ∈ all, (mode = .preserve → d.exists? (folder / f.1.text) = false) →
    after.read (folder / f.1.text) = .ok f.2.toUTF8

theorem read_again {d after : Disk} {p : Path} {content : ByteArray} (tree : d.IsTree) (folders : Kept d after)
    (same : after.file? (d.reach p) = d.file? (d.reach p)) (read : d.read p = .ok content) :
    after.read p = .ok content := by
  obtain ⟨l, located, file⟩ := read_ok read
  rw [← locate_reach tree located] at same
  refine read_file (folders.locate located) ?_
  have content_eq : after.file? l = some content := by
    rw [same]
    unfold Disk.file?
    rw [file]
  unfold Disk.file? at content_eq
  split at content_eq
  next found => rw [found, Option.some.inj content_eq]
  next => cases content_eq

theorem Renewed.cons {mode : Mode} {folder : Path} {f : Path × String} {rest : List (Path × String)}
    {d between after : Disk} (spread : Spread (f :: rest)) (tree : d.IsTree)
    (opened : mode = .preserve → d.Opened folder)
    (placed : Placed mode (folder / f.1.text) f.2.toUTF8 d between)
    (renewed : Renewed mode folder rest between after) : Renewed mode folder (f :: rest) d after where
  tree := renewed.tree
  folders := placed.folders.trans renewed.folders
  elsewhere := by
    intro l other
    obtain ⟨first, others⟩ := List.forall_mem_cons.mp other
    rw [renewed.elsewhere l fun g member => reach_of_origin placed.folders.origin _ ▸ others g member]
    exact placed.elsewhere first
  spared := by
    rintro rfl l content file
    obtain ⟨names, named⟩ := spread.named f List.mem_cons_self
    exact renewed.spared rfl l content (placed.spared (opened rfl) tree named file)
  made := by
    have separate := (List.pairwise_cons.mp spread.separate).1
    refine List.forall_mem_cons.mpr ⟨?_, ?_⟩
    · intro missing
      have same := renewed.elsewhere (d.reach (folder / f.1.text)) fun g member =>
        reach_of_origin placed.folders.origin _ ▸ (separate g member).reach_ne.symm
      rw [← reach_of_origin placed.folders.origin] at same
      exact read_again (placed.isTree tree) renewed.folders same (placed.reads missing)
    · intro g member missing
      refine renewed.made g member ?_
      rintro rfl
      exact placed.missing (opened rfl) tree (separate g member) (missing rfl)

/-- A file that is placed takes no folder away, so the way stays open for the others. -/
theorem placeAll_ends (folder : Path) (mode : Mode) {all : List (Path × String)} (spread : Spread all)
    {d : Disk} (tree : d.IsTree) (opened : mode = .preserve → d.Opened folder) (done : Generated) :
    Ends (all.foldlM (place folder mode) done) d fun result after =>
      ∀ g, result = .ok g → Renewed mode folder all d after := by
  induction all generalizing d done with
  | nil =>
    refine .returned fun _ _ => ?_
    exact ⟨tree, .refl d, fun _ _ => rfl, fun _ _ _ file => file, List.forall_mem_nil _⟩
  | cons f rest ih =>
    rw [List.foldlM_cons]
    refine (place_ends folder mode done f tree).bind ?_ ?_
    · intro g between placed
      have placed := placed g rfl
      refine (ih spread.tail (placed.isTree tree) (fun keep => (opened keep).kept placed.folders) g).mono ?_
      intro result after renewed g' same
      exact (renewed g' same).cons spread tree opened placed
    · intro _ _ _ _ same
      cases same

/-- Folders that are made before change nothing, where the way was open. -/
theorem Renewed.after_folders {mode : Mode} {folder : Path} {all : List (Path × String)} {d made after : Disk}
    (grown : Grown d made) (same : mode = .preserve → ∀ l, made.get? l = d.get? l)
    (renewed : Renewed mode folder all made after) : Renewed mode folder all d after where
  tree := renewed.tree
  folders := grown.kept.trans renewed.folders
  elsewhere := by
    intro l other
    rw [renewed.elsewhere l fun f member => reach_of_origin grown.origin _ ▸ other f member, grown.file?]
  spared := fun keep l content file => renewed.spared keep l content (grown.file? l ▸ file)
  made := by
    intro f member missing
    refine renewed.made f member fun keep => ?_
    refine eq_false_of_ne_true fun found => ?_
    have back : Kept made d := ⟨grown.origin.symm, fun l folder => same keep l ▸ folder⟩
    have found := back.exists? (fun l stands => same keep l ▸ stands) found
    rw [missing keep] at found
    cases found

/-- Generating a package renews its files. -/
theorem generate_ends (w : Widget) (folder : Path) (mode : Mode) {d : Disk} (tree : d.IsTree)
    (opened : mode = .preserve → d.Opened folder) :
    Ends (generate w folder mode) d fun result after =>
      ∀ g, result = .ok g → Renewed mode folder (files w) d after := by
  unfold generate
  refine .looked ?_
  split
  next => exact .broken fun _ same => by cases same
  next =>
    have folders : Ends (onDisk (OnDisk.makeFolders folder)) d fun _ after => GrownAlong folder d after :=
      .adapted (OnDisk.makeFolders_along (.refl folder) tree) fun _ _ grown => grown
    refine folders.bind ?_ ?_
    · intro _ made grown
      refine .granted ?_ fun _ _ _ same => by cases same
      intro all rendered
      obtain rfl := render_eq_ok rendered
      refine (placeAll_ends folder mode (files_spread w) grown.tree
        (fun keep => (opened keep).kept grown.kept) _).mono ?_
      intro result after renewed g same
      exact (renewed g same).after_folders grown.toGrown fun keep => grown.get?_of_opened (opened keep)
    · intro _ _ _ _ same
      cases same

end Package

end WidgetRepair
