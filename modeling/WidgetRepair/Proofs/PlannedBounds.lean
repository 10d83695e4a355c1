import WidgetRepair.Proofs.PlannedRepair
import WidgetRepair.Proofs.RepairBounds

/-! Where the edit of a plan writes. Its file is named from the widget downwards, so it lies in the widget, and it is
the only one that changes. An edit that does not tell of a change has left every file as it was, unless its write was
cut short: then the file holds the beginning of what was to be written. -/

namespace WidgetRepair

open Disk

namespace Path

variable {p : Path}

theorem partOf?_up {first : Bool} {piece : List Char} : partOf? first piece = some .up ↔ piece = ['.', '.'] := by
  unfold partOf?
  split <;> simp_all

theorem partOf?_root (first : Bool) (piece : List Char) : partOf? first piece ≠ some .root := by
  unfold partOf?
  split <;> simp

theorem root_mem_parts : .root ∈ p.parts ↔ p.absolute = true := by
  obtain ⟨piece, rest, between⟩ := p.between_some
  rw [parts_eq between, List.mem_append, List.mem_filterMap]
  have later : ¬ ∃ piece ∈ rest, partOf? false piece = some .root := by
    rintro ⟨piece, _, part⟩
    exact partOf?_root false piece part
  rw [or_iff_left later]
  split
  next absolute => simp [absolute]
  next relative => simp [relative, partOf?_root]

theorem up_mem_parts : .up ∈ p.parts ↔ ['.', '.'] ∈ p.between := by
  obtain ⟨piece, rest, between⟩ := p.between_some
  rw [parts_eq between, between, List.mem_append, List.mem_cons, List.mem_filterMap]
  refine or_congr ?_ (by simp only [partOf?_up, exists_eq_right])
  split
  next absolute =>
    refine iff_of_false (by simp) ?_
    rintro rfl
    exact relative_of_step between rfl absolute
  next =>
    rw [Option.mem_toList, partOf?_up, eq_comm]

theorem any_escaping {bad : PathPart → Bool} (meant : ∀ part, bad part = true ↔ part = .root ∨ part = .up) :
    p.parts.any bad = true ↔ p.absolute = true ∨ ['.', '.'] ∈ p.between := by
  rw [List.any_eq_true, ← root_mem_parts, ← up_mem_parts]
  constructor
  · rintro ⟨part, member, bad⟩
    obtain rfl | rfl := (meant part).mp bad
    · exact .inl member
    · exact .inr member
  · rintro (member | member)
    · exact ⟨_, member, (meant _).mpr (.inl rfl)⟩
    · exact ⟨_, member, (meant _).mpr (.inr rfl)⟩

theorem upless_way (upless : ['.', '.'] ∉ p.between) : .up ∉ p.way := by
  intro member
  obtain ⟨piece, among, step⟩ := List.mem_filterMap.mp member
  have points : piece = ['.', '.'] := points_of_up (by simp [step])
  exact upless (points ▸ among)

theorem way_some (some_text : p.text ≠ "") (relative : p.absolute = false) : p.way ≠ [] := by
  obtain ⟨piece, rest, between⟩ := p.between_some
  intro nowhere
  have idle : stepOf? piece = none := List.filterMap_eq_nil_iff.mp nowhere piece (between ▸ List.mem_cons_self)
  have empty := stepOf?_none idle
  subst empty
  unfold Path.between at between
  unfold absolute at relative
  cases chars : p.text.toList with
  | nil => exact some_text (by simpa using chars)
  | cons c text =>
    have plain : (c == '/') = false := by
      rw [chars] at relative
      simpa using relative
    obtain ⟨first, others, split⟩ : ∃ first others, Text.splitWhere (· == '/') text = first :: others := by
      simpa [Path.between] using between_some ⟨String.ofList text⟩
    rw [chars, Text.splitWhere, split] at between
    simp [plain] at between

end Path

namespace OnDisk

variable {d : Disk}

theorem makeFolder_hitches (p : Path) (d : Disk) :
    Ends (makeFolder p) d fun _ after => after.hitches <:+ d.hitches := by
  refine (lift_ends _ d).bind ?_ ?_
  · rintro l after ⟨-, rfl⟩
    refine .looked ?_
    split
    next => exact .broken List.suffix_rfl
    next =>
      refine .looked ?_
      split
      next => exact .broken List.suffix_rfl
      next =>
        refine (nextHitch_ends _).bind ?_ ?_
        · intro hitch between ended
          obtain ⟨-, rfl⟩ := ended
          have spent : (Disk.spent after).hitches <:+ after.hitches := List.drop_suffix 1 _
          split
          next => exact spent
          next => exact .failed spent
        · rintro _ _ ⟨⟨⟩, -⟩
  · rintro _ _ ⟨-, rfl⟩
    exact List.suffix_rfl

theorem makeFoldersIn_hitches (around : List Path) (d : Disk) :
    Ends (makeFoldersIn around) d fun _ after => after.hitches <:+ d.hitches := by
  have single : ∀ q ∈ around, ∀ d : Disk, True →
      Ends (makeFolder q) d fun _ after => True ∧ after.hitches <:+ d.hitches := by
    intro q _ d _
    exact (makeFolder_hitches q d).mono fun _ _ fewer => ⟨trivial, fewer⟩
  have steps := makeFoldersIn_steps (d := d) (fun _ _ => List.suffix_rfl) (fun first second => second.trans first)
    single trivial
  exact steps.mono fun _ _ made => made.2

end OnDisk

namespace Edit

variable {folder file target : Path} {d made after : Disk} {result : Except EditFault Bool}

/-- A file that is not named from the widget downwards. -/
def Escapes (file : String) : Prop :=
  file = "" ∨ (Path.mk file).absolute = true ∨ ['.', '.'] ∈ (Path.mk file).between

instance (file : String) : Decidable (Escapes file) := inferInstanceAs (Decidable (_ ∨ _ ∨ _))

theorem inside_eq (folder : Path) (file : String) :
    inside folder file = if Escapes file then .error (.outside file) else .ok (folder / file) := by
  refine if_congr (Bool.or_eq_true_iff.trans (or_congr String.isEmpty_iff (Path.any_escaping fun part => ?_))) rfl rfl
  cases part <;> simp

/-- How an edit of one file ends: no file was changed, or new text stands there, or the write of that text was
cut short. Folders around the file may have been made before. -/
inductive Aimed (new : String → Prop) (file : Path) (d : Disk) : Except EditFault Bool → Disk → Prop where
  | spared {result : Except EditFault Bool} {after : Disk} (quiet : result ≠ .ok true)
    (same : ∀ l, after.file? l = d.file? l) : Aimed new file d result after
  | written {made : Disk} {l : Location} {text : String} (meant : new text) (grown : GrownAlong file d made)
    (writable : Writable made file l) (differs : d.read file ≠ .ok text.toUTF8) :
    Aimed new file d (.ok true) (made.spent.put l (.file text.toUTF8))
  | cut {made : Disk} {l : Location} {text : String} {size : Nat} (meant : new text)
    (grown : GrownAlong file d made) (writable : Writable made file l) (fewer : made.hitches <:+ d.hitches)
    (short : made.hitch = .cut size) : Aimed new file d (.error (.disk .full))
      (made.spent.put l (.file (text.toUTF8.extract 0 (min size text.toUTF8.size))))

section Aims

variable {new : String → Prop}

theorem Aimed.mono {other : String → Prop} (more : ∀ text, new text → other text)
    (aimed : Aimed new file d result after) : Aimed other file d result after := by
  cases aimed with
  | spared quiet same => exact .spared quiet same
  | written meant grown writable differs => exact .written (more _ meant) grown writable differs
  | cut meant grown writable fewer short => exact .cut (more _ meant) grown writable fewer short

/-- Writing a text that the file did not hold, told of as a change. -/
theorem write_aimed {text : String} (meant : new text) (grown : GrownAlong file d made)
    (fewer : made.hitches <:+ d.hitches) (differs : d.read file ≠ .ok text.toUTF8) :
    Ends (OnDisk.writeText file text) made fun result after =>
      Aimed new file d ((result.mapError .disk).map fun _ => true) after := by
  refine (OnDisk.write_ends file text.toUTF8 grown.tree).mono ?_
  intro result after written
  cases written with
  | refused f alike => exact .spared nofun fun l => (alike.file? l).trans (grown.file? l)
  | whole writable => exact .written meant grown writable differs
  | cut writable short => exact .cut meant grown writable fewer short

theorem told_aimed {job : OnDisk Unit} (wrote : Ends job made fun result after =>
      Aimed new file d ((result.mapError .disk).map fun _ => true) after) :
    Ends (onDisk job >>= fun _ => pure true) made (Aimed new file d) := by
  have adapted : Ends (onDisk job) made fun result after => Aimed new file d (result.map fun _ => true) after :=
    .adapted wrote fun _ _ aimed => aimed
  refine adapted.bind ?_ ?_
  · intro _ _ aimed
    exact .returned aimed
  · intro _ _ aimed
    exact aimed

theorem putNew_aimed {content : String} (updated : Option String) (tree : d.IsTree)
    (read : d.readText file = .ok content) :
    Ends (putNew file content updated) d (Aimed (fun text => updated = some text) file d) := by
  cases updated with
  | none => exact .returned (.spared nofun fun _ => rfl)
  | some text =>
    simp only [putNew]
    split
    next => exact .returned (.spared nofun fun _ => rfl)
    next differs =>
      refine told_aimed (write_aimed rfl (.refl tree) List.suffix_rfl ?_)
      intro held
      exact differs (Except.ok.inj ((readText_of_read held).symm.trans read))

theorem create_aimed (target : Path) (payload : String) (tree : d.IsTree) :
    Ends (create target payload) d (Aimed (· = payload) target d) := by
  rw [create_eq]
  refine .looked ?_
  split
  next => exact .returned (.spared nofun fun _ => rfl)
  next differs =>
    have hitches : Ends (makeAround target) d fun _ after => after.hitches <:+ d.hitches := by
      unfold makeAround
      split
      next around _ => exact OnDisk.makeFoldersIn_hitches around.ancestors d
      next => exact .returned List.suffix_rfl
    have made : Ends (makeAround target) d fun _ after =>
        GrownAlong target d after ∧ after.hitches <:+ d.hitches :=
      ⟨OnDisk.makeAround_along target tree, hitches⟩
    refine told_aimed (made.bind ?_ ?_)
    · rintro _ _ ⟨grown, fewer⟩
      refine write_aimed rfl grown fewer ?_
      intro held
      apply differs
      rw [readText_of_read held]
      rfl
    · rintro _ _ ⟨grown, -⟩
      exact .spared nofun grown.file?

end Aims

/-- The text that an edit of a plan has for its file. -/
def Meant (e : PlannedEdit) (d : Disk) (file : Path) (text : String) : Prop :=
  ∃ payload, e.payload? = some payload ∧ (e.kind = .create ∧ text = payload ∨
    e.kind ≠ .create ∧ ∃ content, d.readText file = .ok content ∧ plannedContent e content payload = .ok (some text))

theorem performPlanned_aimed (folder : Path) (e : PlannedEdit) (tree : d.IsTree) :
    Ends (performPlanned folder e) d fun result after =>
      (Escapes e.file ∧ result = .error (.outside e.file) ∧ after = d) ∨
      (¬ Escapes e.file ∧ Aimed (Meant e d (folder / e.file)) (folder / e.file) d result after) := by
  unfold performPlanned
  rw [inside_eq]
  split
  next escapes => exact .broken (.inl ⟨escapes, rfl, rfl⟩)
  next stays =>
    have kept {fault : EditFault} : Aimed (Meant e d (folder / e.file)) (folder / e.file) d (.error fault) d :=
      .spared nofun fun _ => rfl
    refine .granted ?_ nofun
    rintro _ ⟨⟩
    split
    next => exact .failed (.inr ⟨stays, kept⟩)
    next payload found =>
      split
      next creates =>
        refine (create_aimed _ payload tree).mono fun _ _ aimed => .inr ⟨stays, aimed.mono ?_⟩
        exact fun text same => ⟨payload, found, .inl ⟨creates, same⟩⟩
      next creates =>
        refine .looked ?_
        split
        next => exact .returned (.inr ⟨stays, .spared nofun fun _ => rfl⟩)
        next =>
          refine (read_ends _ d).bind ?_ ?_
          · rintro content _ ⟨rfl, ⟨_, ⟨⟩, read⟩ | ⟨_, ⟨⟩, _⟩⟩
            refine .granted ?_ ?_
            · intro updated planned
              refine (putNew_aimed updated tree read).mono fun _ _ aimed => .inr ⟨stays, aimed.mono ?_⟩
              exact fun text same => ⟨payload, found, .inr ⟨creates, content, read, planned.trans (same ▸ rfl)⟩⟩
            · intro _ _
              exact .inr ⟨stays, kept⟩
          · rintro _ _ ⟨rfl, _⟩
            exact .inr ⟨stays, kept⟩

/-- An edit whose last step on the disk, the write of its file, was cut short. The file holds the beginning of the
text that was meant for it. -/
structure CutShort (new : String → Prop) (file : Path) (d : Disk) (result : Except EditFault Bool) (after : Disk) :
    Prop where
  told : result = .error (.disk .full)
  left : ∃ met size text, d.hitches = met ++ .cut size :: after.hitches ∧ new text ∧
    after.file? (d.reach file) = some (text.toUTF8.extract 0 (min size text.toUTF8.size))

section Told

variable {new : String → Prop}

/-- What an edit of one file changes stands where the path of the file leads. -/
theorem Aimed.place (aimed : Aimed new file d result after) {l : Location} (differs : after.file? l ≠ d.file? l) :
    ∃ made, GrownAlong file d made ∧ Writable made file l := by
  cases aimed with
  | spared _ same => exact absurd (same l) differs
  | written _ grown writable | cut _ grown writable =>
    rw [file?_put _ writable.inner] at differs
    split at differs
    next here => exact ⟨_, grown, here ▸ writable⟩
    next => exact absurd (grown.file? l) differs

theorem Aimed.told (aimed : Aimed new file d (.ok true) after) :
    ∃ text, new text ∧ after.read file = .ok text.toUTF8 ∧ d.read file ≠ .ok text.toUTF8 := by
  cases aimed with
  | spared quiet => exact absurd rfl quiet
  | written meant grown writable differs =>
    refine ⟨_, meant, read_file ((writable.put_kept _).locate writable.located) ?_, differs⟩
    rw [get?_put _ writable.inner, if_pos rfl]

theorem hitches_of_cut {size : Nat} (short : d.hitch = .cut size) : d.hitches = .cut size :: d.spent.hitches := by
  unfold Disk.hitch at short
  unfold Disk.spent
  cases hitches : d.hitches with
  | nil =>
    rw [hitches] at short
    cases short
  | cons first rest =>
    rw [hitches] at short
    exact short ▸ rfl

theorem Aimed.quiet (aimed : Aimed new file d result after) (quiet : result ≠ .ok true) :
    (∀ l, after.file? l = d.file? l) ∨ CutShort new file d result after := by
  cases aimed with
  | spared _ same => exact .inl same
  | written => exact absurd rfl quiet
  | @cut made l text size meant grown writable fewer short =>
    obtain ⟨met, before⟩ := fewer
    have place := locate_reach grown.tree writable.located
    rw [reach_of_origin grown.origin] at place
    subst place
    refine .inr ⟨rfl, met, size, text, ?_, meant, ?_⟩
    · rw [← before, hitches_of_cut short]
      rfl
    · rw [file?_put _ writable.inner, if_pos rfl]

end Told

/-- A folder on whose way nothing is missing, or whose way never turns back. -/
def Direct (d : Disk) (folder : Path) : Prop := d.Opened folder ∨ .up ∉ folder.way

section Named

variable {name : String} (stays : ¬ Escapes name)

include stays

theorem stays_relative : name.toList.head? ≠ some '/' := by
  intro slash
  exact stays (.inr (.inl (by simp [Path.absolute, slash])))

theorem stays_upless : .up ∉ (Path.mk name).way := Path.upless_way fun up => stays (.inr (.inr up))

/-- A file of a widget lies below the widget. -/
theorem writable_below (tree : d.IsTree) {l : Location} (writable : Writable d (folder / name) l) :
    d.reach folder <+: l ∧ l ≠ d.reach folder := by
  have relative := stays_relative stays
  have place := locate_reach tree writable.located
  constructor
  · rw [place, reach_div relative]
    exact destination_inside (stays_upless stays) _
  · intro same
    have more : (Path.mk name).way ++ (folder / name).closing ≠ [] := by
      refine List.append_ne_nil_of_left_ne_nil (Path.way_some ?_ ?_) _
      · exact fun empty => stays (.inl empty)
      · exact eq_false_of_ne_true fun absolute => stays (.inr (.inl absolute))
    have arrived := locate_walk writable.located
    rw [Path.steps_way, Path.way_div relative, List.append_assoc] at arrived
    have folder' := walk_passes tree (start_folder tree _) more arrived folder.way List.prefix_rfl
    have start : d.start (folder / name) = d.start folder := by
      unfold Disk.start
      rw [Path.absolute_div relative]
    rw [start, ← reach_way] at folder'
    exact writable.noFolder (same ▸ folder')

/-- Where the file is there, no folder is missing around it. -/
theorem grown_around (tree : d.IsTree) (direct : Direct d folder) (grown : GrownAlong (folder / name) d made)
    {content : ByteArray} (file : d.get? (d.reach (folder / name)) = some (.file content)) (l : Location) :
    made.get? l = d.get? l := by
  have relative := stays_relative stays
  by_contra differs
  obtain ⟨none, -⟩ := (grown.grown l).resolve_left differs
  obtain ⟨front, along, place⟩ := grown.added l differs
  have start : d.start (folder / name) = d.start folder := by
    unfold Disk.start
    rw [Path.absolute_div relative]
  rw [start] at place
  rw [Path.way_div relative] at along
  obtain ⟨rest, whole⟩ := along
  have reached : d.reach (folder / name) = destination l rest := by
    rw [reach_div relative, reach_way, ← destination_append, ← whole, destination_append, place]
  have turns : .up ∈ rest := by
    by_contra upless
    have below := reached ▸ destination_inside upless l
    by_cases here : l = d.reach (folder / name)
    · rw [here, file] at none
      cases none
    · rw [tree.folder_of_prefix file below here] at none
      cases none
  rcases direct with opened | upless
  · rcases List.prefix_or_prefix_of_prefix ⟨rest, whole⟩ (List.prefix_append _ _) with outer | ⟨inner, rfl⟩
    · rw [place, opened front outer] at none
      cases none
    · rw [List.append_assoc, List.append_cancel_left_eq] at whole
      exact stays_upless stays (whole ▸ List.mem_append_right inner turns)
  · have along : .up ∈ folder.way ++ (Path.mk name).way := whole ▸ List.mem_append_right front turns
    exact (List.mem_append.mp along).elim upless (stays_upless stays)

theorem Aimed.exact {new : String → Prop} (tree : d.IsTree) (direct : Direct d folder)
    (aimed : Aimed new (folder / name) d result after) (whole : ¬ CutShort new (folder / name) d result after) :
    result = .ok true ↔ after.file? (d.reach (folder / name)) ≠ d.file? (d.reach (folder / name)) := by
  constructor
  · rintro rfl same
    cases aimed with
    | spared quiet => exact quiet rfl
    | @written made _ _ _ grown writable differs =>
      have place := locate_reach grown.tree writable.located
      rw [reach_of_origin grown.origin] at place
      subst place
      rw [file?_put _ writable.inner, if_pos rfl] at same
      have file := file?_eq_some.mp same.symm
      have still := grown_around stays tree direct grown file
      have back : Kept made d := ⟨grown.origin.symm, fun l folder => still l ▸ folder⟩
      exact differs (read_file (back.locate writable.located) file)
  · intro differs
    by_contra quiet
    obtain same | short := aimed.quiet quiet
    · exact differs (same _)
    · exact whole short

end Named

/-- What an edit of a plan comes to. Only a write that was cut short is not told of and leaves another file. -/
structure Confined (folder : Path) (e : PlannedEdit) (d : Disk) (result : Except EditFault Bool) (after : Disk) :
    Prop where
  only : ∀ l, after.file? l ≠ d.file? l →
    l = d.reach (folder / e.file) ∧ d.reach folder <+: l ∧ l ≠ d.reach folder
  told : result = .ok true → ∃ text, Meant e d (folder / e.file) text ∧
    after.read (folder / e.file) = .ok text.toUTF8 ∧ d.read (folder / e.file) ≠ .ok text.toUTF8
  quiet : result ≠ .ok true → (∀ l, after.file? l = d.file? l) ∨
    CutShort (Meant e d (folder / e.file)) (folder / e.file) d result after
  exact : Direct d folder → ¬ CutShort (Meant e d (folder / e.file)) (folder / e.file) d result after →
    (result = .ok true ↔ after.file? (d.reach (folder / e.file)) ≠ d.file? (d.reach (folder / e.file)))
  escaped : Escapes e.file → result = .error (.outside e.file) ∧ after = d

/-- The widget on a disk that breaks off the next write after three bytes. -/
def shortWriting : Disk := { BesideSources.disk with hitches := [.cut 3] }

/-- The edit that creates a source of the widget as it is there. -/
def recreation : PlannedEdit where
  file := "src/Badge.tsx"
  kind := .create
  content := some "let a;"

end Edit

end WidgetRepair
