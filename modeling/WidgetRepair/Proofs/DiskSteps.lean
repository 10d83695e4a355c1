import WidgetRepair.Proofs.DiskTree
import WidgetRepair.Proofs.PathWays
import WidgetRepair.Proofs.Stateful

/-! What each step on the disk leaves. Folders are made where nothing stood, a file is written at
one location, and on a tree everything stays a tree. -/

namespace WidgetRepair

/-- What a write leaves of its content, if it writes anything. -/
def Hitch.leaves (content : ByteArray) : Hitch → Option ByteArray
  | none => some content
  | refused => Option.none
  | cut size => some (content.extract 0 (min size content.size))

namespace Disk

def hitch (d : Disk) : Hitch := d.hitches.headD .none

/-- The disk after a step used up a hitch. -/
def spent (d : Disk) : Disk := { d with hitches := d.hitches.drop 1 }

theorem spent_isTree {d : Disk} (tree : d.IsTree) : d.spent.IsTree := ⟨tree.based, tree.rooted⟩

theorem fixed_of_sealed {d later : Disk} (same : later.sealed = d.sealed) (l : Location) :
    later.fixed l = d.fixed l := by
  unfold fixed
  rw [same]

/-- A disk on which folders were added where nothing stood, and none to a sealed folder. -/
structure Grown (d later : Disk) : Prop where
  tree : later.IsTree
  origin : later.origin = d.origin
  grown : ∀ l, later.get? l = d.get? l ∨ d.get? l = none ∧ later.get? l = some .folder
  sealed : later.sealed = d.sealed
  fixed : ∀ l, d.fixed l = true → later.get? l = d.get? l

namespace Grown

variable {d later last : Disk}

theorem refl (tree : d.IsTree) : Grown d d := ⟨tree, rfl, fun _ => .inl rfl, rfl, fun _ _ => rfl⟩

theorem spent (tree : d.IsTree) : Grown d d.spent :=
  ⟨spent_isTree tree, rfl, fun _ => .inl rfl, rfl, fun _ _ => rfl⟩

theorem trans (first : Grown d later) (second : Grown later last) : Grown d last where
  tree := second.tree
  origin := second.origin.trans first.origin
  grown := by
    intro l
    rcases second.grown l with same | ⟨none, folder⟩
    · rw [same]
      exact first.grown l
    · rcases first.grown l with same | ⟨_, folder'⟩
      · exact .inr ⟨same ▸ none, folder⟩
      · rw [none] at folder'
        cases folder'
  sealed := second.sealed.trans first.sealed
  fixed l fixed := (second.fixed l (fixed_of_sealed first.sealed l ▸ fixed)).trans (first.fixed l fixed)

theorem kept (grown : Grown d later) : Kept d later where
  origin := grown.origin
  folders := by
    intro l folder
    rcases grown.grown l with same | ⟨none, _⟩
    · rw [same, folder]
    · rw [none] at folder
      cases folder

theorem file? (grown : Grown d later) (l : Location) : later.file? l = d.file? l := by
  unfold Disk.file?
  rcases grown.grown l with same | ⟨none, folder⟩
  · rw [same]
  · rw [none, folder]

theorem put (tree : d.IsTree) {l : Location} (around : d.get? l.dropLast = some .folder)
    (free : d.get? l = none) (unfixed : d.fixed l = false) : Grown d (d.put l .folder) := by
  have inner : l ≠ [] := by
    rintro rfl
    cases free
  refine ⟨tree.put inner around fun _ => rfl, rfl, fun m => ?_, rfl, fun m fixed => ?_⟩
  · rw [get?_put d inner]
    split
    next same => exact .inr ⟨same ▸ free, rfl⟩
    next => exact .inl rfl
  · rw [get?_put d inner, if_neg]
    rintro rfl
    exact absurd fixed (by simp [unfixed])

end Grown

/-- A disk on which folders were added at places on the way of a path. -/
structure GrownAlong (p : Path) (d later : Disk) : Prop extends Grown d later where
  added : ∀ l, later.get? l ≠ d.get? l → ∃ front, front <+: p.way ∧ l = destination (d.start p) front

namespace GrownAlong

variable {p : Path} {d later last : Disk}

theorem refl (tree : d.IsTree) : GrownAlong p d d where
  toGrown := .refl tree
  added _ differs := absurd rfl differs

theorem spent (tree : d.IsTree) : GrownAlong p d d.spent where
  toGrown := .spent tree
  added _ differs := absurd rfl differs

theorem trans (first : GrownAlong p d later) (second : GrownAlong p later last) : GrownAlong p d last where
  toGrown := first.toGrown.trans second.toGrown
  added := by
    intro l differs
    by_cases same : last.get? l = later.get? l
    · exact first.added l (same ▸ differs)
    · exact start_of_origin first.origin p ▸ second.added l same

theorem put (tree : d.IsTree) {l : Location} (around : d.get? l.dropLast = some .folder)
    (free : d.get? l = none) (unfixed : d.fixed l = false) {front : List Step} (along : front <+: p.way)
    (place : l = destination (d.start p) front) : GrownAlong p d (d.put l .folder) where
  toGrown := .put tree around free unfixed
  added := by
    intro m differs
    have inner : l ≠ [] := by
      rintro rfl
      cases free
    rw [get?_put d inner] at differs
    split at differs
    next same => exact ⟨front, along, same ▸ place⟩
    next => exact absurd rfl differs

end GrownAlong

/-- A disk on which nothing was changed, though a hitch may have been met. -/
structure Alike (d later : Disk) : Prop where
  entries : later.entries = d.entries
  origin : later.origin = d.origin
  sealed : later.sealed = d.sealed

namespace Alike

variable {d later : Disk}

theorem refl (d : Disk) : Alike d d := ⟨rfl, rfl, rfl⟩

theorem spent (d : Disk) : Alike d d.spent := ⟨rfl, rfl, rfl⟩

theorem get? (alike : Alike d later) (l : Location) : later.get? l = d.get? l := by
  unfold Disk.get?
  rw [alike.entries]

theorem file? (alike : Alike d later) (l : Location) : later.file? l = d.file? l :=
  file?_congr (alike.get? l)

theorem isTree (alike : Alike d later) (tree : d.IsTree) : later.IsTree where
  based := by rw [alike.origin, alike.get?, tree.based]
  rooted := by
    intro l e found
    rw [alike.get?] at found ⊢
    exact tree.rooted l e found

end Alike

/-- A file can be written at the location of a path. -/
structure Writable (d : Disk) (p : Path) (l : Location) : Prop where
  located : d.locate p = .ok l
  noFolder : d.get? l ≠ some .folder
  around : d.get? l.dropLast = some .folder
  unfixed : d.get? l = none → d.fixed l = false

namespace Writable

variable {d : Disk} {p : Path} {l : Location}

theorem inner (writable : Writable d p l) : l ≠ [] := by
  rintro rfl
  exact writable.noFolder rfl

/-- The way to a file that can be written ends with its name. -/
theorem named (writable : Writable d p l) (tree : d.IsTree) :
    ∃ name, (steps p).getLast? = some (.into name) := by
  by_contra nameless
  rw [not_exists] at nameless
  exact writable.noFolder
    (walk_folder tree (start_folder tree p) (locate_walk writable.located) nameless)

theorem put_isTree (writable : Writable d p l) (tree : d.IsTree) (content : ByteArray) :
    (d.spent.put l (.file content)).IsTree :=
  (spent_isTree tree).put writable.inner writable.around fun folder => absurd folder writable.noFolder

theorem put_kept (writable : Writable d p l) (content : ByteArray) :
    Kept d (d.spent.put l (.file content)) where
  origin := rfl
  folders := by
    intro m folder
    rw [get?_put _ writable.inner, if_neg]
    · exact folder
    · intro same
      exact writable.noFolder (same ▸ folder)

end Writable

/-- How writing a file ends: it is refused, or the file is written, or it is cut short. -/
inductive Written (p : Path) (content : ByteArray) (d : Disk) : Except DiskFault Unit → Disk → Prop where
  | refused (f : DiskFault) {after : Disk} (alike : Alike d after)
    (barred : ∀ l, Writable d p l → d.hitch = .refused) : Written p content d (.error f) after
  | whole {l : Location} (writable : Writable d p l) (free : d.hitch = .none) :
    Written p content d (.ok ()) (d.spent.put l (.file content))
  | cut {l : Location} (writable : Writable d p l) {size : Nat} (short : d.hitch = .cut size) :
    Written p content d (.error .full)
      (d.spent.put l (.file (content.extract 0 (min size content.size))))

/-- The disk after a file took another location. -/
def moved (d : Disk) (l target : Location) (content : ByteArray) : Disk :=
  (d.spent.erase l).put target (.file content)

/-- How renaming a file ends: it is refused, or the file is gone and its content stands elsewhere. -/
inductive Renamed (p q : Path) (d : Disk) : Except DiskFault Unit → Disk → Prop where
  | refused (f : DiskFault) {after : Disk} (alike : Alike d after) : Renamed p q d (.error f) after
  | moved {l target : Location} {content : ByteArray} (located : d.locate p = .ok l)
    (file : d.get? l = some (.file content)) (writable : Writable d q target) :
    Renamed p q d (.ok ()) (d.moved l target content)

section Moved

variable {d : Disk} {q : Path} {l target : Location} {content : ByteArray}

theorem moved_get? (tree : d.IsTree) (file : d.get? l = some (.file content))
    (writable : Writable d q target) {m : Location} (other : m ≠ l) :
    (d.moved l target content).get? m = if target = m then some (.file content) else d.get? m := by
  have noFolder : d.spent.get? l ≠ some .folder := fun folder => by
    cases file.symm.trans folder
  unfold moved
  rw [get?_put _ writable.inner, (spent_isTree tree).spared noFolder other]
  rfl

theorem moved_kept (tree : d.IsTree) (file : d.get? l = some (.file content))
    (writable : Writable d q target) : Kept d (d.moved l target content) where
  origin := rfl
  folders := by
    intro m folder
    rw [moved_get? tree file writable, if_neg, folder]
    · intro same
      exact writable.noFolder (same ▸ folder)
    · rintro rfl
      cases file.symm.trans folder

theorem moved_isTree (tree : d.IsTree) (file : d.get? l = some (.file content))
    (writable : Writable d q target) : (d.moved l target content).IsTree := by
  have noFolder : d.spent.get? l ≠ some .folder := fun folder => by
    cases file.symm.trans folder
  have erased := (spent_isTree tree).erase noFolder
  refine erased.put writable.inner ?_ ?_
  · rw [(spent_isTree tree).spared noFolder]
    · exact writable.around
    · rintro rfl
      exact noFolder writable.around
  · intro folder
    rw [get?_erase] at folder
    split at folder
    next => cases folder
    next => exact absurd folder writable.noFolder

end Moved

end Disk

namespace OnDisk

open Disk

variable {d : Disk} {α : Type}

theorem lift_ends (look : Disk → Except DiskFault α) (d : Disk) :
    Ends (OnDisk.lift look) d fun result after => result = look d ∧ after = d := by
  refine .looked ?_
  cases found : look d with
  | ok a => exact .returned ⟨rfl, rfl⟩
  | error f => exact .failed ⟨rfl, rfl⟩

theorem nextHitch_ends (d : Disk) :
    Ends nextHitch d fun result after => result = .ok d.hitch ∧ after = d.spent :=
  ⟨rfl, rfl⟩

theorem put_ends (l : Location) (e : Entry) (d : Disk) :
    Ends (OnDisk.put l e) d fun result after => result = .ok () ∧ after = d.put l e := ⟨rfl, rfl⟩

theorem locateNew_walk {p : Path} {l : Location} (found : d.locateNew p = .ok l) :
    p.isEmpty = false ∧ d.walk (d.start p) p.way = .ok l := by
  unfold Disk.locateNew at found
  split at found
  next => cases found
  next free =>
    dsimp only at found
    rw [Path.steps_trimmed] at found
    refine ⟨eq_false_of_ne_true fun empty => ?_, found⟩
    simp only [refusal?, empty, if_true] at free
    split at free <;> cases free

theorem makeFolder_along {p q : Path} (leads : q.Leads p) (tree : d.IsTree) :
    Ends (makeFolder q) d fun _ after => GrownAlong p d after := by
  refine (lift_ends _ d).bind ?_ ?_
  · intro l _ ended
    obtain ⟨found, rfl⟩ := ended
    refine .looked ?_
    split
    next => exact .broken (.refl tree)
    next free =>
      refine .looked ?_
      split
      next => exact .broken (.refl tree)
      next unfixed =>
        refine (nextHitch_ends _).bind ?_ ?_
        · intro hitch _ ended
          obtain ⟨-, rfl⟩ := ended
          split
          next =>
            refine (put_ends ..).mono ?_
            intro _ _ ended
            obtain ⟨-, rfl⟩ := ended
            obtain ⟨some_text, arrived⟩ := locateNew_walk found.symm
            obtain ⟨place, around⟩ := walk_ok tree (start_folder tree q) arrived
            refine (GrownAlong.spent tree).trans (GrownAlong.put (spent_isTree tree) around ?_ ?_ leads.way ?_)
            · exact Option.not_isSome_iff_eq_none.mp free
            · exact eq_false_of_ne_true unfixed
            · have absolute : q.absolute = p.absolute := leads.start.resolve_left (by simp [some_text])
              unfold Disk.start at place ⊢
              rw [← absolute]
              exact place
          next => exact .failed (.spent tree)
        · intro _ _ ended
          obtain ⟨same, -⟩ := ended
          cases same
  · intro _ _ ended
    obtain ⟨-, rfl⟩ := ended
    exact .refl tree

/-- What each folder that is made keeps to, all of them keep to. -/
theorem makeFoldersIn_steps {fits : Disk → Prop} {rel : Disk → Disk → Prop} (refl : ∀ d, fits d → rel d d)
    (trans : ∀ {first mid last}, rel first mid → rel mid last → rel first last) {around : List Path}
    (single : ∀ q ∈ around, ∀ d, fits d → Ends (makeFolder q) d fun _ after => fits after ∧ rel d after)
    (fit : fits d) : Ends (makeFoldersIn around) d fun _ after => fits after ∧ rel d after := by
  induction around generalizing d with
  | nil => exact .failed ⟨fit, refl d fit⟩
  | cons q around ih =>
    obtain ⟨step, single⟩ := List.forall_mem_cons.mp single
    unfold makeFoldersIn
    split
    next => exact .returned ⟨fit, refl d fit⟩
    next =>
      refine .caught (step d fit) (fun _ _ made => made) ?_
      rintro fault after ⟨fit, made⟩
      split
      next =>
        refine (ih single fit).bind ?_ (fun _ _ ⟨fit, further⟩ => ⟨fit, trans made further⟩)
        rintro _ between ⟨fit, further⟩
        refine .caught (step between fit) (fun _ _ ⟨fit, last⟩ => ⟨fit, trans (trans made further) last⟩) ?_
        rintro fault _ ⟨fit, last⟩
        refine .looked ?_
        have all := trans (trans made further) last
        split
        next => exact .returned ⟨fit, all⟩
        next => exact .failed ⟨fit, all⟩
      next =>
        refine .looked ?_
        split
        next => exact .returned ⟨fit, made⟩
        next => exact .failed ⟨fit, made⟩

theorem makeFoldersIn_along {p : Path} {around : List Path} (lead : ∀ q ∈ around, q.Leads p)
    (tree : d.IsTree) : Ends (makeFoldersIn around) d fun _ after => GrownAlong p d after := by
  have single : ∀ q ∈ around, ∀ d : Disk, d.IsTree →
      Ends (makeFolder q) d fun _ after => after.IsTree ∧ GrownAlong p d after := by
    intro q member d tree
    exact (makeFolder_along (lead q member) tree).mono fun _ _ grown => ⟨grown.tree, grown⟩
  exact (makeFoldersIn_steps (fun _ => .refl) .trans single tree).mono fun _ _ made => made.2

theorem makeFolders_along {p q : Path} (leads : q.Leads p) (tree : d.IsTree) :
    Ends (makeFolders q) d fun _ after => GrownAlong p d after := by
  cases some_text : q.isEmpty with
  | false =>
    exact makeFoldersIn_along (fun r member => (Path.ancestors_lead q r member).trans some_text leads) tree
  | true =>
    obtain ⟨outer, ancestors⟩ : ∃ outer, q.ancestors = q :: outer := by
      unfold Path.ancestors
      cases q.measuredParts.length <;> exact ⟨_, rfl⟩
    unfold makeFolders
    rw [ancestors, makeFoldersIn, if_pos some_text]
    exact .returned (.refl tree)

theorem makeAround_along (target : Path) (tree : d.IsTree) :
    Ends (match target.parent? with
      | some around => makeFolders around
      | none => pure ()) d fun _ after => GrownAlong target d after := by
  split
  next parent => exact makeFolders_along (Path.parent?_leads parent) tree
  next => exact .returned (.refl tree)

theorem makeFolders_ends (p : Path) (tree : d.IsTree) :
    Ends (makeFolders p) d fun _ after => Grown d after :=
  (makeFolders_along (.refl p) tree).mono fun _ _ grown => grown.toGrown

theorem makeParent_ends (p : Path) (tree : d.IsTree) :
    Ends (makeParent p) d fun _ after => Grown d after := by
  unfold makeParent
  split
  next =>
    split
    next => exact .returned (.refl tree)
    next => exact makeFolders_ends _ tree
  next => exact .returned (.refl tree)

theorem fileToWrite_ends (p : Path) (tree : d.IsTree) :
    Ends (fileToWrite p) d fun result after => after = d ∧
      ((∃ l, result = .ok l ∧ Writable d p l) ∨ (∃ f, result = .error f) ∧ ∀ l, ¬ Writable d p l) := by
  unfold fileToWrite
  split
  next slash =>
    have barred (l : Location) (writable : Writable d p l) : False := by
      obtain ⟨name, last⟩ := writable.named tree
      rw [Path.steps_of_slash slash, List.getLast?_concat] at last
      cases last
    refine (lift_ends _ d).bind ?_ ?_
    · intro _ _ ended
      obtain ⟨-, rfl⟩ := ended
      exact .broken ⟨rfl, .inr ⟨⟨_, rfl⟩, barred⟩⟩
    · intro f _ ended
      obtain ⟨-, rfl⟩ := ended
      exact ⟨rfl, .inr ⟨⟨f, rfl⟩, barred⟩⟩
  next =>
    refine (lift_ends _ d).bind ?_ ?_
    · intro l _ ended
      obtain ⟨found, rfl⟩ := ended
      have around := (walk_ok tree (start_folder tree p) (locate_walk found.symm)).2
      refine .looked ?_
      split
      next folder =>
        refine .failed ⟨rfl, .inr ⟨⟨_, rfl⟩, ?_⟩⟩
        intro other writable
        cases found.trans writable.located
        exact writable.noFolder folder
      next content file =>
        refine .returned ⟨rfl, .inl ⟨l, rfl, found.symm, ?_, around, ?_⟩⟩
        · simp [file]
        · simp [file]
      next free =>
        refine .looked ?_
        split
        next fixed =>
          refine .failed ⟨rfl, .inr ⟨⟨_, rfl⟩, ?_⟩⟩
          intro other writable
          cases found.trans writable.located
          exact absurd fixed (by simp [writable.unfixed free])
        next unfixed =>
          refine .returned ⟨rfl, .inl ⟨l, rfl, found.symm, ?_, around, fun _ => eq_false_of_ne_true unfixed⟩⟩
          simp [free]
    · intro f _ ended
      obtain ⟨found, rfl⟩ := ended
      refine ⟨rfl, .inr ⟨⟨f, rfl⟩, ?_⟩⟩
      intro l writable
      cases found.trans writable.located

theorem write_ends (p : Path) (content : ByteArray) (tree : d.IsTree) :
    Ends (write p content) d (Written p content d) := by
  refine (fileToWrite_ends p tree).bind ?_ ?_
  · intro l _ ended
    obtain ⟨rfl, ⟨_, same, writable⟩ | ⟨⟨_, same⟩, _⟩⟩ := ended
    · cases same
      refine (nextHitch_ends _).bind ?_ ?_
      · intro hitch _ ended
        obtain ⟨same, rfl⟩ := ended
        have met := (Except.ok.inj same).symm
        cases hitch with
        | none => exact .whole writable met
        | refused => exact .refused .full (.spent _) fun _ _ => met
        | cut size => exact .cut writable met
      · intro _ _ ended
        obtain ⟨same, -⟩ := ended
        cases same
    · cases same
  · intro f _ ended
    obtain ⟨rfl, ⟨_, same, _⟩ | ⟨_, barred⟩⟩ := ended
    · cases same
    · exact .refused f (.refl _) fun l writable => absurd writable (barred l)

theorem rename_ends (p q : Path) (tree : d.IsTree) : Ends (rename p q) d (Renamed p q d) := by
  refine (lift_ends _ d).bind ?_ ?_
  · intro content _ ended
    obtain ⟨read, rfl⟩ := ended
    obtain ⟨l, located, file⟩ := read_ok read.symm
    refine (lift_ends _ _).bind ?_ ?_
    · intro other _ ended
      obtain ⟨found, rfl⟩ := ended
      cases located.symm.trans found.symm
      refine (fileToWrite_ends q tree).bind ?_ ?_
      · intro target _ ended
        obtain ⟨rfl, ⟨_, same, writable⟩ | ⟨⟨_, same⟩, _⟩⟩ := ended
        · cases same
          refine .looked ?_
          split
          next => exact .broken (.refused .denied (.refl _))
          next =>
            refine (nextHitch_ends _).bind ?_ ?_
            · intro hitch _ ended
              obtain ⟨-, rfl⟩ := ended
              cases hitch with
              | none => exact .moved located file writable
              | refused | cut => exact .refused .full (.spent _)
            · intro _ _ ended
              obtain ⟨same, -⟩ := ended
              cases same
        · cases same
      · intro f _ ended
        obtain ⟨rfl, -⟩ := ended
        exact .refused f (.refl _)
    · intro f _ ended
      obtain ⟨-, rfl⟩ := ended
      exact .refused f (.refl _)
  · intro f _ ended
    obtain ⟨-, rfl⟩ := ended
    exact .refused f (.refl _)

end OnDisk

end WidgetRepair
