import WidgetRepair.Proofs.OpenWays
import WidgetRepair.Proofs.PathParents

/-! Making the folders of a path where every step on the disk succeeds that the tree allows. It fails only
for reasons that stay: the path cannot be that of anything, a name is too long, a file is on the way, or a folder
is missing in one that is sealed. -/

namespace WidgetRepair

namespace Disk

variable {d later : Disk} {l m : Location} {way more : List Step} {p q : Path}

theorem walk_stays (d : Disk) (l : Location) (stays : ∀ step ∈ way, step = .stay) : d.walk l way = .ok l := by
  induction way with
  | nil => rfl
  | cons step rest ih =>
    obtain ⟨rfl, others⟩ := List.forall_mem_cons.mp stays
    exact ih others

/-- A step into a folder is taken, and the walk goes on there. -/
theorem walk_through {name : String} (short : name.utf8ByteSize ≤ nameLimit)
    (folder : d.get? (l ++ [name]) = some .folder) : d.walk l (.into name :: way) = d.walk (l ++ [name]) way := by
  rw [walk, if_neg (Nat.not_lt.mpr short)]
  cases way with
  | nil => rfl
  | cons step rest => simp only [List.isEmpty_cons, Bool.false_eq_true, if_false, folder]

/-- A step by name is the last one, or one into a folder. -/
theorem walk_into_iff {name : String} : d.walk l (.into name :: way) = .ok m ↔ name.utf8ByteSize ≤ nameLimit ∧
    (way = [] ∧ l ++ [name] = m ∨ d.get? (l ++ [name]) = some .folder ∧ d.walk (l ++ [name]) way = .ok m) := by
  constructor
  · intro arrived
    rw [walk] at arrived
    split at arrived
    next => cases arrived
    next short =>
      refine ⟨Nat.not_lt.mp short, ?_⟩
      split at arrived
      next last =>
        cases arrived
        exact .inl ⟨List.isEmpty_iff.mp last, rfl⟩
      next =>
        split at arrived
        next => cases arrived
        next => cases arrived
        next folder => exact .inr ⟨folder, arrived⟩
  · rintro ⟨short, ⟨rfl, rfl⟩ | ⟨folder, arrived⟩⟩
    · rw [walk, if_neg (Nat.not_lt.mpr short)]
      rfl
    · rwa [walk_through short folder]

/-- From a folder that a walk arrives at, another one goes on. -/
theorem walk_further (arrived : d.walk l way = .ok m) (folder : d.get? m = some .folder) (more : List Step) :
    d.walk l (way ++ more) = d.walk m more := by
  induction way generalizing l with
  | nil =>
    cases arrived
    rfl
  | cons step rest ih =>
    cases step with
    | stay | up => exact ih arrived
    | into name =>
      obtain ⟨short, ⟨rfl, rfl⟩ | ⟨inner, arrived⟩⟩ := walk_into_iff.mp arrived
      · exact walk_through short folder
      · exact (walk_through short inner).trans (ih arrived)

/-- A walk arrives also without the points at its end. -/
theorem walk_before (stays : ∀ step ∈ more, step = .stay) (arrived : d.walk l (way ++ more) = .ok m) :
    d.walk l way = .ok m := by
  induction way generalizing l with
  | nil =>
    rw [List.nil_append, walk_stays d l stays] at arrived
    exact arrived
  | cons step rest ih =>
    cases step with
    | stay | up => exact ih arrived
    | into name =>
      obtain ⟨short, ⟨last, here⟩ | ⟨inner, arrived⟩⟩ := walk_into_iff.mp arrived
      · exact walk_into_iff.mpr ⟨short, .inl ⟨(List.append_eq_nil_iff.mp last).1, here⟩⟩
      · exact walk_into_iff.mpr ⟨short, .inr ⟨inner, ih arrived⟩⟩

theorem walk_short (arrived : d.walk l way = .ok m) {name : String} (asked : .into name ∈ way) :
    name.utf8ByteSize ≤ nameLimit := by
  induction way generalizing l with
  | nil => cases asked
  | cons step rest ih =>
    cases step with
    | stay | up => exact ih arrived (by simpa using asked)
    | into other =>
      obtain ⟨short, ends⟩ := walk_into_iff.mp arrived
      rcases List.mem_cons.mp asked with same | further
      · cases same
        exact short
      · rcases ends with ⟨rfl, -⟩ | ⟨-, arrived⟩
        · cases further
        · exact ih arrived further

/-- Where a walk does not find something missing, a name is too long for it or a file is on the way. -/
theorem walk_stopped {f : DiskFault} (lost : d.walk l way = .error f) (other : f ≠ .missing) :
    (∃ name, .into name ∈ way ∧ nameLimit < name.utf8ByteSize) ∨
      ∃ front, front <+: way ∧ d.file? (destination l front) ≠ none := by
  induction way generalizing l with
  | nil => cases lost
  | cons step rest ih =>
    cases step with
    | stay | up =>
      rcases ih lost with ⟨name, asked, long⟩ | ⟨front, along, file⟩
      · exact .inl ⟨name, List.mem_cons_of_mem _ asked, long⟩
      · exact .inr ⟨_, List.cons_prefix_cons.mpr ⟨rfl, along⟩, file⟩
    | into name =>
      rw [walk] at lost
      split at lost
      next long => exact .inl ⟨name, List.mem_cons_self, long⟩
      next =>
        split at lost
        next => cases lost
        next =>
          split at lost
          next =>
            cases lost
            exact absurd rfl other
          next content stands =>
            refine .inr ⟨[.into name], List.cons_prefix_cons.mpr ⟨rfl, List.nil_prefix⟩, ?_⟩
            simp [destination, file?, stands]
          next =>
            rcases ih lost with ⟨other, asked, long⟩ | ⟨front, along, file⟩
            · exact .inl ⟨other, List.mem_cons_of_mem _ asked, long⟩
            · exact .inr ⟨_, List.cons_prefix_cons.mpr ⟨rfl, along⟩, file⟩

/-- A single step is never to something that is missing on the way. -/
theorem walk_single (d : Disk) (l : Location) (stays : ∀ step ∈ way, step = .stay) (step : Step) :
    d.walk l (way ++ [step]) ≠ .error .missing := by
  induction way with
  | nil =>
    intro lost
    cases step with
    | stay | up => cases lost
    | into name =>
      rw [List.nil_append, walk] at lost
      split at lost
      next => cases lost
      next => cases lost
  | cons first rest ih =>
    obtain ⟨rfl, others⟩ := List.forall_mem_cons.mp stays
    exact ih others

theorem refusal?_parent (parent : p.parent? = some q) (filled : q.isEmpty = false) (free : refusal? p = none) :
    refusal? q = none := by
  obtain ⟨more, text⟩ := (Path.parent?_around parent).text
  exact refusal?_front text filled free

theorem start_of_parent (parent : p.parent? = some q) (filled : q.isEmpty = false) (d : Disk) :
    d.start q = d.start p := by
  unfold start
  rw [(Path.parent?_leads parent).start.resolve_left (by simp [filled])]

def HasFolder (d : Disk) (p : Path) : Prop :=
  ∃ l, d.walk (d.start p) p.way = .ok l ∧ d.get? l = some .folder

theorem isFolder_iff : d.isFolder p = true ↔ refusal? p = none ∧ d.HasFolder p := by
  unfold isFolder find? locate
  cases refused : refusal? p with
  | some fault => simp
  | none =>
    simp only [Path.steps_way, true_and]
    constructor
    · intro found
      split at found
      next folder =>
        split at folder
        next l arrived => exact ⟨l, walk_before p.closing_stays arrived, folder⟩
        next => cases folder
      next => cases found
    · rintro ⟨l, arrived, folder⟩
      rw [walk_further arrived folder, walk_stays d l p.closing_stays]
      simp only [folder]

/-- Why no folder can be made at a path, whatever other folders there are. -/
inductive Barred (d : Disk) (p : Path) : Prop where
  | refused {fault : DiskFault} (refused : refusal? p = some fault)
  | long {name : String} (asked : .into name ∈ p.way) (long : nameLimit < name.utf8ByteSize)
  | file {front : List Step} (along : front <+: p.way) (stands : d.file? (destination (d.start p) front) ≠ none)
  | fixed {front : List Step} (along : front <+: p.way) (free : d.get? (destination (d.start p) front) = none)
    (fixed : d.fixed (destination (d.start p) front) = true)

namespace Barred

theorem of_grown (grown : Grown d later) (barred : Barred later p) : Barred d p := by
  cases barred with
  | refused refused => exact .refused refused
  | long asked long => exact .long asked long
  | file along stands =>
    rw [grown.file?, start_of_origin grown.origin] at stands
    exact .file along stands
  | fixed along free fixed =>
    rw [fixed_of_sealed grown.sealed, start_of_origin grown.origin] at fixed
    rw [start_of_origin grown.origin, grown.fixed _ fixed] at free
    exact .fixed along free fixed

theorem of_parent (parent : p.parent? = some q) (filled : q.isEmpty = false) (barred : Barred d q) :
    Barred d p := by
  have leads := Path.parent?_leads parent
  cases barred with
  | @refused fault refused =>
    cases free : refusal? p with
    | some fault => exact .refused free
    | none =>
      rw [refusal?_parent parent filled free] at refused
      cases refused
  | long asked long => exact .long (leads.way.subset asked) long
  | file along stands =>
    rw [start_of_parent parent filled] at stands
    exact .file (along.trans leads.way) stands
  | fixed along free fixed =>
    rw [start_of_parent parent filled] at free fixed
    exact .fixed (along.trans leads.way) free fixed

end Barred

end Disk

namespace OnDisk

open Disk

variable {d : Disk} {p q : Path}

/-- How making a single folder ends where the disk itself refuses no step. -/
inductive Made (p : Path) (d : Disk) : Except DiskFault Unit → Disk → Prop where
  | made {after : Disk} (grown : Grown d after) (calm : after.hitches = []) (folder : after.HasFolder p) :
    Made p d (.ok ()) after
  | missing (lost : d.walk (d.start p) p.way = .error .missing) : Made p d (.error .missing) d
  | stopped {f : DiskFault} (other : f ≠ .missing) (why : Barred d p ∨ d.isFolder p = true) :
    Made p d (.error f) d

theorem locateNew_stopped {f : DiskFault} (filled : p.isEmpty = false) (failed : d.locateNew p = .error f) :
    Made p d (.error f) d := by
  unfold Disk.locateNew at failed
  split at failed
  next fault refused =>
    cases failed
    refine .stopped ?_ (.inl (.refused refused))
    rintro rfl
    unfold refusal? at refused
    rw [filled] at refused
    split at refused
    next => cases refused
    next =>
      simp only [Bool.false_eq_true, if_false] at refused
      split at refused
      next => cases refused
      next => cases refused
  next =>
    dsimp only at failed
    rw [Path.steps_trimmed] at failed
    by_cases other : f = .missing
    · subst other
      exact .missing failed
    · refine .stopped other (.inl ?_)
      rcases walk_stopped failed other with ⟨name, asked, long⟩ | ⟨front, along, stands⟩
      · exact .long asked long
      · exact .file along stands

theorem locateNew_free {l : Location} (found : d.locateNew p = .ok l) : refusal? p = none := by
  unfold Disk.locateNew at found
  split at found
  next => cases found
  next free => exact free

theorem makeFolder_calm (filled : p.isEmpty = false) (tree : d.IsTree) (calm : d.hitches = []) :
    Ends (makeFolder p) d (Made p d) := by
  refine (lift_ends _ d).bind ?_ ?_
  · rintro l d ⟨found, rfl⟩
    obtain ⟨-, arrived⟩ := locateNew_walk found.symm
    obtain ⟨place, around⟩ := walk_ok tree (start_folder tree p) arrived
    refine .looked ?_
    split
    next something =>
      obtain ⟨e, stands⟩ := Option.isSome_iff_exists.mp something
      refine .broken (.stopped nofun ?_)
      cases e with
      | folder => exact .inr (isFolder_iff.mpr ⟨locateNew_free found.symm, l, arrived, stands⟩)
      | file content =>
        refine .inl (.file List.prefix_rfl ?_)
        rw [← place]
        simp [file?, stands]
    next something =>
      have free := Option.not_isSome_iff_eq_none.mp something
      refine .looked ?_
      split
      next fixed =>
        refine .broken (.stopped nofun (.inl (.fixed List.prefix_rfl ?_ ?_)))
        · rwa [← place]
        · rwa [← place]
      next unfixed =>
        refine (nextHitch_ends _).bind ?_ ?_
        · rintro hitch _ ⟨met, rfl⟩
          have unhitched : hitch = .none := by
            rw [Except.ok.inj met, Disk.hitch, calm]
            rfl
          subst unhitched
          refine (put_ends ..).mono ?_
          rintro _ _ ⟨rfl, rfl⟩
          have grown : Grown d (d.spent.put l .folder) :=
            (Grown.spent tree).trans (.put (spent_isTree tree) around free (eq_false_of_ne_true unfixed))
          have inner : l ≠ [] := fun root => something (by rw [root]; rfl)
          have there : (d.spent.put l .folder).get? l = some .folder := by rw [get?_put _ inner, if_pos rfl]
          refine .made grown ?_ ⟨l, start_of_origin grown.origin p ▸ walk_kept grown.kept arrived, there⟩
          show d.hitches.drop 1 = []
          rw [calm]
          rfl
        · rintro _ _ ⟨⟨⟩, -⟩
  · rintro f d ⟨found, rfl⟩
    exact locateNew_stopped filled found.symm

/-- How making the folders of a path ends where the disk itself refuses no step. -/
inductive Prepared (p : Path) (d : Disk) : Except DiskFault Unit → Disk → Prop where
  | fine {after : Disk} (grown : Grown d after) (calm : after.hitches = [])
    (folder : p.isEmpty = true ∨ after.HasFolder p) : Prepared p d (.ok ()) after
  | failed {f : DiskFault} {after : Disk} (filled : p.isEmpty = false) (grown : Grown d after)
    (calm : after.hitches = []) (barred : Barred d p) : Prepared p d (.error f) after

/-- Once the folder around a path is there, nothing is missing on the way. -/
theorem not_missing (parent : p.parent? = some q) (ended : p.Ended) (folder : q.isEmpty = true ∨ d.HasFolder q) :
    d.walk (d.start p) p.way ≠ .error .missing := by
  obtain ⟨gap, step, rest, way, stays, idle⟩ := (Path.parent?_around parent).last
  have further : ∃ l, d.walk (d.start p) p.way = d.walk l (gap ++ step :: rest) := by
    cases filled : q.isEmpty with
    | true =>
      rw [way, Path.way_of_empty filled]
      exact ⟨_, rfl⟩
    | false =>
      obtain ⟨l, arrived, folder⟩ := folder.resolve_left (by simp [filled])
      rw [start_of_parent parent filled] at arrived
      rw [way]
      exact ⟨l, walk_further arrived folder _⟩
  obtain ⟨l, further⟩ := further
  rcases ended with point | moves
  · rw [point]
    nofun
  · have last : rest = [] := by
      by_contra filled
      obtain ⟨final, last⟩ := Option.ne_none_iff_exists'.mp (mt List.getLast?_eq_none_iff.mp filled)
      apply moves
      rw [way, ← idle final (List.mem_of_getLast? last)]
      simp [List.getLast?_append, List.getLast?_cons, last]
    rw [further, last]
    exact walk_single d l stays step

/-- Where a folder could not be made, it may be there already. -/
theorem checked_calm {between : Disk} {f : DiskFault} (filled : p.isEmpty = false) (grown : Grown d between)
    (calm : between.hitches = []) (why : Barred between p ∨ between.isFolder p = true) :
    Ends (do if (← get).isFolder p then pure () else OnDisk.fail f) between (Prepared p d) := by
  refine .looked ?_
  split
  next folder => exact .returned (.fine grown calm (.inr (isFolder_iff.mp folder).2))
  next missing => exact .failed (.failed filled grown calm (.of_grown grown (why.resolve_right missing)))

/-- Once the folder around a path is there, making the path itself only fails for a reason that stays. -/
theorem makeFolders_calm (ended : p.Ended) (tree : d.IsTree) (calm : d.hitches = []) :
    Ends (makeFolders p) d (Prepared p d) := by
  unfold makeFolders
  induction size : p.measuredParts.length using Nat.strongRecOn generalizing p d with
  | ind n ih =>
    rw [Path.ancestors_eq, makeFoldersIn]
    split
    next empty => exact .returned (.fine (.refl tree) calm (.inl empty))
    next filled =>
      have filled := eq_false_of_ne_true filled
      refine .caught (makeFolder_calm filled tree calm) ?_ ?_
      · rintro _ after ⟨grown, calm, folder⟩
        exact .fine grown calm (.inr folder)
      · rintro fault after stopped
        cases stopped with
        | missing lost =>
          cases parent : p.parent? with
          | none =>
            rw [walk_stays _ _ (Path.parent?_none parent)] at lost
            cases lost
          | some q =>
            have around := Path.parent?_around parent
            have fewer := Path.parent?_fewer parent
            refine (ih _ (by omega) around.ended tree calm rfl).bind ?_ ?_
            · rintro _ between ⟨grown, calm, folder⟩
              refine .caught (makeFolder_calm filled grown.tree calm) ?_ ?_
              · rintro _ after ⟨further, calm, folder⟩
                exact .fine (grown.trans further) calm (.inr folder)
              · rintro fault after stopped
                cases stopped with
                | missing lost => exact absurd lost (not_missing parent ended folder)
                | stopped _ why => exact checked_calm filled grown calm why
            · rintro fault after (_ | ⟨inner, grown, calm, barred⟩)
              exact .failed filled grown calm (barred.of_parent parent inner)
        | stopped other why =>
          split
          next => exact absurd rfl other
          next => exact checked_calm filled (.refl tree) calm why

end OnDisk

namespace Disk

variable {d later : Disk} {p q : Path}

/-- No folder has come to stand where a file was, and nothing in a sealed folder. -/
structure Firm (d later : Disk) : Prop where
  origin : later.origin = d.origin
  files : ∀ l, later.get? l = some .folder → d.file? l = none
  fixed : ∀ l, d.fixed l = true → d.get? l = none → later.get? l = none

theorem Firm.of_grown {between : Disk} (grown : Grown d between) (firm : Firm d later) : Firm between later where
  origin := firm.origin.trans grown.origin.symm
  files l folder := (grown.file? l).trans (firm.files l folder)
  fixed l fixed free := by
    rw [fixed_of_sealed grown.sealed] at fixed
    exact firm.fixed l fixed (grown.fixed l fixed ▸ free)

/-- No file is found at a path, as long as files do not give way to folders and sealed folders are left alone. -/
def Shut (d : Disk) (p : Path) : Prop := ∀ later : Disk, later.IsTree → Firm d later → later.isFile p = false

theorem Shut.of_grown {between : Disk} (grown : Grown d between) (shut : Shut between p) : Shut d p :=
  fun later tree firm => shut later tree (firm.of_grown grown)

theorem locate_of_isFile (file : d.isFile p = true) : ∃ l, d.locate p = .ok l ∧ d.file? l ≠ none := by
  unfold isFile find? at file
  split at file
  next content found =>
    split at found
    next l located => exact ⟨l, located, by simp [file?, found]⟩
    next => cases found
  next => cases file

/-- Everything on the way to the folder around what is found is a folder. -/
theorem opened_of_located {l : Location} (tree : d.IsTree) (parent : p.parent? = some q) (filled : q.isEmpty = false)
    (located : d.locate p = .ok l) : d.Opened q := by
  obtain ⟨gap, step, rest, way, -, -⟩ := (Path.parent?_around parent).last
  have arrived := locate_walk located
  rw [Path.steps_way, way, List.append_assoc, ← start_of_parent parent filled] at arrived
  exact walk_passes tree (start_folder tree q) (by simp) arrived

/-- Where the folder around a path cannot be made, nothing is found at the path either. -/
theorem Barred.shut (parent : p.parent? = some q) (filled : q.isEmpty = false) (barred : Barred d q) : Shut d p := by
  intro later tree firm
  by_contra found
  obtain ⟨l, located, -⟩ := locate_of_isFile (eq_true_of_ne_false found)
  cases barred with
  | @refused fault refused =>
    have free : refusal? p = none := by
      unfold locate at located
      split at located
      next => cases located
      next free => exact free
    rw [refusal?_parent parent filled free] at refused
    cases refused
  | long asked long =>
    have arrived := locate_walk located
    rw [Path.steps_way] at arrived
    have inside := List.mem_append_left p.closing ((Path.parent?_leads parent).way.subset asked)
    exact absurd (walk_short arrived inside) (Nat.not_le_of_lt long)
  | file along stands =>
    have folder := opened_of_located tree parent filled located _ along
    rw [start_of_origin firm.origin] at folder
    exact stands (firm.files _ folder)
  | fixed along free fixed =>
    have folder := opened_of_located tree parent filled located _ along
    rw [start_of_origin firm.origin, firm.fixed _ fixed free] at folder
    cases folder

end Disk

namespace OnDisk

open Disk

variable {d : Disk} {p : Path}

/-- Where the disk itself refuses no step, the folder around a path is made, or nothing is ever found at the path. -/
theorem makeParent_calm (p : Path) (tree : d.IsTree) (calm : d.hitches = []) :
    Ends (makeParent p) d fun result after =>
      Grown d after ∧ after.hitches = [] ∧ (result.isOk = false → Shut d p) := by
  unfold makeParent
  split
  next around parent =>
    split
    next => exact .returned ⟨.refl tree, calm, nofun⟩
    next filled =>
      refine (makeFolders_calm (Path.parent?_around parent).ended tree calm).mono ?_
      rintro result after (⟨grown, calm, -⟩ | ⟨inner, grown, calm, barred⟩)
      · exact ⟨grown, calm, nofun⟩
      · exact ⟨grown, calm, fun _ => barred.shut parent inner⟩
  next => exact .returned ⟨.refl tree, calm, nofun⟩

end OnDisk

end WidgetRepair
