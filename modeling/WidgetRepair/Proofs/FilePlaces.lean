import WidgetRepair.Proofs.PlannedRepair

/-! What a pattern stands for depends on where files and folders stand, not on what the files hold. So an edit of
the files of a pattern does not change what the pattern stands for. -/

namespace WidgetRepair

def Entry.isFile : Entry → Bool
  | .file _ => true
  | .folder => false

namespace Disk

/-- An entry without what it holds. -/
def place (x : Location × Entry) : Location × Bool := (x.1, x.2.isFile)

/-- Disks on which the same files and folders stand, whatever the files hold. -/
structure SamePlaces (d later : Disk) : Prop where
  origin : later.origin = d.origin
  places : later.entries.map place = d.entries.map place

/-- At two locations stands nothing, or a folder, or a file. -/
inductive SameKind : Option Entry → Option Entry → Prop where
  | nothing : SameKind none none
  | folder : SameKind (some .folder) (some .folder)
  | file (held holds : ByteArray) : SameKind (some (.file held)) (some (.file holds))

theorem SameKind.of_isFile {held holds : Option Entry} (same : holds.map Entry.isFile = held.map Entry.isFile) :
    SameKind held holds := by
  rcases held with _ | _ | _ <;> rcases holds with _ | _ | _ <;> cases same
  · exact .nothing
  · exact .file _ _
  · exact .folder

namespace SamePlaces

variable {d later last : Disk} (same : SamePlaces d later)

theorem refl (d : Disk) : SamePlaces d d := ⟨rfl, rfl⟩

theorem trans (first : SamePlaces d later) (second : SamePlaces later last) : SamePlaces d last where
  origin := second.origin.trans first.origin
  places := second.places.trans first.places

section Seen

include same

theorem get? (l : Location) : SameKind (d.get? l) (later.get? l) := by
  have found (entries : List (Location × Entry)) : (entries.find? (·.1 == l)).map (·.2.isFile) =
      ((entries.map place).find? (·.1 == l)).map (·.2) := by
    rw [List.find?_map, Option.map_map]
    rfl
  unfold Disk.get?
  split
  next => exact .folder
  next =>
    refine .of_isFile ?_
    rw [Option.map_map, Option.map_map]
    exact (found _).trans (same.places ▸ (found _).symm)

theorem walk (l : Location) (steps : List Step) : later.walk l steps = d.walk l steps := by
  induction steps generalizing l with
  | nil => rfl
  | cons step rest ih =>
    cases step with
    | stay | up => exact ih _
    | into name =>
      have kind := same.get? (l ++ [name])
      rw [Disk.walk, Disk.walk, ih]
      generalize d.get? (l ++ [name]) = held, later.get? (l ++ [name]) = holds at kind
      cases kind <;> rfl

theorem locate (p : Path) : later.locate p = d.locate p := by
  unfold Disk.locate
  rw [start_of_origin same.origin, same.walk]

theorem find? (p : Path) : SameKind (d.find? p) (later.find? p) := by
  unfold Disk.find?
  rw [same.locate]
  cases d.locate p with
  | error f => exact .nothing
  | ok l => exact same.get? l

theorem isFile (p : Path) : later.isFile p = d.isFile p := by
  have kind := same.find? p
  unfold Disk.isFile
  generalize d.find? p = held, later.find? p = holds at kind
  cases kind <;> rfl

theorem isFolder (p : Path) : later.isFolder p = d.isFolder p := by
  have kind := same.find? p
  unfold Disk.isFolder
  generalize d.find? p = held, later.find? p = holds at kind
  cases kind <;> rfl

theorem exists? (p : Path) : later.exists? p = d.exists? p := by
  have kind := same.find? p
  unfold Disk.exists?
  generalize d.find? p = held, later.find? p = holds at kind
  cases kind <;> rfl

/-- What is listed by places alone. -/
theorem listed {α : Type} (keep : Location → Bool) (pick : Location → Option α) :
    (later.entries.filter fun e => keep e.1).filterMap (fun e => pick e.1) =
      (d.entries.filter fun e => keep e.1).filterMap fun e => pick e.1 := by
  have each (entries : List (Location × Entry)) : (entries.filter fun e => keep e.1).filterMap (fun e => pick e.1) =
      ((entries.map place).filter fun e => keep e.1).filterMap fun e => pick e.1 := by
    rw [List.filter_map, List.filterMap_map]
    rfl
  rw [each, each, same.places]

theorem childNames (folder : Path) : Glob.childNames later folder = Glob.childNames d folder := by
  unfold Glob.childNames Disk.below
  rw [same.locate]
  split
  next => rfl
  next l _ =>
    exact same.listed (fun other => l.isPrefixOf other && other != l)
      fun other => if other.length = l.length + 1 then other.getLast? else none

theorem size : later.entries.length = d.entries.length := by
  simpa using congrArg List.length same.places

end Seen

/-- Putting a file where a file stands changes no place. -/
theorem put {l : Location} {old : ByteArray} (file : d.get? l = some (.file old)) (new : ByteArray) :
    SamePlaces d (d.spent.put l (.file new)) where
  origin := rfl
  places := by
    have put (entries : List (Location × Entry)) (ordered : InOrder entries)
        (found : entries.find? (·.1 == l) = some (l, .file old)) :
        (putEntry l (.file new) entries).map place = entries.map place := by
      induction entries with
      | nil => cases found
      | cons first rest ih =>
        obtain ⟨before, ordered⟩ := List.pairwise_cons.mp ordered
        rw [List.find?_cons] at found
        unfold putEntry
        by_cases here : l = first.1
        · rw [show (first.1 == l) = true by simp [here]] at found
          rw [Option.some.inj found]
          simp [place, Entry.isFile]
        · rw [show (first.1 == l) = false by simpa using Ne.symm here] at found
          have notLess : ¬ l < first.1 := by
            have less := before _ (List.mem_of_find?_eq_some found)
            exact fun more => List.lt_asymm more less
          rw [if_neg here, if_neg notLess, List.map_cons, List.map_cons, ih ordered found]
    refine put d.entries d.inOrder ?_
    unfold Disk.get? at file
    split at file
    next => cases file
    next =>
      obtain ⟨⟨other, e⟩, found, rfl⟩ := Option.map_eq_some_iff.mp file
      have here : other = l := by simpa using List.find?_some found
      exact here ▸ found

end SamePlaces

end Disk

namespace Glob

open Disk

variable {d later : Disk}

/-- Each of the ways in which paths are looked for looks only at places. -/
theorem ways_congr (same : SamePlaces d later) (folderOnly : Bool) (fuel : Nat) :
    (∀ p parts, fill later folderOnly fuel p parts = fill d folderOnly fuel p parts) ∧
    (∀ p parts, visit later folderOnly fuel p parts = visit d folderOnly fuel p parts) ∧
    ∀ p part rest, here later folderOnly fuel p part rest = here d folderOnly fuel p part rest := by
  have accepted (p : Path) : accept later folderOnly p = accept d folderOnly p := by
    unfold accept
    rw [same.isFolder]
  induction fuel with
  | zero => exact ⟨fun _ _ => by simp [fill], fun _ _ => by simp [visit], fun _ _ _ => by simp [here]⟩
  | succ fuel ih =>
    obtain ⟨filled, visited, found⟩ := ih
    refine ⟨?_, ?_, ?_⟩
    · intro p parts
      cases parts with
      | nil => simp [fill]
      | cons part rest => simp only [fill, same.isFolder, same.exists?, same.childNames, accepted, filled, visited]
    · intro p parts
      cases parts with
      | nil => simp [visit]
      | cons part rest => simp only [visit, same.isFolder, filled, found]
    · intro p part rest
      simp only [here, accepted, filled]

theorem paths_congr (same : SamePlaces d later) (pattern : String) : paths later pattern = paths d pattern := by
  unfold paths
  simp only [(ways_congr same _ _).1, same.size]

end Glob

theorem Edit.matchingFiles_congr {d later : Disk} (same : d.SamePlaces later) (folder : Path) (pattern : String) :
    matchingFiles later folder pattern = matchingFiles d folder pattern := by
  have start : root later folder = root d folder := by
    unfold root
    rw [same.isFolder]
  unfold matchingFiles
  simp only [start, Glob.paths_congr same, same.isFile]

end WidgetRepair
