import Mathlib.Data.List.Induction
import WidgetRepair.Disk.Basic
import WidgetRepair.Proofs.ByteLines

/-! The disk as a tree. What stands at a location is changed by a step only there, folders stay
folders, and the way along a path depends on the folders alone. -/

namespace WidgetRepair.Disk

/-- The content of the file at a location. -/
def file? (d : Disk) (l : Location) : Option ByteArray :=
  match d.get? l with
  | some (.file content) => some content
  | _ => none

theorem file?_congr {d other : Disk} {l : Location} (same : d.get? l = other.get? l) :
    d.file? l = other.file? l := by
  unfold file?
  rw [same]

theorem find_putEntry (l m : Location) (e : Entry) (entries : List (Location × Entry)) :
    (putEntry l e entries).find? (·.1 == m) =
      if l = m then some (l, e) else entries.find? (·.1 == m) := by
  induction entries with
  | nil => by_cases same : l = m <;> simp [putEntry, same]
  | cons first rest ih =>
    obtain ⟨other, f⟩ := first
    unfold putEntry
    by_cases here : l = other
    · subst here
      by_cases same : l = m <;> simp [same]
    · rw [if_neg here]
      by_cases less : l < other
      · rw [if_pos less]
        by_cases same : l = m <;> simp [same]
      · rw [if_neg less, List.find?_cons, List.find?_cons, ih]
        by_cases same : l = m
        · have unlike : (other == m) = false := beq_false_of_ne fun equal => here (same.trans equal.symm)
          simp [same, unlike]
        · simp [same]

theorem get?_put (d : Disk) {l : Location} (inner : l ≠ []) (e : Entry) (m : Location) :
    (d.put l e).get? m = if l = m then some e else d.get? m := by
  unfold get? put
  by_cases outer : m = []
  · simp [outer, inner]
  · simp only [find_putEntry, List.isEmpty_iff, outer, if_false]
    by_cases same : l = m <;> simp [same]

theorem get?_erase (d : Disk) (l m : Location) :
    (d.erase l).get? m = if m ≠ [] ∧ l <+: m then none else d.get? m := by
  unfold get? erase
  by_cases outer : m = []
  · simp [outer]
  · simp only [List.isEmpty_iff, outer, if_false, ne_eq, not_false_eq_true, true_and,
      List.find?_filter]
    by_cases inside : l <+: m
    · rw [if_pos inside, List.find?_eq_none.mpr, Option.map_none]
      intro entry _ both
      simp only [Bool.not_eq_true', beq_iff_eq, decide_eq_true_eq] at both
      rw [both.2, List.isPrefixOf_iff_prefix.mpr inside] at both
      cases both.1
    · have outside : l.isPrefixOf m = false := by
        simpa [← List.isPrefixOf_iff_prefix] using inside
      rw [if_neg inside]
      congr 2
      funext entry
      by_cases same : entry.1 = m
      · simp [same, outside]
      · simp [same]

theorem file?_put (d : Disk) {l : Location} (inner : l ≠ []) (content : ByteArray) (m : Location) :
    (d.put l (.file content)).file? m = if l = m then some content else d.file? m := by
  unfold file?
  rw [get?_put d inner]
  by_cases same : l = m <;> simp [same]

/-- A disk on which everything stands in a folder, the starting point included. -/
structure IsTree (d : Disk) : Prop where
  based : d.get? d.origin = some .folder
  rooted : ∀ l e, d.get? l = some e → d.get? l.dropLast = some .folder

theorem empty_isTree : IsTree empty where
  based := rfl
  rooted := by
    intro l e found
    by_cases outer : l = []
    · rw [outer]
      rfl
    · simp [get?, empty, outer] at found

instance (found : Option Entry) : Decidable (found = some .folder) :=
  match found with
  | none => isFalse nofun
  | some .folder => isTrue rfl
  | some (.file _) => isFalse nofun

theorem isTree_iff {d : Disk} : d.IsTree ↔
    d.get? d.origin = some .folder ∧ ∀ x ∈ d.entries, d.get? x.1.dropLast = some .folder := by
  constructor
  · rintro ⟨based, rooted⟩
    refine ⟨based, fun x member => ?_⟩
    cases found : d.get? x.1 with
    | some e => exact rooted _ e found
    | none =>
      unfold get? at found
      split at found
      next => cases found
      next =>
        have missing := List.find?_eq_none.mp (Option.map_eq_none_iff.mp found) x member
        exact absurd (beq_self_eq_true x.1) missing
  · rintro ⟨based, rooted⟩
    refine ⟨based, fun l e found => ?_⟩
    unfold get? at found
    split at found
    next outer =>
      rw [List.isEmpty_iff.mp outer]
      rfl
    next =>
      obtain ⟨x, first, rfl⟩ := Option.map_eq_some_iff.mp found
      have place : x.1 = l := by simpa using List.find?_some first
      exact place ▸ rooted x (List.mem_of_find?_eq_some first)

instance (d : Disk) : Decidable d.IsTree := decidable_of_iff _ isTree_iff.symm

namespace IsTree

variable {d : Disk} {l m : Location}

/-- Whatever something stands below is a folder. -/
theorem folder_of_prefix (tree : d.IsTree) {e : Entry} (found : d.get? m = some e) (inside : l <+: m)
    (proper : l ≠ m) : d.get? l = some .folder := by
  obtain ⟨rest, rfl⟩ := inside
  induction rest using List.reverseRecOn generalizing e with
  | nil => exact absurd (List.append_nil l).symm proper
  | append_singleton rest name ih =>
    have around := tree.rooted _ _ found
    rw [← List.append_assoc, List.dropLast_concat] at around
    by_cases last : rest = []
    · rwa [last, List.append_nil] at around
    · exact ih around (by simpa using Ne.symm last)

theorem put (tree : d.IsTree) (inner : l ≠ []) (around : d.get? l.dropLast = some .folder) {e : Entry}
    (kept : d.get? l = some .folder → e = .folder) : (d.put l e).IsTree where
  based := by
    rw [get?_put d inner]
    split
    next same => rw [kept (same ▸ tree.based)]
    next => exact tree.based
  rooted := by
    intro m f found
    have folder : d.get? m.dropLast = some .folder := by
      rw [get?_put d inner] at found
      split at found
      next same => exact same ▸ around
      next => exact tree.rooted m f found
    rw [get?_put d inner]
    split
    next same => rw [kept (same ▸ folder)]
    next => exact folder

/-- Erasing what is no folder leaves everything else. -/
theorem spared (tree : d.IsTree) (noFolder : d.get? l ≠ some .folder) (other : m ≠ l) :
    (d.erase l).get? m = d.get? m := by
  rw [get?_erase]
  split
  next inside =>
    cases found : d.get? m with
    | none => rfl
    | some e => exact absurd (tree.folder_of_prefix found inside.2 (Ne.symm other)) noFolder
  next => rfl

theorem erase (tree : d.IsTree) (noFolder : d.get? l ≠ some .folder) : (d.erase l).IsTree := by
  have folders (m : Location) (folder : d.get? m = some .folder) :
      (d.erase l).get? m = some .folder := by
    rw [tree.spared noFolder fun same => noFolder (same ▸ folder), folder]
  refine ⟨folders _ tree.based, fun m e found => folders _ ?_⟩
  rw [get?_erase] at found
  split at found
  next => cases found
  next => exact tree.rooted m e found

end IsTree

/-- The location that steps lead to, whatever stands on the way. -/
def destination : Location → List Step → Location
  | l, [] => l
  | l, .stay :: rest => destination l rest
  | l, .up :: rest => destination l.dropLast rest
  | l, .into name :: rest => destination (l ++ [name]) rest

theorem destination_append (l : Location) (first rest : List Step) :
    destination l (first ++ rest) = destination (destination l first) rest := by
  induction first generalizing l with
  | nil => rfl
  | cons step first ih => cases step <;> exact ih _

theorem destination_stays (l : Location) {steps : List Step} (stays : ∀ step ∈ steps, step = .stay) :
    destination l steps = l := by
  induction steps with
  | nil => rfl
  | cons step rest ih =>
    rw [stays step List.mem_cons_self]
    exact ih fun other member => stays other (List.mem_cons_of_mem _ member)

/-- A walk that arrives arrives at the destination, which stands in a folder or could. -/
theorem walk_ok {d : Disk} (tree : d.IsTree) {l m : Location} {steps : List Step}
    (folder : d.get? l = some .folder) (arrived : d.walk l steps = .ok m) :
    m = destination l steps ∧ d.get? m.dropLast = some .folder := by
  induction steps generalizing l with
  | nil =>
    cases arrived
    exact ⟨rfl, tree.rooted _ _ folder⟩
  | cons step rest ih =>
    cases step with
    | stay => exact ih folder arrived
    | up => exact ih (tree.rooted _ _ folder) arrived
    | into name =>
      rw [walk] at arrived
      split at arrived
      next => cases arrived
      next =>
        split at arrived
        next last =>
          cases arrived
          rw [List.isEmpty_iff.mp last, List.dropLast_concat]
          exact ⟨rfl, folder⟩
        next =>
          split at arrived
          next => cases arrived
          next => cases arrived
          next inner => exact ih inner arrived

theorem start_folder {d : Disk} (tree : d.IsTree) (p : Path) : d.get? (d.start p) = some .folder := by
  unfold start
  split
  next => rfl
  next => exact tree.based

/-- A walk whose last step is not to a name arrives at a folder. -/
theorem walk_folder {d : Disk} (tree : d.IsTree) {l m : Location} {steps : List Step}
    (folder : d.get? l = some .folder) (arrived : d.walk l steps = .ok m)
    (nameless : ∀ name, steps.getLast? ≠ some (.into name)) : d.get? m = some .folder := by
  induction steps generalizing l with
  | nil =>
    cases arrived
    exact folder
  | cons step rest ih =>
    have later : ∀ name, rest.getLast? ≠ some (.into name) := by
      intro name last
      apply nameless name
      rw [List.getLast?_cons, last]
      rfl
    cases step with
    | stay => exact ih folder arrived later
    | up => exact ih (tree.rooted _ _ folder) arrived later
    | into name =>
      rw [walk] at arrived
      split at arrived
      next => cases arrived
      next =>
        split at arrived
        next last =>
          rw [List.isEmpty_iff.mp last] at nameless
          exact absurd rfl (nameless name)
        next =>
          split at arrived
          next => cases arrived
          next => cases arrived
          next inner => exact ih inner arrived later

/-- The folders of one disk are folders of another with the same starting point. -/
structure Kept (d later : Disk) : Prop where
  origin : later.origin = d.origin
  folders : ∀ l, d.get? l = some .folder → later.get? l = some .folder

namespace Kept

variable {d later last : Disk}

theorem refl (d : Disk) : Kept d d := ⟨rfl, fun _ folder => folder⟩

theorem trans (first : Kept d later) (second : Kept later last) : Kept d last where
  origin := second.origin.trans first.origin
  folders l folder := second.folders l (first.folders l folder)

end Kept

theorem walk_kept {d later : Disk} (kept : Kept d later) {l m : Location} {steps : List Step}
    (arrived : d.walk l steps = .ok m) : later.walk l steps = .ok m := by
  induction steps generalizing l with
  | nil => exact arrived
  | cons step rest ih =>
    cases step with
    | stay | up => exact ih arrived
    | into name =>
      rw [walk] at arrived ⊢
      split at arrived
      next => cases arrived
      next short =>
        rw [if_neg short]
        split at arrived
        next last => rw [if_pos last, arrived]
        next more =>
          rw [if_neg more]
          split at arrived
          next => cases arrived
          next => cases arrived
          next inner =>
            rw [kept.folders _ inner]
            exact ih arrived

theorem start_of_origin {d later : Disk} (origin : later.origin = d.origin) (p : Path) :
    later.start p = d.start p := by
  unfold start
  rw [origin]

/-- The location that a path leads to, whatever stands on the way. -/
def reach (d : Disk) (p : Path) : Location := destination (d.start p) (steps p)

theorem reach_of_origin {d later : Disk} (origin : later.origin = d.origin) (p : Path) :
    later.reach p = d.reach p := by
  unfold reach
  rw [start_of_origin origin]

theorem locate_walk {d : Disk} {p : Path} {l : Location} (found : d.locate p = .ok l) :
    d.walk (d.start p) (steps p) = .ok l := by
  unfold locate at found
  split at found
  next => cases found
  next => exact found

theorem locate_reach {d : Disk} (tree : d.IsTree) {p : Path} {l : Location}
    (found : d.locate p = .ok l) : l = d.reach p :=
  (walk_ok tree (start_folder tree p) (locate_walk found)).1

theorem Kept.locate {d later : Disk} (kept : Kept d later) {p : Path} {l : Location}
    (found : d.locate p = .ok l) : later.locate p = .ok l := by
  unfold Disk.locate at found ⊢
  split at found
  next => cases found
  next =>
    rw [start_of_origin kept.origin]
    exact walk_kept kept found

theorem exists?_iff {d : Disk} {p : Path} :
    d.exists? p = true ↔ ∃ l, d.locate p = .ok l ∧ d.get? l ≠ none := by
  unfold exists? find?
  cases d.locate p with
  | error f => simp
  | ok l => simp [Option.isSome_iff_ne_none]

theorem Kept.exists? {d later : Disk} (kept : Kept d later)
    (stands : ∀ l, d.get? l ≠ none → later.get? l ≠ none) {p : Path} (found : d.exists? p = true) :
    later.exists? p = true := by
  obtain ⟨l, located, something⟩ := exists?_iff.mp found
  exact exists?_iff.mpr ⟨l, kept.locate located, stands l something⟩

theorem read_located {d : Disk} {p : Path} {l : Location} (found : d.locate p = .ok l) :
    d.read p = match d.get? l with
      | none => Except.error .missing
      | some .folder => Except.error .isFolder
      | some (.file content) => Except.ok content := by
  unfold read
  rw [found]
  rfl

theorem read_file {d : Disk} {p : Path} {l : Location} {content : ByteArray}
    (found : d.locate p = .ok l) (file : d.get? l = some (.file content)) : d.read p = .ok content := by
  rw [read_located found, file]

theorem read_ok {d : Disk} {p : Path} {content : ByteArray} (read : d.read p = .ok content) :
    ∃ l, d.locate p = .ok l ∧ d.get? l = some (.file content) := by
  cases found : d.locate p with
  | error f =>
    unfold Disk.read at read
    rw [found] at read
    cases read
  | ok l =>
    refine ⟨l, rfl, ?_⟩
    rw [read_located found] at read
    split at read
    next => cases read
    next => cases read
    next file =>
      cases read
      exact file

theorem readText_of_read {d : Disk} {p : Path} {content : String} (read : d.read p = .ok content.toUTF8) :
    d.readText p = .ok content := by
  simp only [readText, read, bind, Except.bind, Text.fromUTF8?_toUTF8]

end WidgetRepair.Disk
