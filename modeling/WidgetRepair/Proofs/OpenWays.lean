import WidgetRepair.Proofs.DiskSteps
import WidgetRepair.Proofs.LiteralPaths

/-! Ways that lead through folders only. Making the folders of such a way changes nothing, and what
stands behind its end is found. -/

namespace WidgetRepair.Disk

/-- Everything on the way of a path is a folder, and so is its end. -/
def Opened (d : Disk) (p : Path) : Prop :=
  ∀ front, front <+: p.way → d.get? (destination (d.start p) front) = some .folder

variable {d later : Disk} {p : Path}

theorem Opened.kept (opened : d.Opened p) (kept : Kept d later) : later.Opened p := by
  intro front along
  rw [start_of_origin kept.origin]
  exact kept.folders _ (opened front along)

/-- No folder is missing on an open way. -/
theorem GrownAlong.get?_of_opened (grown : GrownAlong p d later) (opened : d.Opened p) (l : Location) :
    later.get? l = d.get? l := by
  by_contra differs
  obtain ⟨front, along, rfl⟩ := grown.added l differs
  rcases grown.grown (destination (d.start p) front) with same | ⟨none, _⟩
  · exact differs same
  · rw [opened front along] at none
    cases none

/-- A walk that goes on passes through folders. -/
theorem walk_passes (tree : d.IsTree) {l m : Location} {steps more : List Step}
    (folder : d.get? l = some .folder) (further : more ≠ []) (arrived : d.walk l (steps ++ more) = .ok m) :
    ∀ front, front <+: steps → d.get? (destination l front) = some .folder := by
  induction steps generalizing l with
  | nil =>
    intro front none
    rw [List.prefix_nil.mp none]
    exact folder
  | cons step rest ih =>
    intro front along
    cases front with
    | nil => exact folder
    | cons first front =>
      obtain ⟨rfl, inside⟩ := List.cons_prefix_cons.mp along
      cases first with
      | stay => exact ih folder arrived front inside
      | up => exact ih (tree.rooted _ _ folder) arrived front inside
      | into name =>
        rw [List.cons_append, walk] at arrived
        split at arrived
        next => cases arrived
        next =>
          split at arrived
          next last => exact absurd (List.append_eq_nil_iff.mp (List.isEmpty_iff.mp last)).2 further
          next =>
            split at arrived
            next => cases arrived
            next => cases arrived
            next inner => exact ih inner arrived front inside

/-- A walk that arrives on one disk arrives on any other that has folders on the way. -/
theorem walk_back {l m : Location} {steps : List Step}
    (folders : ∀ front rest, steps = front ++ rest → rest ≠ [] → d.get? (destination l front) = some .folder)
    (arrived : later.walk l steps = .ok m) : d.walk l steps = .ok m := by
  induction steps generalizing l with
  | nil => exact arrived
  | cons step rest ih =>
    have inner : ∀ front more, rest = front ++ more → more ≠ [] →
        d.get? (destination l (step :: front)) = some .folder := by
      rintro front more rfl further
      exact folders (step :: front) more rfl further
    cases step with
    | stay | up => exact ih inner arrived
    | into name =>
      rw [walk] at arrived ⊢
      split at arrived
      next => cases arrived
      next short =>
        rw [if_neg short]
        split at arrived
        next last => rw [if_pos last, arrived]
        next more =>
          rw [if_neg more]
          have folder : d.get? (l ++ [name]) = some .folder :=
            inner [] rest rfl fun none => more (List.isEmpty_iff.mpr none)
          rw [folder]
          split at arrived
          next => cases arrived
          next => cases arrived
          next => exact ih inner arrived

section Behind

variable {folder : Path} {names : List String} (filled : names ≠ [])
  (plain : ∀ name ∈ names, Path.Plain name)

theorem destination_names (l : Location) (names : List String) :
    destination l (names.map .into) = l ++ names := by
  induction names generalizing l with
  | nil => exact (List.append_nil l).symm
  | cons name rest ih =>
    rw [List.map_cons, destination, ih, List.append_assoc]
    rfl

include filled plain

theorem along_relative : (Path.along false names).text.toList.head? ≠ some '/' := by
  obtain ⟨c, rest, chars, slashless⟩ := Path.along_starts filled plain
  simpa [chars] using slashless

theorem way_behind (folder : Path) :
    (folder / (Path.along false names).text).way = folder.way ++ names.map .into := by
  rw [Path.way_div (along_relative filled plain)]
  unfold Path.way
  rw [show Path.mk (Path.along false names).text = Path.along false names from rfl,
    Path.between_along filled plain]
  exact congrArg _ (Path.names_steps plain)

theorem steps_behind (folder : Path) :
    steps (folder / (Path.along false names).text) = folder.way ++ names.map .into := by
  have unclosed : (folder / (Path.along false names).text).closing = [] := by
    obtain ⟨c, rest, chars, -⟩ := Path.along_starts filled plain
    have last : (Path.along false names).text.toList.getLast? ≠ some '/' := Path.along_unclosed filled plain
    rw [chars] at last
    unfold Path.closing
    rw [if_neg]
    show (Path.join _ _).text.toList.getLast? ≠ _
    unfold Path.join
    rw [if_neg (along_relative filled plain)]
    split <;> simpa [chars, List.getLast?_append, List.getLast?_cons] using last
  rw [Path.steps_way, unclosed, List.append_nil, way_behind filled plain]

theorem start_behind (folder : Path) :
    d.start (folder / (Path.along false names).text) = d.start folder := by
  unfold Disk.start
  rw [Path.absolute_div (along_relative filled plain)]

theorem reach_behind (folder : Path) : d.reach (folder / (Path.along false names).text) =
    destination (d.start folder) folder.way ++ names := by
  unfold reach
  rw [steps_behind filled plain, start_behind filled plain, destination_append, destination_names]

theorem opened_of_exists (tree : d.IsTree)
    (found : d.exists? (folder / (Path.along false names).text) = true) : d.Opened folder := by
  obtain ⟨l, located, -⟩ := exists?_iff.mp found
  have arrived := locate_walk located
  rw [steps_behind filled plain, start_behind filled plain] at arrived
  exact walk_passes tree (start_folder tree folder) (by simpa using filled) arrived

/-- What stands behind an open way is found, if a way there is found on another disk. -/
theorem exists_behind (tree : d.IsTree) (opened : d.Opened folder) (origin : later.origin = d.origin)
    {l : Location} (found : later.locate (folder / (Path.along false names).text) = .ok l)
    (stands : d.get? (d.reach (folder / (Path.along false names).text)) ≠ none) :
    d.exists? (folder / (Path.along false names).text) = true := by
  have located : d.locate (folder / (Path.along false names).text) = .ok l := by
    rw [reach_behind filled plain] at stands
    obtain ⟨e, stands⟩ := Option.ne_none_iff_exists'.mp stands
    unfold locate at found ⊢
    split at found
    next => cases found
    next =>
      rw [start_of_origin origin] at found
      refine walk_back ?_ found
      intro front rest split further
      rw [steps_behind filled plain] at split
      rw [start_behind filled plain]
      rcases List.append_eq_append_iff.mp split with ⟨more, rfl, rest_eq⟩ | ⟨more, way, rest_eq⟩
      · obtain ⟨inner, outer, names_eq, rfl, rfl⟩ := List.map_eq_append_iff.mp rest_eq
        subst names_eq
        rw [destination_append, destination_names]
        refine tree.folder_of_prefix stands ?_ ?_
        · rw [← List.append_assoc]
          exact List.prefix_append _ _
        · simpa using further
      · exact opened front ⟨more, way.symm⟩
  have place := locate_reach tree located
  exact exists?_iff.mpr ⟨l, located, place ▸ stands⟩

end Behind

end WidgetRepair.Disk
