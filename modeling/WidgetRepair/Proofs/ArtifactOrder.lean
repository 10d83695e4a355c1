import Mathlib.Data.List.Sort
import WidgetRepair.Build.Compile
import WidgetRepair.Proofs.GlobWays

/-! The packed widget that a build leaves. A walk that takes siblings by name and a folder before its content
meets everything in the order of its location, so the first packed widget on the way is the least one. -/

namespace WidgetRepair

namespace Path

variable {name stem ending : String}

theorem splitName_point (filled : stem ≠ "") (pointless : '.' ∉ ending.toList) :
    splitName (stem ++ "." ++ ending) = (stem, some ending) := by
  have back : (stem ++ "." ++ ending).toList.reverse = ending.toList.reverse ++ '.' :: stem.toList.reverse := by simp
  have taken : (ending.toList.reverse ++ '.' :: stem.toList.reverse).takeWhile (· != '.') =
      ending.toList.reverse := by
    rw [List.takeWhile_append_of_pos fun c member => ?_, List.takeWhile_cons_of_neg (by simp), List.append_nil]
    simpa using fun point : c = '.' => pointless (point ▸ List.mem_reverse.mp member)
  obtain ⟨c, rest, chars⟩ := List.exists_cons_of_ne_nil (l := stem.toList.reverse) (by simpa using filled)
  unfold splitName
  rw [back]
  dsimp only
  rw [taken, List.drop_left, chars]
  dsimp only
  rw [← chars, List.reverse_reverse, List.reverse_reverse, String.ofList_toList, String.ofList_toList]

/-- A name has an ending where there is a last point that does not stand in front. -/
theorem splitName_ending : (splitName name).2 = some ending ↔
    '.' ∉ ending.toList ∧ ∃ stem, stem ≠ "" ∧ name = stem ++ "." ++ ending := by
  constructor
  · intro split
    have whole := List.takeWhile_append_dropWhile (p := (· != '.')) (l := name.toList.reverse)
    have behind : name.toList.reverse.drop (name.toList.reverse.takeWhile (· != '.')).length =
        name.toList.reverse.dropWhile (· != '.') := by
      calc _ = List.drop _ (List.takeWhile _ _ ++ List.dropWhile _ _) := by rw [whole]
        _ = _ := List.drop_left ..
    unfold splitName at split
    simp only [behind] at split
    split at split
    next => cases split
    next => cases split
    next point front unlike rest =>
      cases split
      refine ⟨fun member => ?_, String.ofList front.reverse, ?_, ?_⟩
      · rw [String.toList_ofList, List.mem_reverse] at member
        simpa using List.all_eq_true.mp List.all_takeWhile '.' member
      · cases front with
        | nil => exact (unlike rfl).elim
        | cons => simp
      · have pointed := List.head_dropWhile_not (· != '.') (l := name.toList.reverse) (by simp [rest])
        have same : point = '.' := by simpa [rest] using pointed
        rw [rest, same] at whole
        apply String.toList_injective
        have front := congrArg List.reverse whole
        simpa using front.symm
  · rintro ⟨pointless, stem, filled, rfl⟩
    rw [splitName_point filled pointless]

instance (name : String) : Decidable (Plain name) :=
  decidable_of_iff (stepOf? name.toList = some (.into name) ∧ name.toList.all (! · == '/') = true)
    ⟨fun ⟨step, slashless⟩ => ⟨step, by simpa using slashless⟩,
      fun plain => ⟨plain.step, by simpa using plain.slashless⟩⟩

end Path

namespace Disk

instance (d : Disk) : Decidable d.Named :=
  inferInstanceAs (Decidable (∀ x ∈ d.entries, ∀ name ∈ x.1, Path.Plain name))

variable {d : Disk} {l : Location} {names : List String} {met : List (Location × Entry)}

theorem mem_entries {x : Location × Entry} (inner : x.1 ≠ []) : x ∈ d.entries ↔ d.get? x.1 = some x.2 := by
  unfold get?
  rw [if_neg (by simpa using inner)]
  constructor
  · intro member
    obtain ⟨before, after, entries⟩ := List.append_of_mem member
    have ordered := d.inOrder
    rw [entries] at ordered
    obtain ⟨-, -, across⟩ := List.pairwise_append.mp ordered
    have first : d.entries.find? (·.1 == x.1) = some x := by
      refine List.find?_eq_some_iff_append.mpr ⟨beq_self_eq_true _, before, after, entries, fun y earlier => ?_⟩
      have less := across y earlier x List.mem_cons_self
      have other : y.1 ≠ x.1 := fun same => List.lt_irrefl _ (same ▸ less)
      simpa using other
    rw [first]
    rfl
  · intro found
    obtain ⟨y, first, entry⟩ := Option.map_eq_some_iff.mp found
    have place : y.1 = x.1 := by simpa using List.find?_some first
    have same : y = x := Prod.ext place entry
    exact same ▸ List.mem_of_find?_eq_some first

theorem mem_below {x : Location × Entry} :
    x ∈ d.below l ↔ d.get? x.1 = some x.2 ∧ ∃ place, place ≠ [] ∧ x.1 = l ++ place := by
  have inside : (l.isPrefixOf x.1 && x.1 != l) = true ↔ ∃ place, place ≠ [] ∧ x.1 = l ++ place := by
    rw [Bool.and_eq_true, List.isPrefixOf_iff_prefix, bne_iff_ne]
    constructor
    · rintro ⟨⟨place, along⟩, other⟩
      refine ⟨place, fun none => other ?_, along.symm⟩
      rw [← along, none, List.append_nil]
    · rintro ⟨place, filled, along⟩
      exact ⟨⟨place, along.symm⟩, by simpa [along] using filled⟩
  unfold below
  rw [List.mem_filter, inside]
  constructor
  · rintro ⟨member, place, filled, along⟩
    exact ⟨(mem_entries (by simp [along, filled])).mp member, place, filled, along⟩
  · rintro ⟨found, place, filled, along⟩
    exact ⟨(mem_entries (by simp [along, filled])).mpr found, place, filled, along⟩

theorem below_ordered (d : Disk) (l : Location) : InOrder (d.below l) := d.inOrder.filter _

/-- The names in a folder, each once and by name. -/
structure Listing (d : Disk) (l : Location) (names : List String) : Prop where
  ordered : names.Pairwise (· < ·)
  complete : ∀ name, name ∈ names ↔ d.get? (l ++ [name]) ≠ none

/-- What is met along names in a folder: everything that has one, a folder before its own content. -/
inductive Walked (d : Disk) : Location → List String → List (Location × Entry) → Prop where
  | done {l : Location} : Walked d l [] []
  | file {l : Location} {name : String} {rest : List String} {content : ByteArray}
    {later : List (Location × Entry)} (stands : d.get? (l ++ [name]) = some (.file content))
    (others : Walked d l rest later) : Walked d l (name :: rest) ((l ++ [name], .file content) :: later)
  | folder {l : Location} {name : String} {rest inside : List String} {content later : List (Location × Entry)}
    (stands : d.get? (l ++ [name]) = some .folder) (listing : d.Listing (l ++ [name]) inside)
    (within : Walked d (l ++ [name]) inside content) (others : Walked d l rest later) :
    Walked d l (name :: rest) ((l ++ [name], .folder) :: (content ++ later))

/-- Whatever stands below a folder stands at or below one of the names in it. -/
theorem Listing.leads (tree : d.IsTree) (listing : d.Listing l names) {place : Location} {e : Entry}
    (stands : d.get? (l ++ place) = some e) (filled : place ≠ []) : ∃ name ∈ names, [name] <+: place := by
  cases place with
  | nil => exact absurd rfl filled
  | cons name rest =>
    refine ⟨name, (listing.complete name).mpr ?_, ⟨rest, rfl⟩⟩
    by_cases last : rest = []
    · rw [← last, stands]
      exact Option.some_ne_none e
    · have folder := tree.folder_of_prefix (l := l ++ [name]) stands ⟨rest, by simp⟩ (by simpa using Ne.symm last)
      rw [folder]
      exact Option.some_ne_none _

theorem lt_of_names {a b : String} {first second : Location} (less : a < b) (before : l ++ [a] <+: first)
    (after : l ++ [b] <+: second) : first < second := by
  obtain ⟨more, rfl⟩ := before
  obtain ⟨others, rfl⟩ := after
  rw [List.append_assoc, List.append_assoc]
  exact List.append_left_lt (List.cons_lt_cons_iff.mpr (.inl less))

theorem lt_of_inside {name : String} {other : Location} (inside : l ++ [name] <+: other) : l < other := by
  obtain ⟨more, rfl⟩ := inside
  have longer : l ++ [] < l ++ name :: more := List.append_left_lt (List.nil_lt_cons name more)
  rwa [List.append_nil, List.append_cons] at longer

namespace Walked

/-- A walk meets what stands at or below its names, and nothing else. -/
theorem mem_iff (tree : d.IsTree) (walked : d.Walked l names met) (x : Location × Entry) :
    x ∈ met ↔ d.get? x.1 = some x.2 ∧ ∃ name ∈ names, l ++ [name] <+: x.1 := by
  induction walked with
  | done => simp
  | @file l name rest content later stands _ others =>
    simp only [List.mem_cons, exists_eq_or_imp, others]
    constructor
    · rintro (rfl | ⟨found, inside⟩)
      · exact ⟨stands, .inl List.prefix_rfl⟩
      · exact ⟨found, .inr inside⟩
    · rintro ⟨found, inside | inside⟩
      · by_cases here : l ++ [name] = x.1
        · exact .inl (Prod.ext here.symm (Option.some.inj (found.symm.trans (here ▸ stands))))
        · have folder := tree.folder_of_prefix found inside here
          rw [stands] at folder
          cases folder
      · exact .inr ⟨found, inside⟩
  | @folder l name rest inside content later stands listing _ _ within others =>
    simp only [List.mem_cons, List.mem_append, exists_eq_or_imp, within, others]
    constructor
    · rintro (rfl | ⟨found, inner, _, along⟩ | ⟨found, along⟩)
      · exact ⟨stands, .inl List.prefix_rfl⟩
      · exact ⟨found, .inl ((List.prefix_append _ _).trans along)⟩
      · exact ⟨found, .inr along⟩
    · rintro ⟨found, ⟨more, along⟩ | along⟩
      · by_cases here : more = []
        · rw [here, List.append_nil] at along
          exact .inl (Prod.ext along.symm (Option.some.inj (found.symm.trans (along ▸ stands))))
        · obtain ⟨inner, member, front⟩ := listing.leads tree (along.symm ▸ found) here
          refine .inr (.inl ⟨found, inner, member, ?_⟩)
          rw [← along]
          exact (List.prefix_append_right_inj _).mpr front
      · exact .inr (.inr ⟨found, along⟩)

theorem ordered (tree : d.IsTree) (walked : d.Walked l names met) (ordered : names.Pairwise (· < ·)) :
    InOrder met := by
  induction walked with
  | done => exact .nil
  | @file l name rest content later _ others ih =>
    obtain ⟨before, ordered⟩ := List.pairwise_cons.mp ordered
    refine List.pairwise_cons.mpr ⟨fun x member => ?_, ih ordered⟩
    obtain ⟨-, other, among, along⟩ := (others.mem_iff tree x).mp member
    exact lt_of_names (before other among) List.prefix_rfl along
  | @folder l name rest inside content later _ listing within others inner ih =>
    obtain ⟨before, ordered⟩ := List.pairwise_cons.mp ordered
    have contained (x) (member : x ∈ content) : ∃ inner, l ++ [name] ++ [inner] <+: x.1 := by
      obtain ⟨-, other, -, along⟩ := (within.mem_iff tree x).mp member
      exact ⟨other, along⟩
    have beyond (x) (member : x ∈ later) : ∃ other ∈ rest, l ++ [other] <+: x.1 :=
      ((others.mem_iff tree x).mp member).2
    refine List.pairwise_cons.mpr ⟨fun x member => ?_, List.pairwise_append.mpr
      ⟨inner listing.ordered, ih ordered, fun x member y outside => ?_⟩⟩
    · rcases List.mem_append.mp member with member | outside
      · obtain ⟨inner, along⟩ := contained x member
        exact lt_of_inside along
      · obtain ⟨other, among, along⟩ := beyond x outside
        exact lt_of_names (before other among) List.prefix_rfl along
    · obtain ⟨inner, front⟩ := contained x member
      obtain ⟨other, among, along⟩ := beyond y outside
      exact lt_of_names (before other among) ((List.prefix_append _ _).trans front) along

/-- The walk through all that is in a folder meets everything below it, in the order of the locations. -/
theorem eq_below (tree : d.IsTree) (listing : d.Listing l names) (walked : d.Walked l names met) :
    met = d.below l := by
  have irreflexive : Std.Irrefl fun a b : Location × Entry => a.1 < b.1 := ⟨fun a => List.lt_irrefl a.1⟩
  have antisymmetric : Std.Antisymm fun a b : Location × Entry => a.1 < b.1 :=
    ⟨fun a b less more => absurd (List.lt_trans less more) (List.lt_irrefl a.1)⟩
  refine (walked.ordered tree listing.ordered).eq_of_mem_iff (d.below_ordered l) fun x => ?_
  rw [walked.mem_iff tree, mem_below]
  constructor
  · rintro ⟨found, name, -, rest, along⟩
    exact ⟨found, name :: rest, List.cons_ne_nil _ _, by simp [← along]⟩
  · rintro ⟨found, place, filled, along⟩
    obtain ⟨name, member, front⟩ := listing.leads tree (along ▸ found) filled
    exact ⟨found, name, member, along ▸ (List.prefix_append_right_inj l).mpr front⟩

end Walked

theorem lt_of_append {first second : Location} (less : l ++ first < l ++ second) : first < second := by
  induction l with
  | nil => exact less
  | cons name rest ih =>
    rcases List.cons_lt_cons_iff.mp less with less | ⟨-, less⟩
    · exact absurd less (String.lt_irrefl name)
    · exact ih less

theorem exists_listing (d : Disk) (l : Location) : ∃ names, d.Listing l names := by
  let name? (x : Location × Entry) : Option String := if x.1.dropLast = l then x.1.getLast? else none
  have named (x : Location × Entry) (name : String) : name? x = some name ↔ x.1 = l ++ [name] := by
    constructor
    · intro found
      obtain ⟨around, last⟩ : x.1.dropLast = l ∧ x.1.getLast? = some name := by simpa [name?] using found
      obtain ⟨front, place⟩ := List.getLast?_eq_some_iff.mp last
      rw [place, List.dropLast_concat] at around
      rw [place, around]
    · intro place
      simp [name?, place]
  refine ⟨(d.below l).filterMap name?, List.pairwise_filterMap.mpr ?_, fun name => ?_⟩
  · refine (d.below_ordered l).imp fun {x y} less a first b second => ?_
    rw [(named x a).mp first, (named y b).mp second] at less
    simpa [List.cons_lt_cons_iff] using lt_of_append less
  · rw [List.mem_filterMap, Option.ne_none_iff_exists']
    constructor
    · rintro ⟨x, member, found⟩
      obtain ⟨stands, -⟩ := mem_below.mp member
      exact ⟨x.2, (named x name).mp found ▸ stands⟩
    · rintro ⟨e, stands⟩
      exact ⟨(l ++ [name], e), mem_below.mpr ⟨stands, [name], List.cons_ne_nil _ _, rfl⟩, (named _ _).mpr rfl⟩

/-- Less stands below something in a folder than below the folder. -/
theorem below_lt {name : String} (stands : d.get? (l ++ [name]) ≠ none) :
    (d.below (l ++ [name])).length < (d.below l).length := by
  obtain ⟨e, stands⟩ := Option.ne_none_iff_exists'.mp stands
  have part : d.below (l ++ [name]) =
      (d.below l).filter fun x => (l ++ [name]).isPrefixOf x.1 && x.1 != l ++ [name] := by
    unfold below
    rw [List.filter_filter]
    refine List.filter_congr fun x _ => ?_
    rw [Bool.eq_iff_iff]
    simp only [Bool.and_eq_true, List.isPrefixOf_iff_prefix, bne_iff_ne]
    constructor
    · rintro ⟨inside, other⟩
      refine ⟨⟨inside, other⟩, (List.prefix_append _ _).trans inside, fun same => ?_⟩
      have long := inside.length_le
      rw [same, List.length_append, List.length_singleton] at long
      omega
    · exact And.left
  rw [part, List.length_filter_lt_length_iff_exists]
  exact ⟨(l ++ [name], e), mem_below.mpr ⟨stands, [name], List.cons_ne_nil _ _, rfl⟩, by simp⟩

theorem exists_walked (d : Disk) (listed : ∀ name ∈ names, d.get? (l ++ [name]) ≠ none) :
    ∃ met, d.Walked l names met := by
  induction size : (d.below l).length using Nat.strongRecOn generalizing l names with
  | ind n inner =>
    induction names with
    | nil => exact ⟨[], .done⟩
    | cons name rest ih =>
      obtain ⟨stands, others⟩ := List.forall_mem_cons.mp listed
      obtain ⟨later, walked⟩ := ih others
      cases entry : d.get? (l ++ [name]) with
      | none => exact absurd entry stands
      | some e =>
        cases e with
        | file content => exact ⟨_, .file entry walked⟩
        | folder =>
          obtain ⟨inside, listing⟩ := d.exists_listing (l ++ [name])
          obtain ⟨content, within⟩ := inner _ (size ▸ below_lt stands)
            (fun other member => (listing.complete other).mp member) rfl
          exact ⟨_, .folder entry listing within walked⟩

/-- The name behind a folder is the last one of the path to it. -/
theorem fileName?_behind (filled : names ≠ []) (plain : ∀ name ∈ names, Path.Plain name) (folder : Path) :
    (folder / (Path.along false names).text).fileName? = names.getLast? := by
  obtain ⟨front, name, rfl⟩ := names.eq_nil_or_concat'.resolve_left filled
  have last : (steps (folder / (Path.along false (front ++ [name])).text)).getLast? = some (.into name) := by
    rw [steps_behind filled plain, List.map_append, ← List.append_assoc]
    exact List.getLast?_concat
  obtain ⟨size, measured⟩ := Path.last_name last
  unfold Path.fileName?
  rw [measured, List.getLast?_concat]

end Disk

namespace Compile

open Disk

variable {d : Disk} {folder : Path} {l place : Location}

/-- A file whose name is something, a point and the ending of packed widgets. -/
def IsPacked (x : Location × Entry) : Prop :=
  (∃ content, x.2 = .file content) ∧ ∃ stem, stem ≠ "" ∧ x.1.getLast? = some (stem ++ ".mpk")

/-- A place below the folder for packed widgets at which one of them stands. -/
def Packed (d : Disk) (folder : Path) (place : Location) : Prop :=
  ∃ l content stem, d.locate (folder / artifactFolder) = .ok l ∧ d.get? (l ++ place) = some (.file content) ∧
    stem ≠ "" ∧ place.getLast? = some (stem ++ ".mpk")

theorem packed_iff (located : d.locate (folder / artifactFolder) = .ok l) :
    Packed d folder place ↔ ∃ x ∈ d.below l, IsPacked x ∧ x.1 = l ++ place := by
  constructor
  · rintro ⟨m, content, stem, found, stands, filled, last⟩
    cases located.symm.trans found
    have some_name : place ≠ [] := fun none => by simp [none] at last
    refine ⟨(l ++ place, .file content), mem_below.mpr ⟨stands, place, some_name, rfl⟩, ⟨⟨content, rfl⟩, ?_⟩, rfl⟩
    exact ⟨stem, filled, by rw [List.getLast?_append, last, Option.some_or]⟩
  · rintro ⟨x, member, ⟨⟨content, file⟩, stem, filled, last⟩, place_eq⟩
    obtain ⟨stands, more, some_name, more_eq⟩ := mem_below.mp member
    cases List.append_cancel_left (place_eq.symm.trans more_eq)
    rw [place_eq, file] at stands
    rw [place_eq, List.getLast?_append_of_ne_nil _ some_name] at last
    exact ⟨l, content, stem, located, stands, filled, last⟩

theorem extension_packed {names : List String} (filled : names ≠ []) (plain : ∀ name ∈ names, Path.Plain name)
    (p : Path) : (p / (Path.along false names).text).extension? = some artifactExtension ↔
      ∃ stem, stem ≠ "" ∧ names.getLast? = some (stem ++ ".mpk") := by
  have ending (name : String) : (Path.splitName name).2 = some artifactExtension ↔
      ∃ stem, stem ≠ "" ∧ name = stem ++ ".mpk" := by
    have pointless : '.' ∉ artifactExtension.toList := by decide
    simp only [Path.splitName_ending, pointless, not_false_eq_true, true_and, String.append_assoc]
    rfl
  unfold Path.extension?
  rw [fileName?_behind filled plain]
  show Option.bind _ _ = _ ↔ _
  rw [Option.bind_eq_some_iff]
  constructor
  · rintro ⟨name, last, split⟩
    obtain ⟨stem, some_stem, rfl⟩ := (ending name).mp split
    exact ⟨stem, some_stem, last⟩
  · rintro ⟨stem, some_stem, last⟩
    exact ⟨_, last, (ending _).mpr ⟨stem, some_stem, rfl⟩⟩

theorem text_along (names : List String) : (Path.along false names).text = "/".intercalate names :=
  String.empty_append

/-- The path of what is met below a folder, where it is a file. -/
def pathOf? (p : Path) (l : Location) (x : Location × Entry) : Option Path :=
  match x.2 with
  | .file _ => some (p / "/".intercalate (x.1.drop l.length))
  | .folder => none

theorem filesBelow_eq {p : Path} (located : d.locate p = .ok l) :
    filesBelow d p = (d.below l).filterMap (pathOf? p l) := by
  unfold filesBelow
  rw [located]
  rfl

theorem pathOf?_some {p q : Path} {x : Location × Entry} : pathOf? p l x = some q ↔
    (∃ content, x.2 = .file content) ∧ q = p / "/".intercalate (x.1.drop l.length) := by
  unfold pathOf?
  cases x.2 <;> simp [eq_comm]

theorem any_pathOf? (named : d.Named) {x : Location × Entry} (member : x ∈ d.below l) (p : Path) :
    (pathOf? p l x).any (·.extension? == some artifactExtension) = true ↔ IsPacked x := by
  obtain ⟨-, place, filled, along⟩ := mem_below.mp member
  have plain : ∀ name ∈ place, Path.Plain name := fun name inside =>
    named x (List.mem_filter.mp member).1 name (along ▸ List.mem_append_right _ inside)
  have extension := extension_packed filled plain p
  rw [text_along] at extension
  rw [IsPacked, along, List.getLast?_append_of_ne_nil _ filled, ← extension, Option.any_eq_true]
  simp only [pathOf?_some, along, List.drop_left, beq_iff_eq]
  constructor
  · rintro ⟨_, ⟨file, rfl⟩, ending⟩
    exact ⟨file, ending⟩
  · rintro ⟨file, ending⟩
    exact ⟨_, ⟨file, rfl⟩, ending⟩

/-- What is found is the first packed widget in the order of the locations. -/
theorem artifact?_first (named : d.Named) (located : d.locate (folder / artifactFolder) = .ok l) {p : Path} :
    artifact? d folder = some p ↔ ∃ before x after, d.below l = before ++ x :: after ∧ IsPacked x ∧
      (∀ y ∈ before, ¬ IsPacked y) ∧ p = folder / artifactFolder / "/".intercalate (x.1.drop l.length) := by
  unfold artifact?
  rw [filesBelow_eq located, List.find?_filterMap, Option.bind_eq_some_iff]
  constructor
  · rintro ⟨x, first, path⟩
    obtain ⟨hit, before, after, below, missed⟩ := List.find?_eq_some_iff_append.mp first
    have counts {y} (inside : y ∈ before ++ x :: after) :=
      any_pathOf? named (below ▸ inside) (folder / artifactFolder)
    refine ⟨before, x, after, below, (counts (by simp)).mp hit, fun y earlier => ?_, (pathOf?_some.mp path).2⟩
    rw [← counts (List.mem_append_left _ earlier)]
    simpa using missed y earlier
  · rintro ⟨before, x, after, below, hit, missed, path⟩
    have counts {y} (inside : y ∈ before ++ x :: after) :=
      any_pathOf? named (below ▸ inside) (folder / artifactFolder)
    refine ⟨x, List.find?_eq_some_iff_append.mpr ⟨(counts (by simp)).mpr hit, before, after, below,
      fun y earlier => ?_⟩, pathOf?_some.mpr ⟨hit.1, path⟩⟩
    have unlike := missed y earlier
    rw [← counts (List.mem_append_left _ earlier)] at unlike
    simpa using unlike

theorem Packed.found (named : d.Named) (packed : Packed d folder place) : (artifact? d folder).isSome = true := by
  obtain ⟨l, -, -, located, -⟩ := id packed
  obtain ⟨x, member, isPacked, -⟩ := (packed_iff located).mp packed
  obtain ⟨p, path, ending⟩ := (Option.any_eq_true ..).mp ((any_pathOf? named member _).mpr isPacked)
  unfold artifact?
  rw [filesBelow_eq located, List.find?_isSome]
  exact ⟨p, List.mem_filterMap.mpr ⟨x, member, path⟩, ending⟩

/-- The first packed widget in the order of the locations stands at the least place. -/
theorem least_of_first {x : Location × Entry} {before after : List (Location × Entry)}
    (located : d.locate (folder / artifactFolder) = .ok l) (below : d.below l = before ++ x :: after)
    (hit : IsPacked x) (missed : ∀ y ∈ before, ¬ IsPacked y) :
    ∃ place, x.1 = l ++ place ∧ Packed d folder place ∧
      ∀ other, Packed d folder other → other ≠ place → place < other := by
  have member : x ∈ d.below l := by simp [below]
  obtain ⟨-, place, filled, along⟩ := mem_below.mp member
  refine ⟨place, along, (packed_iff located).mpr ⟨x, member, hit, along⟩, fun other packed unlike => ?_⟩
  obtain ⟨y, inside, isPacked, beside⟩ := (packed_iff located).mp packed
  have ordered := d.below_ordered l
  rw [below] at inside ordered
  rcases List.mem_append.mp inside with earlier | later
  · exact absurd isPacked (missed y earlier)
  · rcases List.mem_cons.mp later with rfl | later
    · exact absurd (List.append_cancel_left (beside.symm.trans along)) unlike
    · have less := (List.pairwise_cons.mp (List.pairwise_append.mp ordered).2.1).1 y later
      rw [along, beside] at less
      exact lt_of_append less

theorem artifact?_least (named : d.Named) {p : Path} (found : artifact? d folder = some p) :
    ∃ place, Packed d folder place ∧ (∀ other, Packed d folder other → other ≠ place → place < other) ∧
      p = folder / artifactFolder / "/".intercalate place ∧
      d.reach p = d.reach (folder / artifactFolder) ++ place := by
  cases located : d.locate (folder / artifactFolder) with
  | error fault =>
    unfold artifact? filesBelow at found
    rw [located] at found
    cases found
  | ok l =>
    obtain ⟨before, x, after, below, hit, missed, rfl⟩ := (artifact?_first named located).mp found
    obtain ⟨place, along, packed, least⟩ := least_of_first located below hit missed
    obtain ⟨-, -, stem, -, -, -, last⟩ := id packed
    have filled : place ≠ [] := fun none => by simp [none] at last
    have plain : ∀ name ∈ place, Path.Plain name := fun name inside =>
      named x (List.mem_filter.mp (below ▸ by simp : x ∈ d.below l)).1 name (along ▸ List.mem_append_right _ inside)
    rw [along, List.drop_left]
    refine ⟨place, packed, least, rfl, ?_⟩
    rw [← text_along, reach_behind filled plain, ← reach_way]

/-- A packed widget is found exactly where a build has left one. It is the least of them, with places compared name
by name, and the first that a walk through the folder for packed widgets meets. -/
theorem artifact_least (tree : d.IsTree) (named : d.Named) (folder : Path) :
    ((artifact? d folder).isSome = true ↔ ∃ place, Packed d folder place) ∧
    (∀ p, artifact? d folder = some p ↔ ∃ place, Packed d folder place ∧
      (∀ other, Packed d folder other → other ≠ place → place < other) ∧
      p = folder / artifactFolder / "/".intercalate place ∧
      d.reach p = d.reach (folder / artifactFolder) ++ place) ∧
    ∀ l, d.locate (folder / artifactFolder) = .ok l → (∃ names met, d.Listing l names ∧ d.Walked l names met) ∧
      ∀ names met, d.Listing l names → d.Walked l names met → ∀ p, artifact? d folder = some p ↔
        ∃ before x after, met = before ++ x :: after ∧ IsPacked x ∧ (∀ y ∈ before, ¬ IsPacked y) ∧
          p = folder / artifactFolder / "/".intercalate (x.1.drop l.length) := by
  refine ⟨⟨fun some_path => ?_, fun ⟨place, packed⟩ => packed.found named⟩, fun p => ⟨artifact?_least named, ?_⟩,
    fun l located => ⟨?_, ?_⟩⟩
  · obtain ⟨p, found⟩ := Option.isSome_iff_exists.mp some_path
    obtain ⟨place, packed, -⟩ := artifact?_least named found
    exact ⟨place, packed⟩
  · rintro ⟨place, packed, least, rfl, -⟩
    obtain ⟨q, found⟩ := Option.isSome_iff_exists.mp (packed.found named)
    obtain ⟨other, also, first, rfl, -⟩ := artifact?_least named found
    by_cases same : other = place
    · rw [found, same]
    · exact absurd (List.lt_trans (least other also same) (first place packed (Ne.symm same))) (List.lt_irrefl place)
  · obtain ⟨names, listing⟩ := d.exists_listing l
    obtain ⟨met, walked⟩ := d.exists_walked fun name member => (listing.complete name).mp member
    exact ⟨names, met, listing, walked⟩
  · intro names met listing walked p
    rw [walked.eq_below tree listing]
    exact artifact?_first named located

/-- A folder for packed widgets with a hidden file, a folder and a file beside the widget that all end like one. -/
def crowded : Disk :=
  let places : List (Location × Entry) := [(["w"], .folder), (["w", "dist"], .folder),
    (["w", "dist", ".mpk"], .file .empty), (["w", "dist", "0.mpk"], .folder),
    (["w", "dist", "0.mpk", "a.txt"], .file .empty), (["w", "dist", "1"], .folder),
    (["w", "dist", "1", "badge.mpk"], .file .empty), (["w", "dist", "1.mpk"], .file .empty)]
  places.foldl (fun d x => d.put x.1 x.2) .empty

theorem crowded_artifact_least : crowded.IsTree ∧ crowded.Named ∧
    artifact? crowded ⟨"/w"⟩ = some ⟨"/w/dist/1/badge.mpk"⟩ ∧ Packed crowded ⟨"/w"⟩ ["1", "badge.mpk"] ∧
    Packed crowded ⟨"/w"⟩ ["1.mpk"] ∧ ∀ other, Packed crowded ⟨"/w"⟩ other →
      other ≠ ["1", "badge.mpk"] → ["1", "badge.mpk"] < other := by
  have tree : crowded.IsTree := by decide +kernel
  have named : crowded.Named := by decide +kernel
  have found : artifact? crowded ⟨"/w"⟩ = some ⟨"/w/dist/1/badge.mpk"⟩ := by decide +kernel
  obtain ⟨place, packed, least, -, reached⟩ := ((artifact_least tree named ⟨"/w"⟩).2.1 _).mp found
  have same : place = ["1", "badge.mpk"] := by
    have ways : crowded.reach ⟨"/w/dist/1/badge.mpk"⟩ =
        crowded.reach (Path.mk "/w" / artifactFolder) ++ ["1", "badge.mpk"] := by decide +kernel
    exact List.append_cancel_left (reached.symm.trans ways)
  subst same
  refine ⟨tree, named, found, packed, ?_, least⟩
  exact ⟨["w", "dist"], .empty, "1", by decide +kernel, rfl, by decide, rfl⟩

end Compile

end WidgetRepair
