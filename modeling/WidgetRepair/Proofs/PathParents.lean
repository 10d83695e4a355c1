import WidgetRepair.Proofs.LiteralPaths
import WidgetRepair.Proofs.PathWays

/-! The path around a path. It has all parts but the last one, and the way goes on from it with a single
step, points aside. -/

namespace WidgetRepair.Path

variable {p q : Path} {piece : List Char} {rest : List (List Char)}

/-- The part of a piece behind the first one, with its measure. -/
def laterPart? (entry : List Char × Nat) : Option (PathPart × Nat) :=
  (partOf? false entry.1).map fun part => (part, entry.2)

/-- The part that a path begins with, with its measure. -/
def firstParts (p : Path) (piece : List Char) : List (PathPart × Nat) :=
  if p.absolute then [(.root, 1)] else ((partOf? true piece).map fun part => (part, piece.length)).toList

theorem measuredParts_eq (between : p.between = piece :: rest) : p.measuredParts =
    p.firstParts piece ++ (pieces.measured (piece.length + 1) rest).filterMap laterPart? := by
  have all : p.pieces = (piece, piece.length) :: pieces.measured (piece.length + 1) rest := by
    show pieces.measured 0 p.between = _
    rw [between, pieces.measured, Nat.zero_add]
  unfold measuredParts
  rw [all]
  rfl

theorem firstParts_cases (p : Path) (piece : List Char) :
    p.firstParts piece = [] ∨ ∃ part, p.firstParts piece = [part] := by
  unfold firstParts
  split
  next => exact .inr ⟨_, rfl⟩
  next => cases partOf? true piece <;> simp

theorem parts_later (entries : List (List Char × Nat)) : (entries.filterMap laterPart?).map (·.1) =
    (entries.map (·.1)).filterMap (partOf? false) := by
  rw [List.map_filterMap, List.filterMap_map]
  congr 1
  funext entry
  unfold laterPart?
  cases part : partOf? false entry.1 <;> simp [part]

/-- Pieces in front are measured the same whatever follows them. -/
theorem measured_front {start : Nat} {all : List (List Char)} (before : List (List Char × Nat))
    {after : List (List Char × Nat)} (split : pieces.measured start all = before ++ after) :
    pieces.measured start (before.map (·.1)) = before := by
  induction before generalizing start all with
  | nil => rfl
  | cons entry before ih =>
    cases all with
    | nil => cases split
    | cons first rest =>
      obtain ⟨same, split⟩ := List.cons.inj split
      rw [List.map_cons, ← same, pieces.measured, ih split]

theorem step_of_part {part : PathPart} (known : partOf? false piece = some part) :
    ∃ step, stepOf? piece = some step ∧ step ≠ .stay := by
  unfold partOf? at known
  split at known
  next => cases known
  next => cases known
  next => exact ⟨.up, rfl, nofun⟩
  next name none here up => exact ⟨_, stepOf?_name none here up, nofun⟩

/-- A way that does not end with a point, unless it is nothing else. -/
def Ended (p : Path) : Prop := p.way = [.stay] ∨ p.way.getLast? ≠ some .stay

/-- `q` is `p` up to one of its parts; `after` are the pieces behind that part. -/
structure Upto (q p : Path) (after : List (List Char)) : Prop where
  way : p.way = q.way ++ after.filterMap stepOf?
  ended : q.Ended

theorem root_parts : measuredParts ⟨"/"⟩ = [(.root, 1)] := by decide +kernel

theorem first_of_absolute (absolute : p.absolute = true) (between : p.between = piece :: rest) : piece = [] := by
  by_contra filled
  cases asked : stepOf? piece with
  | none => exact filled (stepOf?_none asked)
  | some step => exact relative_of_step between asked absolute

/-- A path up to one of the parts behind its first one. -/
theorem upto_later {front after : List (PathPart × Nat)} {part : PathPart × Nat}
    (between : p.between = piece :: rest)
    (parts : (pieces.measured (piece.length + 1) rest).filterMap laterPart? = front ++ part :: after) :
    (p.take part.2).measuredParts = p.firstParts piece ++ front ++ [part] ∧
      ∃ behind, Upto (p.take part.2) p behind ∧ behind.filterMap (partOf? false) = after.map (·.1) := by
  obtain ⟨first, found, all, fronts, others⟩ := List.filterMap_eq_append_iff.mp parts
  obtain ⟨skipped, entry, later, rfl, silent, fits, afters⟩ := List.filterMap_eq_cons_iff.mp others
  obtain ⟨name, known, rfl⟩ := Option.map_eq_some_iff.mp fits
  rw [← List.append_assoc] at all
  obtain ⟨pieces_eq, size⟩ := measured_at (first ++ skipped) all
  have filled := partOf?_filled known
  have before : p.between = (piece :: (first ++ skipped).map (·.1)) ++ entry.1 :: later.map (·.1) := by
    rw [between, pieces_eq, List.cons_append]
  have measure : entry.2 = Text.spanned (piece :: (first ++ skipped).map (·.1)) + entry.1.length := by
    rw [size, Text.spanned]
  obtain ⟨taken, absolute⟩ := between_take before filled
  rw [← measure] at taken absolute
  constructor
  · have cut : pieces.measured (piece.length + 1) rest = first ++ skipped ++ [entry] ++ later := by
      rw [all, List.append_assoc (first ++ skipped)]
      rfl
    have front_eq := measured_front (first ++ skipped ++ [entry]) cut
    rw [List.map_append, List.map_singleton] at front_eq
    rw [List.cons_append] at taken
    rw [measuredParts_eq taken, front_eq, List.filterMap_append, List.filterMap_append, fronts,
      List.filterMap_eq_nil_iff.mpr silent, List.append_nil]
    simp [firstParts, absolute, fits]
  · refine ⟨later.map (·.1), ⟨?_, .inr ?_⟩, ?_⟩
    · unfold way
      rw [before, taken, ← List.filterMap_append, List.append_assoc]
      rfl
    · obtain ⟨step, asked, moves⟩ := step_of_part known
      unfold way
      rw [taken, last_filterMap asked (List.forall_mem_nil _)]
      simpa using moves
    · rw [← parts_later, afters]

/-- A path up to its first part. -/
theorem upto_first {part : PathPart × Nat} (between : p.between = piece :: rest)
    (first : p.firstParts piece = [part]) :
    (p.take part.2).measuredParts = [part] ∧ Upto (p.take part.2) p rest := by
  unfold firstParts at first
  split at first
  next absolute =>
    cases first
    have root : p.take 1 = ⟨"/"⟩ := by
      unfold Path.absolute at absolute
      unfold take
      cases text : p.text.toList with
      | nil => simp [text] at absolute
      | cons c others =>
        obtain rfl : c = '/' := by simpa [text] using absolute
        rfl
    have nothing : way ⟨"/"⟩ = [] := rfl
    dsimp only
    rw [root]
    refine ⟨root_parts, ?_, .inr ?_⟩
    · rw [nothing, way, between, first_of_absolute absolute between]
      rfl
    · rw [nothing]
      exact nofun
  next relative =>
    obtain ⟨name, known, same⟩ : ∃ name, partOf? true piece = some name ∧ (name, piece.length) = part := by
      cases known : partOf? true piece with
      | none => simp [known] at first
      | some name => exact ⟨name, rfl, by simpa [known] using first⟩
    subst same
    have filled := partOf?_filled known
    have before : p.between = [] ++ piece :: rest := between
    obtain ⟨taken, absolute⟩ := between_take before filled
    rw [Text.spanned, Nat.zero_add, List.nil_append] at taken
    rw [Text.spanned, Nat.zero_add] at absolute
    obtain ⟨step, asked⟩ := Option.ne_none_iff_exists'.mp (mt stepOf?_none filled)
    have single : (p.take piece.length).way = [step] := by
      unfold way
      rw [taken, List.filterMap_cons, asked, List.filterMap_nil]
    refine ⟨?_, ?_, ?_⟩
    · rw [measuredParts_eq taken]
      simp [firstParts, absolute, relative, known, pieces.measured]
    · rw [single, way, between, List.filterMap_cons, asked]
      rfl
    · unfold Ended
      rw [single]
      cases step <;> simp

/-- A path up to one of its parts. -/
theorem upto_part {front after : List (PathPart × Nat)} {part : PathPart × Nat}
    (parts : p.measuredParts = front ++ part :: after) : (p.take part.2).measuredParts = front ++ [part] ∧
      ∃ behind, Upto (p.take part.2) p behind ∧ behind.filterMap (partOf? false) = after.map (·.1) := by
  obtain ⟨piece, rest, between⟩ := p.between_some
  have all := measuredParts_eq between
  rw [parts] at all
  rcases List.append_eq_append_iff.mp all with ⟨inner, first, split⟩ | ⟨inner, rfl, split⟩
  · cases inner with
    | nil =>
      rw [List.append_nil] at first
      have later : (pieces.measured (piece.length + 1) rest).filterMap laterPart? = [] ++ part :: after := split.symm
      obtain ⟨same, behind⟩ := upto_later between later
      rw [first, List.append_nil] at same
      exact ⟨same, behind⟩
    | cons other inner =>
      obtain ⟨rfl, rfl⟩ := List.cons.inj split
      obtain ⟨rfl, rfl⟩ : front = [] ∧ inner = [] := by
        rcases p.firstParts_cases piece with none | ⟨single, one⟩
        · simp [none] at first
        · have size := congrArg List.length first
          simp only [one, List.length_append, List.length_cons, List.length_nil] at size
          exact ⟨List.eq_nil_of_length_eq_zero (by omega), List.eq_nil_of_length_eq_zero (by omega)⟩
      obtain ⟨same, upto⟩ := upto_first between first
      refine ⟨same, rest, upto, .trans ?_ (parts_later _).symm⟩
      rw [measured_pieces]
  · obtain ⟨same, behind⟩ := upto_later between split
    exact ⟨same, behind⟩

/-- `q` is the path around `p`. -/
structure Around (q p : Path) : Prop where
  parts : q.measuredParts = p.measuredParts.dropLast
  ended : q.Ended
  text : ∃ more, p.text = q.text ++ more
  last : ∃ gap step rest, p.way = q.way ++ (gap ++ step :: rest) ∧ (∀ s ∈ gap, s = .stay) ∧ ∀ s ∈ rest, s = .stay

theorem partOf?_not_root (first : Bool) (piece : List Char) : partOf? first piece ≠ some .root := by
  unfold partOf?
  split
  next => nofun
  next => cases first <;> nofun
  next => nofun
  next => nofun

/-- Pieces with a single part among them ask for one step. -/
theorem single_step {behind : List (List Char)} {part : PathPart}
    (single : behind.filterMap (partOf? false) = [part]) : ∃ gap step more,
      behind.filterMap stepOf? = gap ++ step :: more ∧ (∀ s ∈ gap, s = .stay) ∧ ∀ s ∈ more, s = .stay := by
  obtain ⟨before, piece, after, rfl, silent, known, none⟩ := List.filterMap_eq_cons_iff.mp single
  obtain ⟨step, asked, -⟩ := step_of_part known
  refine ⟨before.filterMap stepOf?, step, after.filterMap stepOf?, ?_, ?_, ?_⟩
  · rw [List.filterMap_append, List.filterMap_cons, asked]
  · exact idle_stays fun other member => partOf?_none (silent other member)
  · exact idle_stays fun other member => partOf?_none (List.filterMap_eq_nil_iff.mp none other member)

theorem idle_of_parts {behind : List (List Char)} (none : behind.filterMap (partOf? false) = []) :
    ∀ step ∈ behind.filterMap stepOf?, step = .stay :=
  idle_stays fun other member => partOf?_none (List.filterMap_eq_nil_iff.mp none other member)

/-- A path begins with nothing that counts, with the root, or with a part and a step of its own. -/
inductive Begins (p : Path) (rest : List (List Char)) : Prop where
  | plainly (way : p.way = rest.filterMap stepOf?) (parts : p.parts = rest.filterMap (partOf? false))
  | root (way : p.way = rest.filterMap stepOf?) (parts : p.parts = .root :: rest.filterMap (partOf? false))
  | part {part : PathPart} {step : Disk.Step} (proper : part ≠ .root) (way : p.way = step :: rest.filterMap stepOf?)
    (parts : p.parts = part :: rest.filterMap (partOf? false))

theorem exists_begins (p : Path) : ∃ rest, p.Begins rest := by
  obtain ⟨piece, rest, between⟩ := p.between_some
  have parts := parts_eq between
  have way : p.way = (piece :: rest).filterMap stepOf? := congrArg (List.filterMap stepOf?) between
  refine ⟨rest, ?_⟩
  split at parts
  next absolute =>
    rw [first_of_absolute absolute between] at way
    exact .root way parts
  next =>
    cases known : partOf? true piece with
    | none =>
      have empty : piece = [] := by
        unfold partOf? at known
        split at known
        next => rfl
        next => cases known
        next => cases known
        next => cases known
      rw [known] at parts
      rw [empty] at way
      exact .plainly way parts
    | some part =>
      obtain ⟨step, asked⟩ := Option.ne_none_iff_exists'.mp (mt stepOf?_none (partOf?_filled known))
      rw [known] at parts
      rw [List.filterMap_cons, asked] at way
      exact .part (fun root => partOf?_not_root true piece (root ▸ known)) way parts

/-- Nothing is around a path that leads nowhere. -/
theorem parent?_none (none : p.parent? = none) : ∀ step ∈ p.way, step = .stay := by
  have last : ∀ part, p.parts.getLast? = some part → part = .root := by
    intro part last
    unfold parent? at none
    unfold parts at last
    rw [List.getLast?_map, ← List.head?_reverse] at last
    split at none
    next empty => simp [empty] at last
    next root => simpa [root] using last.symm
    next => cases none
    next => cases none
  obtain ⟨rest, begins⟩ := p.exists_begins
  have idle : rest.filterMap (partOf? false) = [] := by
    by_contra filled
    obtain ⟨part, final⟩ := Option.ne_none_iff_exists'.mp (mt List.getLast?_eq_none_iff.mp filled)
    have root : part = .root := by
      apply last
      cases begins with
      | plainly _ parts => rw [parts, final]
      | root _ parts | part _ _ parts => rw [parts, List.getLast?_cons, final, Option.getD_some]
    obtain ⟨piece, -, known⟩ := List.mem_filterMap.mp (List.mem_of_getLast? final)
    exact partOf?_not_root false piece (root ▸ known)
  cases begins with
  | plainly way | root way =>
    rw [way]
    exact idle_of_parts idle
  | part proper _ parts =>
    rw [idle] at parts
    exact absurd (last _ (by rw [parts, List.getLast?_singleton])) proper

theorem parent?_around (parent : p.parent? = some q) : q.Around p := by
  unfold parent? at parent
  split at parent
  next => cases parent
  next => cases parent
  next last proper single =>
    cases parent
    have measured : p.measuredParts = [last] := List.reverse_eq_iff.mp single
    have parts : p.parts = [last.1] := by
      unfold Path.parts
      rw [measured]
      rfl
    have nothing : way ⟨""⟩ = [] := rfl
    refine ⟨by rw [measured]; rfl, .inr (by rw [nothing]; nofun), ⟨p.text, String.empty_append.symm⟩, ?_⟩
    obtain ⟨rest, begins⟩ := p.exists_begins
    simp only [nothing, List.nil_append]
    cases begins with
    | plainly way own =>
      rw [way]
      exact single_step (own.symm.trans parts)
    | root _ own =>
      have root : PathPart.root = last.1 := (List.cons.inj (own.symm.trans parts)).1
      exact absurd root.symm fun same => proper last.2 (Prod.ext same rfl)
    | @part _ step _ way own =>
      exact ⟨[], step, _, way, List.forall_mem_nil _, idle_of_parts (List.cons.inj (own.symm.trans parts)).2⟩
  next last part size front _ split =>
    cases parent
    have parts : p.measuredParts = front.reverse ++ (part, size) :: [last] := by
      rw [← List.reverse_reverse p.measuredParts, split]
      simp
    obtain ⟨same, behind, upto, others⟩ := upto_part parts
    obtain ⟨gap, step, more, steps, stays, idle⟩ := single_step others
    refine ⟨?_, upto.ended, ⟨String.ofList (p.text.toList.drop size), ?_⟩, gap, step, more, ?_, stays, idle⟩
    · rw [parts, same]
      simp
    · apply String.toList_injective
      simp [take]
    · rw [← steps]
      exact upto.way

theorem parent?_fewer (parent : p.parent? = some q) : q.measuredParts.length + 1 = p.measuredParts.length := by
  have some_part : p.measuredParts ≠ [] := by
    intro none
    unfold parent? at parent
    rw [none] at parent
    cases parent
  have size := List.length_pos_iff.mpr some_part
  rw [(parent?_around parent).parts, List.length_dropLast]
  omega

theorem ancestors_eq (p : Path) : p.ancestors = p :: ((p.parent?.map ancestors).getD []) := by
  unfold ancestors
  cases parent : p.parent? with
  | none =>
    cases p.measuredParts.length with
    | zero => rfl
    | succ n => rw [ancestors.go, parent]; rfl
  | some q =>
    rw [← parent?_fewer parent, ancestors.go, parent]
    rfl

end WidgetRepair.Path
