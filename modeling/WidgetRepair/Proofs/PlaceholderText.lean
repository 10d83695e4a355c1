import Mathlib.Data.List.Basic
import WidgetRepair.Package.Placeholder

/-! Texts with placeholders. What stands between placeholders is kept, and each gives way to the value of its
name. -/

namespace WidgetRepair.Placeholder

/-- What can stand between the braces of a placeholder. -/
def IsName : List Char → Prop
  | [] => False
  | c :: rest => startsName c = true ∧ ∀ d ∈ rest, continuesName d = true

section Pieces

variable {name text rest : List Char}

theorem nameAt?_written (named : IsName name) : nameAt? (written name ++ rest) = some name := by
  obtain _ | ⟨c, more⟩ := name
  · cases named
  obtain ⟨first, others⟩ := named
  have brace : continuesName '\x7d' = false := rfl
  have taken : (more ++ '\x7d' :: '\x7d' :: rest).takeWhile continuesName = more := by
    rw [List.takeWhile_append_of_pos others]
    simp [brace]
  have dropped : (more ++ '\x7d' :: '\x7d' :: rest).dropWhile continuesName = '\x7d' :: '\x7d' :: rest := by
    rw [List.dropWhile_append_of_pos others]
    simp [brace]
  simp [written, nameAt?, first, taken, dropped]

theorem piecesFrom_skip (front rest : List Char) : piecesFrom front.length (front ++ rest) = pieces rest := by
  induction front with
  | nil => rfl
  | cons c front ih => exact ih

theorem pieces_written (named : IsName name) : pieces (written name ++ rest) = .hole name :: pieces rest := by
  have found : nameAt? (written name ++ rest) = some name := nameAt?_written named
  have skipped := piecesFrom_skip ('\x7b' :: (name ++ ['\x7d', '\x7d'])) rest
  simp only [written, List.cons_append, List.nil_append, List.append_assoc, List.length_cons, List.length_append,
    List.length_nil] at found skipped ⊢
  rw [pieces, piecesFrom, found]
  exact congrArg _ skipped

theorem pieces_cons {c : Char} (plain : c ≠ '\x7b') : pieces (c :: rest) = .char c :: pieces rest := by
  have none : nameAt? (c :: rest) = none := by
    unfold nameAt?
    split
    next same => exact absurd (List.cons.inj same).1 plain
    next => rfl
  rw [pieces, piecesFrom, none]
  rfl

theorem pieces_plain (plain : '\x7b' ∉ text) : pieces (text ++ rest) = text.map .char ++ pieces rest := by
  induction text with
  | nil => rfl
  | cons c text ih =>
    obtain ⟨first, later⟩ := not_or.mp (mt List.mem_cons.mpr plain)
    rw [List.cons_append, pieces_cons (Ne.symm first), ih later]
    rfl

end Pieces

section Filled

variable {values : Values} {name text rest : List Char}

def filled (values : Values) (text : List Char) : List Char := (pieces text).flatMap (fill values)

theorem render_toList (text : String) (values : Values) : (render text values).toList = filled values text.toList :=
  String.toList_ofList

@[simp] theorem filled_nil : filled values [] = [] := rfl

theorem filled_plain (plain : '\x7b' ∉ text) : filled values (text ++ rest) = text ++ filled values rest := by
  have own : (text.map Piece.char).flatMap (fill values) = text := by
    rw [List.flatMap_map]
    exact List.flatMap_pure_eq_map _ _ |>.trans (List.map_id _)
  rw [filled, pieces_plain plain, List.flatMap_append, own, filled]

theorem filled_stretch {stretch : List String} (plain : ∀ s ∈ stretch, '\x7b' ∉ s.toList) :
    filled values (stretch.flatMap String.toList ++ rest) = stretch.flatMap String.toList ++ filled values rest :=
  filled_plain fun member => by
    obtain ⟨s, among, brace⟩ := List.mem_flatMap.mp member
    exact plain s among brace

theorem filled_written {v : String} (named : IsName name) (known : value? values name = some v) :
    filled values (written name ++ rest) = v.toList ++ filled values rest := by
  rw [filled, pieces_written named, List.flatMap_cons, fill, known, filled]

/-- The name of a placeholder without a value. -/
def unknown? (values : Values) : Piece → Option String
  | .char _ => none
  | .hole name => if (value? values name).isSome then none else some (String.ofList name)

theorem unresolved_eq (text : String) (values : Values) :
    unresolved text values = (pieces text.toList).filterMap (unknown? values) := rfl

/-- A name has a value just if it is among the names of the values. -/
theorem isSome_value? (values : Values) (name : List Char) :
    (value? values name).isSome = (values.map (·.1)).contains (String.ofList name) := by
  rw [value?, Option.isSome_map, List.isSome_find?, List.contains_eq_any_beq, List.any_map]
  exact congrArg values.any (funext fun pair => BEq.comm)

theorem unresolved_congr {values' : Values} (same : values.map (·.1) = values'.map (·.1)) (text : String) :
    unresolved text values = unresolved text values' := by
  rw [unresolved_eq, unresolved_eq]
  congr 1
  funext piece
  cases piece with
  | char c => rfl
  | hole name => simp only [unknown?, isSome_value?, same]

end Filled

end WidgetRepair.Placeholder
