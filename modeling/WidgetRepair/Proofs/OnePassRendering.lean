import WidgetRepair.Proofs.PlaceholderText

/-! What is filled in a text, said of the text alone: its placeholders are found one behind the other, each the
leftmost of what is left, and what stands between them is kept. What is put in is never looked at again, so a value
may have braces, and a placeholder without a value is as good as one whose value is the placeholder itself. -/

namespace WidgetRepair.Placeholder

/-- The leftmost placeholder of a text, between what stands in front of it and the rest. -/
structure Leftmost (text front name rest : List Char) : Prop where
  named : IsName name
  whole : text = front ++ (written name ++ rest)
  first : ∀ other otherName otherRest, IsName otherName → text = other ++ (written otherName ++ otherRest) →
    front.length ≤ other.length

/-- A text that is cut at its placeholders: their names with what stands in front of each, and what stands behind
the last. Each is the leftmost behind the one before. -/
inductive Cut : List Char → List (List Char × List Char) → List Char → Prop where
  | last {text : List Char} (none : ∀ front name rest, IsName name → text ≠ front ++ (written name ++ rest)) :
    Cut text [] text
  | hole {text front name rest last : List Char} {holes : List (List Char × List Char)}
    (leftmost : Leftmost text front name rest) (further : Cut rest holes last) :
    Cut text ((front, name) :: holes) last

section Cut

variable {text front name rest last : List Char} {holes : List (List Char × List Char)}

theorem nameAt?_eq_some_iff : nameAt? text = some name ↔ IsName name ∧ ∃ rest, text = written name ++ rest := by
  constructor
  · intro found
    unfold nameAt? at found
    split at found
    next c rest =>
      dsimp only at found
      split at found
      next opened =>
        cases found
        obtain ⟨starts, closed⟩ := Bool.and_eq_true_iff.mp opened
        obtain ⟨tail, behind⟩ := List.isPrefixOf_iff_prefix.mp closed
        refine ⟨⟨starts, fun d member => List.all_eq_true.mp List.all_takeWhile d member⟩, tail, ?_⟩
        have split := List.takeWhile_append_dropWhile (p := continuesName) (l := rest)
        rw [← behind] at split
        exact (congrArg (fun rest => '\x7b' :: '\x7b' :: c :: rest) split.symm).trans (by simp [written])
      next => cases found
    next => cases found
  · rintro ⟨named, rest, rfl⟩
    exact nameAt?_written named

theorem Leftmost.unique {front' name' rest' : List Char} (leftmost : Leftmost text front name rest)
    (other : Leftmost text front' name' rest') : front' = front ∧ name' = name ∧ rest' = rest := by
  have size : front'.length = front.length :=
    Nat.le_antisymm (other.first _ _ _ leftmost.named leftmost.whole) (leftmost.first _ _ _ other.named other.whole)
  obtain ⟨rfl, same⟩ := List.append_inj (other.whole.symm.trans leftmost.whole) size
  have found : nameAt? (written name ++ rest) = some name := nameAt?_written leftmost.named
  rw [← same, nameAt?_written other.named] at found
  obtain rfl := Option.some.inj found
  exact ⟨rfl, rfl, List.append_cancel_left same⟩

theorem Cut.unique {holes' : List (List Char × List Char)} {last' : List Char} (cut : Cut text holes last)
    (other : Cut text holes' last') : holes' = holes ∧ last' = last := by
  induction cut generalizing holes' last' with
  | last none =>
    cases other with
    | last => exact ⟨rfl, rfl⟩
    | hole leftmost => exact absurd leftmost.whole (none _ _ _ leftmost.named)
  | hole leftmost further ih =>
    cases other with
    | last none => exact absurd leftmost.whole (none _ _ _ leftmost.named)
    | hole leftmost' further' =>
      obtain ⟨rfl, rfl, rfl⟩ := leftmost.unique leftmost'
      obtain ⟨rfl, rfl⟩ := ih further'
      exact ⟨rfl, rfl⟩

/-- Where no placeholder begins, one more character stands in front of the first one. -/
theorem Cut.cons {c : Char} (none : nameAt? (c :: text) = none) (cut : Cut text holes last) :
    ∃ holes last, Cut (c :: text) holes last := by
  have later {front name rest : List Char} (named : IsName name)
      (whole : c :: text = front ++ (written name ++ rest)) :
      ∃ inner, front = c :: inner ∧ text = inner ++ (written name ++ rest) := by
    cases front with
    | nil =>
      rw [List.nil_append] at whole
      rw [whole, nameAt?_written named] at none
      cases none
    | cons d inner =>
      obtain ⟨rfl, split⟩ := List.cons.inj whole
      exact ⟨inner, rfl, split⟩
  cases cut with
  | last free =>
    refine ⟨[], _, .last fun front name rest named whole => ?_⟩
    obtain ⟨inner, -, split⟩ := later named whole
    exact free inner name rest named split
  | @hole _ front name rest _ holes leftmost further =>
    refine ⟨(c :: front, name) :: holes, _, .hole ⟨leftmost.named, congrArg (c :: ·) leftmost.whole, ?_⟩ further⟩
    intro other otherName otherRest named whole
    obtain ⟨inner, rfl, split⟩ := later named whole
    exact Nat.succ_le_succ (leftmost.first _ _ _ named split)

theorem exists_cut : (text : List Char) → ∃ holes last, Cut text holes last
  | [] => ⟨[], [], .last fun front name rest _ whole => by simp [written] at whole⟩
  | c :: text => by
    cases found : nameAt? (c :: text) with
    | none =>
      obtain ⟨holes, last, cut⟩ := exists_cut text
      exact cut.cons found
    | some name =>
      obtain ⟨named, rest, whole⟩ := nameAt?_eq_some_iff.mp found
      have shorter : rest.length < (c :: text).length := by
        rw [whole, List.length_append]
        simp [written]
      obtain ⟨holes, last, cut⟩ := exists_cut rest
      have leftmost : Leftmost (c :: text) [] name rest := ⟨named, whole, fun _ _ _ _ _ => Nat.zero_le _⟩
      exact ⟨_, last, .hole leftmost cut⟩
termination_by text => text.length
decreasing_by
  · exact Nat.lt_succ_self text.length
  · exact shorter

theorem nameAt?_none (free : ∀ name rest, IsName name → text ≠ written name ++ rest) : nameAt? text = none := by
  refine Option.eq_none_iff_forall_ne_some.mpr fun name found => ?_
  obtain ⟨named, rest, whole⟩ := nameAt?_eq_some_iff.mp found
  exact free name rest named whole

/-- Characters at which no placeholder begins are pieces of their own. -/
theorem pieces_free (free : ∀ before after name more, front = before ++ after → after ≠ [] → IsName name →
    after ++ rest ≠ written name ++ more) : pieces (front ++ rest) = front.map .char ++ pieces rest := by
  induction front with
  | nil => rfl
  | cons c front ih =>
    have none : nameAt? (c :: (front ++ rest)) = none :=
      nameAt?_none fun name more => free [] (c :: front) name more rfl (List.cons_ne_nil _ _)
    have inner := ih fun before after name more split =>
      free (c :: before) after name more (congrArg (c :: ·) split)
    rw [List.cons_append, pieces, piecesFrom, none]
    exact congrArg (Piece.char c :: ·) inner

theorem Cut.pieces (cut : Cut text holes last) :
    pieces text = holes.flatMap (fun h => h.1.map .char ++ [.hole h.2]) ++ last.map .char := by
  induction cut with
  | @last text none =>
    have free : Placeholder.pieces (text ++ []) = text.map .char ++ Placeholder.pieces [] := by
      refine pieces_free fun before after name more split filled named whole => ?_
      rw [List.append_nil] at whole
      exact none before name more named (whole ▸ split)
    rw [List.append_nil] at free
    rw [free]
    exact List.append_nil _
  | @hole text front name rest last holes leftmost further ih =>
    have free : Placeholder.pieces (front ++ (written name ++ rest)) =
        front.map .char ++ Placeholder.pieces (written name ++ rest) := by
      refine pieces_free fun before after other more split filled named whole => ?_
      have earlier := leftmost.first before other more named
        (by rw [leftmost.whole, split, List.append_assoc, whole])
      have size := List.length_pos_iff.mpr filled
      rw [split, List.length_append] at earlier
      omega
    rw [leftmost.whole, free, pieces_written leftmost.named, ih]
    simp

end Cut

section Fill

variable {text last : List Char} {holes : List (List Char × List Char)}

/-- What stands for a placeholder: the value of its name, or else the placeholder itself. -/
def standIn (values : Values) (name : List Char) : List Char :=
  ((value? values name).map String.toList).getD (written name)

theorem fill_hole (values : Values) (name : List Char) : fill values (.hole name) = standIn values name := by
  rw [fill, standIn]
  cases value? values name <;> rfl

theorem Cut.filled (cut : Cut text holes last) (values : Values) :
    filled values text = holes.flatMap (fun h => h.1 ++ standIn values h.2) ++ last := by
  have kept (front : List Char) : (front.map Piece.char).flatMap (fill values) = front := by
    rw [List.flatMap_map]
    exact List.flatMap_pure_eq_map _ _ |>.trans (List.map_id _)
  rw [Placeholder.filled, cut.pieces, List.flatMap_append, kept, List.flatMap_assoc]
  congr 2
  funext h
  rw [List.flatMap_append, kept, List.flatMap_singleton, fill_hole]

theorem Cut.unresolved {text : String} (cut : Cut text.toList holes last) (values : Values) :
    unresolved text values =
      (holes.map fun h => String.ofList h.2).filter fun name => (value? values name.toList).isNone := by
  have plain (front : List Char) : (front.map Piece.char).filterMap (unknown? values) = [] := by
    rw [List.filterMap_map]
    exact List.filterMap_eq_nil_iff.mpr fun _ _ => rfl
  rw [unresolved_eq, cut.pieces, List.filterMap_append, plain, List.append_nil]
  clear cut
  induction holes with
  | nil => rfl
  | cons h holes ih =>
    rw [List.flatMap_cons, List.filterMap_append, List.filterMap_append, plain, List.nil_append, ih, List.map_cons,
      List.filter_cons, String.toList_ofList]
    cases value : value? values h.2 <;> simp [unknown?, value]

/-- Names, each with its own placeholder as the value. -/
def ownValues (names : List String) : Values := names.map fun name => (name, String.ofList (written name.toList))

theorem value?_append (values more : Values) (name : List Char) :
    value? (values ++ more) name = (value? values name).or (value? more name) := by
  rw [value?, List.find?_append, Option.map_or]
  rfl

theorem value?_ownValues {names : List String} {name : List Char} (among : String.ofList name ∈ names) :
    value? (ownValues names) name = some (String.ofList (written name)) := by
  unfold value? ownValues
  induction names with
  | nil => cases among
  | cons first rest ih =>
    rw [List.map_cons, List.find?_cons]
    by_cases here : first = String.ofList name
    · simp [here]
    · have later := (List.mem_cons.mp among).resolve_left (Ne.symm here)
      rw [beq_false_of_ne here]
      exact ih later

theorem standIn_ownValues {values : Values} {names : List String} {name : List Char}
    (among : value? values name = none → String.ofList name ∈ names) :
    standIn (values ++ ownValues names) name = standIn values name := by
  rw [standIn, standIn, value?_append]
  cases known : value? values name with
  | some v => rfl
  | none =>
    rw [Option.none_or, value?_ownValues (among known)]
    exact String.toList_ofList

theorem Cut.unresolved_of_none {text : String} (cut : Cut text.toList holes last) {values : Values}
    {h : List Char × List Char} (member : h ∈ holes) (none : value? values h.2 = none) :
    String.ofList h.2 ∈ Placeholder.unresolved text values := by
  rw [cut.unresolved]
  refine List.mem_filter.mpr ⟨List.mem_map_of_mem member, ?_⟩
  rw [String.toList_ofList, none]
  rfl

end Fill

/-- A text is filled in one pass. It is cut at its placeholders in one way, each the leftmost behind the one before:
`unresolved` are the names of those without a value, in order. What stands between them is kept, each gives way to
the value of its name as it is, and those without a value stay. So it makes no difference when each of these is given
itself as its value. -/
theorem filled_in_one_pass (text : String) (values : Values) :
    ∃ holes last, Cut text.toList holes last ∧
      (∀ holes' last', Cut text.toList holes' last' → holes' = holes ∧ last' = last) ∧
      unresolved text values =
        (holes.map fun h => String.ofList h.2).filter (fun name => (value? values name.toList).isNone) ∧
      (render text values).toList =
        holes.flatMap (fun h => h.1 ++ ((value? values h.2).map String.toList).getD (written h.2)) ++ last ∧
      render text (values ++ (unresolved text values).map fun name => (name, String.ofList (written name.toList))) =
        render text values := by
  obtain ⟨holes, last, cut⟩ := exists_cut text.toList
  refine ⟨holes, last, cut, fun _ _ other => cut.unique other, cut.unresolved values, ?_, ?_⟩
  · rw [render_toList, cut.filled]
    rfl
  · apply String.toList_injective
    rw [render_toList, render_toList, cut.filled, cut.filled]
    congr 1
    refine List.flatMap_congr fun h member => ?_
    exact congrArg (h.1 ++ ·) (standIn_ownValues fun none => cut.unresolved_of_none member none)

/-- Braces in front of a placeholder are kept, and so is a value that looks like one. -/
example : render "\x7b\x7b\x7ba\x7d\x7d\x7d \x7b\x7b9\x7d\x7d\x7b\x7bb\x7d\x7d" [("a", "\x7b\x7bb\x7d\x7d")] =
    "\x7b\x7b\x7bb\x7d\x7d\x7d \x7b\x7b9\x7d\x7d\x7b\x7bb\x7d\x7d" := by
  decide +kernel

end WidgetRepair.Placeholder
