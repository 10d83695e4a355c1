import Mathlib.Data.List.Induction
import WidgetRepair.Proofs.PathSteps

/-! The way that a path describes, whether or not a slash ends it. A path goes on from another where
it is joined to it, and the paths around a path go along the same way. -/

namespace WidgetRepair.Path

/-- The steps of a path, but for that of a slash at its end. -/
def way (p : Path) : List Disk.Step := p.between.filterMap stepOf?

theorem steps_way (p : Path) : Disk.steps p = p.way ++ p.closing := steps_eq p

theorem way_of_empty {p : Path} (empty : p.isEmpty = true) : p.way = [] := by
  have text : p.text = "" := by simpa [isEmpty] using empty
  unfold way between
  rw [text]
  rfl

theorem between_cut (front rest : List Char) : Text.splitWhere (· == '/') (front ++ '/' :: rest) =
    Text.splitWhere (· == '/') front ++ Text.splitWhere (· == '/') rest :=
  Text.splitWhere_append (· == '/') (beq_self_eq_true '/') front rest

theorem way_slashed (front : List Char) :
    way ⟨String.ofList (front ++ ['/'])⟩ = way ⟨String.ofList front⟩ := by
  unfold way between
  rw [String.toList_ofList, String.toList_ofList, between_cut, List.filterMap_append]
  exact List.append_nil _

/-- Slashes at the end are no steps of the way. -/
theorem steps_trimmed (p : Path) :
    Disk.steps ⟨String.ofList (p.text.toList.reverse.dropWhile (· == '/')).reverse⟩ = p.way := by
  have whole : p = ⟨String.ofList p.text.toList⟩ := by rw [String.ofList_toList]
  rw [show p.way = way ⟨String.ofList p.text.toList⟩ from congrArg way whole]
  induction p.text.toList using List.reverseRecOn with
  | nil => rfl
  | append_singleton front c ih =>
    rw [List.reverse_append, List.reverse_singleton, List.singleton_append, List.dropWhile_cons]
    by_cases slash : c = '/'
    · subst slash
      rw [if_pos (beq_self_eq_true _), way_slashed]
      exact ih
    · rw [if_neg (by simpa using slash), List.reverse_cons, List.reverse_reverse, steps_way]
      have unclosed : closing ⟨String.ofList (front ++ [c])⟩ = [] := by
        unfold closing
        rw [String.toList_ofList, List.getLast?_concat, if_neg (by simpa using slash)]
      rw [unclosed, List.append_nil]

section Join

variable {q : String} (relative : q.toList.head? ≠ some '/')

include relative

theorem way_div (p : Path) : (p / q).way = p.way ++ way ⟨q⟩ := by
  show (join p q).way = _
  unfold join
  rw [if_neg relative]
  by_cases empty : p.isEmpty = true
  · have text : p.text = "" := by simpa [isEmpty] using empty
    rw [if_pos (by simp [empty]), way_of_empty empty, text]
    simp
  by_cases slash : p.text.toList.getLast? = some '/'
  · rw [if_pos (by simp [slash])]
    obtain ⟨front, text⟩ := List.getLast?_eq_some_iff.mp slash
    unfold way between
    rw [String.toList_append, text, List.append_assoc, List.singleton_append, between_cut, between_cut,
      List.filterMap_append, List.filterMap_append]
    simp [Text.splitWhere, stepOf?]
  · rw [if_neg (by simp [empty, slash])]
    unfold way between
    rw [String.toList_append, String.toList_append, List.append_assoc]
    show List.filterMap stepOf? (Text.splitWhere _ (p.text.toList ++ '/' :: q.toList)) = _
    rw [between_cut, List.filterMap_append]

theorem absolute_div (p : Path) : (p / q).absolute = p.absolute := by
  show (join p q).absolute = _
  unfold join
  rw [if_neg relative]
  cases text : p.text.toList with
  | nil =>
    have none : p.text = "" := by simpa using text
    unfold absolute
    simpa [isEmpty, none] using relative
  | cons c rest =>
    unfold absolute
    split <;> simp [text]

end Join

/-- `q` goes along the way of `p`, at most to its end. -/
structure Leads (q p : Path) : Prop where
  way : q.way <+: p.way
  start : q.isEmpty = true ∨ q.absolute = p.absolute

namespace Leads

variable {p q r : Path}

theorem refl (p : Path) : p.Leads p := ⟨List.prefix_rfl, .inr rfl⟩

theorem trans (some_text : q.isEmpty = false) (first : r.Leads q) (second : q.Leads p) : r.Leads p where
  way := first.way.trans second.way
  start := by
    rcases first.start with empty | same
    · exact .inl empty
    · rcases second.start with empty | same'
      · rw [some_text] at empty
        cases empty
      · exact .inr (same.trans same')

/-- The start of a joined path leads to it. -/
theorem div {q : String} (relative : q.toList.head? ≠ some '/') (p : Path) : p.Leads (p / q) where
  way := ⟨_, (way_div relative p).symm⟩
  start := .inr (absolute_div relative p).symm

end Leads

/-- A path up to the end of one of its pieces. -/
theorem between_take {p : Path} {piece : List Char} {before after : List (List Char)}
    (between : p.between = before ++ piece :: after) (filled : piece ≠ []) :
    (p.take (Text.spanned before + piece.length)).between = before ++ [piece] ∧
      (p.take (Text.spanned before + piece.length)).absolute = p.absolute := by
  obtain ⟨front, back, text, slashless, length, replaced⟩ := Text.splitWhere_at between
  have taken : (p.take (Text.spanned before + piece.length)).text.toList = front ++ piece := by
    have size : Text.spanned before + piece.length = (front ++ piece).length := by
      rw [List.length_append, length]
    unfold take
    rw [String.toList_ofList, text, size, List.take_left]
  constructor
  · unfold Path.between
    rw [taken, replaced piece slashless]
  · unfold absolute
    rw [taken, text]
    cases front with
    | nil =>
      cases piece with
      | nil => exact absurd rfl filled
      | cons c rest => rfl
    | cons c front => rfl

theorem piece_leads {p : Path} {piece : List Char} {before after : List (List Char)}
    (between : p.between = before ++ piece :: after) (filled : piece ≠ []) :
    (p.take (Text.spanned before + piece.length)).Leads p := by
  obtain ⟨pieces, absolute⟩ := between_take between filled
  refine ⟨⟨after.filterMap stepOf?, ?_⟩, .inr absolute⟩
  unfold way
  rw [between, pieces, ← List.filterMap_append, List.append_assoc, List.singleton_append]

theorem partOf?_filled {first : Bool} {piece : List Char} {part : PathPart}
    (known : partOf? first piece = some part) : piece ≠ [] := by
  rintro rfl
  cases known

theorem root_leads {p : Path} (absolute : p.absolute = true) : (p.take 1).Leads p := by
  have root : p.take 1 = ⟨"/"⟩ := by
    unfold Path.absolute at absolute
    unfold take
    cases text : p.text.toList with
    | nil => simp [text] at absolute
    | cons c rest =>
      obtain rfl : c = '/' := by simpa [text] using absolute
      rfl
  rw [root]
  exact ⟨List.nil_prefix, .inr absolute.symm⟩

theorem take_leads {p : Path} {part : PathPart} {size : Nat} (member : (part, size) ∈ p.measuredParts) :
    (p.take size).Leads p := by
  unfold measuredParts at member
  have measured : p.pieces = pieces.measured 0 p.between := rfl
  rw [measured] at member
  cases all : pieces.measured 0 p.between with
  | nil =>
    rw [all] at member
    cases member
  | cons first rest =>
    simp only [all] at member
    rcases List.mem_append.mp member with start | further
    · split at start
      next absolute =>
        cases List.mem_singleton.mp start
        exact root_leads absolute
      next =>
        obtain ⟨_, known, same⟩ := Option.map_eq_some_iff.mp (Option.mem_toList.mp start)
        cases same
        obtain ⟨between, size⟩ := measured_at [] all
        rw [size, Nat.zero_add]
        exact piece_leads between (partOf?_filled known)
    · obtain ⟨entry, inside, same⟩ := List.mem_filterMap.mp further
      obtain ⟨part, known, same⟩ := Option.map_eq_some_iff.mp same
      cases same
      obtain ⟨before, after, rfl⟩ := List.append_of_mem inside
      obtain ⟨between, size⟩ := measured_at (first :: before) all
      rw [size, Nat.zero_add]
      exact piece_leads between (partOf?_filled known)

theorem parent?_leads {p q : Path} (parent : p.parent? = some q) : q.Leads p := by
  unfold parent? at parent
  split at parent
  next => cases parent
  next => cases parent
  next =>
    cases parent
    exact ⟨List.nil_prefix, .inl rfl⟩
  next head part size rest _ parts =>
    cases parent
    have member : (part, size) ∈ p.measuredParts := by
      rw [← List.mem_reverse, parts]
      simp
    exact take_leads member

theorem parent?_of_empty {p : Path} (empty : p.isEmpty = true) : p.parent? = none := by
  have text : p = ⟨""⟩ := congrArg Path.mk (by simpa [isEmpty] using empty)
  rw [text]
  rfl

/-- The paths around a path go along its way. -/
theorem ancestors_lead (p : Path) : ∀ q ∈ p.ancestors, q.Leads p := by
  unfold ancestors
  induction p.measuredParts.length generalizing p with
  | zero =>
    intro q member
    obtain rfl := List.mem_singleton.mp member
    exact .refl q
  | succ n ih =>
    intro q member
    rcases List.mem_cons.mp member with rfl | further
    · exact .refl q
    cases parent : p.parent? with
    | none =>
      rw [parent] at further
      cases further
    | some r =>
      rw [parent] at further
      have inner : q ∈ ancestors.go r n := further
      cases some_text : r.isEmpty with
      | false => exact (ih r q inner).trans some_text (parent?_leads parent)
      | true =>
        have same : q = r := by
          cases n with
          | zero => exact List.mem_singleton.mp inner
          | succ n =>
            rw [ancestors.go, parent?_of_empty some_text] at inner
            exact List.mem_singleton.mp inner
        rw [same]
        exact parent?_leads parent

end WidgetRepair.Path
