import WidgetRepair.Disk.Basic

/-! The steps of a path, read off its text. A path whose last part is a name goes to the folder of
that name first, and a name put in its place leads to a neighbour. -/

namespace WidgetRepair

namespace Text

variable {cut : Char → Bool}

theorem splitWhere_eq (cut : Char → Bool) (text : List Char) :
    splitWhere cut text = text.splitOnP cut := by
  induction text with
  | nil => rfl
  | cons c rest ih =>
    rw [splitWhere, List.splitOnP_cons_eq_if_modifyHead, ← ih]
    cases pieces : splitWhere cut rest with
    | nil => exact absurd (ih ▸ pieces) (List.splitOnP_ne_nil _ _)
    | cons first others => cases cut c <;> rfl

theorem splitWhere_append (cut : Char → Bool) {c : Char} (cuts : cut c = true)
    (front rest : List Char) :
    splitWhere cut (front ++ c :: rest) = splitWhere cut front ++ splitWhere cut rest := by
  simp only [splitWhere_eq]
  exact List.splitOnP_append_cons front rest cuts

theorem splitWhere_uncut {piece : List Char} (uncut : ∀ c ∈ piece, cut c = false) :
    splitWhere cut piece = [piece] := by
  rw [splitWhere_eq]
  exact List.splitOnP_eq_singleton uncut

/-- The first piece, and the rest of the text behind the cut that follows it. -/
theorem splitWhere_cons {text piece : List Char} {after : List (List Char)}
    (split : splitWhere cut text = piece :: after) :
    (∀ c ∈ piece, cut c = false) ∧ ((after = [] ∧ text = piece) ∨
      ∃ c rest, cut c = true ∧ text = piece ++ c :: rest ∧ splitWhere cut rest = after) := by
  have uncut : ∀ c ∈ text.takeWhile (!cut ·), cut c = false := by
    intro c member
    simpa using List.all_eq_true.mp List.all_takeWhile c member
  have whole := List.takeWhile_append_dropWhile (p := (!cut ·)) (l := text)
  cases behind : text.dropWhile (!cut ·) with
  | nil =>
    rw [behind, List.append_nil] at whole
    rw [← whole, splitWhere_uncut uncut] at split
    cases split
    exact ⟨uncut, .inl ⟨rfl, whole.symm⟩⟩
  | cons c rest =>
    have cuts : cut c = true := by
      have first := List.head_dropWhile_not (!cut ·) (l := text) (by simp [behind])
      simpa [behind] using first
    rw [behind] at whole
    rw [← whole, splitWhere_append cut cuts, splitWhere_uncut uncut] at split
    cases split
    exact ⟨uncut, .inr ⟨c, rest, cuts, whole.symm, rfl⟩⟩

/-- The number of characters of pieces, each with the cut behind it. -/
def spanned : List (List Char) → Nat
  | [] => 0
  | piece :: rest => piece.length + 1 + spanned rest

/-- A text around one of its pieces. Another piece may stand behind the same front. -/
theorem splitWhere_at {text piece : List Char} {before after : List (List Char)}
    (split : splitWhere cut text = before ++ piece :: after) :
    ∃ front back, text = front ++ piece ++ back ∧ (∀ c ∈ piece, cut c = false) ∧
      front.length = spanned before ∧
      ∀ other, (∀ c ∈ other, cut c = false) →
        splitWhere cut (front ++ other) = before ++ [other] := by
  induction before generalizing text with
  | nil =>
    obtain ⟨uncut, ⟨-, rfl⟩ | ⟨c, rest, _, rfl, _⟩⟩ := splitWhere_cons split
    · exact ⟨[], [], by simp, uncut, rfl, fun other free => splitWhere_uncut free⟩
    · exact ⟨[], c :: rest, by simp, uncut, rfl, fun other free => splitWhere_uncut free⟩
  | cons first before ih =>
    obtain ⟨uncut, ⟨last, _⟩ | ⟨c, rest, cuts, rfl, others⟩⟩ := splitWhere_cons split
    · simp at last
    · obtain ⟨front, back, rfl, free, length, replaced⟩ := ih others
      refine ⟨first ++ c :: front, back, by simp, free, by simp [length, spanned]; omega, ?_⟩
      intro other free
      rw [List.append_assoc, List.cons_append, splitWhere_append cut cuts, splitWhere_uncut uncut,
        replaced other free]
      rfl

end Text

/-- The last of the values found in a list, and what stands around it. -/
theorem filterMap_last {α β : Type} {f : α → Option β} {items : List α} {b : β}
    (last : (items.filterMap f).getLast? = some b) :
    ∃ before a after, items = before ++ a :: after ∧ f a = some b ∧ ∀ x ∈ after, f x = none := by
  obtain ⟨found, split⟩ := List.getLast?_eq_some_iff.mp last
  obtain ⟨front, back, rfl, -, split⟩ := List.filterMap_eq_append_iff.mp split
  obtain ⟨skipped, a, after, rfl, -, fits, none⟩ := List.filterMap_eq_cons_iff.mp split
  exact ⟨front ++ skipped, a, after, (List.append_assoc ..).symm, fits,
    List.filterMap_eq_nil_iff.mp none⟩

theorem last_filterMap {α β : Type} {f : α → Option β} {before after : List α} {a : α} {b : β}
    (fits : f a = some b) (none : ∀ x ∈ after, f x = none) :
    ((before ++ a :: after).filterMap f).getLast? = some b := by
  rw [List.filterMap_append, List.filterMap_cons, fits, List.filterMap_eq_nil_iff.mpr none,
    List.getLast?_concat]

namespace Path

/-- The texts between the slashes of a path. -/
def between (p : Path) : List (List Char) := Text.splitWhere (· == '/') p.text.toList

theorem between_some (p : Path) : ∃ piece rest, p.between = piece :: rest := by
  unfold between
  rw [Text.splitWhere_eq]
  exact List.exists_cons_of_ne_nil (List.splitOnP_ne_nil _ _)

/-- The step that a piece asks for. -/
def stepOf? (piece : List Char) : Option Disk.Step :=
  match piece with
  | [] => none
  | ['.'] => some .stay
  | ['.', '.'] => some .up
  | name => some (.into (String.ofList name))

theorem stepOf?_name {piece : List Char} (some_char : piece ≠ []) (no_point : piece ≠ ['.'])
    (no_points : piece ≠ ['.', '.']) : stepOf? piece = some (.into (String.ofList piece)) := by
  unfold stepOf?
  split
  next => exact absurd rfl some_char
  next => exact absurd rfl no_point
  next => exact absurd rfl no_points
  next => rfl

/-- A slash at the end asks for a folder. -/
def closing (p : Path) : List Disk.Step := if p.text.toList.getLast? = some '/' then [.stay] else []

/-- Pieces that lead nowhere. -/
def Idle (pieces : List (List Char)) : Prop := ∀ piece ∈ pieces, piece = [] ∨ piece = ['.']

theorem steps_eq (p : Path) : Disk.steps p = p.between.filterMap stepOf? ++ p.closing := by
  have pieces (all : List (List Char)) : (all.filter (!·.isEmpty)).map (fun piece =>
      if piece == ['.'] then Disk.Step.stay
      else if piece == ['.', '.'] then .up
      else .into (String.ofList piece)) = all.filterMap stepOf? := by
    induction all with
    | nil => rfl
    | cons piece rest ih =>
      by_cases none : piece = []
      · subst none
        exact ih
      by_cases here : piece = ['.']
      · subst here
        exact congrArg _ ih
      by_cases up : piece = ['.', '.']
      · subst up
        exact congrArg _ ih
      rw [List.filterMap_cons, ← ih, stepOf?_name none here up]
      simp [none, here, up]
  unfold Disk.steps closing between
  rw [← pieces]
  split <;> simp

theorem steps_of_slash {p : Path} (slash : p.text.toList.getLast? = some '/') :
    Disk.steps p = p.between.filterMap stepOf? ++ [.stay] := by
  rw [steps_eq]
  unfold closing
  rw [if_pos slash]

theorem partOf?_name {first : Bool} {piece : List Char} {s : String}
    (part : partOf? first piece = some (.name s)) :
    piece = s.toList ∧ stepOf? piece = some (.into s) := by
  unfold partOf? at part
  split at part
  next => cases part
  next => cases first <;> cases part
  next => cases part
  next none here up =>
    cases part
    refine ⟨String.toList_ofList.symm, ?_⟩
    exact stepOf?_name none here up

theorem partOf?_none {piece : List Char} (part : partOf? false piece = none) :
    piece = [] ∨ piece = ['.'] := by
  unfold partOf? at part
  split at part
  next => exact .inl rfl
  next => exact .inr rfl
  next => cases part
  next => cases part

theorem measured_pieces (start : Nat) (all : List (List Char)) :
    (pieces.measured start all).map (·.1) = all := by
  induction all generalizing start with
  | nil => rfl
  | cons first rest ih => exact congrArg (first :: ·) (ih _)

/-- Pieces are measured by what stands before them, a slash behind each. -/
theorem measured_at {start size : Nat} {all : List (List Char)} {piece : List Char}
    (before : List (List Char × Nat)) {after : List (List Char × Nat)}
    (split : pieces.measured start all = before ++ (piece, size) :: after) :
    all = before.map (·.1) ++ piece :: after.map (·.1) ∧
      size = start + Text.spanned (before.map (·.1)) + piece.length := by
  induction all generalizing start before with
  | nil => simp [pieces.measured] at split
  | cons first rest ih =>
    rw [pieces.measured] at split
    cases before with
    | nil =>
      obtain ⟨same, rfl⟩ := List.cons.inj split
      cases same
      rw [measured_pieces]
      exact ⟨rfl, rfl⟩
    | cons other before =>
      obtain ⟨same, split⟩ := List.cons.inj split
      obtain ⟨rfl, rfl⟩ := ih before split
      rw [← same]
      refine ⟨rfl, ?_⟩
      simp [Text.spanned]
      omega

theorem idle_of_measured {after : List (List Char × Nat)}
    (idle : ∀ entry ∈ after, ((partOf? false entry.1).map fun part => (part, entry.2)) = none) :
    Idle (after.map (·.1)) := by
  intro other member
  obtain ⟨entry, inside, rfl⟩ := List.mem_map.mp member
  exact partOf?_none (by simpa using idle entry inside)

/-- The last part, where it is a name, and the pieces around it. -/
theorem measuredParts_last {p : Path} {s : String} {size : Nat}
    (last : p.measuredParts.getLast? = some (.name s, size)) :
    ∃ before after, p.between = before ++ s.toList :: after ∧ Idle after ∧
      stepOf? s.toList = some (.into s) ∧
      size = Text.spanned before + s.toList.length := by
  unfold measuredParts at last
  have measured : p.pieces = pieces.measured 0 p.between := rfl
  rw [measured] at last
  cases all : pieces.measured 0 p.between with
  | nil => simp [all] at last
  | cons first rest =>
    have between : p.between = first.1 :: rest.map (·.1) := by
      rw [← measured_pieces 0 p.between, all, List.map_cons]
    simp only [all, List.getLast?_append] at last
    cases final : (rest.filterMap fun entry =>
        (partOf? false entry.1).map fun part => (part, entry.2)).getLast? with
    | some found =>
      rw [final, Option.some_or] at last
      cases last
      obtain ⟨before, ⟨piece, end_⟩, after, rfl, part, idle⟩ := filterMap_last final
      obtain ⟨_, known, same⟩ := Option.map_eq_some_iff.mp part
      cases same
      obtain ⟨rfl, step⟩ := partOf?_name known
      obtain ⟨split, size⟩ := measured_at (first :: before) all
      exact ⟨_, _, split, idle_of_measured idle, step, by simpa [Function.comp_def] using size⟩
    | none =>
      rw [final, Option.none_or] at last
      have idle := List.filterMap_eq_nil_iff.mp (List.getLast?_eq_none_iff.mp final)
      split at last
      next => simp at last
      next =>
        obtain ⟨_, part, same⟩ : ∃ part, partOf? true first.1 = some part ∧
            (part, first.2) = (.name s, size) := by
          cases part : partOf? true first.1 with
          | none => simp [part] at last
          | some part' => exact ⟨part', rfl, by simpa [part] using last⟩
        cases same
        obtain ⟨same, step⟩ := partOf?_name part
        obtain ⟨_, size⟩ := measured_at [] all
        exact ⟨[], _, same ▸ between, idle_of_measured idle, same ▸ step,
          by simpa [same] using size⟩

theorem partOf?_into {piece : List Char} {name : String} (step : stepOf? piece = some (.into name))
    (first : Bool) : partOf? first piece = some (.name name) := by
  unfold stepOf? at step
  split at step
  next => cases step
  next => cases step
  next => cases step
  next none here up =>
    cases step
    unfold partOf?
    split
    next => exact absurd rfl none
    next => exact absurd rfl here
    next => exact absurd rfl up
    next => rfl

theorem stepOf?_none {piece : List Char} (step : stepOf? piece = none) : piece = [] := by
  unfold stepOf? at step
  split at step
  next => rfl
  next => cases step
  next => cases step
  next => cases step

/-- A path that begins with a step is not absolute. -/
theorem relative_of_step {p : Path} {piece : List Char} {after : List (List Char)} {step : Disk.Step}
    (between : p.between = piece :: after) (asked : stepOf? piece = some step) :
    ¬ p.absolute = true := by
  intro absolute
  unfold Path.absolute at absolute
  cases text : p.text.toList with
  | nil => simp [text] at absolute
  | cons c rest =>
    have slash : c = '/' := by simpa [text] using absolute
    have split : p.between = [[]] ++ Text.splitWhere (· == '/') rest := by
      unfold Path.between
      rw [text, slash]
      exact Text.splitWhere_append (· == '/') rfl [] rest
    rw [between] at split
    cases split
    cases asked

/-- A path whose steps end with a name has a name as its last part. -/
theorem last_name {p : Path} {name : String} (last : (Disk.steps p).getLast? = some (.into name)) :
    ∃ size, p.measuredParts.getLast? = some (.name name, size) := by
  rw [steps_eq] at last
  have open_ : p.closing = [] := by
    unfold closing at last ⊢
    split at last
    next => simp at last
    next slash => rw [if_neg slash]
  rw [open_, List.append_nil] at last
  obtain ⟨before, piece, after, between, step, idle⟩ := filterMap_last last
  have silent : ∀ entry : List Char × Nat, entry.1 ∈ after →
      (partOf? false entry.1).map (fun part => (part, entry.2)) = none := by
    intro entry inside
    rw [stepOf?_none (idle _ inside)]
    rfl
  have texts := measured_pieces 0 p.between
  unfold measuredParts
  have measured : p.pieces = pieces.measured 0 p.between := rfl
  rw [measured]
  cases all : pieces.measured 0 p.between with
  | nil =>
    rw [all, between] at texts
    cases before <;> cases texts
  | cons first rest =>
    rw [all, between] at texts
    cases before with
    | nil =>
      obtain ⟨rfl, rfl⟩ := List.cons.inj texts
      refine ⟨first.2, ?_⟩
      simp only [if_neg (relative_of_step between step), partOf?_into step, Option.map_some,
        Option.toList_some]
      rw [List.filterMap_eq_nil_iff.mpr fun entry inside => silent entry (List.mem_map_of_mem inside)]
      rfl
    | cons other before =>
      obtain ⟨_, others⟩ := List.cons.inj texts
      obtain ⟨front, back, rfl, _, others⟩ := List.map_eq_append_iff.mp others
      obtain ⟨entry, back, rfl, rfl, rfl⟩ := List.map_eq_cons_iff.mp others
      refine ⟨entry.2, ?_⟩
      rw [List.getLast?_append, last_filterMap (a := entry) (b := (.name name, entry.2)), Option.some_or]
      · show (partOf? false entry.1).map _ = _
        rw [partOf?_into step]
        rfl
      · intro other inside
        exact silent other (List.mem_map_of_mem inside)

/-- A text that may be a name: it is neither a point nor two, and has no slash. -/
structure Plain (name : String) : Prop where
  step : stepOf? name.toList = some (.into name)
  slashless : ∀ c ∈ name.toList, (c == '/') = false

namespace Plain

variable {name : String} (plain : Plain name)

include plain

theorem starts : ∃ c rest, name.toList = c :: rest ∧ (c == '/') = false := by
  cases chars : name.toList with
  | nil =>
    have step := plain.step
    rw [chars] at step
    cases step
  | cons c rest => exact ⟨c, rest, rfl, plain.slashless c (chars ▸ List.mem_cons_self)⟩

theorem absolute (front back : List Char) :
    (Path.mk (String.ofList (front ++ name.toList ++ back))).absolute = (front.head? == some '/') := by
  obtain ⟨c, rest, chars, slashless⟩ := plain.starts
  unfold Path.absolute
  rw [String.toList_ofList, chars]
  cases front with
  | nil => simpa using slashless
  | cons d front => rfl

theorem closing (front : List Char) : (Path.mk (String.ofList (front ++ name.toList))).closing = [] := by
  have last : name.toList.getLast? ≠ some '/' := fun slash => by
    simpa using plain.slashless '/' (List.mem_of_getLast? slash)
  obtain ⟨c, rest, chars, -⟩ := plain.starts
  unfold Path.closing
  rw [String.toList_ofList, List.getLast?_append, if_neg]
  rw [chars] at last ⊢
  simpa [List.getLast?_cons] using last

end Plain

theorem idle_stays {pieces : List (List Char)} (idle : Idle pieces) :
    ∀ step ∈ pieces.filterMap stepOf?, step = .stay := by
  intro step member
  obtain ⟨piece, inside, asked⟩ := List.mem_filterMap.mp member
  rcases idle piece inside with rfl | rfl
  · cases asked
  · exact (Option.some.inj asked).symm

theorem closing_stays (p : Path) : ∀ step ∈ p.closing, step = .stay := by
  unfold closing
  split <;> simp

/-- A path goes to the folder of its last name and there to the name. Another name put in its place
leads to a neighbour. -/
theorem steps_beside {p : Path} {s : String} {size : Nat}
    (last : p.measuredParts.getLast? = some (.name s, size)) :
    ∃ around rest front back, Disk.steps p = around ++ .into s :: rest ∧
      (∀ step ∈ rest, step = .stay) ∧ p.text.toList = front ++ s.toList ++ back ∧
      front.length + s.length = size ∧ Plain s ∧ ∀ other, Plain other →
        Disk.steps ⟨String.ofList (front ++ other.toList)⟩ = around ++ [.into other] ∧
        (Path.mk (String.ofList (front ++ other.toList))).absolute = p.absolute := by
  obtain ⟨before, after, between, idle, step, size⟩ := measuredParts_last last
  obtain ⟨front, back, text, slashless, length, replaced⟩ := Text.splitWhere_at between
  have plain : Plain s := ⟨step, slashless⟩
  refine ⟨before.filterMap stepOf?, after.filterMap stepOf? ++ p.closing, front, back, ?_, ?_, text,
    ?_, plain, ?_⟩
  · rw [steps_eq, between, List.filterMap_append, List.filterMap_cons, step]
    simp
  · intro step member
    exact (List.mem_append.mp member).elim (idle_stays idle step) (closing_stays p step)
  · rw [length, size, String.length_toList]
  · intro other proper
    constructor
    · rw [steps_eq, proper.closing, List.append_nil]
      unfold Path.between
      rw [String.toList_ofList, replaced _ proper.slashless, List.filterMap_append,
        List.filterMap_cons, proper.step]
      rfl
    · have same : p = ⟨String.ofList (front ++ s.toList ++ back)⟩ := by
        rw [← text, String.ofList_toList]
      rw [same, plain.absolute]
      simpa using proper.absolute front []

end Path

end WidgetRepair
