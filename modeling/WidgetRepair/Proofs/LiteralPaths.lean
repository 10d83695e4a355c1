import WidgetRepair.Edit.Basic
import WidgetRepair.Proofs.DiskTree
import WidgetRepair.Proofs.PathSteps

/-! Paths that are written with nothing but names, and what a pattern that is such a path stands
for: the path itself. -/

namespace WidgetRepair

namespace Path

variable {rooted : Bool} {names inner : List String}

/-- The path through names, from the root or from where one is. -/
def along (rooted : Bool) (names : List String) : Path :=
  ⟨(if rooted then "/" else "") ++ "/".intercalate names⟩

theorem intercalate_both {sep : List Char} {a b : List (List Char)} (first : a ≠ []) (second : b ≠ []) :
    sep.intercalate (a ++ b) = sep.intercalate a ++ sep ++ sep.intercalate b := by
  induction a with
  | nil => exact absurd rfl first
  | cons x a ih =>
    cases a with
    | nil =>
      cases b with
      | nil => exact absurd rfl second
      | cons y b => simp [List.intercalate_cons_cons]
    | cons z a =>
      have more := ih (List.cons_ne_nil z a)
      simp only [List.cons_append] at more ⊢
      rw [List.intercalate_cons_cons, more, List.intercalate_cons_cons]
      simp

theorem toList_along (rooted : Bool) (names : List String) : (along rooted names).text.toList =
    (if rooted then ['/'] else []) ++ ['/'].intercalate (names.map String.toList) := by
  unfold along
  rw [String.toList_append, String.toList_intercalate]
  cases rooted <;> rfl

theorem between_along (filled : names ≠ []) (plain : ∀ name ∈ names, Plain name) :
    (along rooted names).between = (if rooted then [[]] else []) ++ names.map String.toList := by
  have pieces : Text.splitWhere (· == '/') (['/'].intercalate (names.map String.toList)) =
      names.map String.toList := by
    rw [Text.splitWhere_eq]
    apply List.splitOn_intercalate
    · intro piece member slash
      obtain ⟨name, inside, rfl⟩ := List.mem_map.mp member
      simpa using (plain name inside).slashless '/' slash
    · simpa using filled
  unfold between
  rw [toList_along]
  cases rooted with
  | false => exact pieces
  | true =>
    have cut := Text.splitWhere_append (· == '/') (beq_self_eq_true '/') []
      (['/'].intercalate (names.map String.toList))
    rw [pieces] at cut
    exact cut

theorem last_of_slash {p : Path} (slash : p.text.toList.getLast? = some '/') :
    p.between.getLast? = some [] := by
  obtain ⟨front, text⟩ := List.getLast?_eq_some_iff.mp slash
  unfold between
  rw [text, Text.splitWhere_append (· == '/') (beq_self_eq_true '/'), Text.splitWhere,
    List.getLast?_concat]

theorem along_unclosed (filled : names ≠ []) (plain : ∀ name ∈ names, Plain name) :
    (along rooted names).text.toList.getLast? ≠ some '/' := by
  intro slash
  have last := last_of_slash slash
  rw [between_along filled plain, List.getLast?_append, List.getLast?_map] at last
  cases final : names.getLast? with
  | none => exact filled (List.getLast?_eq_none_iff.mp final)
  | some name =>
    obtain ⟨c, rest, chars, -⟩ := (plain name (List.mem_of_getLast? final)).starts
    simp [final, chars] at last

theorem along_starts (filled : names ≠ []) (plain : ∀ name ∈ names, Plain name) :
    ∃ c rest, (along false names).text.toList = c :: rest ∧ (c == '/') = false := by
  cases names with
  | nil => exact absurd rfl filled
  | cons name others =>
    obtain ⟨c, rest, chars, slashless⟩ := (plain name List.mem_cons_self).starts
    rw [toList_along]
    cases others with
    | nil => exact ⟨c, rest, by simp [chars], slashless⟩
    | cons other others =>
      rw [List.map_cons, List.map_cons, List.intercalate_cons_cons, chars]
      exact ⟨c, _, rfl, slashless⟩

theorem along_some (filled : names ≠ []) (plain : ∀ name ∈ names, Plain name) :
    (along rooted names).isEmpty = false := by
  have text : (along rooted names).text.toList ≠ [] := by
    cases rooted with
    | false =>
      obtain ⟨c, rest, chars, -⟩ := along_starts filled plain
      rw [chars]
      exact List.cons_ne_nil c rest
    | true =>
      rw [toList_along]
      exact List.cons_ne_nil '/' _
  simpa [isEmpty] using text

theorem text_along (rooted : Bool) (some_name : names ≠ []) (filled : inner ≠ []) :
    (along rooted (names ++ inner)).text = (along rooted names).text ++ "/" ++ (along false inner).text := by
  rw [← String.toList_inj, toList_along, List.map_append,
    intercalate_both (by simpa using some_name) (by simpa using filled), String.toList_append,
    String.toList_append, toList_along, toList_along]
  simp

/-- Paths through names are put together from their names. -/
theorem along_div (rooted : Bool) (plain : ∀ name ∈ names ++ inner, Plain name) (filled : inner ≠ []) :
    along rooted names / (along false inner).text = along rooted (names ++ inner) := by
  have outer : ∀ name ∈ names, Plain name := fun name member => plain name (by simp [member])
  obtain ⟨c, rest, chars, slashless⟩ := along_starts filled fun name member => plain name (by simp [member])
  have relative : (along false inner).text.toList.head? ≠ some '/' := by
    simpa [chars] using slashless
  show join _ _ = _
  unfold join
  rw [if_neg relative]
  by_cases none : names = []
  · subst none
    cases rooted <;> rfl
  · have unclosed : (along rooted names).text.toList.getLast? ≠ some '/' := along_unclosed none outer
    simp only [along_some none outer, unclosed, Bool.false_or, decide_false, Bool.false_eq_true, if_false]
    exact congrArg Path.mk (text_along rooted none filled).symm

theorem parts_eq {p : Path} {piece : List Char} {rest : List (List Char)}
    (between : p.between = piece :: rest) :
    p.parts = (if p.absolute then [.root] else (partOf? true piece).toList) ++
      rest.filterMap (partOf? false) := by
  have others (start : Nat) : ((pieces.measured start rest).filterMap fun entry =>
      (partOf? false entry.1).map fun part => (part, entry.2)).map (·.1) =
        rest.filterMap (partOf? false) := by
    rw [List.map_filterMap, ← congrArg (List.filterMap (partOf? false)) (measured_pieces start rest),
      List.filterMap_map]
    congr 1
    funext entry
    cases part : partOf? false entry.1 <;> simp [part]
  have pieces : p.pieces = (piece, piece.length) :: pieces.measured (piece.length + 1) rest := by
    unfold Path.pieces
    show pieces.measured 0 p.between = _
    rw [between, pieces.measured]
    simp
  unfold parts measuredParts
  rw [pieces]
  simp only [List.map_append]
  rw [← others (piece.length + 1)]
  congr 1
  split
  next => rfl
  next => cases partOf? true piece <;> rfl

theorem names_parts (plain : ∀ name ∈ names, Plain name) :
    (names.map String.toList).filterMap (partOf? false) = names.map .name := by
  induction names with
  | nil => rfl
  | cons name rest ih =>
    obtain ⟨first, others⟩ := List.forall_mem_cons.mp plain
    simp [partOf?_into first.step, ih others]

theorem names_steps (plain : ∀ name ∈ names, Plain name) :
    (names.map String.toList).filterMap stepOf? = names.map .into := by
  induction names with
  | nil => rfl
  | cons name rest ih =>
    obtain ⟨first, others⟩ := List.forall_mem_cons.mp plain
    simp [first.step, ih others]

theorem along_absolute (filled : names ≠ []) (plain : ∀ name ∈ names, Plain name) :
    (along rooted names).absolute = rooted := by
  unfold absolute
  cases rooted with
  | true =>
    rw [toList_along]
    rfl
  | false =>
    obtain ⟨c, rest, chars, slashless⟩ := along_starts filled plain
    rw [chars]
    exact slashless

theorem parts_along (rooted : Bool) (filled : names ≠ []) (plain : ∀ name ∈ names, Plain name) :
    (along rooted names).parts = (if rooted then [.root] else []) ++ names.map .name := by
  have absolute : (along rooted names).absolute = rooted := along_absolute filled plain
  cases rooted with
  | true =>
    have between : (along true names).between = [] :: names.map String.toList := between_along filled plain
    rw [parts_eq between, absolute, names_parts plain]
    rfl
  | false =>
    cases names with
    | nil => exact absurd rfl filled
    | cons name rest =>
      obtain ⟨first, others⟩ := List.forall_mem_cons.mp plain
      have between : (along false (name :: rest)).between = name.toList :: rest.map String.toList :=
        between_along filled plain
      rw [parts_eq between, absolute, names_parts others, partOf?_into first.step]
      rfl

theorem steps_along (filled : names ≠ []) (plain : ∀ name ∈ names, Plain name) :
    Disk.steps (along rooted names) = names.map .into := by
  rw [steps_eq, between_along filled plain, List.filterMap_append, names_steps plain]
  unfold closing
  rw [if_neg (along_unclosed filled plain), List.append_nil]
  cases rooted <;> rfl

end Path

namespace Disk

variable {d : Disk} {rooted : Bool} {before after : List String}

/-- A walk along names that arrives passes through folders. -/
theorem walk_names {l m : Location} (filled : before ≠ []) (further : after ≠ [])
    (arrived : d.walk l ((before ++ after).map .into) = .ok m) :
    d.walk l (before.map .into) = .ok (l ++ before) ∧ d.get? (l ++ before) = some .folder := by
  induction before generalizing l with
  | nil => exact absurd rfl filled
  | cons name rest ih =>
    rw [List.cons_append, List.map_cons, walk] at arrived
    rw [List.map_cons, walk]
    split at arrived
    next => cases arrived
    next fits =>
      rw [if_neg fits]
      have more : ((rest ++ after).map Step.into).isEmpty = false := by simp [further]
      rw [more] at arrived
      simp only [Bool.false_eq_true, if_false] at arrived
      split at arrived
      next => cases arrived
      next => cases arrived
      next folder =>
        by_cases last : rest = []
        · subst last
          exact ⟨rfl, folder⟩
        · obtain ⟨went, inner⟩ := ih last arrived
          have open_ : (rest.map Step.into).isEmpty = false := by simpa using last
          simp only [open_, Bool.false_eq_true, if_false, went]
          simpa using inner

theorem refusal?_front {p q : Path} {more : String} (text : p.text = q.text ++ more)
    (filled : q.isEmpty = false) (free : refusal? p = none) : refusal? q = none := by
  unfold refusal? at free ⊢
  rw [text, String.toList_append, List.any_append, String.utf8ByteSize_append] at free
  split at free
  next => cases free
  next clean =>
    simp only [Bool.or_eq_true, not_or] at clean
    rw [if_neg clean.1, filled]
    split at free
    next => cases free
    next =>
      split at free
      next => cases free
      next short =>
        simp only [Bool.false_eq_true, if_false]
        rw [if_neg (by omega)]

/-- The way to something leads through folders. -/
theorem exists_before (filled : before ≠ []) (plain : ∀ name ∈ before ++ after, Path.Plain name)
    (found : d.exists? (Path.along rooted (before ++ after)) = true) :
    d.exists? (Path.along rooted before) = true := by
  by_cases last : after = []
  · rwa [last, List.append_nil] at found
  · have outer : ∀ name ∈ before, Path.Plain name := fun name member => plain name (by simp [member])
    have all : before ++ after ≠ [] := by simp [filled]
    have start : d.start (Path.along rooted before) = d.start (Path.along rooted (before ++ after)) := by
      unfold Disk.start
      rw [Path.along_absolute filled outer, Path.along_absolute all plain]
    unfold exists? find? at found ⊢
    split at found
    next m located =>
      unfold locate at located ⊢
      split at located
      next => cases located
      next free =>
        rw [Path.steps_along all plain] at located
        obtain ⟨went, folder⟩ := walk_names filled last located
        have text := (Path.text_along rooted filled last).trans (String.append_assoc ..)
        rw [refusal?_front text (Path.along_some filled outer) free, start, Path.steps_along filled outer]
        simp only [went, folder]
        rfl
    next => cases found

end Disk

namespace Glob

variable {d : Disk} {rooted : Bool} {before after names : List String}

/-- A name that a pattern takes as it is. -/
structure Literal (name : String) : Prop where
  plain : Path.Plain name
  free : ∀ c ∈ name.toList, c ≠ '?' ∧ c ≠ '*' ∧ c ≠ '[' ∧ c ≠ ']'

theorem tokensFrom_literal {text : List Char} (free : ∀ c ∈ text, c ≠ '?' ∧ c ≠ '*' ∧ c ≠ '[')
    (front : Option Char) (position : Nat) :
    tokensFrom front position 0 text = .ok (text.map .char) := by
  induction text generalizing front position with
  | nil => rfl
  | cons c rest ih =>
    obtain ⟨⟨ask, star, opening⟩, others⟩ := List.forall_mem_cons.mp free
    rw [tokensFrom]
    · simp only [ask, star, if_false, ih others]
      rfl
    all_goals simp_all

theorem literal?_name (name : List Char) : literal? (name.map .char) = some (String.ofList name) := by
  have chars : (name.map Token.char).mapM Token.char? = some name := by
    induction name with
    | nil => rfl
    | cons c rest ih => simp [ih, Token.char?]
  rw [literal?, chars]
  rfl

/-- Where a pattern starts from, and where names lead on from there. -/
inductive Along (rooted : Bool) : List String → Path → Prop where
  | start : Along rooted [] (if rooted then ⟨"/"⟩ else ⟨"."⟩)
  | names {names : List String} (filled : names ≠ []) : Along rooted names (Path.along rooted names)

theorem childOf_along {p : Path} {name : String} (plain : ∀ other ∈ before ++ [name], Path.Plain other)
    (along : Along rooted before p) : childOf p name = Path.along rooted (before ++ [name]) := by
  have single : (Path.along false [name]).text = name :=
    String.toList_inj.mp (by rw [Path.toList_along]; simp)
  have joined := Path.along_div rooted plain (List.cons_ne_nil name [])
  rw [single] at joined
  unfold childOf
  cases along with
  | start =>
    cases rooted with
    | false =>
      have here : isHere ⟨"."⟩ = true := by decide +kernel
      simp only [Bool.false_eq_true, if_false, here, if_true]
      exact congrArg Path.mk single.symm
    | true =>
      have root : isHere ⟨"/"⟩ = false := by decide +kernel
      simp only [if_true, root, Bool.false_eq_true, if_false]
      exact joined
  | names filled =>
    have elsewhere : isHere (Path.along rooted before) = false := by
      have parts := Path.parts_along rooted filled fun other member => plain other (by simp [member])
      unfold isHere
      rw [parts]
      cases before with
      | nil => exact absurd rfl filled
      | cons first rest => cases rooted <;> rfl
    rw [elsewhere]
    exact joined

theorem fill_along {p : Path} (plain : ∀ name ∈ before ++ after, Path.Plain name) (filled : after ≠ [])
    (found : d.exists? (Path.along rooted (before ++ after)) = true) (along : Along rooted before p)
    {fuel : Nat} (enough : after.length ≤ fuel) :
    fill d false fuel p (after.map fun name => name.toList.map .char) =
      [Path.along rooted (before ++ after)] := by
  induction after generalizing before p fuel with
  | nil => exact absurd rfl filled
  | cons name rest ih =>
    obtain ⟨fuel, rfl⟩ : ∃ n, fuel = n + 1 := Nat.exists_eq_add_one.mpr (Nat.zero_lt_of_lt enough)
    have split : before ++ name :: rest = (before ++ [name]) ++ rest := by simp
    rw [split] at plain found ⊢
    have outer : ∀ other ∈ before ++ [name], Path.Plain other := fun other member =>
      plain other (List.mem_append_left rest member)
    have special : (name == "." || name == "..") = false := by
      have proper := (outer name (by simp)).step
      simp only [Bool.or_eq_false_iff, beq_eq_false_iff_ne]
      constructor <;> rintro rfl <;> simp [Path.stepOf?] at proper
    have there := Disk.exists_before (by simp) plain found
    rw [List.map_cons, fill]
    simp only [literal?_name, String.ofList_toList, special, childOf_along outer along, there,
      Bool.false_and, Bool.not_false, Bool.true_and, Bool.false_or, if_true]
    by_cases last : rest = []
    · subst last
      simp [accept]
    · have more : (rest.map fun name => name.toList.map Token.char).isEmpty = false := by simpa using last
      simp only [more, Bool.false_eq_true, if_false]
      exact ih plain last found (.names (by simp)) (by simpa using enough)

theorem mem_intercalate {sep c : Char} {pieces : List (List Char)} (member : c ∈ [sep].intercalate pieces) :
    c = sep ∨ ∃ piece ∈ pieces, c ∈ piece := by
  induction pieces with
  | nil => simp at member
  | cons first rest ih =>
    cases rest with
    | nil => exact .inr ⟨first, List.mem_cons_self, by simpa using member⟩
    | cons other rest =>
      rw [List.intercalate_cons_cons] at member
      simp only [List.mem_append, List.mem_singleton] at member
      obtain (here | between) | later := member
      · exact .inr ⟨first, List.mem_cons_self, here⟩
      · exact .inl between
      · obtain between | ⟨piece, among, held⟩ := ih later
        · exact .inl between
        · exact .inr ⟨piece, List.mem_cons_of_mem _ among, held⟩

theorem free_along (rooted : Bool) (literal : ∀ name ∈ names, Literal name) :
    ∀ c ∈ (Path.along rooted names).text.toList, c ≠ '?' ∧ c ≠ '*' ∧ c ≠ '[' ∧ c ≠ ']' := by
  intro c member
  rw [Path.toList_along, List.mem_append] at member
  obtain front | later := member
  · cases rooted <;> simp_all
  · obtain rfl | ⟨_, inside, held⟩ := mem_intercalate later
    · decide
    · obtain ⟨name, among, rfl⟩ := List.mem_map.mp inside
      exact (literal name among).free c held

theorem tokens_literal {text : List Char} (free : ∀ c ∈ text, c ≠ '?' ∧ c ≠ '*' ∧ c ≠ '[' ∧ c ≠ ']') :
    tokens text = .ok (text.map .char) :=
  tokensFrom_literal (fun c member => ⟨(free c member).1, (free c member).2.1, (free c member).2.2.1⟩) _ _

theorem partTexts_along (filled : names ≠ []) (plain : ∀ name ∈ names, Path.Plain name) :
    partTexts (Path.along false names).text.toList = names.map String.toList := by
  have between : (Path.along false names).between = names.map String.toList :=
    Path.between_along filled plain
  unfold partTexts
  show (if (Path.along false names).between.getLast? = some [] then _ else _) = _
  rw [if_neg]
  · exact between
  · rw [between, List.getLast?_map]
    intro last
    obtain ⟨name, member, empty⟩ := Option.map_eq_some_iff.mp last
    obtain ⟨c, rest, chars, -⟩ := (plain name (List.mem_of_getLast? member)).starts
    rw [chars] at empty
    cases empty

theorem mapM_tokens (literal : ∀ name ∈ names, Literal name) :
    (names.map String.toList).mapM tokens = .ok (names.map fun name => name.toList.map .char) := by
  induction names with
  | nil => rfl
  | cons name rest ih =>
    obtain ⟨first, others⟩ := List.forall_mem_cons.mp literal
    rw [List.map_cons, List.mapM_cons, tokens_literal first.free, ih others]
    rfl

theorem paths_eq {pattern : String} {chars : List Char} {parts : List (List Token)}
    (text : pattern.toList = (if rooted then ['/'] else []) ++ chars)
    (relative : rooted = false → chars.head? ≠ some '/')
    (whole : tokens pattern.toList = .ok (pattern.toList.map .char))
    (unclosed : pattern.toList.getLast? ≠ some '/') (read : (partTexts chars).mapM tokens = .ok parts) :
    paths d pattern = .ok (fill d false (4 * (parts.length + 1) * (d.entries.length + 2))
      (if rooted then ⟨"/"⟩ else ⟨"."⟩) parts) := by
  unfold paths
  simp only [whole, unclosed, decide_false]
  cases rooted with
  | true =>
    rw [text]
    show (do let parts ← (partTexts chars).mapM tokens; pure _) = _
    rw [read]
    rfl
  | false =>
    rw [text]
    simp only [Bool.false_eq_true, if_false, List.nil_append]
    split
    next => exact absurd rfl (relative rfl)
    next =>
      rw [read]
      rfl

/-- A pattern of nothing but names stands for the path that it is. -/
theorem paths_along (filled : names ≠ []) (literal : ∀ name ∈ names, Literal name)
    (found : d.exists? (Path.along rooted names) = true) :
    paths d (Path.along rooted names).text = .ok [Path.along rooted names] := by
  have plain : ∀ name ∈ names, Path.Plain name := fun name member => (literal name member).plain
  have whole := tokens_literal (free_along rooted literal)
  have unclosed : (Path.along rooted names).text.toList.getLast? ≠ some '/' := Path.along_unclosed filled plain
  have begins : Along rooted [] (if rooted then ⟨"/"⟩ else ⟨"."⟩) := .start
  have enough : names.length ≤ 4 * (names.length + 1) * (d.entries.length + 2) := by
    rw [Nat.mul_add]
    omega
  have all := @fill_along d rooted [] names _ plain filled found begins _ enough
  obtain ⟨c, rest, chars, slashless⟩ := Path.along_starts filled plain
  have relative : (Path.along false names).text.toList.head? ≠ some '/' := by
    simpa [chars] using slashless
  have read := mapM_tokens literal
  rw [← partTexts_along filled plain] at read
  have text : (Path.along rooted names).text.toList =
      (if rooted then ['/'] else []) ++ (Path.along false names).text.toList := by
    rw [Path.toList_along, Path.toList_along]
    rfl
  rw [paths_eq text (fun _ => relative) whole unclosed read, List.length_map, all]
  rfl

end Glob

namespace Edit

open WidgetRepair.Path WidgetRepair.Disk

variable {d : Disk} {folder : Path} {rooted : Bool} {names inner : List String}

theorem escape_literal {text : List Char} (free : ∀ c ∈ text, c ≠ '?' ∧ c ≠ '*' ∧ c ≠ '[' ∧ c ≠ ']') :
    Glob.escape (String.ofList text) = String.ofList text := by
  unfold Glob.escape
  rw [String.toList_ofList]
  congr 1
  induction text with
  | nil => rfl
  | cons c rest ih =>
    obtain ⟨⟨ask, star, opening, closing⟩, others⟩ := List.forall_mem_cons.mp free
    rw [List.flatMap_cons, ih others]
    simp [ask, star, opening, closing]

theorem withoutHere_along (filled : inner ≠ []) (plain : ∀ name ∈ inner, Plain name) :
    withoutHere (along false inner).text.toList = (along false inner).text.toList := by
  have between : (along false inner).between = inner.map String.toList := between_along filled plain
  unfold Path.between at between
  unfold withoutHere
  split
  next rest text =>
    exfalso
    have cut := Text.splitWhere_append (· == '/') (beq_self_eq_true '/') ['.'] rest
    rw [text] at between
    cases inner with
    | nil => exact filled rfl
    | cons name others =>
      have here : name.toList = ['.'] := (List.cons.inj (between.symm.trans cut)).1
      have step := (plain name List.mem_cons_self).step
      rw [here] at step
      cases step
  next => rfl

theorem matchingFiles_single {pattern : String} {file : Path}
    (found : Glob.paths d (Glob.escape (root d folder).text ++ "/" ++
      String.ofList (withoutHere pattern.toList)) = .ok [file])
    (counts : (d.isFile file && !file.parts.contains (.name "node_modules")) = true) :
    matchingFiles d folder pattern = .ok [file] := by
  have all : ∀ p ∈ [file], (d.isFile p && !p.parts.contains (.name "node_modules")) = true := by
    intro p member
    rwa [List.mem_singleton.mp member]
  unfold matchingFiles
  dsimp only
  rw [found]
  show Except.ok (List.mergeSort (List.filter _ _) pathAtMost) = _
  rw [List.filter_eq_self.mpr all, List.mergeSort_singleton]

/-- A pattern that names a file from where patterns start stands for that file alone. -/
theorem matchingFiles_along (some_name : names ≠ []) (filled : inner ≠ [])
    (literal : ∀ name ∈ names ++ inner, Glob.Literal name) (used : "node_modules" ∉ names ++ inner)
    (start : root d folder = along rooted names) (file : d.isFile (along rooted (names ++ inner)) = true) :
    matchingFiles d folder (along false inner).text = .ok [along rooted (names ++ inner)] := by
  have all : names ++ inner ≠ [] := by simp [some_name]
  have plain : ∀ name ∈ names ++ inner, Plain name := fun name member => (literal name member).plain
  have outer : ∀ name ∈ names, Glob.Literal name := fun name member => literal name (by simp [member])
  have found : d.exists? (along rooted (names ++ inner)) = true := by
    unfold isFile at file
    unfold exists?
    split at file
    next content here => simp [here]
    next => cases file
  have tail := withoutHere_along filled fun name member => plain name (by simp [member])
  have start_text : Glob.escape (along rooted names).text = (along rooted names).text := by
    rw [← String.ofList_toList (s := (along rooted names).text)]
    exact escape_literal (Glob.free_along rooted outer)
  have kept : (along rooted (names ++ inner)).parts.contains (.name "node_modules") = false := by
    rw [parts_along rooted all plain]
    cases rooted <;> simpa using used
  refine matchingFiles_single ?_ ?_
  · rw [start, start_text, tail, String.ofList_toList, ← text_along rooted some_name filled]
    exact Glob.paths_along all literal found
  · rw [file, kept]
    rfl

end Edit

end WidgetRepair
