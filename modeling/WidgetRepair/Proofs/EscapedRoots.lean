import WidgetRepair.Proofs.GlobWays
import WidgetRepair.Proofs.TextParts

/-! Patterns behind the escaped text of a path. The escaped text stands for the path alone, so what is found
leads on from where the path leads, as the parts behind it say. -/

namespace WidgetRepair

namespace Glob

open Disk

variable {d : Disk} {l : Location} {rest : List (List Token)} {q : Path}

theorem set?_no_char {text : List Char} {token : Token} {size : Nat} (found : set? text = some (token, size))
    (c : Char) : token ≠ .char c := by
  unfold set? at found
  split at found
  all_goals
    obtain ⟨_, _, same⟩ := Option.map_eq_some_iff.mp found
    cases same
    simp

/-- The text of a part has no slash, so nothing in the part asks for one. -/
theorem tokens_slashless {text : List Char} (slashless : '/' ∉ text) {before : Option Char} {position skip : Nat}
    {part : List Token} (read : tokensFrom before position skip text = .ok part) : .char '/' ∉ part := by
  induction text generalizing before position skip part with
  | nil =>
    unfold tokensFrom at read
    cases read
    exact List.not_mem_nil
  | cons c rest ih =>
    rw [List.mem_cons, not_or] at slashless
    have later := @ih slashless.2
    have more {token : Token} {before : Option Char} {position skip : Nat} (other : token ≠ .char '/')
        (read : (tokensFrom before position skip rest).map (token :: ·) = .ok part) : .char '/' ∉ part := by
      cases tail : tokensFrom before position skip rest with
      | error f =>
        rw [tail] at read
        cases read
      | ok tokens =>
        rw [tail] at read
        cases read
        rw [List.mem_cons, not_or]
        exact ⟨other.symm, later tail⟩
    unfold tokensFrom at read
    split at read
    next same => cases same
    next same =>
      cases same
      exact later read
    next => cases read
    next same =>
      cases same
      split at read
      next =>
        split at read
        next =>
          cases read
          simp
        next slash => simp at slashless
        next => cases read
      next => cases read
    next same =>
      cases same
      split at read
      next token size found => exact more (set?_no_char found '/') read
      next => cases read
    next same =>
      cases same
      refine more ?_ read
      split
      · simp
      · split
        · simp
        · simpa [eq_comm] using slashless.1

/-- The token that stands for one character and nothing else. -/
def exactly (c : Char) : Token :=
  if c == '?' || c == '*' || c == '[' || c == ']' then .oneOf [⟨c, c⟩] else .char c

/-- One character as it is escaped. -/
def escapeOne (c : Char) : List Char :=
  if c == '?' || c == '*' || c == '[' || c == ']' then ['[', c, ']'] else [c]

theorem takes_exactly {c e : Char} : (exactly c).takes e = true ↔ e = c := by
  unfold exactly
  split
  · simp only [Token.takes, inRanges, List.any_cons, List.any_nil, Bool.or_false, Bool.and_eq_true,
      decide_eq_true_eq]
    exact ⟨fun both => Char.le_antisymm both.2 both.1, fun same => same ▸ ⟨Char.le_refl _, Char.le_refl _⟩⟩
  · simp [Token.takes]

theorem covers_exactly {piece name : List Char} (covered : covers (piece.map exactly) name = true) :
    name = piece := by
  induction piece generalizing name with
  | nil => simpa [covers] using covered
  | cons c rest ih =>
    have single : exactly c ≠ .many := by
      unfold exactly
      split <;> simp
    rw [List.map_cons] at covered
    cases name with
    | nil =>
      unfold covers at covered
      split at covered <;> simp_all
    | cons e name =>
      have both : ((exactly c).takes e && covers (rest.map exactly) name) = true := by
        generalize exactly c = token at covered single
        cases token with
        | many => exact absurd rfl single
        | char | any | folders | oneOf | noneOf => simpa only [covers] using covered
      rw [Bool.and_eq_true] at both
      rw [takes_exactly.mp both.1, ih both.2]

theorem tokensFrom_escaped (piece : List Char) (before : Option Char) (position : Nat) :
    tokensFrom before position 0 (piece.flatMap escapeOne) = .ok (piece.map exactly) := by
  induction piece generalizing before position with
  | nil => rfl
  | cons c rest ih =>
    rw [List.flatMap_cons, List.map_cons]
    by_cases special : (c == '?' || c == '*' || c == '[' || c == ']') = true
    · have set : set? (c :: ']' :: rest.flatMap escapeOne) = some (.oneOf [⟨c, c⟩], 2) := by
        simp only [Bool.or_eq_true, beq_iff_eq] at special
        rcases special with ((rfl | rfl) | rfl) | rfl <;> simp [set?, setContent?, ranges]
      rw [escapeOne, exactly, if_pos special, if_pos special]
      show tokensFrom before position 0 ('[' :: c :: ']' :: rest.flatMap escapeOne) = _
      rw [tokensFrom, set]
      dsimp only
      rw [tokensFrom, tokensFrom, ih]
      rfl
    · rw [escapeOne, exactly, if_neg special, if_neg special]
      simp only [Bool.or_eq_true, beq_iff_eq, not_or] at special
      obtain ⟨⟨⟨ask, star⟩, opening⟩, closing⟩ := special
      show tokensFrom before position 0 (c :: rest.flatMap escapeOne) = _
      rw [tokensFrom]
      · simp only [ask, star, if_false, ih]
        rfl
      all_goals simp_all

theorem splitOnP_front {front : List Char} (slashless : '/' ∉ front) (tail : List Char) :
    (front ++ tail).splitOnP (· == '/') = (tail.splitOnP (· == '/')).modifyHead (front ++ ·) := by
  induction front with
  | nil =>
    rw [List.nil_append]
    cases tail.splitOnP (· == '/') <;> rfl
  | cons c rest ih =>
    rw [List.mem_cons, not_or] at slashless
    have other : (c == '/') = false := beq_false_of_ne (Ne.symm slashless.1)
    rw [List.cons_append, List.splitOnP_cons_eq_if_modifyHead, other, ih slashless.2]
    cases tail.splitOnP (· == '/') <;> rfl

theorem splitWhere_escaped (text : List Char) : Text.splitWhere (· == '/') (text.flatMap escapeOne) =
    (Text.splitWhere (· == '/') text).map (·.flatMap escapeOne) := by
  rw [Text.splitWhere_eq, Text.splitWhere_eq]
  induction text with
  | nil => rfl
  | cons c rest ih =>
    rw [List.flatMap_cons, List.splitOnP_cons_eq_if_modifyHead]
    by_cases slash : c = '/'
    · subst slash
      show ('/' :: rest.flatMap escapeOne).splitOnP (· == '/') = _
      rw [List.splitOnP_cons_eq_if_modifyHead, ih]
      rfl
    · have slashless : '/' ∉ escapeOne c := by
        unfold escapeOne
        split <;> simp [Ne.symm slash]
      rw [splitOnP_front slashless, ih, if_neg (by simpa using slash)]
      cases rest.splitOnP (· == '/') with
      | nil => rfl
      | cons first others => simp

theorem Leads.exactly {piece : List Char} (leads : Leads d l (piece.map exactly :: rest) q) :
    Leads d (destination l (Path.stepOf? piece).toList) rest q := by
  obtain ⟨ways, each, reached⟩ := leads
  cases each with
  | @cons _ steps _ ways follows others =>
    rw [List.flatten_cons, destination_append] at reached
    cases follows with
    | name covered => exact covers_exactly covered ▸ ⟨ways, others, reached⟩
    | folders recursive =>
      obtain ⟨c, _, same⟩ := List.mem_map.mp (List.contains_iff_mem.mp recursive)
      unfold Glob.exactly at same
      split at same <;> cases same

/-- Escaped pieces lead where the pieces do. -/
theorem Leads.pieces {pieces : List (List Char)} (leads : Leads d l (pieces.map (·.map Glob.exactly) ++ rest) q) :
    Leads d (destination l (pieces.filterMap Path.stepOf?)) rest q := by
  induction pieces generalizing l with
  | nil => exact leads
  | cons piece others ih =>
    have later := ih leads.exactly
    rw [← destination_append] at later
    have steps : (piece :: others).filterMap Path.stepOf? =
        (Path.stepOf? piece).toList ++ others.filterMap Path.stepOf? := by
      cases step : Path.stepOf? piece <;> simp [step]
    rwa [steps]

theorem partTexts_append (front tail : List Char) :
    partTexts (front ++ '/' :: tail) = Text.splitWhere (· == '/') front ++ partTexts tail := by
  have filled : Text.splitWhere (· == '/') tail ≠ [] := by
    rw [Text.splitWhere_eq]
    exact List.splitOnP_ne_nil _ _
  unfold partTexts
  dsimp only
  rw [Path.between_cut, List.getLast?_append, List.getLast?_eq_some_getLast filled, Option.some_or,
    List.dropLast_append_of_ne_nil filled]
  split <;> rfl

theorem mapM_append {front back : List (List Char)} {parts : List (List Token)}
    (read : (front ++ back).mapM tokens = .ok parts) :
    ∃ first second, parts = first ++ second ∧ front.mapM tokens = .ok first ∧ back.mapM tokens = .ok second := by
  rw [List.mapM_append] at read
  obtain ⟨first, one, read⟩ := bind_ok read
  obtain ⟨second, two, read⟩ := bind_ok read
  cases read
  exact ⟨first, second, rfl, one, two⟩

theorem mapM_escaped (pieces : List (List Char)) :
    (pieces.map (·.flatMap escapeOne)).mapM tokens = .ok (pieces.map (·.map Glob.exactly)) := by
  induction pieces with
  | nil => rfl
  | cons piece rest ih =>
    rw [List.map_cons, List.mapM_cons, tokens, tokensFrom_escaped, ih]
    rfl

theorem mapM_slashless {texts : List (List Char)} (slashless : ∀ text ∈ texts, '/' ∉ text)
    {parts : List (List Token)} (read : texts.mapM tokens = .ok parts) : Slashless parts := by
  intro part member
  obtain ⟨text, inside, one⟩ := mem_of_mapM read part member
  exact tokens_slashless (slashless text inside) one

theorem partTexts_slashless (pattern : List Char) : ∀ text ∈ partTexts pattern, '/' ∉ text := by
  intro text member slash
  have among : text ∈ Text.splitWhere (· == '/') pattern := by
    unfold partTexts at member
    dsimp only at member
    split at member
    next => exact List.dropLast_subset _ member
    next => exact member
  simpa using (Text.mem_splitWhere among).2 '/' slash

/-- The parts behind an escaped text go on where the text leads. -/
theorem fill_behind (named : d.Named) {front tail : List Char} {start : Path} {parts : List (List Token)}
    {folderOnly : Bool} {fuel : Nat}
    (read : (partTexts (front.flatMap escapeOne ++ '/' :: tail)).mapM tokens = .ok parts)
    (member : q ∈ fill d folderOnly fuel start parts) :
    ∃ rest, (partTexts tail).mapM tokens = .ok rest ∧
      Leads d (destination (d.reach start) ((Text.splitWhere (· == '/') front).filterMap Path.stepOf?)) rest q := by
  have leads := (fill_leads named folderOnly fuel).1 (mapM_slashless (partTexts_slashless _) read) member
  rw [partTexts_append, splitWhere_escaped] at read
  obtain ⟨first, rest, rfl, escaped, further⟩ := mapM_append read
  cases escaped.symm.trans (mapM_escaped _)
  exact ⟨rest, further, leads.pieces⟩

/-- Where a pattern starts from, and its text from there. -/
def startOf (chars : List Char) : Path × List Char :=
  match chars with
  | '/' :: rest => (⟨"/"⟩, rest)
  | rest => (⟨"."⟩, rest)

theorem startOf_escaped {c : Char} (relative : c ≠ '/') {rest : List Char} (tail : List Char) :
    startOf ((c :: rest).flatMap escapeOne ++ tail) = (⟨"."⟩, (c :: rest).flatMap escapeOne ++ tail) := by
  rw [List.flatMap_cons]
  unfold escapeOne
  split
  · rfl
  · unfold startOf
    split
    next same => exact absurd (List.cons.inj same).1 relative
    next => rfl

theorem reach_root (d : Disk) : d.reach ⟨"/"⟩ = [] := by
  have absolute : Path.absolute ⟨"/"⟩ = true := by decide +kernel
  have way : Path.way ⟨"/"⟩ = [] := by decide +kernel
  rw [reach_way, Disk.start, absolute, way]
  rfl

theorem paths_ok {pattern : String} {found : List Path} (matched : paths d pattern = .ok found) :
    ∃ parts folderOnly fuel, (partTexts (startOf pattern.toList).2).mapM tokens = .ok parts ∧
      found = fill d folderOnly fuel (startOf pattern.toList).1 parts := by
  have whole : paths d pattern = (do
      let _ ← tokens pattern.toList
      let parts ← (partTexts (startOf pattern.toList).2).mapM tokens
      return fill d (pattern.toList.getLast? = some '/') (4 * (parts.length + 1) * (d.entries.length + 2))
        (startOf pattern.toList).1 parts) := rfl
  rw [whole] at matched
  obtain ⟨_, _, matched⟩ := bind_ok matched
  obtain ⟨parts, read, matched⟩ := bind_ok matched
  cases matched
  exact ⟨parts, _, _, read, rfl⟩

/-- What a pattern behind an escaped path stands for is found by the pattern from there. -/
theorem paths_leads (named : d.Named) {root : Path} (some_text : root.isEmpty = false) {tail : String}
    {found : List Path} (matched : paths d (escape root.text ++ "/" ++ tail) = .ok found) (member : q ∈ found) :
    ∃ parts, (partTexts tail.toList).mapM tokens = .ok parts ∧ Leads d (d.reach root) parts q := by
  obtain ⟨parts, folderOnly, fuel, read, rfl⟩ := paths_ok matched
  have chars : (escape root.text ++ "/" ++ tail).toList =
      root.text.toList.flatMap escapeOne ++ '/' :: tail.toList := by
    simp only [String.toList_append, escape, String.toList_ofList, List.append_assoc]
    rfl
  rw [chars] at read member
  rw [reach_way, Path.way, Path.between, Disk.start, Path.absolute]
  cases text : root.text.toList with
  | nil => simp [Path.isEmpty, String.toList_eq_nil_iff.mp text] at some_text
  | cons c rest =>
    rw [text] at read member
    by_cases slash : c = '/'
    · subst slash
      have kept : startOf (('/' :: rest).flatMap escapeOne ++ '/' :: tail.toList) =
          (⟨"/"⟩, rest.flatMap escapeOne ++ '/' :: tail.toList) := rfl
      rw [kept] at read member
      have leads := fill_behind named read member
      rw [reach_root] at leads
      have cut : Text.splitWhere (· == '/') ('/' :: rest) = [] :: Text.splitWhere (· == '/') rest :=
        Path.between_cut [] rest
      rw [cut]
      exact leads
    · have kept : startOf ((c :: rest).flatMap escapeOne ++ '/' :: tail.toList) =
          (⟨"."⟩, (c :: rest).flatMap escapeOne ++ '/' :: tail.toList) := startOf_escaped slash _
      rw [kept] at read member
      have leads := fill_behind named read member
      rw [reach_here (show isHere ⟨"."⟩ = true by decide +kernel)] at leads
      simpa [slash] using leads

end Glob

end WidgetRepair
