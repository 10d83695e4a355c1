import WidgetRepair.Proofs.LiteralPaths
import WidgetRepair.Proofs.OpenWays

/-! Where the paths of a pattern lead. Each part of the pattern stands for steps of its own: one name that
it covers, or any number of folders. -/

namespace WidgetRepair

theorem Path.Plain.relative {name : String} (plain : Path.Plain name) :
    name.toList.head? ≠ some '/' := by
  obtain ⟨c, rest, chars, slashless⟩ := plain.starts
  simpa [chars] using slashless

namespace Disk

variable {d : Disk}

/-- No name on the disk is empty, a point or two, or has a slash in it. -/
def Named (d : Disk) : Prop := ∀ x ∈ d.entries, ∀ name ∈ x.1, Path.Plain name

theorem empty_named : Disk.empty.Named := nofun

theorem Named.put (named : d.Named) {l : Location} (plain : ∀ name ∈ l, Path.Plain name) (e : Entry) :
    (d.put l e).Named := by
  intro x member
  rcases eq_or_mem_of_mem_putEntry member with rfl | other
  · exact plain
  · exact named x other

theorem reach_way (d : Disk) (p : Path) : d.reach p = destination (d.start p) p.way := by
  rw [reach, Path.steps_way, destination_append, destination_stays _ p.closing_stays]

theorem reach_div {q : String} (relative : q.toList.head? ≠ some '/') (p : Path) :
    d.reach (p / q) = destination (d.reach p) (Path.way ⟨q⟩) := by
  have start : d.start (p / q) = d.start p := by
    unfold Disk.start
    rw [Path.absolute_div relative]
  rw [reach_way, reach_way, start, Path.way_div relative, destination_append]

end Disk

namespace Glob

open Disk

variable {d : Disk} {p : Path}

theorem here_piece {piece : List Char} (part : Path.partOf? true piece = some .here) : piece = ['.'] := by
  unfold Path.partOf? at part
  split at part
  next => cases part
  next => rfl
  next => cases part
  next => cases part

/-- Who is where the paths of a pattern start has not left yet. -/
theorem reach_here (here : isHere p = true) : d.reach p = d.origin := by
  have parts : p.parts = [.here] := by simpa [isHere] using here
  obtain ⟨piece, rest, between⟩ := p.between_some
  rw [Path.parts_eq between] at parts
  split at parts
  next => cases (List.cons.inj parts).1
  next relative =>
    have later : ∀ other ∈ rest, Path.partOf? false other ≠ some .here := fun other _ => by
      unfold Path.partOf?
      split <;> simp
    cases first : Path.partOf? true piece with
    | none =>
      rw [first, Option.toList_none, List.nil_append] at parts
      have member : PathPart.here ∈ rest.filterMap (Path.partOf? false) := parts ▸ List.mem_singleton_self _
      obtain ⟨other, inside, same⟩ := List.mem_filterMap.mp member
      exact absurd same (later other inside)
    | some part =>
      rw [first] at parts
      obtain ⟨rfl, none⟩ := List.cons.inj parts
      have idle : Path.Idle (piece :: rest) := by
        refine List.forall_mem_cons.mpr ⟨.inr (here_piece first), fun other inside => ?_⟩
        exact Path.partOf?_none (List.filterMap_eq_nil_iff.mp none other inside)
      rw [reach_way, Path.way, between, destination_stays _ (Path.idle_stays idle), Disk.start, if_neg relative]

theorem reach_childOf {name : String} (relative : name.toList.head? ≠ some '/') (p : Path) :
    d.reach (childOf p name) = destination (d.reach p) (Path.way ⟨name⟩) := by
  unfold childOf
  split
  next here =>
    have absolute : Path.absolute ⟨name⟩ = false := by simpa [Path.absolute] using relative
    rw [reach_here here, reach_way, Disk.start, absolute]
    rfl
  next => exact reach_div relative p

theorem way_name {name : List Char} (slashless : '/' ∉ name) :
    Path.way ⟨String.ofList name⟩ = (Path.stepOf? name).toList := by
  unfold Path.way Path.between
  have uncut : ∀ c ∈ name, (c == '/') = false := fun c member =>
    beq_false_of_ne fun slash => slashless (slash ▸ member)
  rw [String.toList_ofList, Text.splitWhere_uncut uncut]
  cases step : Path.stepOf? name <;> simp [step]

theorem way_plain {name : String} (plain : Path.Plain name) : Path.way ⟨name⟩ = [.into name] := by
  have slashless : '/' ∉ name.toList := fun member => by simpa using plain.slashless '/' member
  have way := way_name slashless
  rwa [String.ofList_toList, plain.step] at way

theorem fileName?_childOf {name : String} (plain : Path.Plain name) (p : Path) :
    (childOf p name).fileName? = some name := by
  have relative := plain.relative
  have last : (steps (childOf p name)).getLast? = some (.into name) := by
    unfold childOf
    split
    next =>
      have unclosed := plain.closing []
      rw [List.nil_append, String.ofList_toList] at unclosed
      rw [Path.steps_way, unclosed, way_plain plain]
      rfl
    next =>
      have unclosed : (p / name).closing = [] := by
        have behind (front : String) : (Path.mk (front ++ name)).closing = [] := by
          have unclosed := plain.closing front.toList
          rwa [← String.toList_append, String.ofList_toList] at unclosed
        show (Path.join p name).closing = []
        unfold Path.join
        rw [if_neg relative]
        split
        next => exact behind p.text
        next => exact behind (p.text ++ "/")
      rw [Path.steps_way, unclosed, Path.way_div relative, way_plain plain, List.append_nil, List.getLast?_concat]
  obtain ⟨size, measured⟩ := Path.last_name last
  unfold Path.fileName?
  rw [measured]

/-- The steps that a part of a pattern stands for: that of a name it covers, where two points have to be meant
by a point, or those of any number of folders. -/
inductive Follows : List Token → List Step → Prop where
  | name {part : List Token} {name : List Char} (covered : covers part name = true)
    (meant : name = ['.', '.'] → part.head? = some (.char '.')) : Follows part (Path.stepOf? name).toList
  | folders {part : List Token} (recursive : isRecursive part = true) (names : List String) :
    Follows part (names.map .into)

/-- What is found leads from a location on where the parts say. -/
def Leads (d : Disk) (l : Location) (parts : List (List Token)) (q : Path) : Prop :=
  ∃ ways, List.Forall₂ Follows parts ways ∧ d.reach q = destination l ways.flatten

/-- Parts that have no slash in them. -/
def Slashless (parts : List (List Token)) : Prop := ∀ part ∈ parts, .char '/' ∉ part

variable {l : Location} {part : List Token} {parts rest : List (List Token)} {q : Path}

theorem leads_end (q : Path) : Leads d (d.reach q) [] q := ⟨[], .nil, rfl⟩

theorem Leads.behind {steps : List Step} (follows : Follows part steps)
    (leads : Leads d (destination l steps) rest q) : Leads d l (part :: rest) q := by
  obtain ⟨ways, each, reached⟩ := leads
  exact ⟨steps :: ways, .cons follows each, by rw [reached, List.flatten_cons, destination_append]⟩

/-- Folders that no name is taken for. -/
theorem Leads.skip (recursive : isRecursive part = true) (leads : Leads d l rest q) :
    Leads d l (part :: rest) q :=
  .behind (.folders recursive []) leads

theorem Leads.skip_all (leads : Leads d l (rest.dropWhile isRecursive) q) : Leads d l rest q := by
  induction rest with
  | nil => exact leads
  | cons part rest ih =>
    rw [List.dropWhile_cons] at leads
    split at leads
    next recursive => exact .skip recursive (ih leads)
    next => exact leads

theorem Leads.kept (leads : Leads d l (part :: rest.dropWhile isRecursive) q) : Leads d l (part :: rest) q := by
  obtain ⟨ways, each, reached⟩ := leads
  cases each with
  | @cons _ steps _ ways follows others =>
    rw [List.flatten_cons, destination_append] at reached
    exact .behind follows (.skip_all ⟨ways, others, reached⟩)

theorem coversFrom_some {name : List Char} (covered : covers.coversFrom part name = true) :
    ∃ ending, covers part ending = true := by
  induction name with
  | nil =>
    rw [covers.coversFrom] at covered
    exact ⟨_, covered⟩
  | cons c name ih =>
    rw [covers.coversFrom, Bool.or_eq_true] at covered
    exact covered.elim (fun whole => ⟨_, whole⟩) ih

/-- A part for folders covers no name. -/
theorem single_of_covers {name : List Char} (covered : covers part name = true) : isRecursive part = false := by
  induction part generalizing name with
  | nil => rfl
  | cons token rest ih =>
    have rest_single : isRecursive rest = false := by
      cases token with
      | many =>
        rw [covers] at covered
        obtain ⟨ending, whole⟩ := coversFrom_some covered
        exact ih whole
      | char | any | folders | oneOf | noneOf =>
        cases name with
        | nil => simp [covers] at covered
        | cons c name =>
          simp only [covers, Bool.and_eq_true] at covered
          exact ih covered.2
    have other : token ≠ .folders := by
      rintro rfl
      cases name <;> simp [covers, Token.takes] at covered
    rw [isRecursive, List.contains_cons, Bool.or_eq_false_iff]
    exact ⟨beq_false_of_ne other.symm, rest_single⟩

theorem Leads.deeper {name : String} (recursive : isRecursive part = true)
    (leads : Leads d (l ++ [name]) (part :: rest) q) : Leads d l (part :: rest) q := by
  obtain ⟨ways, each, reached⟩ := leads
  cases each with
  | cons follows others =>
    cases follows with
    | name covered => exact absurd recursive (by simp [single_of_covers covered])
    | folders _ names => exact ⟨_, .cons (.folders recursive (name :: names)) others, reached⟩

theorem literal_part {name : String} (literal : literal? part = some name) : part = name.toList.map .char := by
  obtain ⟨chars, read, rfl⟩ := Option.map_eq_some_iff.mp literal
  rw [String.toList_ofList]
  clear literal
  induction part generalizing chars with
  | nil =>
    cases read
    rfl
  | cons token rest ih =>
    rw [List.mapM_cons] at read
    obtain ⟨c, first, read⟩ := Option.bind_eq_some_iff.mp read
    obtain ⟨others, later, same⟩ := Option.bind_eq_some_iff.mp read
    cases same
    cases token <;> cases first
    rw [List.map_cons, ← ih others later]

theorem covers_chars (name : List Char) : covers (name.map .char) name = true := by
  induction name with
  | nil => simp [covers]
  | cons c rest ih => simpa [covers, Token.takes] using ih

theorem plain_childNames (named : d.Named) {folder : Path} {name : String} (child : name ∈ childNames d folder) :
    Path.Plain name := by
  unfold childNames at child
  split at child
  next => cases child
  next l _ =>
    obtain ⟨x, inside, last⟩ := List.mem_filterMap.mp child
    dsimp only at last
    split at last
    next => exact named x (List.mem_filter.mp inside).1 name (List.mem_of_getLast? last)
    next => cases last

def FillLeads (d : Disk) (folderOnly : Bool) (fuel : Nat) : Prop :=
  ∀ {p parts q}, Slashless parts → q ∈ fill d folderOnly fuel p parts → Leads d (d.reach p) parts q

def VisitLeads (d : Disk) (folderOnly : Bool) (fuel : Nat) : Prop :=
  ∀ {p name parts q}, Path.Plain name → Slashless parts → q ∈ visit d folderOnly fuel (childOf p name) parts →
    Leads d (d.reach p) parts q

def HereLeads (d : Disk) (folderOnly : Bool) (fuel : Nat) : Prop :=
  ∀ {p name part rest q}, Path.Plain name → Slashless rest →
    q ∈ here d folderOnly fuel (childOf p name) part rest → Leads d (d.reach p) (part :: rest) q

variable {folderOnly : Bool} {fuel : Nat}

theorem leads_further (fills : FillLeads d folderOnly fuel) (slashless : Slashless rest)
    (found : q ∈ if rest.isEmpty then accept d folderOnly p else fill d folderOnly fuel p rest) :
    Leads d (d.reach p) rest q := by
  split at found
  next last =>
    rw [List.isEmpty_iff.mp last]
    unfold accept at found
    split at found
    next => cases found
    next => exact List.mem_singleton.mp found ▸ leads_end q
  next => exact fills slashless found

theorem here_step (fills : FillLeads d folderOnly fuel) : HereLeads d folderOnly (fuel + 1) := by
  intro p name part rest q plain slashless found
  rw [here, fileName?_childOf plain] at found
  dsimp only at found
  split at found
  next covered =>
    have leads := leads_further fills slashless found
    rw [reach_childOf plain.relative, way_plain plain] at leads
    have proper : name.toList ≠ ['.', '.'] := fun points => by
      have step := plain.step
      rw [points] at step
      cases step
    have follows := Follows.name covered fun points => absurd points proper
    rw [plain.step] at follows
    exact leads.behind follows
  next => cases found

theorem visit_step (fills : FillLeads d folderOnly fuel) (heres : HereLeads d folderOnly fuel) :
    VisitLeads d folderOnly (fuel + 1) := by
  intro p name parts q plain slashless found
  have reached : d.reach (childOf p name) = d.reach p ++ [name] := by
    rw [reach_childOf plain.relative, way_plain plain]
    rfl
  cases parts with
  | nil => simp [visit] at found
  | cons part rest =>
    obtain ⟨slash, others⟩ := List.forall_mem_cons.mp slashless
    rw [visit] at found
    split at found
    next recursive =>
      have further : Slashless (rest.dropWhile isRecursive) := fun part member =>
        others part ((List.dropWhile_suffix _).subset member)
      have deeper (inner : q ∈ if d.isFolder (childOf p name) then
          fill d folderOnly fuel (childOf p name) (part :: rest.dropWhile isRecursive) else []) :
          Leads d (d.reach p) (part :: rest) q := by
        split at inner
        next =>
          have leads := fills (List.forall_mem_cons.mpr ⟨slash, further⟩) inner
          rw [reached] at leads
          exact (leads.deeper recursive).kept
        next => cases inner
      dsimp only at found
      split at found
      next last =>
        split at found
        next folder =>
          rcases List.mem_cons.mp found with rfl | inner
          · have all : Leads d (d.reach p ++ [name]) rest (childOf p name) :=
              .skip_all (by rw [last, ← reached]; exact leads_end _)
            exact .behind (.folders recursive [name]) all
          · exact deeper (by rw [if_pos folder]; exact inner)
        next => cases found
      next second more ahead =>
        rcases List.mem_append.mp found with next | inner
        · have leads := heres plain (fun part member => further part (ahead ▸ List.mem_cons_of_mem _ member)) next
          rw [← ahead] at leads
          exact .skip recursive leads.skip_all
        · exact deeper inner
    next => exact heres plain others found

theorem fill_step (named : d.Named) (fills : FillLeads d folderOnly fuel) (visits : VisitLeads d folderOnly fuel) :
    FillLeads d folderOnly (fuel + 1) := by
  intro p parts q slashless found
  cases parts with
  | nil => simp [fill] at found
  | cons part rest =>
    obtain ⟨slash, others⟩ := List.forall_mem_cons.mp slashless
    rw [fill] at found
    dsimp only at found
    split at found
    next name literal =>
      have part_eq := literal_part literal
      have name_slashless : '/' ∉ name.toList := fun member =>
        slash (part_eq ▸ List.mem_map_of_mem member)
      have relative : name.toList.head? ≠ some '/' := fun head =>
        name_slashless (List.mem_of_head? head)
      split at found
      next =>
        have leads := leads_further fills others found
        rw [reach_childOf relative, ← String.ofList_toList (s := name), way_name name_slashless] at leads
        refine leads.behind (.name (part_eq ▸ covers_chars _) fun points => ?_)
        rw [part_eq, points]
        rfl
      next => cases found
    next =>
      split at found
      next =>
        rcases List.mem_append.mp found with special | child
        · obtain ⟨s, point, found⟩ := List.mem_flatMap.mp special
          rw [List.mem_reverse] at point
          split at point
          next pointed =>
            obtain ⟨among, covered⟩ := List.mem_filter.mp point
            have name_slashless : '/' ∉ s.toList := by
              simp only [List.mem_cons, List.not_mem_nil, or_false] at among
              rcases among with rfl | rfl <;> decide
            have leads := leads_further fills others found
            rw [reach_div fun head => name_slashless (List.mem_of_head? head), ← String.ofList_toList (s := s),
              way_name name_slashless] at leads
            exact leads.behind (.name covered fun _ => pointed)
          next => cases point
        · obtain ⟨name, inside, found⟩ := List.mem_flatMap.mp child
          exact visits (plain_childNames named inside) slashless found
      next => cases found

theorem fill_leads (named : d.Named) (folderOnly : Bool) (fuel : Nat) :
    FillLeads d folderOnly fuel ∧ VisitLeads d folderOnly fuel ∧ HereLeads d folderOnly fuel := by
  induction fuel with
  | zero =>
    refine ⟨?_, ?_, ?_⟩
    · intro _ _ _ _ found
      simp [fill] at found
    · intro _ _ _ _ _ _ found
      simp [visit] at found
    · intro _ _ _ _ _ _ _ found
      simp [here] at found
  | succ fuel ih =>
    obtain ⟨fills, visits, heres⟩ := ih
    exact ⟨fill_step named fills visits, visit_step fills heres, here_step fills⟩

end Glob

end WidgetRepair
