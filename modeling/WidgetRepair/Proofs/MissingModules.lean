import WidgetRepair.Proofs.TextParts
import WidgetRepair.Repair.Rules

/-! The package that is installed for a module that is missing. It is read off the first report of a missing module:
the name of the module up to a slash, which is the name of a package unless its scope, or what follows the scope,
is empty. -/

namespace WidgetRepair

namespace RuleRepair

variable {text module package : List Char}

/-- A text that begins by reporting a module, which stands between quotes and is not empty. -/
inductive Reports (module : List Char) : List Char → Prop where
  | quoted {opening closing : Char} (opens : isQuote opening = true) (filled : module ≠ [])
    (unquoted : ∀ c ∈ module, isQuote c = false) (closes : isQuote closing = true) (rest : List Char) :
    Reports module ("Cannot find module ".toList ++ opening :: (module ++ closing :: rest))

/-- A text in which the first report is that of a module. -/
inductive FirstReported (module : List Char) : List Char → Prop where
  | here {text : List Char} (reports : Reports module text) : FirstReported module text
  | later {c : Char} {text : List Char} (silent : ∀ other, ¬ Reports other (c :: text))
    (first : FirstReported module text) : FirstReported module (c :: text)

theorem quoted?_eq_some_iff : quoted? text = some module ↔ ∃ opening closing rest, isQuote opening = true ∧
    module ≠ [] ∧ (∀ c ∈ module, isQuote c = false) ∧ isQuote closing = true ∧
    text = opening :: (module ++ closing :: rest) := by
  constructor
  · intro found
    cases text with
    | nil => cases found
    | cons opening text =>
      simp only [quoted?, Bool.and_eq_true, Bool.not_eq_true', List.isEmpty_eq_false_iff] at found
      split at found
      next whole =>
        obtain ⟨⟨opens, filled⟩, closed⟩ := whole
        cases found
        obtain ⟨closing, rest, behind⟩ := List.exists_cons_of_ne_nil closed
        refine ⟨opening, closing, rest, opens, filled, ?_, ?_, ?_⟩
        · intro c member
          simpa using List.all_eq_true.mp List.all_takeWhile c member
        · have first := List.head_dropWhile_not (!isQuote ·) (l := text) (by simp [behind])
          simpa [behind] using first
        · rw [← behind, List.takeWhile_append_dropWhile]
      next => cases found
  · rintro ⟨opening, closing, rest, opens, filled, unquoted, closes, rfl⟩
    have inner : (module ++ closing :: rest).takeWhile (!isQuote ·) = module := by
      rw [List.takeWhile_append_of_pos (by simpa using unquoted)]
      simp [closes]
    have behind : (module ++ closing :: rest).dropWhile (!isQuote ·) = closing :: rest := by
      rw [List.dropWhile_append_of_pos (by simpa using unquoted)]
      simp [closes]
    simp [quoted?, inner, behind, opens, filled]

theorem missingModuleAt?_eq_some_iff : missingModuleAt? text = some module ↔ Reports module text := by
  rw [missingModuleAt?, Option.bind_eq_some_iff]
  constructor
  · rintro ⟨rest, found, inside⟩
    obtain ⟨opening, closing, more, opens, filled, unquoted, closes, rfl⟩ := quoted?_eq_some_iff.mp inside
    rw [Text.after?_eq_some_iff.mp found]
    exact .quoted opens filled unquoted closes more
  · rintro ⟨opens, filled, unquoted, closes, rest⟩
    exact ⟨_, Text.after?_eq_some_iff.mpr rfl,
      quoted?_eq_some_iff.mpr ⟨_, _, rest, opens, filled, unquoted, closes, rfl⟩⟩

theorem missingModule?_eq_some_iff : missingModule? text = some module ↔ FirstReported module text := by
  induction text with
  | nil =>
    refine iff_of_false nofun fun first => ?_
    cases first with
    | here reports => cases missingModuleAt?_eq_some_iff.mpr reports
  | cons c rest ih =>
    rw [missingModule?, Option.or_eq_some_iff]
    constructor
    · rintro (here | ⟨silent, later⟩)
      · exact .here (missingModuleAt?_eq_some_iff.mp here)
      · refine .later (fun other reports => ?_) (ih.mp later)
        rw [missingModuleAt?_eq_some_iff.mpr reports] at silent
        cases silent
    · intro first
      cases first with
      | here reports => exact .inl (missingModuleAt?_eq_some_iff.mpr reports)
      | later silent first =>
        refine .inr ⟨?_, ih.mpr first⟩
        exact Option.eq_none_iff_forall_ne_some.mpr fun other found =>
          silent other (missingModuleAt?_eq_some_iff.mp found)

theorem FirstReported.filled (first : FirstReported module text) : module ≠ [] := by
  induction first with
  | here reports =>
    cases reports with
    | quoted _ filled => exact filled
  | later _ _ ih => exact ih

/-- A module's name from the front of a text to its end or to a slash. -/
def CutFrom (package module : List Char) : Prop := module = package ∨ ∃ rest, module = package ++ '/' :: rest

/-- The package that a module belongs to by its name: a name without slash, or a scope and such a name. -/
inductive Belongs (module : List Char) : List Char → Prop where
  | plain {name : List Char} (slashless : '/' ∉ name) (untagged : name.head? ≠ some '@') (cut : CutFrom name module) :
    Belongs module name
  | inScope {scope name : List Char} (slashless : '/' ∉ scope ∧ '/' ∉ name)
    (cut : CutFrom ('@' :: scope ++ '/' :: name) module) : Belongs module ('@' :: scope ++ '/' :: name)

theorem uncut_iff {piece : List Char} : (∀ c ∈ piece, (c == '/') = false) ↔ '/' ∉ piece := by
  simp only [beq_eq_false_iff_ne]
  exact ⟨fun uncut slash => uncut '/' slash rfl, fun slashless c member same => slashless (same ▸ member)⟩

theorem splitWhere_of_cut {name : List Char} (slashless : '/' ∉ name) (cut : CutFrom name module) :
    ∃ others, Text.splitWhere (· == '/') module = name :: others := by
  have alone : Text.splitWhere (· == '/') name = [name] := Text.splitWhere_uncut (uncut_iff.mpr slashless)
  obtain rfl | ⟨rest, rfl⟩ := cut
  · exact ⟨[], alone⟩
  · rw [Text.splitWhere_append (· == '/') rfl, alone]
    exact ⟨_, rfl⟩

theorem cut_of_splitWhere {name : List Char} {others : List (List Char)}
    (split : Text.splitWhere (· == '/') module = name :: others) : '/' ∉ name ∧ CutFrom name module := by
  obtain ⟨uncut, ⟨-, rfl⟩ | ⟨c, rest, cuts, rfl, -⟩⟩ := Text.splitWhere_cons split
  · exact ⟨uncut_iff.mp uncut, .inl rfl⟩
  · obtain rfl := eq_of_beq cuts
    exact ⟨uncut_iff.mp uncut, .inr ⟨rest, rfl⟩⟩

theorem cutFrom_behind {scope name : List Char} :
    CutFrom (scope ++ '/' :: name) module ↔ ∃ rest, module = scope ++ '/' :: rest ∧ CutFrom name rest := by
  constructor
  · rintro (rfl | ⟨more, rfl⟩)
    · exact ⟨name, rfl, .inl rfl⟩
    · exact ⟨name ++ '/' :: more, by simp, .inr ⟨more, rfl⟩⟩
  · rintro ⟨_, rfl, rfl | ⟨more, rfl⟩⟩
    · exact .inl rfl
    · exact .inr ⟨more, by simp⟩

/-- The first two pieces of a name are where it may be cut at its second slash. -/
theorem cut_of_pieces {scope name : List Char} {others : List (List Char)}
    (split : Text.splitWhere (· == '/') module = scope :: name :: others) :
    '/' ∉ scope ∧ '/' ∉ name ∧ CutFrom (scope ++ '/' :: name) module := by
  obtain ⟨uncut, ⟨none, -⟩ | ⟨c, rest, cuts, rfl, behind⟩⟩ := Text.splitWhere_cons split
  · cases none
  · obtain rfl := eq_of_beq cuts
    obtain ⟨slashless, cut⟩ := cut_of_splitWhere behind
    exact ⟨uncut_iff.mp uncut, slashless, cutFrom_behind.mpr ⟨rest, rfl, cut⟩⟩

theorem pieces_of_cut {scope name : List Char} (slashless : '/' ∉ scope ∧ '/' ∉ name)
    (cut : CutFrom (scope ++ '/' :: name) module) :
    ∃ others, Text.splitWhere (· == '/') module = scope :: name :: others := by
  obtain ⟨rest, rfl, inner⟩ := cutFrom_behind.mp cut
  obtain ⟨others, split⟩ := splitWhere_of_cut slashless.2 inner
  have alone : Text.splitWhere (· == '/') scope = [scope] := Text.splitWhere_uncut (uncut_iff.mpr slashless.1)
  rw [Text.splitWhere_append (· == '/') (beq_self_eq_true '/'), alone, split]
  exact ⟨others, rfl⟩

theorem packageOf?_eq_some_iff : packageOf? module = some package ↔
    module.head? ≠ some '.' ∧ module.head? ≠ some '/' ∧ Belongs module package := by
  rw [packageOf?]
  split
  next path =>
    rw [Bool.or_eq_true, decide_eq_true_eq, decide_eq_true_eq] at path
    exact iff_of_false nofun fun ⟨pointless, rootless, _⟩ => path.elim pointless rootless
  next named =>
    rw [Bool.or_eq_true, decide_eq_true_eq, decide_eq_true_eq, not_or] at named
    simp only [ne_eq, named, not_false_eq_true, true_and]
    constructor
    · intro found
      split at found
      next => cases found
      next first others split =>
        split at found
        next tagged =>
          obtain ⟨second, head, rfl⟩ := Option.map_eq_some_iff.mp found
          obtain ⟨scope, rfl⟩ : ∃ scope, first = '@' :: scope := List.head?_eq_some_iff.mp tagged
          obtain ⟨more, rfl⟩ := List.head?_eq_some_iff.mp head
          obtain ⟨outer, slashless, cut⟩ := cut_of_pieces split
          exact .inScope ⟨fun member => outer (List.mem_cons_of_mem '@' member), slashless⟩ cut
        next untagged =>
          cases found
          obtain ⟨slashless, cut⟩ := cut_of_splitWhere split
          exact .plain slashless untagged cut
    · intro belongs
      cases belongs with
      | plain slashless untagged cut =>
        obtain ⟨others, split⟩ := splitWhere_of_cut slashless cut
        simp [split, untagged]
      | inScope slashless cut =>
        obtain ⟨others, split⟩ := pieces_of_cut ⟨by simpa using slashless.1, slashless.2⟩ cut
        rw [split]
        rfl

/-- The name of a package: a name, or a scope and a name, of which none is empty. -/
inductive PackageName : List Char → Prop where
  | plain {name : List Char} (filled : name ≠ []) (slashless : '/' ∉ name)
    (start : name.head? ≠ some '.' ∧ name.head? ≠ some '@') : PackageName name
  | inScope {scope name : List Char} (filled : scope ≠ [] ∧ name ≠ []) (slashless : '/' ∉ scope ∧ '/' ∉ name) :
    PackageName ('@' :: scope ++ '/' :: name)

/-- A name of which the scope, or what follows the scope, is empty. -/
def Hollow (package : List Char) : Prop := ['@', '/'] <+: package ∨ package.getLast? = some '/'

instance (package : List Char) : Decidable (Hollow package) := inferInstanceAs (Decidable (_ ∨ _))

theorem PackageName.not_hollow (named : PackageName package) : ¬ Hollow package := by
  have last {name : List Char} (slashless : '/' ∉ name) : name.getLast? ≠ some '/' :=
    fun slash => slashless (List.mem_of_getLast? slash)
  cases named with
  | plain filled slashless start =>
    rintro (⟨rest, rfl⟩ | slash)
    · exact start.2 rfl
    · exact last slashless slash
  | inScope filled slashless =>
    obtain ⟨c, scope, rfl⟩ := List.exists_cons_of_ne_nil filled.1
    obtain ⟨d, name, rfl⟩ := List.exists_cons_of_ne_nil filled.2
    rintro (front | slash)
    · obtain ⟨-, inner⟩ := List.cons_prefix_cons.mp front
      exact slashless.1 ((List.cons_prefix_cons.mp inner).1 ▸ List.mem_cons_self)
    · rw [List.getLast?_append, List.getLast?_cons_cons] at slash
      exact last slashless.2 (by simpa using slash)

theorem packageName_of_belongs (filled : module ≠ []) (pointless : module.head? ≠ some '.')
    (rootless : module.head? ≠ some '/') (belongs : Belongs module package) (solid : ¬ Hollow package) :
    PackageName package := by
  cases belongs with
  | plain slashless untagged cut =>
    cases package with
    | nil =>
      obtain rfl | ⟨rest, rfl⟩ := cut
      · exact absurd rfl filled
      · exact absurd rfl rootless
    | cons c name =>
      have start : (c :: name).head? ≠ some '.' := by
        obtain rfl | ⟨rest, rfl⟩ := cut <;> exact pointless
      exact .plain (List.cons_ne_nil c name) slashless ⟨start, untagged⟩
  | @inScope scope name slashless cut =>
    refine .inScope ⟨?_, ?_⟩ slashless
    · rintro rfl
      exact solid (.inl ⟨name, rfl⟩)
    · rintro rfl
      exact solid (.inr List.getLast?_concat)

theorem missingPackage?_eq_some_iff {diagnostic package : String} : missingPackage? diagnostic = some package ↔
    ∃ module, FirstReported module diagnostic.toList ∧ module.head? ≠ some '.' ∧ module.head? ≠ some '/' ∧
      Belongs module package.toList := by
  unfold missingPackage?
  constructor
  · intro asked
    obtain ⟨name, found, rfl⟩ := Option.map_eq_some_iff.mp asked
    obtain ⟨module, first, named⟩ := Option.bind_eq_some_iff.mp found
    rw [String.toList_ofList]
    exact ⟨module, missingModule?_eq_some_iff.mp first, packageOf?_eq_some_iff.mp named⟩
  · rintro ⟨module, first, named⟩
    rw [missingModule?_eq_some_iff.mpr first, Option.bind_some, packageOf?_eq_some_iff.mpr named, Option.map_some,
      String.ofList_toList]

theorem Belongs.cut (belongs : Belongs module package) : CutFrom package module := by
  cases belongs with
  | plain _ _ cut => exact cut
  | inScope _ cut => exact cut

section Installing

variable {τ : Type} {stamps : Stamps} {config : RunConfig} {f : Failure}

theorem missingPackage?_of_rule {package : String} (ruled : rule? f.diagnostic = some (.installPackage package)) :
    missingPackage? f.diagnostic = some package := by
  unfold rule? at ruled
  cases asked : missingPackage? f.diagnostic with
  | some other =>
    rw [asked] at ruled
    cases ruled
    rfl
  | none =>
    rw [asked] at ruled
    dsimp only at ruled
    repeat' split at ruled
    all_goals cases ruled

/-- A runner is asked to install nothing but the package that the diagnostic asks for. -/
theorem attempt_eq_of_install {runner other : Runner τ}
    (same : ∀ package, missingPackage? f.diagnostic = some package →
      runner.install f.folder [package] false config = other.install f.folder [package] false config) :
    (strategy stamps (some runner) config).attempt f = (strategy stamps (some other) config).attempt f := by
  unfold strategy
  dsimp only
  cases ruled : rule? f.diagnostic with
  | none => rfl
  | some rule =>
    cases rule with
    | installPackage package => simp only [follow, install, same package (missingPackage?_of_rule ruled)]
    | importReact | standardScripts | manualReview => rfl

/-- The package that a diagnostic asks for is the front of the first module that it reports as missing, to the end of
that or to a slash. It is the name of a package, unless its scope or what follows its scope is empty. A runner is asked
to install nothing else. -/
theorem asked_package_named (f : Failure) :
    (∀ package, missingPackage? f.diagnostic = some package → ∃ module, FirstReported module f.diagnostic.toList ∧
      CutFrom package.toList module ∧ (PackageName package.toList ↔ ¬ Hollow package.toList)) ∧
    ∀ (stamps : Stamps) (config : RunConfig) (runner other : Runner τ),
      (∀ package, missingPackage? f.diagnostic = some package →
        runner.install f.folder [package] false config = other.install f.folder [package] false config) →
      (strategy stamps (some runner) config).attempt f = (strategy stamps (some other) config).attempt f := by
  refine ⟨?_, fun _ _ _ _ => attempt_eq_of_install⟩
  intro package asked
  obtain ⟨module, first, pointless, rootless, belongs⟩ := missingPackage?_eq_some_iff.mp asked
  exact ⟨module, first, belongs.cut, PackageName.not_hollow,
    packageName_of_belongs first.filled pointless rootless belongs⟩

end Installing

/-- For a module inside a package with a scope, a runner is asked for that package, and may answer as it likes for
others. -/
theorem inner_module_named :
    let f : Failure := ⟨"Cannot find module \"@mendix/pluggable-widgets-tools/dist/x\"", ⟨"w"⟩, { name := "Badge" }⟩
    let package := "@mendix/pluggable-widgets-tools"
    let answering (others : RunnerFault) : Runner Unit := {
      name := "npm"
      install := fun _ packages _ _ => return .error (if packages = [package] then .noManager else others)
      script := fun _ _ _ => return .error .noManager }
    missingPackage? f.diagnostic = some package ∧
      (∃ module, FirstReported module f.diagnostic.toList ∧ CutFrom package.toList module ∧
        PackageName package.toList) ∧
      ∀ stamps config, (strategy stamps (some (answering .noManager)) config).attempt f =
        (strategy stamps (some (answering (.timeout 1))) config).attempt f := by
  intro f package answering
  have asked : missingPackage? f.diagnostic = some package := by decide +kernel
  obtain ⟨named, confined⟩ := asked_package_named (τ := Unit) f
  obtain ⟨module, first, cut, solid⟩ := named package asked
  refine ⟨asked, ⟨module, first, cut, solid.mpr (by decide +kernel)⟩, fun stamps config => ?_⟩
  refine confined stamps config (answering .noManager) (answering (.timeout 1)) fun other same => ?_
  cases asked.symm.trans same
  funext
  simp [answering]

/-- A module whose scope is empty asks for what is no package, and so does a scope with nothing behind its slash. -/
theorem alias_asked_for :
    missingPackage? "Cannot find module '@/components' or its corresponding type declarations." =
      some "@/components" ∧ ¬ PackageName "@/components".toList ∧
    missingPackage? "Cannot find module '@scope/'" = some "@scope/" ∧ ¬ PackageName "@scope/".toList := by
  refine ⟨by decide +kernel, fun named => ?_, by decide +kernel, fun named => ?_⟩
  · exact named.not_hollow (.inl ⟨"components".toList, by decide +kernel⟩)
  · exact named.not_hollow (.inr (by decide +kernel))

end RuleRepair

end WidgetRepair
