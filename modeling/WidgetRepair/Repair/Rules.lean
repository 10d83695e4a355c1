import WidgetRepair.Diagnostic.Signature
import WidgetRepair.Edit.Action
import WidgetRepair.Repair.Basic

/-! Repairs by fixed rules for the most common failures. -/

namespace WidgetRepair

/-- What a rule asks for. -/
inductive Rule where
  | installPackage (package : String)
  | importReact (line : String)
  | standardScripts
  | manualReview
  deriving DecidableEq, Repr

namespace RuleRepair

variable {τ : Type}

def name : String := "heuristic"

def isQuote (c : Char) : Bool := c == '\x27' || c == '"'

/-- A quoted text that is not empty, at the start of a text. -/
def quoted? : List Char → Option (List Char)
  | [] => none
  | c :: rest =>
    let inner := rest.takeWhile (!isQuote ·)
    if isQuote c && !inner.isEmpty && !(rest.dropWhile (!isQuote ·)).isEmpty then some inner
    else none

/-- What a text says about a missing module, where it begins so. -/
def missingModuleAt? (text : List Char) : Option (List Char) :=
  (Text.after? "Cannot find module ".toList text).bind quoted?

/-- The first module that a text says is missing. -/
def missingModule? : List Char → Option (List Char)
  | [] => none
  | c :: rest => (missingModuleAt? (c :: rest)).or (missingModule? rest)

/-- The package that a module belongs to: the name up to the first slash, or to the second one
where it has a scope. Modules named by a path belong to none. -/
def packageOf? (module : List Char) : Option (List Char) :=
  if module.head? = some '.' || module.head? = some '/' then none
  else
    match Text.splitWhere (· == '/') module with
    | [] => none
    | first :: others =>
      if first.head? = some '@' then others.head?.map fun second => first ++ '/' :: second
      else some first

def missingPackage? (diagnostic : String) : Option String :=
  ((missingModule? diagnostic.toList).bind packageOf?).map String.ofList

/-- Whether a text begins with the report of a missing standard script. -/
def missingScriptAt (text : List Char) : Bool :=
  match Text.after? "Missing script:".toList text with
  | none => false
  | some rest =>
    let rest := Text.trimStart rest
    let rest := (Text.after? ['"'] rest).getD rest
    ["build", "dev"].any fun script =>
      match Text.after? script.toList rest with
      | some more => Text.wordEdge script.toList.getLast? more.head?
      | none => false

def reactImport : String := "import * as React from 'react';"

def createElementImport : String := "import \x7b createElement \x7d from 'react';"

/-- What a text says when a value may be missing. -/
def nullSafetyMarks : List String :=
  ["possibly 'undefined'", "possibly 'null'", "TS2531", "TS2532", "TS18048"]

/-- The rule for a failure. -/
def rule? (diagnostic : String) : Option Rule :=
  match missingPackage? diagnostic with
  | some package => some (.installPackage package)
  | none =>
    if Text.contains diagnostic "Cannot find name 'React'" then some (.importReact reactImport)
    else if Text.contains diagnostic "refers to a UMD global" then
      some (.importReact createElementImport)
    else if Diagnostic.anywhere (fun _ text => missingScriptAt text) none diagnostic.toList then
      some .standardScripts
    else if nullSafetyMarks.any (Text.contains diagnostic) then some .manualReview
    else none

/-- Carries out an edit; one that changes something becomes a pattern. -/
def editAndLearn (stamps : Stamps) (f : Failure) (fix : FixAction) (description : String) :
    OnWorld τ RepairOutcome := do
  match ← OnWorld.edit (Edit.perform f.folder fix) with
  | .ok ⟨true, _⟩ =>
    OnWorld.learn stamps ⟨f.diagnostic, description, fix⟩
    return .done name description
  | .ok ⟨false, detail⟩ => return .declined name detail
  | .error fault => return .declined name fault.message

/-- Installs a package where there is a runner, and else says how to. -/
def install (stamps : Stamps) (runner : Option (Runner τ)) (config : RunConfig) (f : Failure)
    (package : String) : OnWorld τ RepairOutcome := do
  let fix := FixAction.dependencyAdd [package] false
  let advice := RepairOutcome.declined name ("run `" ++ fix.installCommand?.getD package ++ "`")
  match runner with
  | none => return advice
  | some runner =>
    match ← OnWorld.onSite (runner.install f.folder [package] false config) with
    | .error fault =>
      return .declined name
        ("install " ++ package ++ " failed: Runner error: " ++ fault.message)
    | .ok run =>
      if run.success then
        let description := "Installed missing package " ++ package
        OnWorld.learn stamps ⟨f.diagnostic, description, fix⟩
        return .done name description
      else return advice

/-- Does what a rule asks for. -/
def follow (stamps : Stamps) (runner : Option (Runner τ)) (config : RunConfig) (f : Failure) :
    Rule → OnWorld τ RepairOutcome
  | .installPackage package => install stamps runner config f package
  | .importReact line =>
    editAndLearn stamps f (.prepend "**/*.tsx" line) ("Added `" ++ line ++ "` to component sources")
  | .standardScripts =>
    editAndLearn stamps f (.configChange Manifest.standardScripts)
      "Added the standard build scripts"
  | .manualReview => return .declined name "null-safety error flagged for manual review"

/-- The strategy of the rules. -/
def strategy (stamps : Stamps) (runner : Option (Runner τ)) (config : RunConfig) :
    Strategy (World τ) where
  name := name
  attempt f :=
    match rule? f.diagnostic with
    | none => return .declined name "no heuristic rule matches"
    | some rule => follow stamps runner config f rule

end RuleRepair

end WidgetRepair
