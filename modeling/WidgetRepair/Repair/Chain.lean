import WidgetRepair.Repair.Generated
import WidgetRepair.Repair.Notes
import WidgetRepair.Repair.Patterns
import WidgetRepair.Repair.Rules
import WidgetRepair.Text.Hidden

/-! Strategies in order. The first one that changes something ends the search. -/

namespace WidgetRepair

/-- Strategies, the most trusted one first. -/
structure Chain (σ : Type) where
  strategies : List (Strategy σ) := []

namespace Chain

variable {σ τ : Type}

def names (c : Chain σ) : List String := c.strategies.map (·.name)

/-- What a strategy leaves to say when it declined. -/
def note? (o : RepairOutcome) : Option String :=
  if o.description.isEmpty then none else some (o.strategy ++ ": " ++ o.description)

/-- Asks strategies one after the other; `notes` are those of the ones before. -/
def askEach (f : Failure) (notes : List String) : List (Strategy σ) → StateM σ RepairOutcome
  | [] => return .declined "chain" ("\n".intercalate notes)
  | s :: rest => do
    let outcome ← s.attempt f
    if outcome.applied then return outcome
    askEach f (notes ++ (note? outcome).toList) rest

/-- The first repair, or all that the strategies said. -/
def repair (c : Chain σ) (f : Failure) : StateM σ RepairOutcome := askEach f [] c.strategies

/-- Store, notes, rules, and the language model last. -/
def standard (stamps : Stamps) (k : Knowledge) (runner : Option (Runner τ)) (config : RunConfig)
    (assistant : Assistant τ) : Chain (World τ) where
  strategies := [PatternRepair.strategy stamps, NoteRepair.strategy stamps k,
    RuleRepair.strategy stamps runner config, PlannedRepair.strategy assistant]

/-- A character between quotes; what would end them or does not show is escaped. -/
def quotedChar (c : Char) : String :=
  if c == '"' then "\\\""
  else if c == '\\' then "\\\\"
  else if c == '\n' then "\\n"
  else if c == '\r' then "\\r"
  else if c == '\t' then "\\t"
  else if c.toNat == 0 then "\\0"
  else if Text.isHidden c then
    "\\u\x7b" ++ String.ofList (Nat.toDigits 16 c.toNat) ++ "\x7d"
  else c.toString

/-- A name between quotes. -/
def quotedName (name : String) : String :=
  "\"" ++ String.join (name.toList.map quotedChar) ++ "\""

/-- How a chain is shown to developers. -/
def shown (c : Chain σ) : String :=
  "FixChain \x7b strategies: [" ++ ", ".intercalate (c.names.map quotedName) ++ "] \x7d"

end Chain

end WidgetRepair
