import WidgetRepair.Pattern.Action
import WidgetRepair.Pattern.Confidence
import WidgetRepair.Text.Lower
import WidgetRepair.Text.Search
import WidgetRepair.Timestamp

/-! Patterns: a repair together with the errors it is for and its record of success. -/

namespace WidgetRepair

/-- Where a pattern came from. -/
inductive Provenance where
  | builtin
  | learned
  | user
  deriving DecidableEq, Repr

namespace Provenance

def all : List Provenance := [builtin, learned, user]

def name : Provenance → String
  | builtin => "builtin"
  | learned => "learned"
  | user => "user"

def ofName? (s : String) : Option Provenance := all.find? (·.name == s)

end Provenance

/-- Counters have 32 bits. -/
def counterLimit : Nat := Nat.pow 2 32

structure FixPattern where
  id : String
  /-- A text that occurs in the output when the error does. -/
  errorPattern : String
  keywords : List String := []
  fix : FixAction
  description : String := ""
  confidence : Float := Confidence.learned
  successCount : UInt32 := 0
  failureCount : UInt32 := 0
  lastUsed : Option Timestamp := none
  provenance : Provenance := .user

namespace FixPattern

def successes (p : FixPattern) : Nat := p.successCount.toNat

def failures (p : FixPattern) : Nat := p.failureCount.toNat

/-- The pattern after it has been tried once more. A full counter starts again from zero. -/
def afterOutcome (p : FixPattern) (success : Bool) (now : Timestamp) : FixPattern :=
  { p with
    successCount := if success then p.successCount + 1 else p.successCount
    failureCount := if success then p.failureCount else p.failureCount + 1
    confidence := Confidence.after success p.confidence
    lastUsed := some now }

/-- How often the pattern was tried, as a counter has it. -/
def uses (p : FixPattern) : Nat := (p.successCount + p.failureCount).toNat

/-- What an occurrence of the error text weighs. -/
def signatureWeight : Float := 10.0

/-- What a keyword that occurs weighs. -/
def keywordWeight : Float := 2.0

/-- The keywords that occur in a text in lower case. -/
def hits (p : FixPattern) (lowered : String) : Nat :=
  (p.keywords.filter fun k => !k.isEmpty && Text.contains lowered (Text.lowered k)).length

/-- How well the pattern fits an output, whatever its record. -/
def rawScore (p : FixPattern) (output : String) : Float :=
  let matched := if !p.errorPattern.isEmpty && Text.contains output p.errorPattern
    then signatureWeight else 0.0
  matched + Float.ofNat (p.hits (Text.lowered output)) * keywordWeight

/-- How well the pattern fits, weighted by its confidence and its successes. -/
def score (p : FixPattern) (output : String) : Float :=
  p.rawScore output * p.confidence * (1.0 + Float.ofNat p.successes / 10.0)

/-- Whether the repair may be tried without asking. -/
def trusted (p : FixPattern) : Bool := Confidence.trusted ≤ p.confidence

def successRate? (p : FixPattern) : Option Float :=
  if p.uses = 0 then none else some (Float.ofNat p.successes / Float.ofNat p.uses)

end FixPattern

end WidgetRepair
