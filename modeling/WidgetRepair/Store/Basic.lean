import WidgetRepair.Diagnostic.Keyword
import WidgetRepair.Disk.Path
import WidgetRepair.Store.Builtin

/-! The store of patterns and records, and the questions it answers. Its document is all that is
kept; the path and the mark of unsaved changes belong to the running program. -/

namespace WidgetRepair

structure StoreDocument where
  version : String
  updated : Timestamp
  patterns : List FixPattern := []
  templates : List WidgetTemplate := []
  notes : List ApiNote := []
  practices : List Practice := []

namespace StoreDocument

def currentVersion : String := "1.0.0"

def empty (now : Timestamp) : StoreDocument where
  version := currentVersion
  updated := now

/-- The document of a new store. -/
def builtin (now : Timestamp) : StoreDocument where
  version := currentVersion
  updated := now
  patterns := Builtin.patterns
  templates := Builtin.templates
  notes := Builtin.notes
  practices := Builtin.practices

/-- The document with the builtin patterns it lacks behind its own. -/
def completed (doc : StoreDocument) : StoreDocument :=
  let missing := Builtin.patterns.filter fun b => !doc.patterns.any (·.id == b.id)
  { doc with patterns := doc.patterns ++ missing }

end StoreDocument

structure Store where
  /-- The file that changes are written to at once. -/
  path : Option Path := none
  document : StoreDocument
  /-- Whether something changed that has not been written. -/
  dirty : Bool := false

/-- Items by descending score; equal scores keep their order. -/
def bestFirst {α : Type} (scored : List (α × Float)) : List (α × Float) :=
  scored.mergeSort fun a b => b.2 ≤ a.2

/-- The items with a positive score, best first. -/
def ranking {α : Type} (score : α → Float) (items : List α) : List (α × Float) :=
  bestFirst ((items.map fun a => (a, score a)).filter fun (_, s) => 0.0 < s)

/-- Numbers about a store. -/
structure StoreStats where
  patterns : Nat
  byProvenance : List (Provenance × Nat)
  meanConfidence : Float
  successes : Nat
  failures : Nat
  mostUsed : Option String
  templates : Nat
  notes : Nat
  practices : Nat

namespace Store

/-- The store of a new document, without a file. -/
def inMemory (now : Timestamp) : Store where
  document := .builtin now

def patterns (s : Store) : List FixPattern := s.document.patterns

def get? (s : Store) (id : String) : Option FixPattern := s.patterns.find? (·.id == id)

/-- The patterns that fit an output with their scores, best first. -/
def rankedMatches (s : Store) (output : String) : List (FixPattern × Float) :=
  ranking (·.score output) s.patterns

/-- The patterns that fit an output, best first. -/
def matches? (s : Store) (output : String) : List FixPattern := (s.rankedMatches output).map (·.1)

/-- The shapes of widget a query speaks of, best first. -/
def findTemplates (s : Store) (query : String) : List WidgetTemplate :=
  let terms := Diagnostic.keywords query.toList
  (ranking (·.relevance terms) s.document.templates).map (·.1)

def note? (s : Store) (name : String) : Option ApiNote :=
  s.document.notes.find? fun note => Text.sameName note.name name

/-- The practices of one category, or all of them. -/
def practicesOf (s : Store) (category : Option String) : List Practice :=
  match category with
  | none => s.document.practices
  | some category => s.document.practices.filter fun p => Text.sameName p.category category

def countOf (s : Store) (provenance : Provenance) : Nat :=
  (s.patterns.filter (·.provenance == provenance)).length

/-- The mean confidence of all patterns, summed in their order. -/
def meanConfidence (s : Store) : Float :=
  if s.patterns.isEmpty then 0.0
  else s.patterns.foldl (fun sum p => sum + p.confidence) (-0.0) / Float.ofNat s.patterns.length

/-- The pattern that was tried most often; of several the last one. -/
def mostUsed? (s : Store) : Option FixPattern :=
  s.patterns.foldl
    (fun best p =>
      if p.uses = 0 then best
      else
        match best with
        | none => some p
        | some b => if b.uses ≤ p.uses then some p else some b)
    none

def stats (s : Store) : StoreStats where
  patterns := s.patterns.length
  byProvenance :=
    (Provenance.all.map fun p => (p, s.countOf p)).filter fun (_, count) => count != 0
  meanConfidence := s.meanConfidence
  successes := s.patterns.foldl (fun n p => n + p.successes) 0
  failures := s.patterns.foldl (fun n p => n + p.failures) 0
  mostUsed := s.mostUsed?.map (·.id)
  templates := s.document.templates.length
  notes := s.document.notes.length
  practices := s.document.practices.length

end Store

namespace StoreStats

/-- The number of patterns of one provenance. -/
def count (stats : StoreStats) (provenance : Provenance) : Nat :=
  match stats.byProvenance.find? (·.1 == provenance) with
  | some (_, n) => n
  | none => 0

def toJson (stats : StoreStats) : Json.Value :=
  .record [("totalPatterns", .ofNat stats.patterns),
    ("byProvenance", .record (stats.byProvenance.map fun (p, n) => (p.name, .ofNat n))),
    ("meanConfidence", .ofFloat stats.meanConfidence),
    ("totalSuccesses", .ofNat stats.successes), ("totalFailures", .ofNat stats.failures),
    ("mostUsed", .ofOption .text stats.mostUsed), ("widgetTemplates", .ofNat stats.templates),
    ("sdkApis", .ofNat stats.notes), ("bestPractices", .ofNat stats.practices)]

end StoreStats

end WidgetRepair
