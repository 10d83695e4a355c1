import WidgetRepair.Diagnostic.Signature
import WidgetRepair.Store.File

/-! How a store changes. Every change is made in memory and then written; when writing fails the
change stays in memory and the store stays dirty. -/

namespace WidgetRepair

/-- What an operation finds around it: the moment, and the id it may give to something new. -/
structure Stamp where
  now : Timestamp
  id : String

/-- A computation on a store and the disk. What was changed before a fault stays changed. -/
abbrev OnStore := ExceptT StoreFault (StateM (Store × Disk))

/-- What came of an observed repair. -/
inductive LearnOutcome where
  | reinforced (id : String)
  | created (id : String)
  | discarded
  deriving DecidableEq, Repr

namespace LearnOutcome

def name : LearnOutcome → String
  | reinforced _ => "reinforced"
  | created _ => "created"
  | discarded => "discarded"

def patternId? : LearnOutcome → Option String
  | reinforced id | created id => some id
  | discarded => none

end LearnOutcome

namespace Store

/-- The store with another document, not yet written. -/
def touched (s : Store) (doc : StoreDocument) (now : Timestamp) : Store :=
  { s with document := { doc with updated := now }, dirty := true }

def withPatterns (s : Store) (patterns : List FixPattern) (now : Timestamp) : Store :=
  s.touched { s.document with patterns := patterns } now

/-- The first item with a property changed by `f`. -/
def changeFirst {α : Type} (test : α → Bool) (f : α → α) : List α → List α
  | [] => []
  | a :: rest => if test a then f a :: rest else a :: changeFirst test f rest

/-- Whether a pattern speaks of the same error as a signature and its keywords. -/
def sameError (signature : String) (keywords : List String) (p : FixPattern) : Bool :=
  p.errorPattern == signature ||
    Diagnostic.similarityThreshold < Diagnostic.similarity p.keywords keywords

/-- The pattern that is made of an error and the repair that helped. -/
def learnedPattern (stamp : Stamp) (signature : String) (keywords : List String)
    (description : String) (fix : FixAction) : FixPattern where
  id := stamp.id
  errorPattern := signature
  keywords := keywords
  fix := fix
  description := description
  confidence := Confidence.learned
  successCount := 1
  lastUsed := some stamp.now
  provenance := .learned

end Store

namespace OnStore

def fail {α : Type} (f : StoreFault) : OnStore α := throw f

def store : OnStore Store := do return (← get).1

def setStore (s : Store) : OnStore Unit := modify fun (_, d) => (s, d)

def onDisk {α : Type} (job : OnDisk α) : OnStore α := do
  let (s, d) ← get
  let (result, d) := job.run d
  set (s, d)
  match result with
  | .ok a => return a
  | .error f => fail (.disk f)

/-- Writes the document if it has changed, and tells whether it did. -/
def save : OnStore Bool := do
  let s ← store
  if !s.dirty then return false
  match s.path with
  | none =>
    setStore { s with dirty := false }
    return false
  | some path =>
    onDisk (Store.writeDocument path s.document)
    setStore { s with dirty := false }
    return true

/-- Makes a change and writes it. -/
def commit (s : Store) : OnStore Unit := do
  setStore s
  let _ ← save

/-- Takes down how trying a pattern ended; gives its new confidence. -/
def recordOutcome (id : String) (success : Bool) (now : Timestamp) : OnStore Float := do
  let s ← store
  match s.get? id with
  | none => fail (.patternNotFound id)
  | some p =>
    commit (s.withPatterns
      (Store.changeFirst (·.id == id) (fun q => q.afterOutcome success now) s.patterns) now)
    return (p.afterOutcome success now).confidence

/-- Takes down a repair that was tried on an error. A pattern for the same error is reinforced;
otherwise a success makes a new pattern, and a failure leaves no trace. -/
def learn (error description : String) (fix : FixAction) (success : Bool) (stamp : Stamp) :
    OnStore LearnOutcome := do
  let signature := Diagnostic.signature error
  if signature.isEmpty then return .discarded
  let keywords := Diagnostic.keywords (Diagnostic.errorSummary error.toList)
  let s ← store
  match s.patterns.find? (Store.sameError signature keywords) with
  | some p =>
    let _ ← recordOutcome p.id success stamp.now
    return .reinforced p.id
  | none =>
    if !success then return .discarded
    let p := Store.learnedPattern stamp signature keywords description fix
    commit (s.withPatterns (s.patterns ++ [p]) stamp.now)
    return .created p.id

/-- Adds a pattern with an id of its own. -/
def addPattern (p : FixPattern) (now : Timestamp) : OnStore Unit := do
  let s ← store
  if (s.get? p.id).isSome then fail (.patternExists p.id)
  commit (s.withPatterns (s.patterns ++ [p]) now)

/-- Takes down how using a shape of widget ended. -/
def recordTemplateOutcome (id : String) (success : Bool) (now : Timestamp) : OnStore Unit := do
  let s ← store
  if !s.document.templates.any (·.id == id) then fail (.templateNotFound id)
  let templates :=
    Store.changeFirst (·.id == id) (fun t => t.afterOutcome success) s.document.templates
  commit (s.touched { s.document with templates := templates } now)

/-- Runs a computation; store and disk come back also after a fault. -/
def run {α : Type} (job : OnStore α) (s : Store) (d : Disk) :
    Except StoreFault α × Store × Disk := (ExceptT.run job).run (s, d)

end OnStore

end WidgetRepair
