import WidgetRepair.Diagnostic.Keyword
import WidgetRepair.Store.Basic

/-! Notes that people and programs leave for later repairs. They are found by their words and
weighted by how far their source is trusted. -/

namespace WidgetRepair

open Source Json

/-- How far a source is trusted. -/
inductive Tier where
  | high
  | medium
  | low
  deriving DecidableEq, Repr

namespace Tier

def all : List Tier := [high, medium, low]

def name : Tier → String
  | high => "high"
  | medium => "medium"
  | low => "low"

def weight : Tier → Float
  | high => 1.0
  | medium => 0.7
  | low => 0.4

def ofName? (s : String) : Option Tier := all.find? (·.name == s)

/-- The tier a person means. -/
def ofLooseName? (s : String) : Option Tier := ofName? (Text.lowered (Text.trimmed s))

end Tier

structure KnowledgeEntry where
  title : String
  category : String := ""
  content : String
  provenance : String := "user"
  timestamp : Timestamp
  tier : Tier := .medium
  tags : List String := []
  deriving DecidableEq, Repr

namespace KnowledgeEntry

/-- The entry with tags, which are kept in lower case. -/
def tagged (e : KnowledgeEntry) (tags : List String) : KnowledgeEntry :=
  { e with tags := tags.map Text.lowered }

/-- The keywords among the tags count twice; those in the title or the content once more. -/
def score (e : KnowledgeEntry) (keywords : List String) : Float :=
  let title := Text.lowered e.title
  let content := Text.lowered e.content
  let tagged := (keywords.filter e.tags.contains).length
  let mentioned :=
    (keywords.filter fun k => Text.contains title k || Text.contains content k).length
  Float.ofNat (2 * tagged + mentioned) * e.tier.weight

end KnowledgeEntry

structure EntryFields where
  title : Option String := none
  category : Option String := none
  content : Option String := none
  provenance : Option String := none
  timestamp : Option Timestamp := none
  tier : Option Tier := none
  tags : Option (List String) := none

def EntryFields.all : List (Field Place (Except Fault) EntryFields) := [
  .of "title" (·.title) (fun v s => { s with title := v }) text,
  .of "category" (·.category) (fun v s => { s with category := v }) text,
  .of "content" (·.content) (fun v s => { s with content := v }) text,
  .of "provenance" (·.provenance) (fun v s => { s with provenance := v }) text,
  .of "timestamp" (·.timestamp) (fun v s => { s with timestamp := v })
    (parsed Timestamp.ofText?),
  .of "confidence" (·.tier) (fun v s => { s with tier := v }) (choice Tier.ofName?),
  .of "tags" (·.tags) (fun v s => { s with tags := v }) (listOf text)]

namespace KnowledgeEntry

def read : Place → Except Fault KnowledgeEntry :=
  recordOf EntryFields.all {} fun s => do
    return {
      title := ← s.title
      category := s.category.getD ""
      content := ← s.content
      provenance := s.provenance.getD ""
      timestamp := ← s.timestamp
      tier := s.tier.getD .medium
      tags := s.tags.getD [] }

def toJson (e : KnowledgeEntry) : Value :=
  .record [("title", .text e.title), ("category", .text e.category), ("content", .text e.content),
    ("provenance", .text e.provenance), ("timestamp", e.timestamp.toJson),
    ("confidence", .text e.tier.name), ("tags", Value.ofTexts e.tags)]

end KnowledgeEntry

structure Knowledge where
  /-- The file that entries are added to at once. -/
  path : Option Path := none
  entries : List KnowledgeEntry := []
  deriving DecidableEq, Repr, Inhabited

/-- The entries a query speaks of, best first, at most `limit`. -/
def Knowledge.search (k : Knowledge) (query : String) (limit : Nat) :
    List (KnowledgeEntry × Float) :=
  let keywords := Diagnostic.keywords query.toList
  if keywords.isEmpty then [] else (ranking (·.score keywords) k.entries).take limit

end WidgetRepair
