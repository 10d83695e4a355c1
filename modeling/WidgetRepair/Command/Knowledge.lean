import WidgetRepair.Command.Arguments
import WidgetRepair.Command.Console

/-! Adding to the knowledge and searching it. -/

namespace WidgetRepair.KnowledgeRequest

/-- The entry that a person leaves. -/
def entry (title content category : String) (tags : List String) (tier : Tier)
    (now : Timestamp) : KnowledgeEntry :=
  { title := title
    category := category
    content := content
    timestamp := now
    tier := tier : KnowledgeEntry }.tagged (tags.filter fun tag => !Text.blank tag)

def foundLines : KnowledgeEntry × Float → List String
  | (e, score) =>
    ["[" ++ Decimal.fixed 2 score ++ "] " ++ e.title ++ " (" ++ e.category ++ ")",
      "       " ++ e.content]

/-- The answer to a search, line by line. -/
def answer (query : String) : List (KnowledgeEntry × Float) → List String
  | [] => ["No entries match '" ++ query ++ "'"]
  | found => found.flatMap foundLines

variable {τ : Type}

/-- Adds an entry; says where it could not be written. -/
def append (s : Surroundings τ) (settings : Settings) (k : Knowledge) (e : KnowledgeEntry) :
    OnConsole τ Knowledge := do
  match ← OnConsole.onSite (OnSite.onDisk (k.append e)) with
  | .ok k => return k
  | .error fault => throw (.knowledgeWrite (← s.knowledgePath settings) fault)

def run (s : Surroundings τ) (settings : Settings) (request : KnowledgeRequest) :
    OnConsole τ Unit := do
  let k ← s.openKnowledge settings
  match request with
  | add title content category tags tier =>
    match Tier.ofLooseName? tier with
    | none => OnConsole.refuse (.unknownTier tier)
    | some t =>
      let k ← append s settings k (entry title content category tags t s.now)
      let count := toString k.entries.length
      s.say ["✅ Recorded '" ++ title ++ "' (" ++ count ++ " entries)"]
  | search query limit => s.say (answer query (k.search query limit))

end WidgetRepair.KnowledgeRequest
