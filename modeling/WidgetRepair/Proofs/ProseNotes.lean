import WidgetRepair.Proofs.OfflineRepair
import WidgetRepair.Proofs.PlannedRepair
import WidgetRepair.Proofs.StableRanking

/-! Prose among the notes. Notes that hold no edit are left out before the best ones are chosen, so
they decide neither which edits are tried nor in which order. -/

namespace WidgetRepair

/-- The entries of the second list are those of the first and, anywhere among them, prose: entries
whose content is no edit. -/
inductive WithProse : List KnowledgeEntry → List KnowledgeEntry → Prop where
  | nil : WithProse [] []
  | kept (e : KnowledgeEntry) {few more : List KnowledgeEntry} (rest : WithProse few more) :
    WithProse (e :: few) (e :: more)
  | prose {e : KnowledgeEntry} (editless : NoteRepair.editOf? e.content = none)
    {few more : List KnowledgeEntry} (rest : WithProse few more) : WithProse few (e :: more)

namespace NoteRepair

variable {τ : Type}

/-- Whether a note can be carried out. -/
def isEdit (e : KnowledgeEntry) : Bool := (editOf? e.content).isSome

theorem edits_of_withProse {few more : List KnowledgeEntry} (prose : WithProse few more) :
    more.filter isEdit = few.filter isEdit := by
  induction prose with
  | nil => rfl
  | kept e rest ih => rw [List.filter_cons, List.filter_cons, ih]
  | @prose e editless few more rest ih =>
    rw [List.filter_cons_of_neg (by simp [isEdit, editless]), ih]

/-- No note with a score is cut off when as many are asked for as there are. -/
theorem search_all (k : Knowledge) (query : String) :
    k.search query k.entries.length =
      if (Diagnostic.keywords query.toList).isEmpty then []
      else ranking (·.score (Diagnostic.keywords query.toList)) k.entries := by
  unfold Knowledge.search
  dsimp only
  rw [List.take_of_length_le (ranking_length_le _ _)]

/-- The edit of a note with the title of the note. -/
def titled? (e : KnowledgeEntry) : Option (String × FixAction) :=
  (editOf? e.content).map fun fix => (e.title, fix)

theorem filterMap_titled (scored : List (KnowledgeEntry × Float)) :
    (scored.filter fun s => isEdit s.1).filterMap (fun s => titled? s.1) =
      scored.filterMap fun s => titled? s.1 := by
  rw [List.filterMap_filter]
  refine List.filterMap_congr fun s _ => ?_
  unfold isEdit titled?
  cases editOf? s.1.content <;> rfl

/-- The edits to try are chosen among the notes that are edits. -/
theorem candidates_eq (k : Knowledge) (diagnostic : String) :
    candidates k diagnostic = (if (Diagnostic.keywords diagnostic.toList).isEmpty then [] else
      ((ranking (·.score (Diagnostic.keywords diagnostic.toList)) (k.entries.filter isEdit)).filterMap
        fun s => titled? s.1).take limit) := by
  have all : candidates k diagnostic =
    ((k.search diagnostic k.entries.length).filterMap fun s => titled? s.1).take limit := rfl
  rw [all, search_all]
  split
  · rfl
  · rw [← filterMap_titled, filter_ranking]

theorem candidates_withProse {few more : Knowledge} (prose : WithProse few.entries more.entries)
    (diagnostic : String) : candidates more diagnostic = candidates few diagnostic := by
  rw [candidates_eq, candidates_eq, edits_of_withProse prose]

/-- Prose that is put among the notes changes nothing in how a failure is repaired: the same edits are
tried in the same order, with the same outcome, the same disk and the same store, whatever the failure and
whatever the notes hold. -/
theorem prose_never_matters {few more : Knowledge} (prose : WithProse few.entries more.entries)
    (stamps : Stamps) (f : Failure) (w : World τ) :
    (strategy stamps more).attempt f w = (strategy stamps few).attempt f w := by
  unfold strategy
  dsimp only
  rw [candidates_withProse prose]

namespace Crowded

open Edit BesideSources

/-- A note that would be tried first, were it an edit. -/
def prose : KnowledgeEntry where
  title := "Badge: cannot find name"
  content := "When a badge cannot find a name, look for it in the sources."
  timestamp := default
  tier := .high
  tags := ["badge", "name"]

def edit : KnowledgeEntry where
  title := "Badge label"
  content := "\x7b\"type\":\"file-edit\",\"file\":\"Badge.tsx\",\"search\":\"a\",\"replace\":\"b\"\x7d"
  timestamp := default
  tier := .low

def fix : FixAction := .fileEdit "Badge.tsx" "a" "b"

def few : Knowledge := { entries := [edit] }

def more : Knowledge := { entries := [prose, prose, prose, prose, prose, edit, prose] }

def source : Path := Path.mk "/w" / "src/Badge.tsx"

def failure : Failure := ⟨"Cannot find name 'badge'.", ⟨"/w"⟩, { name := "Badge" }⟩

def world : World Unit :=
  { disk := disk, store := { document := .empty default }, outside := () }

def stamps : Stamps := fun _ => ⟨default, "id"⟩

theorem withProse : WithProse few.entries more.entries := by
  have editless : editOf? prose.content = none := by decide +kernel
  exact .prose editless (.prose editless (.prose editless (.prose editless (.prose editless
    (.kept edit (.prose editless .nil))))))

theorem candidates_few : candidates few failure.diagnostic = [("Badge label", fix)] := by
  have asked : (Diagnostic.keywords failure.diagnostic.toList).isEmpty = false := by decide +kernel
  have fits : 0.0 < edit.score (Diagnostic.keywords failure.diagnostic.toList) := by decide +kernel
  have carried : isEdit edit = true := by decide +kernel
  have titled : titled? edit = some ("Badge label", fix) := by decide +kernel
  rw [candidates_eq, asked]
  simp [few, ranking, bestFirst, carried, fits, titled, limit]

theorem performs : (perform ⟨"/w"⟩ fix).run disk =
    (.ok ⟨true, "edited 1 file(s) matching Badge.tsx"⟩, edited ["w", "src", "Badge.tsx"]) := by
  have stands : disk.isFile source = true := by decide +kernel
  have pattern : patternOf disk ⟨"/w"⟩ "src/Badge.tsx" = "Badge.tsx" := by decide +kernel
  have matching : matchingFiles disk ⟨"/w"⟩ "Badge.tsx" = .ok [source] :=
    pattern ▸ matching_ordinary ordinary stands
  have each : (editEach "a" "b" [source]).run disk =
    (.ok [source], edited ["w", "src", "Badge.tsx"]) := rfl
  exact run_bind_ok ((Task.editFiles_run matching).trans each) _

theorem applies : ((strategy stamps few).attempt failure world).1.applied = true := by
  have ran : OnWorld.edit (perform failure.folder fix) world = _ := edit_run performs
  unfold strategy
  dsimp only
  rw [candidates_few]
  simp only [tryEach, stateM_bind, ran]
  rfl

end Crowded

open Crowded in
theorem prose_spares_edit :
    WithProse few.entries more.entries ∧
      (strategy stamps more).attempt failure world = (strategy stamps few).attempt failure world ∧
      ((strategy stamps more).attempt failure world).1.applied = true := by
  have same := prose_never_matters withProse stamps failure world
  exact ⟨withProse, same, same ▸ applies⟩

end NoteRepair

end WidgetRepair
