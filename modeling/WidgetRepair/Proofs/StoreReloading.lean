import WidgetRepair.Proofs.KnownErrors

/-! A store comes back from its file as it was. Confidences aside, nothing of a document is lost when
it is saved and loaded again; only builtin patterns that it lacks are added, once. -/

namespace WidgetRepair

open Store

namespace FixAction

/-- Scripts that are kept as a table: by name, each name once. -/
def Ordered : FixAction → Prop
  | configChange scripts => scripts.Pairwise (·.1 < ·.1)
  | _ => True

instance : DecidablePred Ordered
  | configChange scripts => inferInstanceAs (Decidable (scripts.Pairwise (·.1 < ·.1)))
  | fileEdit .. | dependencyAdd .. | manual .. => inferInstanceAs (Decidable True)

theorem put_last {name command : String} {done : List (String × String)}
    (last : ∀ script ∈ done, script.1 < name) : sortScripts.put name command done = done ++ [(name, command)] := by
  induction done with
  | nil => rfl
  | cons script rest ih =>
    obtain ⟨other, own⟩ := script
    have earlier : other < name := last (other, own) List.mem_cons_self
    have later := ih fun script member => last script (List.mem_cons_of_mem _ member)
    simp [sortScripts.put, earlier.ne', earlier.not_gt, later]

/-- Sorting puts one script after the other behind those that are done. -/
theorem foldl_put {done scripts : List (String × String)} (ordered : (done ++ scripts).Pairwise (·.1 < ·.1)) :
    scripts.foldl (fun done script => sortScripts.put script.1 script.2 done) done = done ++ scripts := by
  induction scripts generalizing done with
  | nil => simp
  | cons script rest ih =>
    have last : ∀ other ∈ done, other.1 < script.1 := fun other member =>
      (List.pairwise_append.mp ordered).2.2 other member script List.mem_cons_self
    have later : (done ++ [script] ++ rest).Pairwise (·.1 < ·.1) := by simpa using ordered
    rw [List.foldl_cons, put_last last, ih later, List.append_assoc, List.singleton_append]

theorem sortScripts_ordered {scripts : List (String × String)} (ordered : scripts.Pairwise (·.1 < ·.1)) :
    sortScripts scripts = scripts :=
  @foldl_put [] scripts ordered

theorem reread_ordered {fix : FixAction} (ordered : fix.Ordered) : fix.reread = fix := by
  cases fix with
  | configChange scripts => exact congrArg configChange (sortScripts_ordered ordered)
  | _ => rfl

end FixAction

/-- Patterns that differ in their confidence at most. -/
def FixPattern.Alike (p q : FixPattern) : Prop := { p with confidence := q.confidence } = q

def WidgetTemplate.Alike (t u : WidgetTemplate) : Prop := { t with confidence := u.confidence } = u

namespace StoreDocument

/-- Documents that differ in confidences at most: field by field and in the same order all else agrees. -/
structure Alike (doc other : StoreDocument) : Prop where
  version : doc.version = other.version
  updated : doc.updated = other.updated
  patterns : List.Forall₂ FixPattern.Alike doc.patterns other.patterns
  templates : List.Forall₂ WidgetTemplate.Alike doc.templates other.templates
  notes : doc.notes = other.notes
  practices : doc.practices = other.practices

/-- All scripts of a document are kept as tables. -/
def Ordered (doc : StoreDocument) : Prop := ∀ p ∈ doc.patterns, p.fix.Ordered

variable {doc : StoreDocument}

theorem alike_reread (ordered : doc.Ordered) : doc.Alike doc.reread where
  version := rfl
  updated := rfl
  patterns := by
    refine List.forall₂_map_right_iff.mpr (List.forall₂_same.mpr fun p member => ?_)
    simp [FixPattern.Alike, FixPattern.reread, FixAction.reread_ordered (ordered p member)]
  templates := List.forall₂_map_right_iff.mpr (List.forall₂_same.mpr fun _ _ => rfl)
  notes := rfl
  practices := rfl

theorem Ordered.reread (ordered : doc.Ordered) : doc.reread.Ordered := by
  intro p member
  obtain ⟨q, among, rfl⟩ := List.mem_map.mp member
  have own := ordered q among
  rw [← FixAction.reread_ordered own] at own
  exact own

/-- The builtin patterns that a document lacks, in their order. -/
def missing (doc : StoreDocument) : List FixPattern :=
  Builtin.patterns.filter fun b => b.id ∉ doc.patterns.map (·.id)

theorem completed_eq (doc : StoreDocument) : doc.completed = { doc with patterns := doc.patterns ++ doc.missing } := by
  have same : (fun b : FixPattern => !doc.patterns.any (·.id == b.id)) =
      fun b => decide (b.id ∉ doc.patterns.map (·.id)) := by
    funext b
    rw [Bool.eq_iff_iff]
    simp
  simp only [completed, missing, same]

theorem missing_reread (doc : StoreDocument) : doc.reread.missing = doc.missing := by
  have ids : doc.reread.patterns.map (·.id) = doc.patterns.map (·.id) := by
    simp only [StoreDocument.reread, List.map_map]
    rfl
  simp only [missing, ids]

/-- A document with every builtin pattern, or with others of their ids. -/
def Complete (doc : StoreDocument) : Prop := ∀ b ∈ Builtin.patterns, ∃ p ∈ doc.patterns, p.id = b.id

theorem complete_builtin (now : Timestamp) : (StoreDocument.builtin now).Complete :=
  fun b member => ⟨b, member, rfl⟩

theorem complete_completed (doc : StoreDocument) : doc.completed.Complete := by
  intro b builtin
  rw [completed_eq]
  by_cases own : b.id ∈ doc.patterns.map (·.id)
  · obtain ⟨p, member, same⟩ := List.mem_map.mp own
    exact ⟨p, List.mem_append_left _ member, same⟩
  · exact ⟨b, List.mem_append_right _ (List.mem_filter.mpr ⟨builtin, decide_eq_true own⟩), rfl⟩

theorem Complete.completed (complete : doc.Complete) : doc.completed = doc := by
  have none : doc.missing = [] := by
    refine List.filter_eq_nil_iff.mpr fun b builtin => ?_
    obtain ⟨p, member, same⟩ := complete b builtin
    simpa using ⟨p, member, same⟩
  rw [completed_eq, none, List.append_nil]

theorem Complete.reread (complete : doc.Complete) : doc.reread.Complete := by
  intro b builtin
  obtain ⟨p, member, same⟩ := complete b builtin
  exact ⟨p.reread, List.mem_map_of_mem member, same⟩

theorem Ordered.completed (ordered : doc.Ordered) : doc.completed.Ordered := by
  have builtin : ∀ p ∈ Builtin.patterns, p.fix.Ordered := by decide +kernel
  rw [completed_eq]
  exact List.forall_mem_append.mpr ⟨ordered, fun p member => builtin p (List.mem_filter.mp member).1⟩

end StoreDocument

namespace Store

/-- What is loaded from the file of a document: the document, confidences aside, and behind its patterns
the builtin ones that it lacks. -/
structure Restored (path : Path) (doc : StoreDocument) (loaded : Store) : Prop where
  attached : loaded.path = some path
  clean : loaded.dirty = false
  document : ∃ kept, doc.Alike kept ∧ loaded.document = { kept with patterns := kept.patterns ++ doc.missing }

/-- A store that is taken up from its file stays as it is. As long as nothing changes there is nothing to
save, and when it is written all the same, nothing more is added to it. -/
structure Steady (path : Path) (loaded : Store) (d : Disk) : Prop where
  unchanged : OnStore.save.run loaded d = (.ok false, loaded, d)
  again : ∀ now, Store.load d path now = loaded
  rewritten : ∀ disk : Disk, disk.IsTree → ∀ after,
    OnStore.save.run { loaded with dirty := true } disk = (.ok true, after) →
      ∀ now, loaded.document.Alike (Store.load after.2 path now).document

/-- What is loaded from any file at all: a store with every builtin pattern, in which nothing waits to be
written. -/
structure Usable (path : Path) (loaded : Store) (d : Disk) : Prop where
  attached : loaded.path = some path
  clean : loaded.dirty = false
  complete : loaded.document.Complete
  unchanged : OnStore.save.run loaded d = (.ok false, loaded, d)

end Store

theorem save_clean {s : Store} (clean : s.dirty = false) (d : Disk) : OnStore.save.run s d = (.ok false, s, d) := by
  obtain ⟨path, doc, dirty⟩ := s
  cases clean
  rfl

theorem dirty_of_saved {s : Store} {d : Disk} {after : Store × Disk}
    (saved : OnStore.save.run s d = (.ok true, after)) : s.dirty = true := by
  by_contra clean
  rw [save_clean (eq_false_of_ne_true clean)] at saved
  cases saved

theorem readText_of_saved {path : Path} {s : Store} {d : Disk} {after : Store × Disk} (tree : d.IsTree)
    (attached : s.path = some path) (saved : OnStore.save.run s d = (.ok true, after)) :
    after.2.readText path = .ok s.document.toText := by
  have ended := save_ends attached (dirty_of_saved saved) tree
  unfold Ends at ended
  have ran : ExceptT.run OnStore.save (s, d) = (.ok true, after) := saved
  rw [ran] at ended
  obtain ⟨-, -, written⟩ | ⟨f, same, -⟩ := ended
  · exact Disk.readText_of_read (written.written rfl).2
  · cases same

section Loading

variable {path : Path} {doc : StoreDocument} {d : Disk}

theorem restored_load (read : d.readText path = .ok doc.toText) (sound : doc.Sound)
    (ordered : doc.Ordered) (now : Timestamp) : Restored path doc (Store.load d path now) := by
  rw [Remembers.load_document read sound]
  refine ⟨rfl, rfl, doc.reread, doc.alike_reread ordered, ?_⟩
  rw [StoreDocument.completed_eq, StoreDocument.missing_reread]

theorem steady_load (read : d.readText path = .ok doc.toText) (sound : doc.Sound)
    (ordered : doc.Ordered) (now : Timestamp) : Steady path (Store.load d path now) d := by
  have loaded (now : Timestamp) : Store.load d path now =
      { path := some path, document := doc.reread.completed } := Remembers.load_document read sound
  rw [loaded now]
  refine ⟨save_clean rfl d, loaded, fun disk tree after saved now => ?_⟩
  have written := readText_of_saved tree rfl saved
  have complete := (StoreDocument.complete_completed doc.reread).reread
  rw [Remembers.load_document written sound.reread.completed, complete.completed]
  exact StoreDocument.alike_reread ordered.reread.completed

/-- Whatever a file holds, the store that is loaded from it has every builtin pattern. -/
theorem usable_load (d : Disk) (path : Path) (now : Timestamp) : Usable path (Store.load d path now) d := by
  have complete : (Store.load d path now).document.Complete := by
    unfold Store.load
    dsimp only
    split
    · exact StoreDocument.complete_builtin now
    · split
      · exact StoreDocument.complete_completed _
      · exact StoreDocument.complete_builtin now
  exact ⟨rfl, rfl, complete, save_clean rfl d⟩

end Loading

/-- A store survives its file. What is loaded after saving is the document that was saved, confidences
aside, with the builtin patterns that it lacked behind it, and it changes no more when it is saved and
loaded again. From any other file, or none, a usable store is loaded. -/
theorem store_survives_file (path : Path) (now : Timestamp) :
    (∀ (s : Store) (d : Disk) (after : Store × Disk), d.IsTree → s.path = some path → s.document.Sound →
      s.document.Ordered → OnStore.save.run s d = (.ok true, after) →
        Restored path s.document (Store.load after.2 path now) ∧
          Steady path (Store.load after.2 path now) after.2) ∧
      ∀ d : Disk, Usable path (Store.load d path now) d := by
  refine ⟨fun s d after tree attached sound ordered saved => ?_, fun d => usable_load d path now⟩
  have read := readText_of_saved tree attached saved
  exact ⟨restored_load read sound ordered now, steady_load read sound ordered now⟩

/-- A document with every kind of repair and of record, one of its patterns in the place of a builtin one. -/
theorem mixed_store_survives_file :
    let used : Timestamp := ⟨1704164645, 120000000⟩
    let doc : StoreDocument := {
      version := "1.0.0"
      updated := used
      patterns := [
        { id := "builtin-react-import", errorPattern := "Cannot find \"React\"\n", keywords := ["react", ""]
          fix := .fileEdit "**/*.tsx" "\\" "\x7b\x7d", confidence := 0.35, successCount := 7, lastUsed := some used },
        { id := "", errorPattern := "", fix := .configChange [("build", "tsc"), ("dev", "")], confidence := 0.1 },
        { id := "own", errorPattern := "TS2307", fix := .dependencyAdd ["big.js"] true, provenance := .learned },
        { id := "own", errorPattern := "TS9", fix := .manual "Ask", confidence := 1.0 }]
      templates := [{ id := "t", name := "Grid", propertyKinds := ["action"], failureCount := 2 }]
      notes := [{ name := "ListValue", notes := ["loading"] }]
      practices := [{ id := "p", title := "Names", category := "style" }] }
    let s : Store := { path := some ⟨"data/nucleus.json"⟩, document := doc, dirty := true }
    Disk.empty.IsTree ∧ doc.Sound ∧ doc.Ordered ∧
      ∃ after, OnStore.save.run s Disk.empty = (.ok true, after) ∧
      Restored ⟨"data/nucleus.json"⟩ doc (Store.load after.2 ⟨"data/nucleus.json"⟩ default) ∧
        Steady ⟨"data/nucleus.json"⟩ (Store.load after.2 ⟨"data/nucleus.json"⟩ default) after.2 := by
  intro used doc s
  have valid : used.Valid := ⟨by decide, by decide, by decide⟩
  have finite : ∀ p ∈ doc.patterns, p.confidence.isFinite = true ∧ ∀ t ∈ p.lastUsed, t = used := by
    decide +kernel
  have sound : doc.Sound := ⟨valid, fun p member => ⟨(finite p member).1, fun t last =>
    (finite p member).2 t last ▸ valid⟩, by decide +kernel⟩
  have ordered : doc.Ordered := by
    unfold StoreDocument.Ordered
    decide +kernel
  have answer : ((OnStore.save.run s Disk.empty).1.toOption == some true) = true := by decide +kernel
  obtain ⟨after, saved⟩ := exists_of_answer answer
  obtain ⟨restored, steady⟩ := (store_survives_file ⟨"data/nucleus.json"⟩ default).1 s Disk.empty after
    Disk.empty_isTree rfl sound ordered saved
  exact ⟨Disk.empty_isTree, sound, ordered, after, saved, restored, steady⟩

end WidgetRepair
