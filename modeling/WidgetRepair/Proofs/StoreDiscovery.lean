import WidgetRepair.Proofs.FolderMaking
import WidgetRepair.Proofs.KnownErrors
import WidgetRepair.Store.Discovery

/-! Where a store is found again. The place that is picked because its folder could be made is the first one
with a file once the store was written there, since nothing can come to stand at the places that were passed
over. That takes reasons that last: a place passed over for a passing one may be the first the next time. -/

namespace WidgetRepair

open Disk Store

namespace Discovery

variable {d : Disk} {env : Environment} {program : Option Path} {p c : Path} {places before after : List Path}

/-- What a search for a place comes to where the disk itself refuses no step. -/
inductive Picked (d : Disk) (places : List Path) : Option Path → Prop where
  | some {before after : List Path} {c : Path} (split : places = before ++ c :: after)
    (shut : ∀ p ∈ before, Shut d p) : Picked d places (some c)
  | none (shut : ∀ p ∈ places, Shut d p) : Picked d places none

theorem Picked.behind {between : Disk} {found : Option Path} (grown : Grown d between) (shut : Shut d p)
    (picked : Picked between places found) : Picked d (p :: places) found := by
  cases picked with
  | @some first after c split others =>
    refine .some (congrArg (p :: ·) split) (List.forall_mem_cons.mpr ⟨shut, fun q member => ?_⟩)
    exact (others q member).of_grown grown
  | none others =>
    exact .none (List.forall_mem_cons.mpr ⟨shut, fun q member => (others q member).of_grown grown⟩)

theorem preparable_calm (p : Path) (tree : d.IsTree) (calm : d.hitches = []) :
    Grown d (preparable p d).2 ∧ (preparable p d).2.hitches = [] ∧ ((preparable p d).1 = false → Shut d p) :=
  OnDisk.makeParent_calm p tree calm

theorem firstPreparable_calm (places : List Path) (tree : d.IsTree) (calm : d.hitches = []) :
    Grown d (firstPreparable places d).2 ∧ Picked d places (firstPreparable places d).1 := by
  induction places generalizing d with
  | nil => exact ⟨.refl tree, .none (List.forall_mem_nil _)⟩
  | cons p rest ih =>
    obtain ⟨grown, calm, shut⟩ := preparable_calm p tree calm
    rw [firstPreparable, stateM_bind]
    cases made : (preparable p d).1 with
    | true => exact ⟨grown, .some (List.nil_append _).symm (List.forall_mem_nil _)⟩
    | false =>
      obtain ⟨further, picked⟩ := ih grown.tree calm
      exact ⟨grown.trans further, picked.behind grown (shut made)⟩

theorem locate_eq (env : Environment) (program : Option Path) (d : Disk) : locate env program d =
    match (candidates env program).find? d.isFile with
    | .some p => (p, d)
    | .none => ((firstPreparable (candidates env program) d).1.getD projectStore,
        (firstPreparable (candidates env program) d).2) := by
  unfold locate
  rw [stateM_bind]
  show (match (candidates env program).find? d.isFile with | .some p => _ | .none => _ : StateM Disk Path) d = _
  cases (candidates env program).find? d.isFile <;> rfl

/-- The first place with a file is found, and nothing is changed. -/
theorem locate_first (split : candidates env program = before ++ c :: after)
    (missing : ∀ p ∈ before, d.isFile p = false) (file : d.isFile c = true) : locate env program d = (c, d) := by
  have found : (candidates env program).find? d.isFile = some c := by
    rw [split, List.find?_append, List.find?_eq_none.mpr fun p member => by simp [missing p member]]
    simp [file]
  rw [locate_eq, found]

theorem locate_missing (missing : ∀ p ∈ candidates env program, d.isFile p = false) :
    locate env program d = ((firstPreparable (candidates env program) d).1.getD projectStore,
      (firstPreparable (candidates env program) d).2) := by
  rw [locate_eq, List.find?_eq_none.mpr fun p member => by simp [missing p member]]

theorem projectStore_candidate (env : Environment) (program : Option Path) :
    projectStore ∈ candidates env program := by
  simp [candidates]

end Discovery

namespace Disk

variable {d after : Disk} {p q : Path} {l : Location} {content : ByteArray}

/-- A disk to whose sealed folders nothing was added. -/
structure Fenced (d after : Disk) : Prop where
  sealed : after.sealed = d.sealed
  fixed : ∀ l, d.fixed l = true → d.get? l = none → after.get? l = none

theorem Fenced.trans {last : Disk} (first : Fenced d after) (second : Fenced after last) : Fenced d last where
  sealed := second.sealed.trans first.sealed
  fixed l fixed free := second.fixed l (fixed_of_sealed first.sealed l ▸ fixed) (first.fixed l fixed free)

theorem Grown.fenced (grown : Grown d after) : Fenced d after where
  sealed := grown.sealed
  fixed l fixed free := grown.fixed l fixed ▸ free

/-- A disk on which files were written, moved or removed, and no folder was touched. -/
structure Rewritten (d after : Disk) : Prop where
  tree : after.IsTree
  kept : Kept d after
  folders : ∀ l, after.get? l = some .folder → d.get? l = some .folder
  fenced : Fenced d after

theorem Alike.rewritten (alike : Alike d after) (tree : d.IsTree) : Rewritten d after where
  tree := alike.isTree tree
  kept := ⟨alike.origin, fun l folder => (alike.get? l).trans folder⟩
  folders l folder := (alike.get? l).symm.trans folder
  fenced := ⟨alike.sealed, fun l _ free => (alike.get? l).trans free⟩

theorem Rewritten.trans {last : Disk} (first : Rewritten d after) (second : Rewritten after last) :
    Rewritten d last where
  tree := second.tree
  kept := first.kept.trans second.kept
  folders l folder := first.folders l (second.folders l folder)
  fenced := first.fenced.trans second.fenced

/-- The files of one disk are files of another. -/
def Spared (d after : Disk) : Prop := ∀ l, d.file? l ≠ none → after.file? l ≠ none

theorem Alike.spared (alike : Alike d after) : Spared d after := fun l file => (alike.file? l).symm ▸ file

theorem Spared.trans {last : Disk} (first : Spared d after) (second : Spared after last) : Spared d last :=
  fun l file => second l (first l file)

theorem noFolder_of_file (file : d.file? l ≠ none) : d.get? l ≠ some .folder := fun folder => by
  simp [file?, folder] at file

/-- A new file is not one in a sealed folder. -/
theorem Writable.apart (writable : Writable d p l) {m : Location} (fixed : d.fixed m = true) (free : d.get? m = none) :
    l ≠ m := by
  rintro rfl
  rw [writable.unfixed free] at fixed
  cases fixed

theorem Writable.rewritten (writable : Writable d p l) (tree : d.IsTree) (content : ByteArray) :
    Rewritten d (d.spent.put l (.file content)) ∧ Spared d (d.spent.put l (.file content)) := by
  refine ⟨⟨writable.put_isTree tree content, writable.put_kept content, fun m folder => ?_,
    rfl, fun m fixed free => ?_⟩, fun m file => ?_⟩
  · rw [get?_put _ writable.inner] at folder
    split at folder
    next => cases folder
    next => exact folder
  · rw [get?_put _ writable.inner, if_neg (writable.apart fixed free)]
    exact free
  · rw [file?_put _ writable.inner]
    split
    next => exact Option.some_ne_none _
    next => exact file

theorem moved_rewritten {target : Location} (tree : d.IsTree) (file : d.get? l = some (.file content))
    (writable : Writable d q target) : Rewritten d (d.moved l target content) := by
  refine ⟨moved_isTree tree file writable, moved_kept tree file writable, fun m folder => ?_,
    rfl, fun m fixed free => ?_⟩
  · by_cases here : m = l
    · subst here
      unfold moved at folder
      rw [get?_put _ writable.inner, get?_erase] at folder
      split at folder
      next => cases folder
      next =>
        split at folder
        next => cases folder
        next => exact folder
    · rw [moved_get? tree file writable here] at folder
      split at folder
      next => cases folder
      next => exact folder
  · have here : m ≠ l := by
      rintro rfl
      rw [file] at free
      cases free
    rw [moved_get? tree file writable here, if_neg (writable.apart fixed free)]
    exact free

end Disk

namespace OnDisk

variable {d : Disk} {p q : Path}

theorem write_rewrites (p : Path) (content : ByteArray) (tree : d.IsTree) :
    Ends (write p content) d fun _ after => Rewritten d after ∧ Spared d after := by
  apply (write_ends p content tree).mono
  rintro result after (⟨f, alike, -⟩ | ⟨writable, -⟩ | ⟨writable, -⟩)
  · exact ⟨alike.rewritten tree, alike.spared⟩
  · exact writable.rewritten tree _
  · exact writable.rewritten tree _

theorem rename_rewrites (p q : Path) (tree : d.IsTree) : Ends (rename p q) d fun result after =>
    Rewritten d after ∧ (result.isOk = false → Spared d after) := by
  apply (rename_ends p q tree).mono
  rintro result after (⟨f, alike⟩ | ⟨-, file, writable⟩)
  · exact ⟨alike.rewritten tree, fun _ => alike.spared⟩
  · exact ⟨moved_rewritten tree file writable, nofun⟩

/-- Where a file is found, the folder around it is there. -/
theorem makeParent_settled (p : Path) (tree : d.IsTree) : Ends (makeParent p) d fun _ after =>
    Grown d after ∧ (d.isFile p = true → ∀ l, after.get? l = d.get? l) := by
  unfold makeParent
  split
  next around parent =>
    split
    next => exact .returned ⟨.refl tree, fun _ _ => rfl⟩
    next filled =>
      refine (makeFolders_along (.refl around) tree).mono fun _ after grown => ⟨grown.toGrown, fun file => ?_⟩
      obtain ⟨l, located, -⟩ := locate_of_isFile file
      exact grown.get?_of_opened (opened_of_located tree parent (eq_false_of_ne_true filled) located)
  next => exact .returned ⟨.refl tree, fun _ _ => rfl⟩

end OnDisk

namespace Store

variable {d : Disk} {path : Path} {doc : StoreDocument}

/-- What writing a document leaves of the files and folders. -/
structure Left (path : Path) (d : Disk) (result : Except DiskFault Unit) (after : Disk) : Prop where
  kept : Kept d after
  firm : ∀ l, after.get? l = some .folder → d.file? l = none
  spared : result.isOk = false → Spared d after
  settled : d.isFile path = true → ∀ l, after.get? l = some .folder → d.get? l = some .folder
  fenced : Fenced d after

theorem Left.of_grown {made after : Disk} {result : Except DiskFault Unit} (grown : Grown d made)
    (same : d.isFile path = true → ∀ l, made.get? l = d.get? l) (rewritten : Rewritten made after)
    (spared : result.isOk = false → Spared made after) : Left path d result after where
  kept := grown.kept.trans rewritten.kept
  firm l folder := by
    by_contra file
    rw [← grown.file?] at file
    exact noFolder_of_file file (rewritten.folders l folder)
  spared failed l file := spared failed l (grown.file? l ▸ file)
  settled found l folder := same found l ▸ rewritten.folders l folder
  fenced := grown.fenced.trans rewritten.fenced

theorem writeDocument_left (path : Path) (doc : StoreDocument) (tree : d.IsTree) :
    Ends (writeDocument path doc) d (Left path d) := by
  refine (OnDisk.makeParent_settled path tree).bind ?_ ?_
  · rintro _ made ⟨grown, same⟩
    refine (OnDisk.write_rewrites (draftPath path) doc.bytes grown.tree).bind ?_ ?_
    · rintro _ drafted ⟨rewritten, spared⟩
      apply (OnDisk.rename_rewrites (draftPath path) path rewritten.tree).mono
      rintro result after ⟨further, kept⟩
      exact .of_grown grown same (rewritten.trans further) fun failed => spared.trans (kept failed)
    · rintro f after ⟨rewritten, spared⟩
      exact .of_grown grown same rewritten fun _ => spared
  · rintro f made ⟨grown, same⟩
    have alike := Alike.refl made
    exact .of_grown grown same (alike.rewritten grown.tree) fun _ => alike.spared

theorem writeDocument_saved (path : Path) (doc : StoreDocument) (tree : d.IsTree) :
    Ends (writeDocument path doc) d fun result after => Saved path doc d result after ∧ Left path d result after :=
  ⟨writeDocument_ends path doc tree, writeDocument_left path doc tree⟩

/-- Before a store was written nothing that was there is gone. -/
structure Pending (d later : Disk) : Prop where
  tree : later.IsTree
  origin : later.origin = d.origin
  spared : Spared d later
  fenced : Fenced d later

/-- Once a store was written its file is found. -/
structure Settled (path : Path) (d later : Disk) : Prop where
  tree : later.IsTree
  firm : Firm d later
  sealed : later.sealed = d.sealed
  file : later.isFile path = true

theorem Pending.settled {later : Disk} (pending : Pending d later) (file : later.isFile path = true) :
    Settled path d later where
  tree := pending.tree
  firm := {
    origin := pending.origin
    files := fun l folder => by
      by_contra stands
      exact noFolder_of_file (pending.spared l stands) folder
    fixed := pending.fenced.fixed }
  sealed := pending.fenced.sealed
  file := file

theorem isFile_of_located {l : Location} (located : d.locate path = .ok l) (file : d.file? l ≠ none) :
    d.isFile path = true := by
  have found : d.find? path = d.get? l := by
    unfold find?
    rw [located]
  unfold isFile
  rw [found]
  unfold file? at file
  cases stands : d.get? l with
  | none => simp [stands] at file
  | some e =>
    cases e with
    | file => rfl
    | folder => simp [stands] at file

theorem isFile_of_read {content : ByteArray} (read : d.read path = .ok content) : d.isFile path = true := by
  obtain ⟨l, located, file⟩ := read_ok read
  exact isFile_of_located located (by simp [file?, file])

/-- Only a write that comes to an end removes a file, the draft. -/
theorem Pending.write {later : Disk} (pending : Pending d later) (path : Path) (doc : StoreDocument) :
    Ends (writeDocument path doc) later fun _ after => Pending d after ∨ Settled path d after := by
  refine (writeDocument_saved path doc pending.tree).mono fun result after ⟨saved, left⟩ => ?_
  have origin := saved.origin.trans pending.origin
  have fenced := pending.fenced.trans left.fenced
  cases result with
  | ok =>
    refine .inr ⟨saved.tree, ⟨origin, fun l folder => ?_, fenced.fixed⟩, fenced.sealed,
      isFile_of_read (saved.written rfl).2⟩
    by_contra stands
    exact pending.spared l stands (left.firm l folder)
  | error => exact .inl ⟨saved.tree, origin, pending.spared.trans (left.spared rfl), fenced⟩

theorem Settled.write {later : Disk} (settled : Settled path d later) (doc : StoreDocument) :
    Ends (writeDocument path doc) later fun _ after => Settled path d after := by
  refine (writeDocument_saved path doc settled.tree).mono fun result after ⟨saved, left⟩ => ?_
  obtain ⟨l, located, file⟩ := locate_of_isFile settled.file
  have fenced : Fenced d later := ⟨settled.sealed, settled.firm.fixed⟩
  have further := fenced.trans left.fenced
  refine ⟨saved.tree, ⟨saved.origin.trans settled.firm.origin, fun m folder => ?_, further.fixed⟩, further.sealed,
    isFile_of_located (left.kept.locate located) ?_⟩
  · exact settled.firm.files m (left.settled settled.file m folder)
  · rw [locate_reach settled.tree located] at file ⊢
    rcases saved.whole with same | written
    · rwa [same]
    · rw [written]
      exact Option.some_ne_none _

/-- What writing its document leaves, a call on a store leaves. -/
theorem perform_leaves {s : Store} {post : Disk → Prop} (call : StoreCall) (attached : s.path = some path)
    (fits : post d) (written : ∀ doc, Ends (writeDocument path doc) d fun _ after => post after) :
    Ends call.perform (s, d) fun _ after => post after.2 := by
  refine ends_of_follow ?_
  cases call.verdict s with
  | refused fault => exact .failed fits
  | kept answer => exact .returned fits
  | changed answer doc =>
    simp only [Verdict.follow, OnStore.commit, OnStore.setStore, OnStore.save, OnStore.store, bind_assoc, pure_bind]
    refine .modified (.looked ?_)
    simp only [attached, Bool.not_true, Bool.false_eq_true, if_false, bind_assoc, pure_bind]
    refine (onDisk_ends (written doc)).bind ?_ ?_
    · rintro _ after ⟨-, left, -⟩
      exact .modified (.returned left)
    · rintro _ after ⟨-, left, -⟩
      exact left

theorem performAll_pending {s : Store} {later : Disk} (calls : List StoreCall) (attached : s.path = some path)
    (stage : Pending d later ∨ Settled path d later) :
    Pending d (StoreCall.performAll calls (s, later)).2 ∨
      Settled path d (StoreCall.performAll calls (s, later)).2 := by
  induction calls generalizing s later with
  | nil => exact stage
  | cons call rest ih =>
    have tree : later.IsTree := stage.elim (·.tree) (·.tree)
    refine ih ((perform_ends call attached tree).attached.trans attached) ?_
    rcases stage with pending | settled
    · exact perform_leaves call attached (.inl pending) (pending.write path)
    · exact .inr (perform_leaves call attached settled settled.write)

theorem turn_settled {w : Store × Disk} (turn : StoreTurn) (attached : w.1.path = some path)
    (settled : Settled path d w.2) : (turn.run w).1.path = some path ∧ Settled path d (turn.run w).2 := by
  obtain ⟨s, later⟩ := w
  have called (call : StoreCall) : (call.perform.run s later).2.1.path = some path ∧
      Settled path d (call.perform.run s later).2.2 :=
    ⟨(perform_ends call attached settled.tree).attached.trans attached,
      perform_leaves call attached settled settled.write⟩
  cases turn with
  | call c => exact called c
  | reopen now =>
    obtain ⟨attached, settled⟩ := called .save
    unfold StoreTurn.run
    dsimp only
    split
    next saved written ran =>
      rw [ran] at attached settled
      refine ⟨?_, settled⟩
      unfold Store.reloaded
      rw [attached]
      rfl
    next unsaved ran =>
      rw [ran] at attached settled
      exact ⟨attached, settled⟩

/-- A store stays where it was written once, whatever is done with it. -/
theorem runAll_settled {w : Store × Disk} (turns : List StoreTurn) (attached : w.1.path = some path)
    (settled : Settled path d w.2) : Settled path d (StoreTurn.runAll turns w).2 := by
  induction turns generalizing w with
  | nil => exact settled
  | cons turn rest ih =>
    obtain ⟨attached, settled⟩ := turn_settled turn attached settled
    exact ih attached settled

end Store

namespace Discovery

open StoreCall

/-- The place that was picked is found again, and nothing is changed. -/
theorem Picked.located {d later : Disk} {env : Environment} {program found : Option Path}
    (picked : Picked d (candidates env program) found) (settled : Settled (found.getD projectStore) d later) :
    locate env program later = (found.getD projectStore, later) := by
  cases picked with
  | some split shut =>
    exact locate_first split (fun p member => shut p member later settled.tree settled.firm) settled.file
  | none shut =>
    have absent := shut projectStore (projectStore_candidate env program) later settled.tree settled.firm
    exact absurd settled.file (by simp [absent])

/-- The first place with a file is found, and nothing is changed. Where there is none, and all folders are made that
files on the way and sealed folders leave room for, the place that is picked is found again ever after a store from
there was changed and saved, whatever failed on the way and whatever is done with the store then. -/
theorem locate_stable {d : Disk} (tree : d.IsTree) (env : Environment) (program : Option Path) :
    ((∃ p ∈ candidates env program, d.isFile p = true) → ∃ before c after,
      candidates env program = before ++ c :: after ∧ (∀ p ∈ before, d.isFile p = false) ∧ d.isFile c = true ∧
        (locate env program).run d = (c, d)) ∧
    ∀ c made, (∀ p ∈ candidates env program, d.isFile p = false) → d.hitches = [] →
      (locate env program).run d = (c, made) → ∀ now hitches calls,
        let start : Disk := { made with hitches := hitches }
        let saved := performAll calls (Store.load start c now, start)
        Mutated calls (Store.load start c now).document → saved.1.dirty = false → ∀ turns,
          let later := (StoreTurn.runAll turns saved).2
          (locate env program).run later = (c, later) := by
  constructor
  · rintro ⟨p, member, file⟩
    obtain ⟨c, found⟩ := Option.isSome_iff_exists.mp (List.find?_isSome.mpr ⟨p, member, file⟩)
    obtain ⟨file, before, after, split, others⟩ := List.find?_eq_some_iff_append.mp found
    have missing : ∀ p ∈ before, d.isFile p = false := fun p earlier => by simpa using others p earlier
    exact ⟨before, c, after, split, missing, file, locate_first split missing file⟩
  · intro c made missing calm ran now hitches calls start saved mutated clean turns later
    obtain ⟨grown, picked⟩ := firstPreparable_calm (candidates env program) tree calm
    obtain ⟨rfl, rfl⟩ := Prod.mk.inj ((locate_missing missing).symm.trans ran)
    have pending : Pending d start := {
      tree := ⟨grown.tree.based, grown.tree.rooted⟩
      origin := grown.origin
      spared := fun l file => by rwa [show start.file? l = _ from grown.file? l]
      fenced := ⟨grown.fenced.sealed, grown.fenced.fixed⟩ }
    obtain ⟨attached, -, -⟩ := performAll_attached calls (s := Store.load start _ now) rfl pending.tree
    have current := performAll_current calls rfl pending.tree (.inr mutated)
    have file := isFile_of_read (current clean).2
    have settled := (performAll_pending calls rfl (.inl pending)).elim (·.settled file) id
    exact picked.located (runAll_settled turns attached settled)

/-- A folder to work in, where a file stands in the way of the folder of the project's own data, and one for services
that nothing may be added to. -/
def obstructed : Disk :=
  let work := (Disk.empty.put ["work"] .folder).put ["work", ".wforge"] (.file .empty)
  { work.put ["srv"] .folder with origin := ["work"], sealed := [["srv"]] }

/-- A disk with two stores besides. -/
def furnished : Disk :=
  ((obstructed.put ["opt"] .folder).put ["opt", "nucleus.json"] (.file .empty)).put ["nucleus.json"] (.file .empty)

def atHome : Environment := [("WFORGE_NUCLEUS", "/srv/wforge/nucleus.json"), ("HOME", "/home")]

def ownPattern : FixPattern := { id := "own-1", errorPattern := "TS2304", fix := .manual "Add the import" }

/-- A store that is loaded and given a pattern. Its first write is cut short. -/
def savedFrom (store : Path) (made : Disk) : Store × Disk :=
  performAll [.addPattern ownPattern default, .save]
    (Store.load { made with hitches := [.cut 10] } store default, { made with hitches := [.cut 10] })

theorem addPattern_mutates {doc : StoreDocument} {p : FixPattern}
    (new : (Store.get? { document := doc } p.id).isSome = false) (now : Timestamp) :
    (StoreCall.addPattern p now).Mutates doc := ⟨.done, doc.withPattern p now, if_neg (by simp [new])⟩

theorem obstructed_store_located_again :
    let program : Option Path := some ⟨"/opt/wforge"⟩
    let c : Path := ⟨"/home/.config/wforge/nucleus.json"⟩
    obstructed.IsTree ∧ (∀ p ∈ candidates atHome program, obstructed.isFile p = false) ∧ obstructed.hitches = [] ∧
      (∃ made, (locate atHome program).run obstructed = (c, made) ∧ (savedFrom c made).1.dirty = false ∧
        ∀ turns, (locate atHome program).run (StoreTurn.runAll turns (savedFrom c made)).2 =
          (c, (StoreTurn.runAll turns (savedFrom c made)).2)) ∧
      furnished.IsTree ∧ (∃ p ∈ candidates atHome program, furnished.isFile p = true) ∧
      ∃ before c after, candidates atHome program = before ++ c :: after ∧
        (∀ p ∈ before, furnished.isFile p = false) ∧ furnished.isFile c = true ∧
        (locate atHome program).run furnished = (c, furnished) := by
  intro program c
  have tree : obstructed.IsTree := by decide
  have missing : ∀ p ∈ candidates atHome program, obstructed.isFile p = false := by decide +kernel
  have furnishedTree : furnished.IsTree := by decide
  have file : ∃ p ∈ candidates atHome program, furnished.isFile p = true := by decide +kernel
  have found : ((locate atHome program).run obstructed).1 = c := by decide +kernel
  obtain ⟨made, ran, new, clean⟩ : ∃ made, (locate atHome program).run obstructed = (c, made) ∧
      (Store.get? { document := (Store.load { made with hitches := [.cut 10] } c default).document }
        ownPattern.id).isSome = false ∧ (savedFrom c made).1.dirty = false :=
    ⟨((locate atHome program).run obstructed).2, Prod.fst_eq_iff.mp found, by decide +kernel, by decide +kernel⟩
  have again := (locate_stable tree atHome program).2 c made missing rfl ran default [.cut 10]
    [.addPattern ownPattern default, .save] (.inl (addPattern_mutates new default)) clean
  exact ⟨tree, missing, rfl, ⟨made, ran, clean, again⟩, furnishedTree, file,
    (locate_stable furnishedTree atHome program).1 file⟩

end Discovery

end WidgetRepair
