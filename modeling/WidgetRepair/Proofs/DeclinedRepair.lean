import WidgetRepair.Proofs.OfflineRepair

/-! Repairs that were declined. The files of the widget are then what they were, unless one of the edits
that were tried broke off: an edit of several files that fails at one of them keeps what it wrote before,
and a write that is cut short keeps what it got to. -/

namespace WidgetRepair

open Edit Disk

variable {τ : Type} {watched : Location → Prop} {folder : Path} {w mid later : World τ}

/-- A world in which the watched files are what they were. -/
structure Undisturbed (watched : Location → Prop) (w later : World τ) : Prop where
  tree : later.disk.IsTree
  origin : later.disk.origin = w.disk.origin
  attached : later.store.path = w.store.path
  spared : Spares watched w.disk later.disk

/-- No watched file belongs to the store. -/
def Clear (watched : Location → Prop) (w : World τ) : Prop :=
  ∀ l, watched l → w.store.Apart w.disk l

namespace Undisturbed

theorem refl (tree : w.disk.IsTree) : Undisturbed watched w w := ⟨tree, rfl, rfl, .refl _⟩

theorem trans (first : Undisturbed watched w mid) (second : Undisturbed watched mid later) :
    Undisturbed watched w later where
  tree := second.tree
  origin := second.origin.trans first.origin
  attached := second.attached.trans first.attached
  spared := first.spared.trans second.spared

theorem clear (undisturbed : Undisturbed watched w later) (clear : Clear watched w) :
    Clear watched later := by
  intro l inside path attached
  rw [Disk.reach_of_origin undisturbed.origin, Disk.reach_of_origin undisturbed.origin]
  exact clear l inside path (undisturbed.attached.symm.trans attached)

end Undisturbed

/-- Taking down how a pattern fared changes only what belongs to the store. -/
theorem recordOutcome_undisturbed (stamps : Stamps) (id : String) (success : Bool)
    (tree : w.disk.IsTree) (clear : Clear watched w) :
    Undisturbed watched w (OnWorld.recordOutcome stamps id success w).2 := by
  have aside : Ends (OnStore.recordOutcome id success (stamps w.given).now) (w.store, w.disk)
      fun _ after => Aside w.store w.disk after :=
    .of_mapped (perform_aside (.recordOutcome id success (stamps w.given).now) tree)
  exact ⟨aside.tree, aside.origin, aside.attached, fun l inside => aside.elsewhere l (clear l inside)⟩

namespace Tryout

/-- The watched files are what they were on a disk, all the while that a task is carried out. -/
def Spares (watched : Location → Prop) (folder : Path) (d : Disk) (t : Tryout) : Prop :=
  ∀ seen, Task.Seen folder t.disk t.task seen → Disk.Spares watched d seen

/-- A task ended in a fault after it had written other bytes to a watched file. -/
def BrokeOff (watched : Location → Prop) (folder : Path) (t : Tryout) : Prop :=
  t.task.BrokeOff watched folder t.disk

theorem brokeOff_iff_marks {t : Tryout} (tree : t.disk.IsTree) (fruitless : t.Fruitless folder) :
    t.BrokeOff watched folder ↔ t.task.Marks watched folder t.disk := by
  refine ⟨And.left, ?_⟩
  intro marks
  refine ⟨marks, ?_⟩
  have ended := (Task.tried watched folder t.task tree).ran
  cases ran : (t.task.job folder).run t.disk with
  | mk result after =>
    unfold Ends at ended
    rw [ran] at ended
    cases result with
    | error fault => exact ⟨fault, after, rfl⟩
    | ok applied =>
      cases applied with
      | false => exact absurd marks (ended.2.idle rfl)
      | true => exact absurd ran (fruitless after)

theorem spares_iff {t : Tryout} (tree : t.disk.IsTree) (fruitless : t.Fruitless folder) :
    t.Spares watched folder t.disk ↔ ¬ t.BrokeOff watched folder := by
  rw [brokeOff_iff_marks tree fruitless]
  exact (Task.tried watched folder t.task tree).spared

end Tryout

theorem errand_undisturbed (e : Errand) (tree : w.disk.IsTree) (clear : Clear watched w)
    (fruitless : Tryout.Fruitless folder ⟨e.task, w.disk⟩)
    (whole : ¬ Tryout.BrokeOff watched folder ⟨e.task, w.disk⟩) :
    Undisturbed watched w (e.run folder w).2 := by
  have spares := (Tryout.spares_iff tree fruitless).mpr whole
  have ended := Task.tried watched folder e.task tree
  cases ran : (e.task.job folder).run w.disk with
  | mk result after =>
    unfold Ends at ended
    rw [ran] at ended
    have edited : Undisturbed watched w { w with disk := after } :=
      ⟨ended.tree, ended.origin, rfl, spares after (.ended ran)⟩
    obtain ⟨task, pattern⟩ := e
    simp only [Errand.run, stateM_bind, edit_run ran]
    cases pattern with
    | none => exact edited
    | some taken =>
      obtain ⟨stamps, id⟩ := taken
      exact edited.trans (recordOutcome_undisturbed stamps id false edited.tree (edited.clear clear))

/-- What tasks that were tried in turn leave of the watched files: these are what they were all the
while just if no task broke off. -/
structure Settled (watched : Location → Prop) (folder : Path) (w later : World τ)
    (tried : List Tryout) : Prop where
  spared : (∀ t ∈ tried, t.Spares watched folder w.disk) ↔ ∀ t ∈ tried, ¬ t.BrokeOff watched folder
  undisturbed : (∀ t ∈ tried, ¬ t.BrokeOff watched folder) → Undisturbed watched w later

namespace Settled

theorem nil (tree : w.disk.IsTree) : Settled watched folder w w [] :=
  ⟨⟨nofun, nofun⟩, fun _ => .refl tree⟩

theorem append {first second : List Tryout} (settled : Settled watched folder w mid first)
    (further : Undisturbed watched w mid → Settled watched folder mid later second) :
    Settled watched folder w later (first ++ second) where
  spared := by
    simp only [List.forall_mem_append]
    rw [settled.spared]
    apply and_congr_right
    intro whole
    have undisturbed := settled.undisturbed whole
    rw [← (further undisturbed).spared]
    have spared := undisturbed.spared
    exact ⟨fun spares t member seen moment => spared.symm.trans (spares t member seen moment),
      fun spares t member seen moment => spared.trans (spares t member seen moment)⟩
  undisturbed := by
    simp only [List.forall_mem_append]
    intro ⟨whole, rest⟩
    have undisturbed := settled.undisturbed whole
    exact undisturbed.trans ((further undisturbed).undisturbed rest)

end Settled

theorem errands_settled (errands : List Errand) (tree : w.disk.IsTree) (clear : Clear watched w)
    (fruitless : ∀ t ∈ Errand.tryouts folder errands w, t.Fruitless folder) :
    Settled watched folder w (Errand.finish folder errands w) (Errand.tryouts folder errands w) := by
  induction errands generalizing w with
  | nil => exact .nil tree
  | cons e rest ih =>
    obtain ⟨first, others⟩ := List.forall_mem_cons.mp fruitless
    have single : Settled watched folder w (e.run folder w).2 [⟨e.task, w.disk⟩] := by
      refine ⟨?_, ?_⟩
      · simp only [List.forall_mem_singleton]
        exact Tryout.spares_iff tree first
      · intro whole
        exact errand_undisturbed e tree clear first (whole _ List.mem_cons_self)
    exact single.append fun undisturbed => ih undisturbed.tree (undisturbed.clear clear) others

theorem strategy_settled (s : Offline τ) {f : Failure} {outcome : RepairOutcome}
    (tree : w.disk.IsTree) (clear : Clear watched w)
    (ended : s.strategy.attempt f w = (outcome, later)) (declined : outcome.applied = false) :
    Settled watched f.folder w later (Errand.tryouts f.folder (s.errands f w) (s.begun f w)) := by
  have followed := offline_declined s ended declined
  obtain ⟨disk, store⟩ := begun_site s f w
  have undisturbed : Undisturbed watched w (s.begun f w) := by
    refine ⟨by rw [disk]; exact tree, by rw [disk], by rw [store], ?_⟩
    rw [disk]
    exact .refl _
  rw [followed.finished]
  have begun : Settled watched f.folder w (s.begun f w) [] := ⟨⟨nofun, nofun⟩, fun _ => undisturbed⟩
  apply begun.append
  intro undisturbed
  exact errands_settled _ undisturbed.tree (undisturbed.clear clear) followed.fruitless

theorem chain_settled (chain : List (Offline τ)) {f : Failure} {notes : List String}
    {outcome : RepairOutcome} (tree : w.disk.IsTree) (clear : Clear watched w)
    (ended : Chain.askEach f notes (chain.map (·.strategy)) w = (outcome, later))
    (declined : outcome.applied = false) :
    Settled watched f.folder w later (Offline.tryouts f chain w) := by
  induction chain generalizing w notes with
  | nil =>
    cases ended
    exact .nil tree
  | cons s rest ih =>
    cases asked : s.strategy.attempt f w with
    | mk first mid =>
      simp only [List.map_cons, Chain.askEach, stateM_bind, asked] at ended
      split at ended
      next applied =>
        cases ended
        cases applied.symm.trans declined
      next quiet =>
        have settled := strategy_settled s tree clear asked (eq_false_of_ne_true quiet)
        apply settled.append
        intro undisturbed
        rw [asked]
        exact ih undisturbed.tree (undisturbed.clear clear) ended

/-- A location inside the folder of a widget. What belongs to the store is no file of the widget, even
if it lies there. -/
def WidgetFile (w : World τ) (f : Failure) (l : Location) : Prop :=
  w.disk.reach f.folder <+: l ∧ w.store.Apart w.disk l

def Offline.chain (strategies : List (Offline τ)) : Chain (World τ) := ⟨strategies.map (·.strategy)⟩

/-- A chain that declines leaves the files of the widget as they were, at every moment and at the end,
just if none of the edits it tried broke off. -/
theorem declined_repair_spares_iff (strategies : List (Offline τ)) (f : Failure) (w : World τ)
    (tree : w.disk.IsTree) (declined : ((Offline.chain strategies).repair f w).1.applied = false) :
    ((∀ t ∈ Offline.tryouts f strategies w, t.Spares (WidgetFile w f) f.folder w.disk) ↔
      ∀ t ∈ Offline.tryouts f strategies w, ¬ t.BrokeOff (WidgetFile w f) f.folder) ∧
    ((∀ t ∈ Offline.tryouts f strategies w, ¬ t.BrokeOff (WidgetFile w f) f.folder) →
      ∀ l, WidgetFile w f l →
        ((Offline.chain strategies).repair f w).2.disk.file? l = w.disk.file? l) := by
  cases ended : (Offline.chain strategies).repair f w with
  | mk outcome later =>
    rw [ended] at declined
    have clear : Clear (WidgetFile w f) w := fun _ inside => inside.2
    have settled := chain_settled strategies tree clear ended declined
    exact ⟨settled.spared, fun whole => (settled.undisturbed whole).spared⟩

namespace MixedSources

/-- A widget with two sources, of which the second is no text. -/
def disk : Disk :=
  ((Disk.empty.put ["w"] .folder).put ["w", "a.tsx"] (.file "let a;".toUTF8)).put ["w", "b.tsx"]
    (.file ⟨#[255]⟩)

theorem disk_isTree : disk.IsTree := by
  have folder : (Disk.empty.put ["w"] .folder).IsTree := empty_isTree.put (by decide) rfl nofun
  have first : ((Disk.empty.put ["w"] .folder).put ["w", "a.tsx"] (.file "let a;".toUTF8)).IsTree :=
    folder.put (by decide) rfl nofun
  exact first.put (by decide) rfl nofun

def sourceName : List Glob.Token := [.many, .char '.', .char 't', .char 's', .char 'x']

theorem visited (fuel : Nat) {p : Path} {name : String} (noFolder : disk.isFolder p = false)
    (named : p.fileName? = some name) (covered : Glob.covers sourceName name.toList = true) :
    Glob.visit disk false (fuel + 2) p [[.folders], sourceName] = [p] := by
  have recursive : Glob.isRecursive [.folders] = true := by decide +kernel
  have last : [sourceName].dropWhile Glob.isRecursive = [sourceName] := by decide +kernel
  rw [Glob.visit]
  simp only [recursive, last, noFolder, if_true, Bool.false_eq_true, if_false]
  rw [Glob.here, named]
  simp only [covered, if_true]
  rfl

theorem filled (fuel : Nat) :
    Glob.fill disk false (fuel + 4) ⟨"/"⟩ [[.char 'w'], [.folders], sourceName] =
      [⟨"/w/a.tsx"⟩, ⟨"/w/b.tsx"⟩] := by
  let folder := Glob.childOf ⟨"/"⟩ "w"
  have literal : Glob.literal? [.char 'w'] = some "w" := by decide +kernel
  have found : disk.exists? folder = true := by decide +kernel
  have wild : Glob.literal? [.folders] = none := by decide +kernel
  have inner : disk.isFolder folder = true := by decide +kernel
  have names : Glob.childNames disk folder = ["a.tsx", "b.tsx"] := by decide +kernel
  have first : Glob.childOf folder "a.tsx" = ⟨"/w/a.tsx"⟩ := by decide +kernel
  have second : Glob.childOf folder "b.tsx" = ⟨"/w/b.tsx"⟩ := by decide +kernel
  have source (name : String) (which : name = "a.tsx" ∨ name = "b.tsx") :
      Glob.visit disk false (fuel + 2) (Glob.childOf folder name) [[.folders], sourceName] =
        [Glob.childOf folder name] := by
    have covered : Glob.covers sourceName name.toList = true := by
      rcases which with rfl | rfl <;>
        simp [sourceName, Glob.covers, Glob.covers.coversFrom, Glob.Token.takes]
    refine visited fuel ?_ ?_ covered
    · rcases which with rfl | rfl <;> decide +kernel
    · rcases which with rfl | rfl <;> decide +kernel
  rw [Glob.fill]
  simp only [literal, folder, found]
  rw [Glob.fill]
  simp only [wild, folder, inner, names, List.flatMap_cons]
  rw [source "a.tsx" (.inl rfl), source "b.tsx" (.inr rfl), first, second]
  rfl

theorem matching : matchingFiles disk ⟨"/w"⟩ "**/*.tsx" = .ok [⟨"/w/a.tsx"⟩, ⟨"/w/b.tsx"⟩] := by
  have pattern : Glob.escape (root disk ⟨"/w"⟩).text ++ "/" ++
      String.ofList (withoutHere "**/*.tsx".toList) = "/w/**/*.tsx" := by decide +kernel
  have parts : (Glob.partTexts "w/**/*.tsx".toList).mapM Glob.tokens =
      .ok [[.char 'w'], [.folders], sourceName] := by decide +kernel
  have parsed : Glob.paths disk "/w/**/*.tsx" = (do
      let parts ← (Glob.partTexts "w/**/*.tsx".toList).mapM Glob.tokens
      return Glob.fill disk false (4 * (parts.length + 1) * 5) ⟨"/"⟩ parts) := rfl
  have found : Glob.paths disk "/w/**/*.tsx" = .ok [⟨"/w/a.tsx"⟩, ⟨"/w/b.tsx"⟩] := by
    rw [parsed, parts]
    exact congrArg Except.ok (filled 76)
  have kept : ([⟨"/w/a.tsx"⟩, ⟨"/w/b.tsx"⟩] : List Path).filter (fun p =>
      disk.isFile p && !p.parts.contains (.name "node_modules")) =
        [⟨"/w/a.tsx"⟩, ⟨"/w/b.tsx"⟩] := by decide +kernel
  unfold matchingFiles
  dsimp only
  rw [pattern, found]
  show Except.ok (List.mergeSort (List.filter _ _) pathAtMost) = _
  rw [kept, List.mergeSort_of_pairwise]
  decide +kernel

/-- The disk once the first source has its new line. -/
def edited : Disk :=
  disk.spent.put ["w", "a.tsx"] (.file (RuleRepair.reactImport ++ "\nlet a;").toUTF8)

theorem edits : (perform ⟨"/w"⟩ (.prepend "**/*.tsx" RuleRepair.reactImport)).run disk =
    (.error (.disk .notText), edited) := by
  have each : (editEach "" RuleRepair.reactImport [⟨"/w/a.tsx"⟩, ⟨"/w/b.tsx"⟩]).run disk =
      (.error (.disk .notText), edited) := by
    rw [editEach_cons]
    rfl
  exact run_bind_error ((Task.editFiles_run matching).trans each) _

def failure : Failure := ⟨"Cannot find name 'React'", ⟨"/w"⟩, { name := "w" }⟩

def world : World Unit :=
  { disk := disk, store := { path := none, document := .empty default }, outside := () }

def rules : List (Offline Unit) := [.rules (fun _ => ⟨default, "id"⟩) {}]

theorem declines : (Offline.chain rules).repair failure world =
    (.declined "chain" "heuristic: IO error: stream did not contain valid UTF-8",
      { world with disk := edited }) := by
  have rule : RuleRepair.rule? failure.diagnostic = some (.importReact RuleRepair.reactImport) := by
    decide +kernel
  have ran : OnWorld.edit (perform failure.folder (.prepend "**/*.tsx" RuleRepair.reactImport)) world =
      (.error (.disk .notText), { world with disk := edited }) := edit_run edits
  have attempted : (RuleRepair.strategy (fun _ => ⟨default, "id"⟩) none {}).attempt failure world =
      (.declined RuleRepair.name "IO error: stream did not contain valid UTF-8",
        { world with disk := edited }) := by
    unfold RuleRepair.strategy
    dsimp only
    rw [rule]
    dsimp only
    rw [RuleRepair.follow]
    simp only [RuleRepair.editAndLearn, stateM_bind, ran]
    rfl
  unfold Chain.repair
  simp only [Offline.chain, rules, List.map_cons, List.map_nil, Offline.strategy, Chain.askEach,
    stateM_bind, attempted]
  rfl

end MixedSources

open MixedSources in
/-- A repair that was declined has rewritten a source: the one that comes before the source that is no
text. -/
theorem declined_repair_rewrites :
    ((Offline.chain rules).repair failure world).1.applied = false ∧
      WidgetFile world failure ["w", "a.tsx"] ∧
      world.disk.readText ⟨"/w/a.tsx"⟩ = .ok "let a;" ∧
      ((Offline.chain rules).repair failure world).2.disk.readText ⟨"/w/a.tsx"⟩ =
        .ok "import * as React from 'react';\nlet a;" := by
  rw [declines]
  have inside : world.disk.reach failure.folder <+: ["w", "a.tsx"] := by decide +kernel
  exact ⟨rfl, ⟨inside, nofun⟩, by decide +kernel, by decide +kernel⟩

open MixedSources in
theorem declined_repair_of_mixed_sources :
    world.disk.IsTree ∧ ((Offline.chain rules).repair failure world).1.applied = false ∧
      ((∀ t ∈ Offline.tryouts failure rules world, t.Spares (WidgetFile world failure) ⟨"/w"⟩ disk) ↔
        ∀ t ∈ Offline.tryouts failure rules world, ¬ t.BrokeOff (WidgetFile world failure) ⟨"/w"⟩) := by
  have declined : ((Offline.chain rules).repair failure world).1.applied = false := by
    rw [declines]
    rfl
  exact ⟨disk_isTree, declined, (declined_repair_spares_iff rules failure world disk_isTree declined).1⟩

end WidgetRepair
