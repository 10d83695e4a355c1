import WidgetRepair.Package.Files
import WidgetRepair.Proofs.DiskSteps
import WidgetRepair.Proofs.LiteralPaths
import WidgetRepair.Proofs.PlaceholderText
import WidgetRepair.Proofs.WidgetNames

/-! Where the files of a package stand: each at the end of names of its own behind the folder of the
package, and none of them on the way to another. -/

namespace WidgetRepair

namespace Package

/-- The names that lead to the files of a package, in order. -/
def fileNames (w : Widget) : List (List String) :=
  let component := w.componentName
  [["package.json"], ["tsconfig.json"], [".gitignore"], ["src", "package.xml"],
    ["src", component ++ ".tsx"], ["src", component ++ ".editorConfig.ts"],
    ["src", "ui", component ++ ".css"], ["src", component ++ ".xml"],
    ["typings", component ++ "Props.d.ts"]]

theorem files_paths (w : Widget) : (files w).map (·.1) = (fileNames w).map (Path.along false) := by
  have one (a : String) : "/".intercalate [a] = a := rfl
  have two (a b : String) : "/".intercalate [a, b] = a ++ ("/" ++ b) := by
    rw [← String.append_assoc]
    rfl
  have three (a b c : String) : "/".intercalate [a, b, c] = a ++ ("/" ++ (b ++ ("/" ++ c))) := by
    simp only [← String.append_assoc]
    rfl
  have src (s : String) : "src/" ++ s = "src" ++ ("/" ++ s) := by rw [← String.append_assoc]; rfl
  have ui (s : String) : "src/ui/" ++ s = "src" ++ ("/" ++ ("ui" ++ ("/" ++ s))) := by
    simp only [← String.append_assoc]; rfl
  have typings (s : String) : "typings/" ++ s = "typings" ++ ("/" ++ s) := by rw [← String.append_assoc]; rfl
  simp only [files, templates, fileNames, Path.along, Manifest.fileName, List.map_append, List.map_cons,
    List.map_nil, one, two, three, src, ui, typings, String.append_assoc]
  rfl

theorem joined_toList (lines : List String) :
    (Templates.joined lines).toList = lines.flatMap fun line => line.toList ++ ['\n'] := by
  induction lines with
  | nil => rfl
  | cons line rest ih =>
    rw [Templates.joined] at ih ⊢
    rw [List.map_cons, String.join_cons, String.toList_append, String.toList_append, ih, List.flatMap_cons]
    rfl

theorem unresolved_joined (lines : List String) (values : Placeholder.Values) :
    Placeholder.unresolved (Templates.joined lines) values =
      (Placeholder.pieces (lines.flatMap fun line => line.toList ++ ['\n'])).filterMap
        (Placeholder.unknown? values) := by
  rw [Placeholder.unresolved_eq, joined_toList]

/-- Every template asks only for values that there are, whatever they are. -/
theorem templates_resolved (w : Widget) : ∀ t ∈ templates w, Placeholder.unresolved t.2 (values w) = [] := by
  intro t member
  have names : (values w).map (·.1) = (values { name := "" }).map (·.1) := rfl
  rw [Placeholder.unresolved_congr names]
  simp only [templates, List.mem_cons, List.not_mem_nil, or_false] at member
  obtain rfl | rfl | rfl | rfl | rfl | rfl := member
  all_goals
    refine (unresolved_joined _ _).trans ?_
    decide +kernel

theorem checkTemplates (w : Widget) : (templates w).forM (checkTemplate w) = .ok () := by
  suffices all : ∀ items : List (Path × String), (∀ t ∈ items, t ∈ templates w) →
      items.forM (checkTemplate w) = .ok () from all _ fun _ member => member
  intro items inside
  induction items with
  | nil => rfl
  | cons t rest ih =>
    obtain ⟨first, later⟩ := List.forall_mem_cons.mp inside
    have passed : checkTemplate w t = .ok () := by
      rw [checkTemplate, templates_resolved w t first]
      rfl
    rw [List.forM_eq_forM, List.forM_cons, passed]
    exact ih later

theorem render_of_runnable {w : Widget} (runs : w.runnable = true) : render w = .ok (files w) := by
  rw [render, runs, checkTemplates]
  rfl

/-- What generating a package comes to for a widget that has a name left to build under. -/
theorem generate_of_runnable {w : Widget} (runs : w.runnable = true) (folder : Path) (mode : Mode) :
    generate w folder mode = (do
      let d ← get
      if d.exists? folder && !d.isFolder folder then throw (.notFolder folder)
      onDisk (OnDisk.makeFolders folder)
      (files w).foldlM (place folder mode) { folder := folder }) := by
  rw [generate, render_of_runnable runs]
  rfl

theorem render_eq_ok {w : Widget} {all : List (Path × String)} (rendered : render w = .ok all) : all = files w := by
  cases runs : w.runnable with
  | true =>
    rw [render_of_runnable runs] at rendered
    exact (Except.ok.inj rendered).symm
  | false =>
    rw [render, runs] at rendered
    cases rendered

/-- Names that lead neither to the same place nor one to the way of the other. -/
def Apart (names others : List String) : Prop := ¬ names <+: others ∧ ¬ others <+: names

theorem ne_of_last {a b : String} (last : a.toList.getLast? ≠ b.toList.getLast?) : a ≠ b := by
  rintro rfl
  exact last rfl

theorem fileNames_apart (w : Widget) : (fileNames w).Pairwise Apart := by
  have own : "package.xml" ≠ w.componentName ++ ".xml" := by
    intro same
    apply w.componentName_ne_package
    have split : "package.xml" = "package" ++ ".xml" := by decide
    exact (String.append_left_inj _).mp (same.symm.trans split)
  have source : "package.xml" ≠ w.componentName ++ ".tsx" := ne_of_last (by simp)
  have editor : "package.xml" ≠ w.componentName ++ ".editorConfig.ts" := ne_of_last (by simp)
  have source_ui : w.componentName ++ ".tsx" ≠ "ui" := ne_of_last (by simp)
  have editor_ui : w.componentName ++ ".editorConfig.ts" ≠ "ui" := ne_of_last (by simp)
  have own_ui : w.componentName ++ ".xml" ≠ "ui" := ne_of_last (by simp)
  simp [fileNames, Apart, own, own.symm, source, source.symm, editor, editor.symm, source_ui, editor_ui, own_ui]

theorem slashless_of_all {text : List Char} (all : text.all (fun c => !(c == '/')) = true) :
    ∀ c ∈ text, (c == '/') = false := by
  intro c member
  simpa using List.all_eq_true.mp all c member

theorem plain_of_ending {name ending : String} (named : ∀ c ∈ name.toList, (c == '/') = false)
    (slashless : ending.toList.all (fun c => !(c == '/')) = true) (long : 2 < ending.toList.length) :
    Path.Plain (name ++ ending) where
  step := by
    have size : 2 < (name ++ ending).toList.length := by
      rw [String.toList_append, List.length_append]
      omega
    have step : Path.stepOf? (name ++ ending).toList = some (.into (String.ofList (name ++ ending).toList)) := by
      apply Path.stepOf?_name
      all_goals
        intro short
        rw [short] at size
        contradiction
    rwa [String.ofList_toList] at step
  slashless := by
    intro c member
    rw [String.toList_append] at member
    exact (List.mem_append.mp member).elim (named c) (slashless_of_all slashless c)

theorem fileNames_plain (w : Widget) : ∀ names ∈ fileNames w, names ≠ [] ∧ ∀ name ∈ names, Path.Plain name := by
  have fixed {name : String} (step : Path.stepOf? name.toList = some (.into name))
      (slashless : name.toList.all (fun c => !(c == '/')) = true) : Path.Plain name :=
    ⟨step, slashless_of_all slashless⟩
  have manifest : Path.Plain "package.json" := fixed (by decide) (by decide)
  have compiler : Path.Plain "tsconfig.json" := fixed (by decide) (by decide)
  have ignored : Path.Plain ".gitignore" := fixed (by decide) (by decide)
  have src : Path.Plain "src" := fixed (by decide) (by decide)
  have contents : Path.Plain "package.xml" := fixed (by decide) (by decide)
  have ui : Path.Plain "ui" := fixed (by decide) (by decide)
  have typings : Path.Plain "typings" := fixed (by decide) (by decide)
  have of_component (ending : String) (slashless : ending.toList.all (fun c => !(c == '/')) = true)
      (long : 2 < ending.toList.length) : Path.Plain (w.componentName ++ ending) :=
    plain_of_ending w.componentName_slashless slashless long
  have source := of_component ".tsx" (by decide) (by decide)
  have editor := of_component ".editorConfig.ts" (by decide) (by decide)
  have style := of_component ".css" (by decide) (by decide)
  have own := of_component ".xml" (by decide) (by decide)
  have typed := of_component "Props.d.ts" (by decide) (by decide)
  simp only [fileNames, List.forall_mem_cons, ne_eq, reduceCtorEq, not_false_eq_true,
    true_and, and_true, List.not_mem_nil, false_implies, implies_true]
  exact ⟨manifest, compiler, ignored, ⟨src, contents⟩, ⟨src, source⟩, ⟨src, editor⟩, ⟨src, ui, style⟩,
    ⟨src, own⟩, typings, typed⟩

end Package

end WidgetRepair
