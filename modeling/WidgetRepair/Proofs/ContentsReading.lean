import WidgetRepair.Proofs.DefinitionReading
import WidgetRepair.Proofs.PackagePlaces
import WidgetRepair.Proofs.PlaceholderText

/-! What a reader of markup makes of the list of a package's contents. It is filled from a template, and what
is put in is not escaped: a company's name that means something in markup is read as markup. -/

namespace WidgetRepair

namespace Markup

theorem escape_plain {s : String} (plain : ∀ c ∈ s.toList, isNameChar c = true) : escape s = s.toList := by
  have each : ∀ c ∈ s.toList, escapeChar c = [c] := by
    intro c member
    have apart (d : Char) (other : isNameChar d = false) : c ≠ d := by
      rintro rfl
      rw [plain c member] at other
      cases other
    simp [escapeChar, apart '&' rfl, apart '<' rfl, apart '>' rfl, apart '"' rfl]
  rw [escape, List.flatMap_congr each]
  exact (List.flatMap_pure_eq_map id _).trans (List.map_id _)

theorem escape_append (s t : String) : escape (s ++ t) = escape s ++ escape t := by
  rw [escape, String.toList_append, List.flatMap_append, escape, escape]

/-- What an element of this name holds. -/
def Node.held? (name : String) : Node → Option (List Attribute × List Node)
  | .text _ => none
  | .element own attributes children => if own = name then some (attributes, children) else none

/-- The value of an attribute of the first element that names lead to, from each element into its children. -/
def valueAt? (key : String) : (names : List String) → List Node → Option String
  | [], _ => none
  | name :: names, nodes => do
    let (attributes, children) ← nodes.findSome? (Node.held? name)
    if names.isEmpty then (attributes.find? (·.name == key)).map (·.value) else valueAt? key names children

end Markup

namespace Package

open Markup Placeholder

def contents (w : Widget) : String := Placeholder.render Templates.contents (values w)

/-- Where the files of the package lie. -/
def ownPath (w : Widget) : String := Text.substitute w.company "." "/" ++ "/" ++ w.packageName

theorem mem_files_contents {w : Widget} {text : String} :
    (⟨"src/package.xml"⟩, text) ∈ files w ↔ text = contents w := by
  have own : "src/package.xml" ≠ "src/" ++ w.componentName ++ ".xml" := by
    intro same
    apply w.componentName_ne_package
    have split : "src/package.xml" = "src/" ++ "package" ++ ".xml" := by decide
    rw [split, String.append_left_inj, String.append_right_inj] at same
    exact same.symm
  have source : "src/package.xml" ≠ "src/" ++ w.componentName ++ ".tsx" := ne_of_last (by simp [List.getLast?_cons])
  have editor : "src/package.xml" ≠ "src/" ++ w.componentName ++ ".editorConfig.ts" :=
    ne_of_last (by simp [List.getLast?_cons])
  have style : "src/package.xml" ≠ "src/ui/" ++ w.componentName ++ ".css" :=
    ne_of_last (by simp [List.getLast?_cons])
  have typed : "src/package.xml" ≠ "typings/" ++ w.componentName ++ "Props.d.ts" :=
    ne_of_last (by simp [List.getLast?_cons])
  simp [files, templates, contents, Manifest.fileName, own, source, editor, style, typed]

def packageAttributes : List Attribute := [⟨"xmlns", "http://www.mendix.com/package/1.0/"⟩]

def moduleAttributes (w : Widget) : List Attribute :=
  [⟨"name", w.componentName⟩, ⟨"version", Manifest.packageVersion⟩,
    ⟨"xmlns", "http://www.mendix.com/clientModule/1.0/"⟩]

def widgetFile (w : Widget) : Element := .empty "widgetFile" [⟨"path", w.componentName ++ ".xml"⟩]

def behindModule : List Char := gap 0 ++ (closingTag "package".toList ++ gap 0)

def behindFiles : List Char := gap 1 ++ (closingTag "clientModule".toList ++ behindModule)

def behindFile : List Char := gap 2 ++ (closingTag "files".toList ++ behindFiles)

/-- From behind the quote in front of the path. -/
def fromPath (w : Widget) : List Char := (ownPath w).toList ++ '"' :: '/' :: '>' :: behindFile

def fromFiles (w : Widget) : List Char :=
  gap 2 ++ (opening "files" [] ++ '>' ::
    (gap 3 ++ ('<' :: ("file".toList ++ ([' '] ++ ("path".toList ++ '=' :: '"' :: fromPath w))))))

def fromWidgetFile (w : Widget) : List Char :=
  gap 3 ++ ((widgetFile w).tagged 3 ++ (gap 2 ++ (closingTag "widgetFiles".toList ++ fromFiles w)))

def fromPackage (w : Widget) : List Char :=
  gap 0 ++ (opening "package" packageAttributes ++ '>' ::
    (gap 1 ++ (opening "clientModule" (moduleAttributes w) ++ '>' ::
      (gap 2 ++ (opening "widgetFiles" [] ++ '>' :: fromWidgetFile w)))))

/-- The lines of the template in front of its first placeholder. The lists below it are what stands
between one placeholder and the next. -/
def openingLines : List String := [
  "<?xml version=\"1.0\" encoding=\"utf-8\" ?>", "\n",
  "<package xmlns=\"http://www.mendix.com/package/1.0/\">", "\n",
  "    <clientModule name=\""]

def versionLine : List String := ["\" version=\""]

def widgetFileLines : List String := [
  "\" xmlns=\"http://www.mendix.com/clientModule/1.0/\">", "\n",
  "        <widgetFiles>", "\n",
  "            <widgetFile path=\""]

def fileLines : List String := [
  ".xml\"/>", "\n",
  "        </widgetFiles>", "\n",
  "        <files>", "\n",
  "            <file path=\""]

def slash : List String := ["/"]

def closingLines : List String := [
  "\"/>", "\n",
  "        </files>", "\n",
  "    </clientModule>", "\n",
  "</package>", "\n"]

theorem template_toList : Templates.contents.toList =
    openingLines.flatMap String.toList ++ (written "component_name".toList ++
      (versionLine.flatMap String.toList ++ (written "version".toList ++
        (widgetFileLines.flatMap String.toList ++ (written "component_name".toList ++
          (fileLines.flatMap String.toList ++ (written "company_path".toList ++
            (slash.flatMap String.toList ++ (written "package_name".toList ++
              (closingLines.flatMap String.toList ++ [])))))))))) := by
  simp only [Templates.contents, Templates.joined, Templates.hole, Templates.component, Templates.version,
    Templates.companyPath, Templates.package, openingLines, versionLine, widgetFileLines, fileLines, slash,
    closingLines, List.map_cons, List.map_nil, List.flatMap_cons, List.flatMap_nil, String.join_cons, String.join_nil,
    String.toList_append, String.toList_ofList, List.append_assoc, String.toList_empty, List.append_nil]

theorem filled_value {w : Widget} (name v : String) (named : Placeholder.IsName name.toList)
    (known : (values w).find? (·.1 == name) = some (name, v)) (rest : List Char) :
    filled (values w) (written name.toList ++ rest) = v.toList ++ filled (values w) rest :=
  filled_written named (by rw [value?, String.ofList_toList, known, Option.map_some])

theorem contents_filled (w : Widget) : (contents w).toList =
    openingLines.flatMap String.toList ++ (w.componentName.toList ++
      (versionLine.flatMap String.toList ++ (Manifest.packageVersion.toList ++
        (widgetFileLines.flatMap String.toList ++ (w.componentName.toList ++
          (fileLines.flatMap String.toList ++ ((Text.substitute w.company "." "/").toList ++
            (slash.flatMap String.toList ++ (w.packageName.toList ++
              (closingLines.flatMap String.toList ++ [])))))))))) := by
  have named : ∀ name ∈ ["component_name", "version", "company_path", "package_name"],
      Placeholder.IsName name.toList := by
    simp [Placeholder.IsName, startsName, continuesName]
  simp only [List.forall_mem_cons] at named
  obtain ⟨componentName, versionName, pathName, packageName, -⟩ := named
  have component := filled_value (w := w) "component_name" w.componentName componentName (by simp [values])
  have version := filled_value (w := w) "version" Manifest.packageVersion versionName (by simp [values])
  have path := filled_value (w := w) "company_path" (Text.substitute w.company "." "/") pathName (by simp [values])
  have package := filled_value (w := w) "package_name" w.packageName packageName (by simp [values])
  rw [contents, render_toList, template_toList, filled_stretch (by simp [openingLines]), component,
    filled_stretch (by simp [versionLine]), version, filled_stretch (by simp [widgetFileLines]), component,
    filled_stretch (by simp [fileLines]), path, filled_stretch (by simp [slash]), package,
    filled_stretch (by simp [closingLines]), filled_nil]

theorem contents_toList (w : Widget) : (contents w).toList = Definition.declaration.toList ++ fromPackage w := by
  have name : escape w.componentName = w.componentName.toList :=
    escape_plain fun c member => Widget.componentName_chars member
  have ending : escape ".xml" = ".xml".toList := by simp [escape, escapeChar]
  have outer : escape "http://www.mendix.com/package/1.0/" = "http://www.mendix.com/package/1.0/".toList := by
    simp [escape, escapeChar]
  have inner : escape "http://www.mendix.com/clientModule/1.0/" = "http://www.mendix.com/clientModule/1.0/".toList := by
    simp [escape, escapeChar]
  have number : escape "1.0.0" = "1.0.0".toList := by simp [escape, escapeChar]
  rw [contents_filled]
  simp [openingLines, versionLine, widgetFileLines, fileLines, slash, closingLines, fromPackage, fromWidgetFile,
    fromFiles, fromPath, behindFile, behindFiles, behindModule, packageAttributes, moduleAttributes, widgetFile,
    Element.tagged, attribute_, opening, closingTag, gap, indent, escape_append, name, ending, outer, inner, number,
    ownPath, Definition.declaration, Manifest.packageVersion]

/-- What the list says. -/
def contentsElement (w : Widget) : Element :=
  .group "package" packageAttributes [.group "clientModule" (moduleAttributes w) [
    .group "widgetFiles" [] [widgetFile w],
    .group "files" [] [.empty "file" [⟨"path", ownPath w⟩]]]]

def contentsTree (w : Widget) : List Node := [gapNode 0, (contentsElement w).node 0, gapNode 0]

section Reading

variable {w : Widget}

theorem packageAttributes_named : ∀ a ∈ packageAttributes, Markup.IsName a.name.toList := by
  simp [packageAttributes, isName_iff, inName]

theorem moduleAttributes_named (w : Widget) : ∀ a ∈ moduleAttributes w, Markup.IsName a.name.toList := by
  simp [moduleAttributes, isName_iff, inName]

theorem contentsNames : ∀ name ∈ ["package", "clientModule", "widgetFiles", "files", "file", "path"],
    Markup.IsName name.toList := by
  simp [isName_iff, inName]

theorem reads_fromWidgetFile (w : Widget) : ReadsAs (fromWidgetFile w) [gapNode 3, (widgetFile w).node 3, gapNode 2]
    (closingTag "widgetFiles".toList ++ fromFiles w) := by
  have proper : (widgetFile w).Proper := by simp [widgetFile, Element.Proper, isName_iff, inName]
  have last := (ReadsAs.closing "widgetFiles".toList (fromFiles w)).gap 2 (by simp [closingTag])
  have file := Element.reads 3 (widgetFile w) proper last
  exact file.gap 3 (by simp [widgetFile, Element.tagged, opening])

theorem fromFiles_shorter (w : Widget) : (fromFiles w).length ≤ (fromWidgetFile w).length := by
  simp only [fromWidgetFile, List.length_append]
  omega

/-- The elements are read from the end of the text on: first what closes them, then each around the one in it. -/
theorem reads_fromPackage (resolved : readValue (fromPath w) = some (ownPath w, '/' :: '>' :: behindFile)) :
    ReadsAs (fromPackage w) (contentsTree w) [] := by
  have named := contentsNames
  simp only [List.forall_mem_cons] at named
  obtain ⟨package, module, widgetFiles, files, file, path, -⟩ := named
  have last : ReadsAs (gap 0) [gapNode 0] [] := by simpa using ReadsAs.nil.gap 0 (by simp)
  have behindModule : ReadsAs behindModule [gapNode 0] (closingTag "package".toList ++ gap 0) :=
    (ReadsAs.closing _ _).gap 0 (by simp [closingTag])
  have behindFiles : ReadsAs behindFiles [gapNode 1] (closingTag "clientModule".toList ++ Package.behindModule) :=
    (ReadsAs.closing _ _).gap 1 (by simp [closingTag])
  have behindFile : ReadsAs behindFile [gapNode 2] (closingTag "files".toList ++ Package.behindFiles) :=
    (ReadsAs.closing _ _).gap 2 (by simp [closingTag])
  have blank : ∀ c ∈ [' '], isSpace c = true := by simp [isSpace]
  have tag := (ReadsTag.closed Package.behindFile).value blank path resolved
  have element := behindFile.empty file (noName_cons rfl) tag (by simp; omega)
  have inner := ReadsAs.group files (List.forall_mem_nil _) (element.gap 3 (by simp))
    (by simp [Package.behindFile]; omega) behindFiles
  have lists := ReadsAs.group widgetFiles (List.forall_mem_nil _) (reads_fromWidgetFile w) (fromFiles_shorter w)
    (inner.gap 2 (by simp [opening]))
  have outer := ReadsAs.group module (moduleAttributes_named w) (lists.gap 2 (by simp [opening]))
    (by simp [fromWidgetFile, fromFiles, fromPath, Package.behindFile, Package.behindFiles]; omega) behindModule
  have whole := ReadsAs.group package packageAttributes_named (outer.gap 1 (by simp [opening]))
    (by simp [gap, indent]) last
  exact whole.gap 0 (by simp [opening])

/-- Whatever a reader makes of the list, it takes the path from behind the quote in front of it.
Of the elements only that of the widget files is passed as a whole, since what the name of a
company does to the text behind it is not known. -/
theorem path_of_finds {nodes : List Node} (found : Finds (fromPackage w) nodes) :
    ∃ value rest, readValue (fromPath w) = some (value, rest) ∧
      valueAt? "path" ["package", "clientModule", "files", "file"] nodes = some value := by
  have named := contentsNames
  simp only [List.forall_mem_cons] at named
  obtain ⟨package, module, widgetFiles, files, file, path, -⟩ := named
  have blank : ∀ c ∈ [' '], isSpace c = true := by simp [isSpace]
  obtain ⟨_, rfl, atPackage⟩ := found.behind_gap (by simp [opening])
  obtain ⟨_, _, rfl, inPackage⟩ := atPackage.inside package packageAttributes_named
  obtain ⟨_, rfl, atModule⟩ := inPackage.behind_gap (by simp [opening])
  obtain ⟨_, _, rfl, inModule⟩ := atModule.inside module (moduleAttributes_named w)
  obtain ⟨_, rfl, atLists⟩ := inModule.behind_gap (by simp [opening])
  obtain ⟨_, rfl, behindLists⟩ :=
    atLists.behind widgetFiles (List.forall_mem_nil _) (reads_fromWidgetFile w) (fromFiles_shorter w)
  obtain ⟨_, rfl, atFiles⟩ := behindLists.behind_gap (by simp [opening])
  obtain ⟨_, _, rfl, inFiles⟩ := atFiles.inside files (List.forall_mem_nil _)
  obtain ⟨_, rfl, atFile⟩ := inFiles.behind_gap (by simp)
  obtain ⟨value, rest, _, _, _, read, rfl⟩ := atFile.valued file (noName_cons rfl) blank path
  exact ⟨value, rest, read, by simp [valueAt?, List.findSome?_cons, Node.held?, gapNode, widgetFile, Element.node]⟩

end Reading

/-- A text that means nothing in markup but itself, where it stands between quotes. -/
def Unmarked (s : String) : Prop := ∀ c ∈ s.toList, c ≠ '&' ∧ c ≠ '<' ∧ c ≠ '"'

theorem unmarked_ownPath {w : Widget} : Unmarked (ownPath w) ↔ Unmarked w.company := by
  have path : (Text.substitute w.company "." "/").toList = w.company.toList.map fun c => if '.' = c then '/' else c :=
    String.toList_ofList.trans (Text.replaceAll_char '.' '/' w.company.toList)
  simp only [Unmarked, ownPath, String.toList_append, path, List.forall_mem_append, List.forall_mem_map]
  constructor
  · rintro ⟨⟨company, -⟩, -⟩ c member
    have own := company c member
    split at own
    next dot => simp [← dot]
    next => exact own
  · intro company
    refine ⟨⟨fun c member => ?_, by simp⟩, fun c member => ?_⟩
    · split
      next => simp
      next => exact company c member
    · have char := Widget.packageName_chars member
      refine ⟨?_, ?_, ?_⟩ <;> (rintro rfl; cases char)

theorem readValue_fromPath {w : Widget} (unmarked : Unmarked w.company) :
    readValue (fromPath w) = some (ownPath w, '/' :: '>' :: behindFile) := by
  have own : readValue (fromPath w) = _ := readValue_plain (unmarked_ownPath.mpr unmarked)
  rwa [String.ofList_toList] at own

theorem unmarked_of_readValue {w : Widget} {rest : List Char} (read : readValue (fromPath w) = some (ownPath w, rest)) :
    Unmarked w.company :=
  unmarked_ownPath.mp (readValue_self_iff.mp ⟨rest, by rwa [String.ofList_toList]⟩)

theorem read_contents {w : Widget} (unmarked : Unmarked w.company) : Markup.read (contents w) = some (contentsTree w) :=
  Definition.read_of_reads (contents_toList w) (reads_fromPackage (readValue_fromPath unmarked))

theorem path_contentsTree (w : Widget) :
    valueAt? "path" ["package", "clientModule", "files", "file"] (contentsTree w) = some (ownPath w) := by
  simp [contentsTree, contentsElement, Element.node, Element.allNodes, valueAt?, List.findSome?_cons, Node.held?,
    gapNode, widgetFile]

theorem path_iff {w : Widget} : (∃ nodes, Markup.read (contents w) = some nodes ∧
    valueAt? "path" ["package", "clientModule", "files", "file"] nodes = some (ownPath w)) ↔ Unmarked w.company := by
  constructor
  · rintro ⟨nodes, read, path⟩
    obtain ⟨value, rest, found, same⟩ := path_of_finds (Definition.finds_of_read (contents_toList w) read)
    cases path.symm.trans same
    exact unmarked_of_readValue found
  · exact fun unmarked => ⟨_, read_contents unmarked, path_contentsTree w⟩

/-- The list of what a package contains can be read, with the path of its files in it, exactly when the name
of the company holds no ampersand, no opening bracket and no quote: nothing of it is escaped. -/
theorem contents_faithful_iff {w : Widget} (runs : w.runnable = true) :
    Package.render w = .ok (files w) ∧ (∀ text, (⟨"src/package.xml"⟩, text) ∈ files w ↔ text = contents w) ∧
      (Unmarked w.company → Markup.read (contents w) = some (contentsTree w)) ∧
      ((∃ nodes, Markup.read (contents w) = some nodes ∧
        valueAt? "path" ["package", "clientModule", "files", "file"] nodes = some (ownPath w)) ↔
          Unmarked w.company) := by
  exact ⟨render_of_runnable runs, fun _ => mem_files_contents, read_contents, path_iff⟩

def badge (company : String) : Widget where
  name := "Badge"
  company := company

theorem badge_contents_read : (badge "acme.widgets").runnable = true ∧
    Markup.read (contents (badge "acme.widgets")) = some (contentsTree (badge "acme.widgets")) := by
  have runs : (badge "acme.widgets").runnable = true := by decide
  obtain ⟨-, -, read, -⟩ := contents_faithful_iff runs
  exact ⟨runs, read (by simp [Unmarked, badge])⟩

/-- A company with an ampersand in its name is not found in the list. -/
theorem ampersand_company_lost : (badge "A&B").runnable = true ∧
    ¬ ∃ nodes, Markup.read (contents (badge "A&B")) = some nodes ∧
      valueAt? "path" ["package", "clientModule", "files", "file"] nodes = some (ownPath (badge "A&B")) := by
  refine ⟨by decide, fun found => ?_⟩
  have unmarked := path_iff.mp found
  simp [Unmarked, badge] at unmarked

end Package

end WidgetRepair
