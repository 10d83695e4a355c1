import WidgetRepair.Store.Record

/-! What every new store holds. The ids of the patterns stay the same, so that a store written
earlier can be completed. -/

namespace WidgetRepair.Builtin

private def importReact : FixAction := .prepend "**/*.tsx" "import * as React from 'react';"

def patterns : List FixPattern := [
  { id := "builtin-react-import"
    errorPattern := "Cannot find name 'React'"
    keywords := ["react", "ts2304", "umd", "jsx"]
    fix := importReact
    description := "Add the missing React namespace import to TSX sources"
    confidence := 0.95
    provenance := .builtin },
  { id := "builtin-react-umd-global"
    errorPattern := "refers to a UMD global"
    keywords := ["umd", "global", "react", "ts2686"]
    fix := importReact
    description := "Import React instead of relying on the UMD global"
    confidence := 0.9
    provenance := .builtin },
  { id := "builtin-missing-build-script"
    errorPattern := "Missing script: \"build\""
    keywords := ["missing", "script", "build"]
    fix := .configChange [
      ("build", "pluggable-widgets-tools build:web"),
      ("dev", "pluggable-widgets-tools start:web"),
      ("lint", "pluggable-widgets-tools lint"),
      ("release", "pluggable-widgets-tools release:web")]
    description := "Add the standard pluggable-widgets-tools scripts"
    confidence := 0.95
    provenance := .builtin },
  { id := "builtin-missing-dev-script"
    errorPattern := "Missing script: \"dev\""
    keywords := ["missing", "script", "dev"]
    fix := .configChange [("dev", "pluggable-widgets-tools start:web")]
    description := "Add the dev script"
    confidence := 0.9
    provenance := .builtin },
  { id := "builtin-missing-module"
    errorPattern := "Cannot find module"
    keywords := ["module", "resolve", "ts2307"]
    fix := .dependencyAdd [] false
    description := "A dependency is missing from package.json"
    confidence := 0.8
    provenance := .builtin },
  { id := "builtin-classnames-module"
    errorPattern := "Cannot find module 'classnames'"
    keywords := ["classnames", "module"]
    fix := .dependencyAdd ["classnames"] false
    description := "Install classnames"
    confidence := 0.85
    provenance := .builtin },
  { id := "builtin-possibly-undefined"
    errorPattern := "Object is possibly 'undefined'"
    keywords := ["possibly", "undefined", "ts2532", "ts18048"]
    fix := .manual ("Guard the value with optional chaining or check " ++
      "`status === \"available\"` before reading it")
    description := "Null-safety violation that needs a code change"
    confidence := 0.6
    provenance := .builtin },
  { id := "builtin-possibly-null"
    errorPattern := "Object is possibly 'null'"
    keywords := ["possibly", "null", "ts2531"]
    fix := .manual ("Add a null check or use the non-null assertion only where the value is " ++
      "guaranteed")
    description := "Null-safety violation that needs a code change"
    confidence := 0.6
    provenance := .builtin },
  { id := "builtin-editable-value"
    errorPattern := "Property 'value' does not exist on type 'EditableValue"
    keywords := ["editablevalue", "value", "status"]
    fix := .manual ("Read `.value` only after checking the attribute status; use " ++
      "`.displayValue` for formatted text")
    description := "Attribute values are wrapped in EditableValue"
    confidence := 0.65
    provenance := .builtin }]

def templates : List WidgetTemplate := [
  { id := "display-basic"
    name := "Basic display widget"
    category := "Display"
    description := "Renders attribute values read-only"
    keywords := ["display", "readonly", "label", "badge"]
    propertyKinds := ["attribute", "string", "textTemplate"] },
  { id := "input-editable"
    name := "Editable input widget"
    category := "Input"
    description := "Two-way bound attribute editor with validation feedback"
    keywords := ["input", "form", "editable", "rating"]
    propertyKinds := ["attribute", "action", "boolean"] },
  { id := "list-datasource"
    name := "Datasource list widget"
    category := "Data"
    description := "Iterates a list datasource with linked attributes and item actions"
    keywords := ["list", "datasource", "items", "grid"]
    propertyKinds := ["datasource", "attribute", "widgets", "action"] }]

def notes : List ApiNote := [
  { name := "EditableValue"
    source := "mendix"
    usage := "props.value.status === ValueStatus.Available ? props.value.value : undefined"
    notes := ["`value` is undefined until the status is available",
      "Use `displayValue` for formatted text and `setValue` to write"] },
  { name := "ActionValue"
    source := "mendix"
    usage := "if (props.onClick?.canExecute) \x7b props.onClick.execute(); \x7d"
    notes := ["Guard `execute()` with `canExecute`"] },
  { name := "ListValue"
    source := "mendix"
    usage := "props.items.items?.map(item => ...)"
    notes := ["Items are undefined while loading",
      "Read linked attributes with `attr.get(item)`"] },
  { name := "DynamicValue"
    source := "mendix"
    usage := "props.caption.value ?? \"\""
    notes := ["Expressions and text templates resolve asynchronously"] }]

def practices : List Practice := [
  { id := "ts-react-import"
    category := "typescript"
    title := "Import React explicitly in every TSX file"
    description := "The widget toolchain does not inject the React global" },
  { id := "ts-unavailable-values"
    category := "typescript"
    title := "Treat every SDK value as possibly unavailable"
    description := "Values load asynchronously and start in the loading state" },
  { id := "build-scripts"
    category := "build"
    title := "Keep build, dev, lint and release scripts in package.json"
    description := "The build loop invokes the build script directly" },
  { id := "css-prefix"
    category := "styling"
    title := "Prefix CSS classes with the widget package name"
    description := "Widgets share one page stylesheet" }]

end WidgetRepair.Builtin
