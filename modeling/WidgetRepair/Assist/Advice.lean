import WidgetRepair.Text.Lower
import WidgetRepair.Text.Search

/-! Explanations that need no language model: a table of common failures. -/

namespace WidgetRepair.Advice

/-- What is said about an output that holds one of the texts, in any case. -/
structure Rule where
  signs : List String
  summary : String

def rules : List Rule := [
  { signs := ["cannot find name 'react'", "refers to a umd global"]
    summary := "The component uses JSX without React in scope. Add `import * as React from " ++
      "'react';` (or import `createElement`) at the top of the component source." },
  { signs := ["missing script"]
    summary := "package.json lacks the script being run. Pluggable widgets expect build, dev, " ++
      "lint and release scripts that call pluggable-widgets-tools." },
  { signs := ["cannot find module"]
    summary := "A module could not be resolved. Install the package (npm install <name>) or " ++
      "fix the relative import path." },
  { signs := ["possibly 'undefined'", "possibly 'null'", "ts2531", "ts2532", "ts18048"]
    summary := "Strict null checks flagged a value that may be missing. Widget props such as " ++
      "EditableValue and DynamicValue are unavailable while loading; check `status` or use " ++
      "optional chaining before reading `value`." },
  { signs := ["is not assignable to type"]
    summary := "A value does not match the generated prop typings. Compare the component code " ++
      "against typings/*Props.d.ts, which are derived from the widget XML." },
  { signs := ["enoent", "no such file or directory"]
    summary := "A referenced file is missing. Regenerate the widget or check paths in " ++
      "package.xml and the widget XML." },
  { signs := ["command not found", "is not recognized as an internal or external command"]
    summary := "The package manager or build tool is not on PATH. Install Node.js and run the " ++
      "install step before building." }]

/-- The first rule that speaks of an output. -/
def explanation? (output : String) : Option String :=
  let lowered := Text.lowered output
  (rules.find? fun rule => rule.signs.any (Text.contains lowered)).map (·.summary)

/-- What is said when no rule speaks of an output. -/
def fallback : String :=
  "No known explanation for this failure. Re-run with -v to see the full build output, " ++
    "or configure a language model for a detailed diagnosis."

end WidgetRepair.Advice
