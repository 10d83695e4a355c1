import WidgetRepair.Package.Placeholder

/-! The files of a package that depend on the widget only by its names. They hold placeholders
for the values of the widget. -/

namespace WidgetRepair.Templates

/-- Lines with an ending each. -/
def joined (lines : List String) : String := String.join (lines.map (· ++ "\n"))

def hole (name : String) : String := String.ofList (Placeholder.written name.toList)

def component : String := hole "component_name"

def package : String := hole "package_name"

def companyPath : String := hole "company_path"

def shownName : String := hole "display_name"

def version : String := hole "version"

/-- The component, which shows its name until it is written. -/
def componentSource : String := joined [
  "import \x7b ReactElement, createElement \x7d from \"react\";",
  "import classNames from \"classnames\";",
  "",
  "import \x7b " ++ component ++ "ContainerProps \x7d from \"../typings/" ++ component ++
    "Props\";",
  "",
  "import \"./ui/" ++ component ++ ".css\";",
  "",
  "export function " ++ component ++ "(props: " ++ component ++
    "ContainerProps): ReactElement \x7b",
  "    return (",
  "        <div className=\x7bclassNames(\"widget-" ++ package ++
    "\", props.class)\x7d style=\x7bprops.style\x7d>",
  "            " ++ shownName,
  "        </div>",
  "    );",
  "\x7d"]

/-- The behaviour of the properties in the editor. -/
def editorConfig : String := joined [
  "import \x7b " ++ component ++ "PreviewProps \x7d from \"../typings/" ++ component ++
    "Props\";",
  "",
  "export type Properties = PropertyGroup[];",
  "",
  "type PropertyGroup = \x7b",
  "    caption: string;",
  "    propertyGroups?: PropertyGroup[];",
  "    properties?: Property[];",
  "\x7d;",
  "",
  "type Property = \x7b",
  "    key: string;",
  "    caption: string;",
  "    description?: string;",
  "\x7d;",
  "",
  "export function getProperties(_values: " ++ component ++
    "PreviewProps, defaultProperties: Properties): Properties \x7b",
  "    return defaultProperties;",
  "\x7d"]

/-- The style sheet. -/
def styleSheet : String := joined [
  ".widget-" ++ package ++ " \x7b",
  "    display: inline-block;",
  "\x7d"]

/-- The list of what the package contains. -/
def contents : String := joined [
  "<?xml version=\"1.0\" encoding=\"utf-8\" ?>",
  "<package xmlns=\"http://www.mendix.com/package/1.0/\">",
  "    <clientModule name=\"" ++ component ++ "\" version=\"" ++ version ++
    "\" xmlns=\"http://www.mendix.com/clientModule/1.0/\">",
  "        <widgetFiles>",
  "            <widgetFile path=\"" ++ component ++ ".xml\"/>",
  "        </widgetFiles>",
  "        <files>",
  "            <file path=\"" ++ companyPath ++ "/" ++ package ++ "\"/>",
  "        </files>",
  "    </clientModule>",
  "</package>"]

/-- The settings of the compiler. -/
def compilerSettings : String := joined [
  "\x7b",
  "    \"extends\": \"@mendix/pluggable-widgets-tools/configs/tsconfig.base.json\",",
  "    \"compilerOptions\": \x7b",
  "        \"baseUrl\": \"./\"",
  "    \x7d,",
  "    \"include\": [\"./src\", \"./typings\"]",
  "\x7d"]

/-- What version control leaves out. -/
def ignored : String := joined ["node_modules/", "dist/"]

end WidgetRepair.Templates
