import WidgetRepair.Command.Build
import WidgetRepair.Command.Explain
import WidgetRepair.Command.Knowledge
import WidgetRepair.Command.Patterns

/-! A run of the program: words in, lines and an exit code out. -/

namespace WidgetRepair

namespace Command

variable {τ : Type}

/-- Carries a command out. -/
def perform (s : Surroundings τ) (settings : Settings) : Command → OnConsole τ Unit
  | build a => a.run s settings
  | patterns query => query.run s settings
  | knowledge request => request.run s settings
  | explain a => a.run s settings

def settingsAndPerform (s : Surroundings τ) (c : Command) (named : Option Path) :
    OnConsole τ Unit := do
  let loaded := Settings.load (← OnConsole.disk) s.env named
  c.perform s (← OnConsole.ofExcept Complaint.ofSettings loaded)

/-- Ends a command; a complaint is said and gives the exit code. -/
def finish (s : Surroundings τ) (job : OnConsole τ Unit) : OnSite τ Nat := do
  match ← ExceptT.run job with
  | .ok _ => return 0
  | .error complaint =>
    OnSite.outside (s.host.echo .errors ("❌ Error: " ++ complaint.message))
    return complaint.exitCode

/-- The names of all commands. -/
def names : List String := grammar.commands.map (·.name)

def usageLines : List String :=
  ["Usage: " ++ programName ++ " [OPTIONS] <COMMAND>", "", "Commands:"] ++ names.map ("  " ++ ·)

/-- Says why there is no command to carry out. -/
def stop (s : Surroundings τ) : CommandLine.Stop → StateM τ Nat
  | .usage => do
    Program.echoAll s.host .errors ("error: the command line is not understood" :: "" :: usageLines)
    return 2
  | .help => do
    Program.echoAll s.host .output usageLines
    return 0
  | .version command => do
    s.host.echo .output (command ++ " " ++ programVersion)
    return 0

/-- Runs the program on the words that follow its name; gives its exit code. -/
def run (s : Surroundings τ) (words : List String) : OnSite τ Nat :=
  match ofWords s.env words with
  | .ok (c, named) => finish s (settingsAndPerform s c named)
  | .error why => OnSite.outside (stop s why)

end Command

end WidgetRepair
