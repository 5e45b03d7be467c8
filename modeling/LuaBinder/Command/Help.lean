import LuaBinder.Command.Request
import LuaBinder.Text.Quoted

/-!
Help on the program and on its commands, and completions for shells.
-/

namespace LuaBinder.Command

open Text

/-- The name of the program. -/
def programName : String := "dub"

/-- What the program does. -/
def programAbout : String := "Generate Lua bindings for C++ libraries from doxygen XML"

/-- What the word for help does. -/
def helpAbout : String := "Print this message or the help of the given subcommand(s)"

/-! ### Tables -/

/-- The rows of a table of two columns, the first one as wide as its longest entry. -/
def columns (rows : List (String × String)) : List String :=
  let width := (rows.map (·.1.length)).foldl max 0
  rows.map fun (left, right) => "  " ++ padRight width left ++ "  " ++ right

/-- A table under a heading, behind an empty line. -/
def helpSection (heading : String) (rows : List (String × String)) : List String :=
  if rows.isEmpty then [] else "" :: (heading ++ ":") :: columns rows

/-- A switch as it is written, with a name for its value. -/
def Switch.usage (s : Switch) : String :=
  (match s.short with
    | some letter => "-" ++ String.singleton letter ++ ", "
    | none => "    ")
    ++ "--" ++ s.long
    ++ (if s.role.takesValue then " <" ++ s.long.toUpper ++ ">" else "")

/-- The table of some switches. -/
def switchRows (switches : List Switch) : List (String × String) :=
  switches.map fun s => (s.usage, s.about)

/-! ### Topics -/

/-- The help on a command. -/
def Verb.helpLines (v : Verb) : List String :=
  let operand := if v.shape.operand.isSome then " <SHELL>" else ""
  [v.about, "", "Usage: " ++ programName ++ " " ++ v.name ++ " [OPTIONS]" ++ operand]
    ++ helpSection "Arguments"
        (v.shape.operand.toList.map fun choices =>
          ("<SHELL>", "Shell to generate completions for [possible values: "
            ++ String.intercalate ", " choices ++ "]"))
    ++ helpSection "Options" (switchRows v.shape.switches)

/-- The help on the program. -/
def programLines : List String :=
  [programAbout, "", "Usage: " ++ programName ++ " [OPTIONS] <COMMAND>"]
    ++ helpSection "Commands"
        (Verb.all.map (fun v => (v.name, v.about)) ++ [(helpWord, helpAbout)])
    ++ helpSection "Options" (switchRows frontShape.switches)

/-- The help on a topic. -/
def Topic.lines : Topic → List String
  | .program => programLines
  | .verb v => v.helpLines
  | .help =>
    [helpAbout, "", "Usage: " ++ programName ++ " help [COMMAND]..."]
      ++ helpSection "Arguments" [("[COMMAND]...", "Print help for the subcommand(s)")]

/-! ### Completions -/

/-- The words that may follow the name of the program. -/
def completionWords : String :=
  String.intercalate " " (Verb.all.map Verb.name ++ [helpWord])

/-- The statement that completes the words of the program in a shell. -/
def Shell.script : Shell → String
  | .bash => "complete -W '" ++ completionWords ++ "' " ++ programName
  | .elvish =>
    "set edit:completion:arg-completer[" ++ programName ++ "] = \x7b|@words| put "
      ++ completionWords ++ " \x7d"
  | .fish => "complete -c " ++ programName ++ " -f -a '" ++ completionWords ++ "'"
  | .powershell =>
    "Register-ArgumentCompleter -Native -CommandName " ++ programName
      ++ " -ScriptBlock \x7b '" ++ completionWords ++ "' -split ' ' \x7d"
  | .zsh => "compdef '_values command " ++ completionWords ++ "' " ++ programName

end LuaBinder.Command
