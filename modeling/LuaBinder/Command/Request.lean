import LuaBinder.Command.Switch

/-!
Requests: what the arguments of the program ask for.

* `Verb`, `Shell`: the commands, and the shells that completions are written for.
* `Action`, `Request`: a command with its arguments, and anything that can be asked for.
* `parse?`: the request of a list of arguments.
-/

namespace LuaBinder.Command

/-! ### Commands -/

/-- The commands. -/
inductive Verb where
  | bake
  | list
  | completions
  deriving DecidableEq

/-- The name of a command. -/
def Verb.name : Verb → String
  | .bake => "bake"
  | .list => "list"
  | .completions => "completions"

/-- What a command does. -/
def Verb.about : Verb → String
  | .bake => "Generate binding sources from doxygen XML"
  | .list => "List classes, their bound members and the ignored ones"
  | .completions => "Generate shell completions"

/-- All commands. -/
def Verb.all : List Verb := [.bake, .list, .completions]

/-- The command of a name. -/
def Verb.ofName? (name : String) : Option Verb := Verb.all.find? (·.name == name)

/-- The shells that completions are written for. -/
inductive Shell where
  | bash
  | elvish
  | fish
  | powershell
  | zsh
  deriving DecidableEq

/-- The name of a shell. -/
def Shell.name : Shell → String
  | .bash => "bash"
  | .elvish => "elvish"
  | .fish => "fish"
  | .powershell => "powershell"
  | .zsh => "zsh"

/-- All shells. -/
def Shell.all : List Shell := [.bash, .elvish, .fish, .powershell, .zsh]

/-- The shell of a name. -/
def Shell.ofName? (name : String) : Option Shell := Shell.all.find? (·.name == name)

/-! ### Shapes of the commands -/

/-- The switch for more messages. -/
def verboseSwitch : Switch :=
  ⟨"verbose", some 'v', .flag, "Show debug logs (skipped members, loaded classes)"⟩

/-- The switch for help. -/
def helpSwitch : Switch := ⟨"help", some 'h', .help, "Print help"⟩

/-- The switch for the version. -/
def versionSwitch : Switch := ⟨"version", some 'V', .version, "Print version"⟩

/-- The switches that say where declarations come from. -/
def sourceSwitches : List Switch :=
  [⟨"config", some 'c', .path, "Path to dub.toml (defaults to ./dub.toml when present)"⟩,
   ⟨"input", some 'i', .path, "Doxygen XML directory"⟩,
   ⟨"name", none, .text, "Namespace to bind"⟩]

/-- The switches of a command alone. -/
def Verb.switches : Verb → List Switch
  | .bake =>
    sourceSwitches
      ++ [⟨"output", some 'o', .path, "Output directory (overrides dub.toml setting)"⟩,
          ⟨"dry-run", none, .flag, "Preview generated code without writing to disk"⟩]
  | .list => sourceSwitches
  | .completions => []

/-- What a command accepts. -/
def Verb.shape (v : Verb) : Shape where
  switches := v.switches ++ [verboseSwitch, helpSwitch]
  operand :=
    match v with
    | .completions => some (Shell.all.map Shell.name)
    | _ => none

/-- What may stand in front of the command. -/
def frontShape : Shape where
  switches := [verboseSwitch, helpSwitch, versionSwitch]

/-! ### Requests -/

/-- Where declarations come from. -/
structure Source where
  config : Option String := none
  input : Option String := none
  name : Option String := none
  deriving DecidableEq

/-- A command with its arguments. -/
inductive Action where
  | bake (source : Source) (output : Option String) (dryRun : Bool)
  | list (source : Source)
  | completions (shell : Shell)
  deriving DecidableEq

/-- What help is about. -/
inductive Topic where
  | program
  | verb (v : Verb)
  | help
  deriving DecidableEq

/-- What can be asked for. -/
inductive Request where
  | act (action : Action)
  | help (topic : Topic)
  | version
  deriving DecidableEq

/-- The word that asks for help in the place of a command. -/
def helpWord : String := "help"

/-- The source that the switches name. -/
def Source.ofMatches (m : Matches) : Source where
  config := m.value? "config"
  input := m.value? "input"
  name := m.value? "name"

/-- The command with the arguments that were read. -/
def Verb.action? (v : Verb) (m : Matches) : Option Action :=
  match v with
  | .bake => some (.bake (.ofMatches m) (m.value? "output") (m.has "dry-run"))
  | .list => some (.list (.ofMatches m))
  | .completions => (m.operand.bind Shell.ofName?).map .completions

/-- The arguments in front of the command are read; then the name of the command and what follows
it. -/
def splitCommand (scan : Scan) : List String → Except Stop (String × List String)
  | [] => .error .misuse
  | arg :: args =>
    if ! scan.operandsOnly && ((Verb.ofName? arg).isSome || arg == helpWord) then .ok (arg, args)
    else do
      let scan ← scan.step frontShape arg
      splitCommand scan args

/-- The topic that the words behind a call for help name. -/
def topic? : List String → Option Topic
  | [] => some .program
  | [name] => if name == helpWord then some .help else (Verb.ofName? name).map .verb
  | _ => none

/-- The request of a command with the arguments behind it. -/
def Verb.request? (v : Verb) (args : List String) : Option Request :=
  match scan v.shape args with
  | .ok m => (v.action? m).map .act
  | .error .help => some (.help (.verb v))
  | .error .version => some .version
  | .error .misuse => none

/-- The request of a list of arguments, absent when they make no sense. -/
def parse? (args : List String) : Option Request :=
  match splitCommand {} args with
  | .error .help => some (.help .program)
  | .error .version => some .version
  | .error .misuse => none
  | .ok (name, args) =>
    match Verb.ofName? name with
    | some v => v.request? args
    | none => (topic? args).map .help

end LuaBinder.Command
