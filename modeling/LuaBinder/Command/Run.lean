import LuaBinder.Command.Help
import LuaBinder.Report.Baking

/-!
Running a request against a file system.

* `Reply`: what a run prints, and how it ends.
* `Source.settings`: the manifest with what the arguments say on top of it.
* `execute`: the run of a list of arguments.
-/

namespace LuaBinder.Command

open Store

/-- What a run prints, what it complains about, and the code it ends with. -/
structure Reply where
  exit : Nat := 0
  output : String := ""
  complaint : List String := []
  deriving DecidableEq

/-- The run failed, and why. -/
def Reply.failure (complaint : List String) : Reply := { exit := 1, complaint }

/-- The arguments made no sense. -/
def Reply.misuse : Reply where
  exit := 2
  complaint := ["error: unexpected or missing arguments"]

/-- The lines of a text. -/
def Reply.lines (lines : List String) : Reply where
  output := String.join (lines.map (· ++ "\n"))

/-- The manifest that a source names: the given one, else the one in the current directory if it
stands there. -/
def Source.manifest (fs : FileSystem) (source : Source) :
    Except ManifestError (Option ManifestFile) :=
  match source.config with
  | some path => (ManifestFile.read fs path).map some
  | none =>
    if fs.exists? manifestPath then (ManifestFile.read fs manifestPath).map some else .ok none

/-- The settings of a source: those of the manifest, and what the arguments say on top. -/
def Source.settings (fs : FileSystem) (source : Source) : Except ManifestError Settings :=
  (source.manifest fs).map fun manifest =>
    let settings := (manifest.map Settings.ofManifest).getD {}
    { settings with
      input := source.input.getD settings.input
      name := source.name.or settings.name }

/-- What a failing manifest makes the program say. -/
def manifestComplaint (e : ManifestError) : List String := e.message :: e.help?.toList

/-- The reply of a report, or of the error in its place. -/
def replyOf {α : Type} (sheet : α → Sheet) : Except RunError α → Reply
  | .ok report => { output := (sheet report).text }
  | .error e => .failure e.chain

/-- The run of a command. -/
def Action.run (fs : FileSystem) : Action → FileSystem × Reply
  | .list source =>
    match source.settings fs with
    | .error e => (fs, .failure (manifestComplaint e))
    | .ok settings => (fs, replyOf Listing.sheet (LuaBinder.list fs settings))
  | .bake source output dryRun =>
    match source.settings fs with
    | .error e => (fs, .failure (manifestComplaint e))
    | .ok settings =>
      let (fs, result) :=
        LuaBinder.bake fs { settings with output := output.getD settings.output } dryRun
      (fs, replyOf Baking.sheet result)
  | .completions shell => (fs, .lines [shell.script])

/-- The run of a request. -/
def Request.run (fs : FileSystem) : Request → FileSystem × Reply
  | .act action => action.run fs
  | .help topic => (fs, .lines topic.lines)
  | .version => (fs, .lines [programName ++ " " ++ Lua.version])

/-- The run of a list of arguments. -/
def execute (fs : FileSystem) (args : List String) : FileSystem × Reply :=
  match parse? args with
  | some request => request.run fs
  | none => (fs, .misuse)

end LuaBinder.Command
