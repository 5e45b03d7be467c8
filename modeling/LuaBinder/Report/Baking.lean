import LuaBinder.Report.Listing

/-!
Baking: the bindings of the configured namespace, written or only shown.

* `bake`: the files written below the output directory, or shown for a dry run.
* `Baking.sheet`: what was done, as a report.
-/

namespace LuaBinder

open Store

/-- What became of the files. -/
inductive Outcome where
  | written (directory : String) (paths : Lua.Written)
  | shown (files : List Lua.GeneratedFile)
  deriving DecidableEq

/-- A finished run. -/
structure Baking where
  name : String
  language : Language
  classCount : Nat
  ignored : List (String × String)
  outcome : Outcome
  deriving DecidableEq

namespace Baking

/-- The functions left out under a heading with their number. -/
def ignoredSheet (b : Baking) : Sheet :=
  sectionSheet ("Ignored (" ++ toString b.ignored.length ++ ")") (excludedItems b.ignored)

/-- A file under a line with its path. -/
def fileSheet (file : Lua.GeneratedFile) : Sheet := [.divider file.path, .preformatted file.content]

/-- What became of the files as the first part of a report. -/
def outcomeSheet (b : Baking) : Sheet :=
  match b.outcome with
  | .written directory paths =>
    [.pair "Bindings"
       (b.name ++ " (" ++ b.language.name ++ ", " ++ toString b.classCount ++ " classes)"),
     .pair "Generated" directory]
      ++ paths.written.map .added
      ++ paths.kept.map fun path => .bullet (path ++ " (kept)")
  | .shown files =>
    files.flatMap fileSheet
      ++ [.divider "Summary",
          .preformatted (toString files.length ++ " files would be generated")]

/-- The run as a report. -/
def sheet (b : Baking) : Sheet := b.outcomeSheet ++ b.ignoredSheet

/-- A run for a namespace. -/
def ofNamespace (s : Settings) (n : NamespaceDecl) (outcome : Outcome) : Baking where
  name := n.name
  language := s.language
  classCount := n.classes.length
  ignored := ignoredNames s.options n
  outcome := outcome

end Baking

/-- What the files of a namespace become: written below the output directory, or only shown. -/
def produce (fs : FileSystem) (s : Settings) (dryRun : Bool) (n : NamespaceDecl) :
    FileSystem × Except RunError Outcome :=
  let (graph, bindings) := Lua.boundTo s.options n
  if dryRun then
    match Lua.preview s.options graph bindings n with
    | .ok files => (fs, .ok (.shown files))
    | .error e => (fs, .error (.rendering e))
  else
    match Lua.generate fs s.output s.options graph bindings n with
    | (fs, .ok done) => (fs, .ok (.written s.output done.toWritten))
    | (fs, .error e) => (fs, .error (.generating e))

/-- The bindings of the configured namespace, written or only shown. -/
def bake (fs : FileSystem) (s : Settings) (dryRun : Bool) :
    FileSystem × Except RunError Baking :=
  match s.load fs with
  | .error e => (fs, .error e)
  | .ok n =>
    match produce fs s dryRun n with
    | (fs, .ok outcome) => (fs, .ok (.ofNamespace s n outcome))
    | (fs, .error e) => (fs, .error e)

end LuaBinder
