import LuaBinder.Lua.SourceFile
import LuaBinder.Render.Resolution
import LuaBinder.Store.Output

/-!
All files of the bindings of a namespace: one for every class, one for the free functions if any of
them gets a binding, and the support header.

* `bindingFiles`, `preview`: the files, without and with the support header.
* `generate`: the files written below a directory; a support header that stands there is kept.
* `ignored`: the functions that get no binding; `generate` reports their names.
* `Failure`: why the files could not be made or written.
-/

namespace LuaBinder.Lua

open Store

/-! ### Files -/

/-- A file below the output directory. -/
structure GeneratedFile where
  path : String
  content : String
  deriving DecidableEq

/-- Why bindings were not made. -/
inductive Failure where
  | classText (name : String) (cause : BindingError)
  | namespaceText (name : String) (cause : BindingError)
  | writing (cause : WriteError)
  deriving DecidableEq

/-- The failure in words, then its causes. -/
def Failure.chain : Failure → List String
  | .classText name cause => ["failed to render class '" ++ name ++ "'", cause.message]
  | .namespaceText name cause => ["failed to render namespace '" ++ name ++ "'", cause.message]
  | .writing cause => [cause.message]

/-- The path of a binding source. -/
def sourcePath (stem : String) : String := stem ++ ".cpp"

/-- The path of the binding source of a class, with its namespace in front if it has one. -/
def classPath (c : ClassDecl) : String :=
  sourcePath <|
    match c.library with
    | some library => library ++ "_" ++ c.name
    | none => c.name

/-- The binding source of the class with the given number. -/
def classFile (g : DeclGraph) (b : Bindings) (c : ClassDecl) (i : Nat) :
    Except Failure GeneratedFile :=
  match b.renderClass g i c with
  | .ok content => .ok { path := classPath c, content }
  | .error cause => .error (.classText c.name cause)

/-- The binding source of the free functions, absent when none of them gets a binding. -/
def namespaceFile? (o : Options) (b : Bindings) (n : NamespaceDecl) :
    Except Failure (Option GeneratedFile) :=
  if (keptMembers o n.functions).isNone then .ok none
  else
    match b.renderNamespace n with
    | .ok content => .ok (some { path := sourcePath n.name, content })
    | .error cause => .error (.namespaceText n.name cause)

/-- The binding sources of a namespace, classes first. -/
def bindingFiles (o : Options) (g : DeclGraph) (b : Bindings) (n : NamespaceDecl) :
    Except Failure (List GeneratedFile) := do
  let classes ← n.classes.zipIdx.mapM fun (c, i) => classFile g b c i
  let free ← namespaceFile? o b n
  return classes ++ free.toList

/-- The support header as a file. -/
def supportFile : GeneratedFile where
  path := supportHeaderPath
  content := supportHeader

/-- All files of the bindings of a namespace. -/
def preview (o : Options) (g : DeclGraph) (b : Bindings) (n : NamespaceDecl) :
    Except Failure (List GeneratedFile) :=
  (bindingFiles o g b n).map (· ++ [supportFile])

/-- The functions that get no binding, those of the classes first, with the reasons. -/
def ignored (o : Options) (n : NamespaceDecl) : List (String × Exclusion) :=
  excludedOf o n.allFunctions

/-! ### Writing -/

/-- The paths that were written, and those that were kept. -/
structure Written where
  written : List String := []
  kept : List String := []
  deriving DecidableEq

/-- The paths with one more, by what happened to it. -/
def Written.add (w : Written) (path : String) : WriteOutcome → Written
  | .written => { w with written := w.written ++ [path] }
  | .kept => { w with kept := w.kept ++ [path] }

/-- Some files written below a directory, up to the first that fails. -/
def writeAll (base : String) :
    FileSystem → Written → List (WriteRule × GeneratedFile) →
      FileSystem × Except WriteError Written
  | fs, done, [] => (fs, .ok done)
  | fs, done, (rule, file) :: rest =>
    match write fs rule base file.path file.content with
    | (fs, .ok outcome) => writeAll base fs (done.add file.path outcome) rest
    | (fs, .error e) => (fs, .error e)

/-- What became of the bindings of a namespace: their files, and the names of the functions that
got none. -/
structure Generated extends Written where
  ignored : List String := []
  deriving DecidableEq

/-- The bindings of a namespace written below a directory. Nothing is written unless all of them
can be made. -/
def generate (fs : FileSystem) (base : String) (o : Options) (g : DeclGraph) (b : Bindings)
    (n : NamespaceDecl) : FileSystem × Except Failure Generated :=
  match bindingFiles o g b n with
  | .error e => (fs, .error e)
  | .ok files =>
    match writeAll base fs {} (files.map (.always, ·) ++ [(.ifMissing, supportFile)]) with
    | (fs, .ok done) =>
      (fs, .ok { toWritten := done, ignored := (ignored o n).map (·.1) })
    | (fs, .error e) => (fs, .error (.writing e))

/-- Everything that a namespace needs to resolve to the renderer of some options. -/
def boundTo (o : Options) (n : NamespaceDecl) : DeclGraph × Bindings :=
  ({ root? := some n }, Bindings.bound (renderer o))

end LuaBinder.Lua
