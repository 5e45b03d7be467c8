import LuaBinder.Store.FileSystem

/-!
Writing generated files.

* `WriteRule`: whether an existing file is kept.
* `write`: a file written below a base directory under a rule, with the directories that it
  needs.
-/

namespace LuaBinder.Store

/-- How a generated file treats what stands at its path. -/
inductive WriteRule where
  | always
  | ifMissing
  deriving DecidableEq

/-- The file was written, or kept as it was. -/
inductive WriteOutcome where
  | written
  | kept
  deriving DecidableEq

/-- Why a file was not written. -/
inductive WriteError where
  | directory (path : String)
  | file (path : String)
  deriving DecidableEq

/-- The error in words. -/
def WriteError.message : WriteError → String
  | .directory path => "failed to create '" ++ path ++ "'"
  | .file path => "failed to write '" ++ path ++ "'"

/-- The file system with the directory above a path, or the reason why there is none. -/
def makeParent (fs : FileSystem) (path : String) : FileSystem × Except WriteError Unit :=
  match parent? path with
  | none => (fs, .ok ())
  | some above =>
    match fs.makeDirectories above with
    | (fs, true) => (fs, .ok ())
    | (fs, false) => (fs, .error (.directory above))

/-- A file written below a base directory, with the directories above it. -/
def write (fs : FileSystem) (rule : WriteRule) (base path content : String) :
    FileSystem × Except WriteError WriteOutcome :=
  let target := join base path
  if rule = .ifMissing ∧ fs.exists? target then (fs, .ok .kept)
  else
    match makeParent fs target with
    | (fs, .error e) => (fs, .error e)
    | (fs, .ok ()) =>
      match fs.put? target content.toUTF8 with
      | some fs => (fs, .ok .written)
      | none => (fs, .error (.file target))

end LuaBinder.Store
