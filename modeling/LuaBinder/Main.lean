import LuaBinder.Command.Run

/-!
The program: it looks at the files that a run can read, runs the request on them, and writes down
what changed.
-/

namespace LuaBinder.Program

open Command Store

/-- The path of a location from the root. -/
def absolutePath (l : Location) : String := "/" ++ String.intercalate "/" l

/-- The file system with what stands at a location. -/
def look (fs : FileSystem) (l : Location) : IO FileSystem := do
  let path := (← IO.currentDir) / absolutePath l
  if ← path.isDir then return fs.set l .directory
  else if ← path.pathExists then return fs.set l (.file (← IO.FS.readBinFile path))
  else return fs

/-- The file system with what stands along a path. -/
def lookAlong (fs : FileSystem) (path : String) : IO FileSystem := do
  let mut fs := fs
  let mut location := fs.origin path
  for step in steps path do
    if step == ".." then location := location.dropLast
    else if step != "." then
      location := location ++ [step]
      fs ← look fs location
  return fs

/-- The file system with what stands along a path and, for a directory, right below it. -/
def lookInto (fs : FileSystem) (path : String) : IO FileSystem := do
  let fs ← lookAlong fs path
  match fs.locate? path with
  | none => return fs
  | some l =>
    if ! fs.isDirectoryAt l then return fs
    let mut fs := fs
    for entry in ← ((← IO.currentDir) / absolutePath l).readDir do
      fs ← look fs (l ++ [entry.fileName])
    return fs

/-- The current directory and the directories above it. -/
def here : IO FileSystem := do
  let current := steps (← IO.currentDir).toString
  lookAlong { current } (absolutePath current)

/-- The file system with what a command can read. -/
def survey (fs : FileSystem) (source : Source) (output : Option String) : IO FileSystem := do
  let fs ← lookAlong fs (source.config.getD manifestPath)
  match source.settings fs with
  | .error _ => return fs
  | .ok settings =>
    let fs ← lookInto fs settings.input
    let directory := output.getD settings.output
    let fs ← lookInto fs directory
    lookAlong fs (join directory Lua.supportHeaderPath)

/-- The file system with what a request can read. -/
def surveyFor (fs : FileSystem) : Option Request → IO FileSystem
  | some (.act (.list source)) => survey fs source none
  | some (.act (.bake source output _)) => survey fs source output
  | _ => return fs

/-- What changed between two file systems, written down. -/
def record (old new : FileSystem) : IO Unit := do
  for (l, entry) in new.entries do
    let path := (← IO.currentDir) / absolutePath l
    match entry, old.lookup? l with
    | .directory, some .directory => pure ()
    | .directory, _ => IO.FS.createDirAll path
    | .file content, some (.file before) =>
      if content != before then IO.FS.writeBinFile path content
    | .file content, _ => IO.FS.writeBinFile path content

end LuaBinder.Program

open LuaBinder Command Program in
/-- The request of the arguments, run on the files that it can read. -/
def main (args : List String) : IO UInt32 := do
  let fs ← surveyFor (← here) (parse? args)
  let (after, reply) := execute fs args
  record fs after
  IO.print reply.output
  for line in reply.complaint do IO.eprintln line
  return UInt32.ofNat reply.exit
