import LuaBinder.Store.Path

/-!
File systems: directories and files at absolute locations, and a current directory.

* `locate?`: the location that a path leads to; all directories on the way must exist.
* `stat?`, `exists?`, `read?`: what stands at a path.
* `makeDirectories`: the directory of a path with all directories above it.
* `put?`: a file written over what was there.
* `files`: the files below the current directory.
-/

namespace LuaBinder.Store

/-- What stands at a location. -/
inductive Entry where
  | directory
  | file (content : ByteArray)

/-- The names of the directories from the root down to an entry. -/
abbrev Location := List String

/-- Entries at locations below the root, and the location that relative paths start from. -/
structure FileSystem where
  entries : List (Location × Entry) := []
  current : Location := []

namespace FileSystem

/-! ### Looking up -/

/-- What stands at a location; the root is a directory. -/
def lookup? (fs : FileSystem) (l : Location) : Option Entry :=
  if l.isEmpty then some .directory else (fs.entries.find? (·.1 == l)).map (·.2)

/-- A directory stands at the location. -/
def isDirectoryAt (fs : FileSystem) (l : Location) : Bool :=
  match fs.lookup? l with
  | some .directory => true
  | _ => false

/-- Where the steps lead from a location. Every step starts at a directory; a single dot stays
there and two dots go up. No step leads to a name that is too long. -/
def walk (fs : FileSystem) : Location → List String → Option Location
  | l, [] => some l
  | l, s :: ss =>
    if fs.isDirectoryAt l && isName s then
      fs.walk (if s == "." then l else if s == ".." then l.dropLast else l ++ [s]) ss
    else none

/-- The location that relative or absolute paths start from. -/
def origin (fs : FileSystem) (path : String) : Location :=
  if isAbsolute path then [] else fs.current

/-- The location that a path leads to. Nothing need stand there, but a path with a slash at its
end never leads to a file. -/
def locate? (fs : FileSystem) (path : String) : Option Location :=
  if path.isEmpty || ! isUsable path then none
  else
    (fs.walk (fs.origin path) (steps path)).filter fun l =>
      ! endsWithSlash path ||
        match fs.lookup? l with
        | some (.file _) => false
        | _ => true

/-- What stands at a path. -/
def stat? (fs : FileSystem) (path : String) : Option Entry :=
  (fs.locate? path).bind fs.lookup?

/-- Something stands at the path. -/
def exists? (fs : FileSystem) (path : String) : Bool := (fs.stat? path).isSome

/-- A directory stands at the path. -/
def isDirectory (fs : FileSystem) (path : String) : Bool :=
  match fs.stat? path with
  | some .directory => true
  | _ => false

/-- The text of the file at a path, absent for directories and for bytes that are no text. -/
def read? (fs : FileSystem) (path : String) : Option String :=
  match fs.stat? path with
  | some (.file content) => String.fromUTF8? content
  | _ => none

/-! ### Changing -/

/-- An entry set at a location, in the place of what stood there. -/
def setEntry (l : Location) (e : Entry) : List (Location × Entry) → List (Location × Entry)
  | [] => [(l, e)]
  | (k, old) :: rest => if k = l then (k, e) :: rest else (k, old) :: setEntry l e rest

/-- The file system with an entry at a location. -/
def set (fs : FileSystem) (l : Location) (e : Entry) : FileSystem :=
  { fs with entries := setEntry l e fs.entries }

/-- The entry that was set is found, and no other location changes. -/
theorem find?_setEntry (l k : Location) (e : Entry) (entries : List (Location × Entry)) :
    ((setEntry l e entries).find? (·.1 == k)).map (·.2)
      = if k = l then some e else (entries.find? (·.1 == k)).map (·.2) := by
  induction entries with
  | nil => grind [setEntry]
  | cons a rest ih => grind [setEntry]

/-- The root stays a directory, the entry that was set stands, and no other location changes. -/
theorem lookup?_set (fs : FileSystem) (l k : Location) (e : Entry) :
    (fs.set l e).lookup? k
      = if k.isEmpty then some .directory else if k = l then some e else fs.lookup? k := by
  simp only [lookup?, set, find?_setEntry]
  split <;> simp_all

/-- The file system with a new directory at a path where nothing stood, below an existing
directory. -/
def makeDirectory? (fs : FileSystem) (path : String) : Option FileSystem :=
  match fs.locate? path with
  | none => none
  | some l =>
    match fs.lookup? l with
    | some _ => none
    | none => if fs.isDirectoryAt l.dropLast then some (fs.set l .directory) else none

/-- The directory of a path, made together with the directories above it, and whether it stands in
the end. What could be made is kept on failure, which is nothing when the path cannot be followed.
The fuel bounds the number of parents. -/
def makeDirectoriesFrom : Nat → FileSystem → String → FileSystem × Bool
  | 0, fs, path => (fs, fs.isDirectory path)
  | fuel + 1, fs, path =>
    if path.isEmpty then (fs, true)
    else if ! isUsable path then (fs, false)
    else
      match fs.makeDirectory? path with
      | some fs => (fs, true)
      | none =>
        if (fs.locate? path).bind fs.lookup? |>.isSome then (fs, fs.isDirectory path)
        else
          match parent? path with
          | none => (fs, false)
          | some above =>
            match makeDirectoriesFrom fuel fs above with
            | (fs, false) => (fs, false)
            | (fs, true) =>
              match fs.makeDirectory? path with
              | some fs => (fs, true)
              | none => (fs, fs.isDirectory path)

/-- The directory of a path, made together with the directories above it, and whether it stands in
the end. -/
def makeDirectories (fs : FileSystem) (path : String) : FileSystem × Bool :=
  makeDirectoriesFrom (path.length + 1) fs path

/-- The file system with a file at a path, absent when the path leads to a directory, ends with a
slash or has no directory above it. -/
def put? (fs : FileSystem) (path : String) (content : ByteArray) : Option FileSystem :=
  if endsWithSlash path then none
  else
    match fs.locate? path with
    | none => none
    | some l =>
      match fs.lookup? l with
      | some .directory => none
      | some (.file _) => some (fs.set l (.file content))
      | none => if fs.isDirectoryAt l.dropLast then some (fs.set l (.file content)) else none

/-! ### Listing -/

/-- A location below the current directory, from there. -/
def below? (current : Location) (l : Location) : Option Location :=
  match current, l with
  | [], l => some l
  | _ :: _, [] => none
  | c :: cs, s :: ss => if c = s then below? cs ss else none

/-- The files below the current directory with their paths from there, in the order of the
paths. -/
def files (fs : FileSystem) : List (String × ByteArray) :=
  let found := fs.entries.filterMap fun (l, e) =>
    match e, below? fs.current l with
    | .file content, some below => some (String.intercalate "/" below, content)
    | _, _ => none
  found.mergeSort fun a b => (compare a.1 b.1).isLE

end FileSystem

end LuaBinder.Store
