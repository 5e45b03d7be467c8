import LuaBinder.Text.Identifier
import LuaBinder.Text.Search

/-!
What is wrong with a manifest, and where.

* `Span`, `findSpan?`: a stretch of the source, and the one where a value is written.
* `NameFault`, `nameFault?`: why a name cannot name a namespace.
* `ManifestError`: the errors, with their words, their codes, their advice and their labels.
-/

namespace LuaBinder

open Text

/-! ### Spans -/

/-- A stretch of a source, counted in bytes. -/
structure Span where
  offset : Nat
  length : Nat
  deriving DecidableEq

/-- The first place where a value stands in double quotes, without them; else the first place
where it stands at all, unless it is empty. -/
def findSpan? (source value : String) : Option Span :=
  let length := byteCount value.toList
  match splitFirst? ('"' :: value.toList ++ ['"']) source.toList with
  | some (before, _) => some { offset := byteCount before + 1, length }
  | none =>
    if value.isEmpty then none
    else
      (splitFirst? value.toList source.toList).map fun (before, _) =>
        { offset := byteCount before, length }

/-! ### Names -/

/-- Why a name cannot stand in generated code. -/
inductive NameFault where
  | reserved
  | empty
  | malformed
  deriving DecidableEq

/-- The fault of a name, absent for an identifier that is no reserved word. -/
def nameFault? (name : String) : Option NameFault :=
  if reservedWords.contains name then some .reserved
  else if name.isEmpty then some .empty
  else if isIdentifier name then none
  else some .malformed

/-! ### Errors -/

/-- What is wrong with a manifest. A name comes with the role that it should play. -/
inductive ManifestError where
  | unreadable (path : String)
  | malformed
  | badName (fault : NameFault) (role name : String) (span : Option Span)
  | emptyIgnore (entry : String) (span : Option Span)
  | emptyHeaderBase (span : Option Span)
  deriving DecidableEq

namespace ManifestError

/-- The error in words. -/
def message : ManifestError → String
  | .unreadable path => "failed to read '" ++ path ++ "'"
  | .malformed => "failed to parse dub.toml"
  | .badName .reserved _ name _ => "'" ++ name ++ "' is a C++ reserved keyword"
  | .badName _ role name _ => "invalid " ++ role ++ " '" ++ name ++ "'"
  | .emptyIgnore entry _ => "ignore entry '" ++ entry ++ "' does not name a member"
  | .emptyHeaderBase _ => "header_base cannot be empty"

/-- The identifier of the kind of error. -/
def code? : ManifestError → Option String
  | .unreadable _ => none
  | .malformed => some "dub::parse_error"
  | .badName .reserved _ _ _ => some "dub::reserved_keyword"
  | .badName _ _ _ _ => some "dub::invalid_identifier"
  | .emptyIgnore _ _ | .emptyHeaderBase _ => some "dub::validation_error"

/-- The rule for names, behind what is wrong with one. -/
def nameHelp (reason : String) : String :=
  reason ++ ". Use only letters, numbers, and underscores, starting with a letter or underscore."

/-- What the user can do about the error. -/
def help? : ManifestError → Option String
  | .unreadable _ =>
    some "create a dub.toml with a [bindings] table, or pass --input and --name"
  | .badName .reserved role _ _ =>
    some ("the " ++ role ++ " is used in generated C++ identifiers; pick another name")
  | .badName .empty _ _ _ => some (nameHelp "name cannot be empty")
  | .badName .malformed _ _ _ => some (nameHelp "name is not a valid C identifier")
  | .malformed | .emptyIgnore _ _ | .emptyHeaderBase _ => none

/-- The place of the error in the source, where it is known. -/
def span? : ManifestError → Option Span
  | .unreadable _ | .malformed => none
  | .badName _ _ _ span | .emptyIgnore _ span | .emptyHeaderBase span => span

/-- What to write at the place of the error. -/
def label (e : ManifestError) : String :=
  match e with
  | .badName .reserved _ _ _ => "reserved keyword used here"
  | .badName _ _ _ _ => "invalid identifier"
  | e => e.message

end ManifestError

/-- A name that should play a role, checked within the source that it comes from. -/
def checkName (source role name : String) : Except ManifestError Unit :=
  match nameFault? name with
  | some fault => .error (.badName fault role name (findSpan? source name))
  | none => .ok ()

end LuaBinder
