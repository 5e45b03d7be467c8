import LuaBinder.Toml.Numeral

/-!
The values of a configuration document, and how a document fills its tables.

A table is opened once. A header opens the table that it names and implies those on the way, which
a later header may still open. A key of several names makes the tables on the way too, and those
only take further keys of that kind. A table in braces is complete as it stands.

* `Value`, `Table`, `Form`: the values, and how a table came to be.
* `Value.isReadable`: whether the numbers in a value have values of their own.
* `Table.modifyAt`: a table with the one at the end of a path changed.
* `Table.insert?`: a table with a value at a path.
* `Statement`, `ofStatements?`: a document as a sequence of headers and pairs.
-/

namespace LuaBinder.Toml

/-! ### Values -/

/-- How a table came to be: opened by a header, implied by a header of a table below it, made by a
key of several names, or written in braces. -/
inductive Form where
  | opened
  | implied
  | dotted
  | braced
  deriving DecidableEq

/-- A value. Moments keep their text. The rows of an array of tables come from one header each. -/
inductive Value where
  | string (text : String)
  | number (n : Numeral)
  | boolean (b : Bool)
  | moment (text : String)
  | array (items : List Value)
  | table (form : Form) (entries : List (String × Value))
  | rows (tables : List (List (String × Value)))

mutual

/-- Every number in the value has a value of its own. -/
def Value.isReadable : Value → Bool
  | .number n => n.hasValue
  | .array items => Value.areReadable items
  | .table _ entries => Value.areReadableEntries entries
  | .rows tables => Value.areReadableRows tables
  | .string _ | .boolean _ | .moment _ => true

/-- Every number in the values has a value of its own. -/
def Value.areReadable : List Value → Bool
  | [] => true
  | v :: vs => v.isReadable && Value.areReadable vs

/-- Every number in the entries of a table has a value of its own. -/
def Value.areReadableEntries : List (String × Value) → Bool
  | [] => true
  | (_, v) :: entries => v.isReadable && Value.areReadableEntries entries

/-- Every number in the rows of an array of tables has a value of its own. -/
def Value.areReadableRows : List (List (String × Value)) → Bool
  | [] => true
  | t :: ts => Value.areReadableEntries t && Value.areReadableRows ts

end

/-- Names with their values, in document order. -/
abbrev Table := List (String × Value)

namespace Table

/-- The value of a name. -/
def value? (t : Table) (name : String) : Option Value := (List.find? (·.1 == name) t).map (·.2)

/-- The table with a value for a name, in the place of the old one or at the end. -/
def set (name : String) (value : Value) : Table → Table
  | [] => [(name, value)]
  | (n, v) :: rest => if n = name then (n, value) :: rest else (n, v) :: set name value rest

/-- The value that was set is found, and no other name changes. -/
theorem value?_set (name other : String) (value : Value) (t : Table) :
    (t.set name value).value? other = if other = name then some value else t.value? other := by
  induction t with
  | nil => grind [set, value?]
  | cons a rest ih => grind [set, value?]

/-! ### Paths -/

/-- The table with the one at the end of a path changed by `f`. Tables that do not exist on the
way are made in the form `fresh`; those that do are entered if `enters` accepts their form. An
array of tables is entered through its last row. -/
def modifyAt (enters : Form → Bool) (fresh : Form) (f : Form → Table → Option Table) :
    List String → Form → Table → Option Table
  | [], form, t => f form t
  | name :: names, _, t =>
    match t.value? name with
    | none =>
      (modifyAt enters fresh f names fresh []).map fun inner => t.set name (.table fresh inner)
    | some (.table form inner) =>
      if enters form then
        (modifyAt enters fresh f names form inner).map fun inner =>
          t.set name (.table form inner)
      else none
    | some (.rows tables) =>
      match tables.getLast? with
      | none => none
      | some last =>
        (modifyAt enters fresh f names .opened last).map fun last =>
          t.set name (.rows (tables.dropLast ++ [last]))
    | some _ => none

/-- The table with the one at the end of a path of headers changed. -/
def modifyBelow (f : Table → Option Table) (path : List String) (t : Table) : Option Table :=
  modifyAt (· != .braced) .implied (fun _ t => f t) path .opened t

/-- The table with a value at a path, which no value has yet. A table that a header opened or
implied takes no value through a key of several names, and one made by such keys takes no other. -/
def insert? (path : List String) (value : Value) (t : Table) : Option Table :=
  match path.getLast? with
  | none => none
  | some name =>
    let way := path.dropLast
    modifyAt (fun form => form == .implied || form == .dotted) .dotted
      (fun form inner =>
        if (form == .dotted) == way.isEmpty then none
        else if (inner.value? name).isSome then none
        else some (inner.set name value))
      way .opened t

/-- The table with a further table opened by a header under a name. -/
def openTable? (name : String) (t : Table) : Option Table :=
  match t.value? name with
  | none => some (t.set name (.table .opened []))
  | some (.table .implied inner) => some (t.set name (.table .opened inner))
  | some _ => none

/-- The table with a further row in the array of tables of a name. -/
def addRow? (name : String) (t : Table) : Option Table :=
  match t.value? name with
  | none => some (t.set name (.rows [[]]))
  | some (.rows tables) => some (t.set name (.rows (tables ++ [[]])))
  | some _ => none

end Table

/-! ### Statements -/

/-- A statement of a document: a header of a table, a header of a row, or a value for a key. -/
inductive Statement where
  | table (path : List String)
  | row (path : List String)
  | pair (path : List String) (value : Value)

/-- A document so far: all of it, and the path of the table that takes the next pair. -/
structure Draft where
  root : Table := []
  current : List String := []

namespace Draft

/-- The draft with the table of a header made by `make`. -/
def header? (make : String → Table → Option Table) (path : List String) (d : Draft) :
    Option Draft :=
  match path.getLast? with
  | none => none
  | some name =>
    (d.root.modifyBelow (make name) path.dropLast).map fun root => { root, current := path }

/-- The draft after a statement, absent when the statement contradicts those before it. -/
def add? (d : Draft) : Statement → Option Draft
  | .table path => d.header? Table.openTable? path
  | .row path => d.header? Table.addRow? path
  | .pair path value =>
    (d.root.modifyBelow (Table.insert? path value) d.current).map fun root => { d with root }

end Draft

/-- The table that a sequence of statements fills. -/
def ofStatements? (statements : List Statement) : Option Table :=
  (statements.foldlM Draft.add? {}).map Draft.root

/-- The table that a sequence of pairs fills. -/
def ofPairs? (pairs : List (List String × Value)) : Option Table :=
  pairs.foldlM (fun t (path, value) => Table.insert? path value t) []

end LuaBinder.Toml
