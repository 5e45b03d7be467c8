/-!
Arguments of a command: switches, which start with a hyphen, and at most one operand.

Arguments are read from left to right, and the first one that does not fit ends the reading, as does
a request for help. A value stands behind its switch, as the next argument or attached to it. No
switch is given twice. Behind two lone hyphens every argument is an operand.

* `Switch`, `Shape`: a switch, and what a command accepts.
* `Matches`, `Stop`: what the arguments say, and why the reading ended early.
* `Scan.step`, `scan`: the reading of one argument and of all.
-/

namespace LuaBinder.Command

/-! ### Shapes -/

/-- What a switch does: it says something on its own, asks for help or for the version, or takes a
text or a path. -/
inductive Role where
  | flag
  | help
  | version
  | text
  | path
  deriving DecidableEq

/-- The switch takes a value. -/
def Role.takesValue : Role → Bool
  | .text | .path => true
  | .flag | .help | .version => false

/-- A switch with its long name, its letter, and what it is good for. -/
structure Switch where
  long : String
  short : Option Char
  role : Role
  about : String
  deriving DecidableEq

/-- What a command accepts: its switches, and the choices for its operand if it has one. -/
structure Shape where
  switches : List Switch
  operand : Option (List String) := none

/-- The switch of a long name. -/
def Shape.long? (shape : Shape) (name : String) : Option Switch :=
  shape.switches.find? (·.long == name)

/-- The switch of a letter. -/
def Shape.short? (shape : Shape) (letter : Char) : Option Switch :=
  shape.switches.find? (·.short == some letter)

/-! ### Matches -/

/-- Why the reading ended early. -/
inductive Stop where
  | misuse
  | help
  | version
  deriving DecidableEq

/-- What the arguments say: the switches given so far with their values, and the operand. -/
structure Matches where
  given : List (String × String) := []
  operand : Option String := none

namespace Matches

/-- The value of a switch. -/
def value? (m : Matches) (long : String) : Option String :=
  (m.given.find? (·.1 == long)).map (·.2)

/-- The switch was given. -/
def has (m : Matches) (long : String) : Bool := (m.value? long).isSome

/-- The matches with a switch and its value. A path is not empty. -/
def accept (m : Matches) (s : Switch) (value : String) : Except Stop Matches :=
  if m.has s.long then .error .misuse
  else if s.role = .path ∧ value = "" then .error .misuse
  else .ok { m with given := m.given ++ [(s.long, value)] }

/-- The matches with a switch that takes no value. -/
def acceptFlag (m : Matches) (s : Switch) : Except Stop Matches :=
  match s.role with
  | .help => .error .help
  | .version => .error .version
  | _ => m.accept s ""

/-- The matches with an operand, which must be one of the choices. -/
def acceptOperand (m : Matches) (shape : Shape) (value : String) : Except Stop Matches :=
  match shape.operand with
  | none => .error .misuse
  | some choices =>
    if m.operand.isNone && choices.contains value then .ok { m with operand := some value }
    else .error .misuse

end Matches

/-! ### Reading -/

/-- The reading so far: the matches, the switch whose value comes next, and whether only operands
follow. -/
structure Scan where
  found : Matches := {}
  pending : Option Switch := none
  operandsOnly : Bool := false

namespace Scan

/-- A long switch behind its hyphens, with its value behind an equals sign. -/
def readLong (shape : Shape) (m : Matches) (body : List Char) : Except Stop Scan :=
  let name := String.ofList (body.takeWhile (· != '='))
  match shape.long? name, body.dropWhile (· != '=') with
  | none, _ => .error .misuse
  | some s, [] =>
    if s.role.takesValue then .ok { found := m, pending := some s }
    else (m.acceptFlag s).map fun found => { found }
  | some s, _ :: value =>
    if s.role.takesValue then (m.accept s (String.ofList value)).map fun found => { found }
    else .error .misuse

/-- The text of a value attached to a letter, which may follow an equals sign. -/
def attached : List Char → String
  | '=' :: value => String.ofList value
  | value => String.ofList value

/-- Letters behind one hyphen. The first one that takes a value takes all that follows it. -/
def readShort (shape : Shape) : Matches → List Char → Except Stop Scan
  | m, [] => .ok { found := m }
  | m, c :: cs =>
    match shape.short? c with
    | none => .error .misuse
    | some s =>
      if s.role.takesValue then
        if cs.isEmpty then .ok { found := m, pending := some s }
        else (m.accept s (attached cs)).map fun found => { found }
      else
        match m.acceptFlag s with
        | .ok m => readShort shape m cs
        | .error e => .error e

/-- An argument that is no switch: the value that a switch waits for, else an operand. -/
def readPlain (shape : Shape) (scan : Scan) (arg : String) : Except Stop Scan :=
  match scan.pending, scan.operandsOnly with
  | some s, false => (scan.found.accept s arg).map fun found => { found }
  | some _, true => .error .misuse
  | none, _ => (scan.found.acceptOperand shape arg).map fun found => { scan with found }

/-- The reading after one more argument. A switch must not stand where a value is due. -/
def step (shape : Shape) (scan : Scan) (arg : String) : Except Stop Scan :=
  if scan.operandsOnly then scan.readPlain shape arg
  else
    match arg.toList with
    | ['-', '-'] => .ok { scan with operandsOnly := true }
    | '-' :: '-' :: body =>
      if scan.pending.isSome then .error .misuse else readLong shape scan.found body
    | '-' :: c :: cs =>
      if scan.pending.isSome then .error .misuse else readShort shape scan.found (c :: cs)
    | _ => scan.readPlain shape arg

/-- The matches when no argument is left: no value and no operand is missing. -/
def finish (shape : Shape) (scan : Scan) : Except Stop Matches :=
  if scan.pending.isSome || (shape.operand.isSome && scan.found.operand.isNone) then
    .error .misuse
  else .ok scan.found

end Scan

/-- What the arguments of a command say. -/
def scan (shape : Shape) (args : List String) : Except Stop Matches := do
  let last ← args.foldlM (Scan.step shape) {}
  last.finish shape

end LuaBinder.Command
