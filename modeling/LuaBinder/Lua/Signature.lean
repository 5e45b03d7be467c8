import LuaBinder.Code.Builder
import LuaBinder.Decl.Function
import LuaBinder.Lua.Conversion

/-!
Signatures as Lua sees them: which stack slot every parameter is read from, and how.

* `arrayLength?`: the element count of a one-dimensional array suffix.
* `Parameter`: a parameter with its slot and its shape.
* `Signature.ofFunction`: the signature of a function, or the first obstacle in it. Parameters
  are looked at in order, the return value last.
* `isConvertible`: whether there is no obstacle.
-/

namespace LuaBinder.Lua

open Code Text

/-! ### Parameters -/

/-- The element count between the brackets of a one-dimensional array suffix. -/
def arrayLength? (suffix : String) : Option String :=
  match trimChars suffix.toList with
  | '[' :: rest =>
    if rest.getLast? = some ']' then
      let length := trimChars rest.dropLast
      if length.isEmpty || length.contains '[' || length.contains ']' then none
      else some (String.ofList length)
    else none
  | _ => none

/-- A single value, or an array of scalars of a fixed length. -/
inductive Shape where
  | value (conversion : Conversion)
  | array (element : Conversion) (length : String)
  deriving DecidableEq

/-- A parameter: its local variable, the base type of its elements, its slot and its shape. -/
structure Parameter where
  name : String
  base : String
  slot : Nat
  shape : Shape
  deriving DecidableEq

namespace Parameter

/-- The shape that a declared argument has. -/
def shapeOf (a : Argument) : Except Obstacle Shape :=
  match Conversion.ofType? a.type with
  | none => .error (.argumentType a.name a.type.text)
  | some conversion =>
    match a.arraySuffix with
    | none => .ok (.value conversion)
    | some suffix =>
      match arrayLength? suffix with
      | none => .error (.openArray a.name suffix)
      | some length =>
        if conversion.isScalar then .ok (.array conversion length)
        else .error (.arrayOfObjects a.name)

/-- The parameter that a declared argument makes at a slot. -/
def ofArgument (a : Argument) (slot : Nat) : Except Obstacle Parameter :=
  (shapeOf a).map fun shape => { name := a.name, base := a.type.base, slot, shape }

/-- The parameters of declared arguments at consecutive slots. -/
def ofArguments : Nat → List Argument → Except Obstacle (List Parameter)
  | _, [] => .ok []
  | slot, a :: as => do
    let p ← ofArgument a slot
    let ps ← ofArguments (slot + 1) as
    return p :: ps

/-- The steps that declare the local variable and read it from the stack. -/
def fetch (p : Parameter) (library : String) : List Step :=
  match p.shape with
  | .value conversion => [.line (conversion.fetch p.name (.index p.slot) library)]
  | .array element length =>
    [.line (p.base ++ " " ++ p.name ++ "[" ++ length ++ "];"),
     .line ("luaL_checktype(L, " ++ toString p.slot ++ ", LUA_TTABLE);"),
     .block ("for (int i__ = 0; i__ < " ++ length ++ "; ++i__) \x7b") "\x7d"
      [.line ("lua_rawgeti(L, " ++ toString p.slot ++ ", i__ + 1);"),
       .line (element.fetch "v__" .top library),
       .line (p.name ++ "[i__] = v__;"),
       .line "lua_pop(L, 1);"]]

/-- The expression that passes the parameter to the call. -/
def pass (p : Parameter) : String :=
  match p.shape with
  | .value conversion => conversion.pass p.name
  | .array _ _ => p.name

/-- The test for values that the parameter can be read from. -/
def test (p : Parameter) (library : String) : SlotTest :=
  match p.shape with
  | .value conversion => conversion.test library
  | .array _ _ => .table

/-- The parameter is a single integer. -/
def isInteger (p : Parameter) : Bool :=
  match p.shape with
  | .value conversion => conversion.isInteger
  | .array _ _ => false

end Parameter

/-! ### Signatures -/

/-- A return value: the type of the local variable that holds it, and its conversion. -/
structure Result where
  localType : String
  isConst : Bool
  conversion : Conversion
  deriving DecidableEq

/-- The parameters of a function without its variadic tail, and its return value. -/
structure Signature where
  hasSelf : Bool
  required : Nat
  variadic : Bool
  parameters : List Parameter
  result? : Option Result
  library : String

namespace Signature

/-- The function is called on an object. -/
def needsSelf (f : FunctionDecl) : Bool := f.isMember && ! f.isConstructor && ! f.isStatic

/-- The slot of the first parameter; an object takes the slot before. -/
def firstSlot (hasSelf : Bool) : Nat := if hasSelf then 2 else 1

/-- The return value of a function. -/
def resultOf (f : FunctionDecl) : Except Obstacle (Option Result) :=
  match f.result? with
  | none => .ok none
  | some a =>
    match Conversion.ofType? a.type with
    | none => .error (.returnType a.type.text)
    | some conversion =>
      .ok (some { localType := a.type.localText, isConst := a.type.isConst, conversion })

/-- The signature of a function, or the first obstacle in it. -/
def ofFunction (f : FunctionDecl) : Except Obstacle Signature := do
  let hasSelf := needsSelf f
  let parameters ←
    Parameter.ofArguments (firstSlot hasSelf) (f.arguments.filter (! ·.isVariadic))
  let result? ← resultOf f
  return {
    hasSelf
    required := min f.required parameters.length
    variadic := f.isVariadic
    parameters
    result?
    library := f.library }

/-- The parameters that a caller must give. -/
def mandatory (s : Signature) : List Parameter := s.parameters.take s.required

/-- The height of the stack when `count` arguments are given. -/
def topFor (s : Signature) (count : Nat) : Nat := firstSlot s.hasSelf + count - 1

/-- Number of mandatory parameters that are integers. -/
def integerTests (s : Signature) : Nat := s.mandatory.countP Parameter.isInteger

end Signature

/-- The signature of a function; an obstacle is reported with the place of the declaration. -/
def signatureOf (f : FunctionDecl) : Except BindingError Signature :=
  match Signature.ofFunction f with
  | .ok s => .ok s
  | .error obstacle =>
    .error (.unconvertible f.qualifiedName (f.source?.getD "unknown") obstacle)

/-- Every argument and the return value have a conversion. -/
def isConvertible (f : FunctionDecl) : Bool :=
  match Signature.ofFunction f with
  | .ok _ => true
  | .error _ => false

end LuaBinder.Lua
