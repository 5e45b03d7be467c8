import LuaBinder.Decl.DeclaredType
import LuaBinder.Text.Segments

/-!
How values cross between C++ and the Lua stack.

* `Conversion.ofType?`: the conversion of a declared type, absent when there is none.
* `registryTag`: the name of the metatable of a class.
* `Conversion.fetch`, `Conversion.pass`: reading a value from the stack into a local variable,
  and passing that variable on.
* `SlotTest`, `Conversion.test`: whether a stack slot holds a value that fits.
* `Push`, `Conversion.push`: writing a value onto the stack.
-/

namespace LuaBinder.Lua

open Text

/-- How a value crosses the boundary. Objects travel as userdata; `byPointer` is false for values
and references. -/
inductive Conversion where
  | boolean
  | integer (type : String)
  | number (type : String)
  | cString
  | stdString
  | object (className : String) (byPointer : Bool)
  deriving DecidableEq

/-- The native types with a fractional part. -/
def floatingTypes : List String := ["float", "double", "long double"]

namespace Conversion

/-- The conversion of a scalar. -/
def ofNative (type : String) : Conversion :=
  if type == "bool" then .boolean
  else if floatingTypes.contains type then .number type
  else .integer type

/-- The conversion of a declared type. There is none for pointers to scalars, `void`, pointers to
pointers and templates. -/
def ofType? (t : DeclaredType) : Option Conversion :=
  if t.isString then some .cString
  else if t.base == "std::string" && t.stars == 0 then some .stdString
  else if t.isNative then
    if t.stars > 0 then none else some (ofNative t.base)
  else if t.base == "void" || t.stars > 1 || t.base.toList.contains '<' then none
  else some (.object t.base (t.stars == 1))

/-- The value is a single number or truth value. -/
def isScalar : Conversion → Bool
  | .boolean => true
  | .integer _ => true
  | .number _ => true
  | _ => false

/-- The value is an integer. -/
def isInteger : Conversion → Bool
  | .integer _ => true
  | _ => false

end Conversion

/-! ### Stack slots and metatables -/

/-- A slot of the Lua stack: counted from the bottom, or the topmost one. -/
inductive Slot where
  | index (n : Nat)
  | top
  deriving DecidableEq

/-- The slot as an argument of the Lua interface. -/
def Slot.text : Slot → String
  | .index n => toString n
  | .top => "-1"

/-- The name of the metatable of a class in a library. -/
def registryTag (library className : String) : String :=
  let short := lastName className
  if library.isEmpty then short else library ++ "." ++ short

/-! ### Reading -/

namespace Conversion

/-- The statement that declares `var` with the value of a slot. -/
def fetch (c : Conversion) (var : String) (slot : Slot) (library : String) : String :=
  match c with
  | .boolean => "bool " ++ var ++ " = lua_toboolean(L, " ++ slot.text ++ ");"
  | .integer type =>
    type ++ " " ++ var ++ " = (" ++ type ++ ")luaL_checkinteger(L, " ++ slot.text ++ ");"
  | .number type =>
    type ++ " " ++ var ++ " = (" ++ type ++ ")luaL_checknumber(L, " ++ slot.text ++ ");"
  | .cString => "const char *" ++ var ++ " = luaL_checkstring(L, " ++ slot.text ++ ");"
  | .stdString => "std::string " ++ var ++ "(luaL_checkstring(L, " ++ slot.text ++ "));"
  | .object className _ =>
    className ++ " *" ++ var ++ " = *((" ++ className ++ " **)dubL_checkudata(L, " ++ slot.text
      ++ ", \"" ++ registryTag library className ++ "\"));"

/-- The expression that passes the local variable on. -/
def pass (c : Conversion) (var : String) : String :=
  match c with
  | .object _ false => "*" ++ var
  | _ => var

end Conversion

/-! ### Testing -/

/-- A test of what a stack slot holds. -/
inductive SlotTest where
  | boolean
  | integer
  | number
  | string
  | table
  | object (tag : String)
  deriving DecidableEq

/-- The test as an expression about a slot. -/
def SlotTest.text (t : SlotTest) (n : Nat) : String :=
  match t with
  | .boolean => "lua_type(L, " ++ toString n ++ ") == LUA_TBOOLEAN"
  | .integer => "dub_isinteger(L, " ++ toString n ++ ")"
  | .number => "lua_type(L, " ++ toString n ++ ") == LUA_TNUMBER"
  | .string => "lua_type(L, " ++ toString n ++ ") == LUA_TSTRING"
  | .table => "lua_type(L, " ++ toString n ++ ") == LUA_TTABLE"
  | .object tag => "dubL_testudata(L, " ++ toString n ++ ", \"" ++ tag ++ "\")"

/-- The test for values that the conversion can read. -/
def Conversion.test (c : Conversion) (library : String) : SlotTest :=
  match c with
  | .boolean => .boolean
  | .integer _ => .integer
  | .number _ => .number
  | .cString => .string
  | .stdString => .string
  | .object className _ => .object (registryTag library className)

/-! ### Writing -/

/-- How a value is written onto the stack. With `owned` set, Lua deletes the object when it
collects the userdata; a copy is always owned. -/
inductive Push where
  | boolean (value : String)
  | integer (value : String)
  | number (value : String)
  | cString (value : String)
  | stdString (value : String)
  | pointer (value tag : String) (owned : Bool)
  | copy (className value tag : String)
  deriving DecidableEq

/-- The statement that writes the value. -/
def Push.text : Push → String
  | .boolean value => "lua_pushboolean(L, " ++ value ++ ");"
  | .integer value => "lua_pushinteger(L, " ++ value ++ ");"
  | .number value => "lua_pushnumber(L, " ++ value ++ ");"
  | .cString value => "lua_pushstring(L, " ++ value ++ ");"
  | .stdString value => "lua_pushstring(L, " ++ value ++ ".c_str());"
  | .pointer value tag owned =>
    "dub_pushudata(L, " ++ value ++ ", \"" ++ tag ++ "\", "
      ++ (if owned then "true" else "false") ++ ");"
  | .copy className value tag =>
    "dub_pushudata(L, new " ++ className ++ "(" ++ value ++ "), \"" ++ tag ++ "\", true);"

/-- How the value of an expression is written; only a pointer can be left to C++. -/
def Conversion.push (c : Conversion) (value library : String) (owned : Bool) : Push :=
  match c with
  | .boolean => .boolean value
  | .integer _ => .integer value
  | .number _ => .number value
  | .cString => .cString value
  | .stdString => .stdString value
  | .object className true => .pointer value (registryTag library className) owned
  | .object className false => .copy className value (registryTag library className)

end LuaBinder.Lua
