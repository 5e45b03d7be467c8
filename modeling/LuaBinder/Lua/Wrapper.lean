import LuaBinder.Lua.Signature
import LuaBinder.Render.Renderer

/-!
Wrappers: the C function that Lua calls in place of one C++ function.

* `identifier`: the name of the wrapper, with the overload number at its end.
* `Branch`: one way through a wrapper, taken for a range of stack heights, with the parameters
  that it reads and the arguments that it passes.
* `Wrapper.ofFunction`, `Wrapper.steps`: the wrapper of a function, and its code.
* `wrappers`: wrappers as a renderer of functions.
-/

namespace LuaBinder.Lua

open Code Text

/-- The local variable of the object that a member is called on. -/
def selfVar : String := "self__"

/-- The local variable of the return value. -/
def resultVar : String := "retval__"

/-- The local variable of the stack height. -/
def topVar : String := "top__"

/-- The statement that reads the stack height. -/
def topStep : Step := .line ("int " ++ topVar ++ " = lua_gettop(L);")

/-- The identifier of the wrapper of a function. An index wins over the overload number, and zero
stands for no number. -/
def identifier (f : FunctionDecl) (index : Option Nat) : String :=
  let stem := f.scope ++ "_" ++ f.name
  match index.or f.overload with
  | some (n + 1) => stem ++ toString (n + 1)
  | _ => stem

/-- The line that opens the C function of a name. -/
def definitionLine (name : String) : String := "static int " ++ name ++ "(lua_State *L) \x7b"

/-! ### Calls -/

/-- What a wrapper calls. -/
inductive Callee where
  | construct (className : String)
  | method (name : String)
  | staticMethod (className name : String)
  | free (name : String)
  deriving DecidableEq

namespace Callee

/-- What the wrapper of a function calls. -/
def ofFunction (f : FunctionDecl) (hasSelf : Bool) : Callee :=
  if f.isConstructor then .construct f.name
  else if hasSelf then .method f.name
  else if f.isMember then .staticMethod f.scope f.name
  else .free f.name

/-- The function in the call expression. -/
def text : Callee → String
  | .construct className => "new " ++ className
  | .method name => selfVar ++ "->" ++ name
  | .staticMethod className name => className ++ "::" ++ name
  | .free name => name

/-- The called function makes a new object. -/
def allocates : Callee → Bool
  | .construct _ => true
  | _ => false

end Callee

/-- A variable with its type in front of it; a star or an ampersand stands next to the name. -/
def declaration (type var : String) : String :=
  if endsWith '*' type || endsWith '&' type then type ++ var else type ++ " " ++ var

/-- One way through a wrapper: taken when the stack is at least `minTop` high, or always. -/
structure Branch where
  minTop : Option Nat
  fetched : List Parameter
  passed : List Parameter

/-! ### Wrappers -/

/-- The wrapper of one function. The parameters of `fetched` are read on every way, and the first
branch whose condition holds makes the call. -/
structure Wrapper where
  comment : List String
  name : String
  qualifiedName : String
  selfClass : Option String
  library : String
  fetched : List Parameter
  branches : List Branch
  callee : Callee
  result? : Option Result

namespace Wrapper

/-- The branch that passes the first `count` parameters. -/
def branchFor (s : Signature) (count : Nat) : Branch where
  minTop := if count = s.required then none else some (s.topFor count)
  fetched := (s.parameters.take count).drop s.required
  passed := s.parameters.take count

/-- The branches of a signature, the one with all parameters first. -/
def branchesOf (s : Signature) : List Branch :=
  (List.range (s.parameters.length + 1 - s.required)).map fun i =>
    branchFor s (s.parameters.length - i)

/-- The comment above a wrapper: the signature, and the source where it is known. -/
def commentOf (f : FunctionDecl) : List String := f.signature :: f.source?.toList

/-- The wrapper of a function with a known signature. -/
def ofSignature (f : FunctionDecl) (s : Signature) : Wrapper where
  comment := commentOf f
  name := identifier f none
  qualifiedName := f.qualifiedName
  selfClass := if s.hasSelf then some f.scope else none
  library := s.library
  fetched := s.mandatory
  branches := branchesOf s
  callee := Callee.ofFunction f s.hasSelf
  result? := s.result?

/-- The wrapper of a function. -/
def ofFunction (f : FunctionDecl) : Except BindingError Wrapper :=
  (signatureOf f).map (ofSignature f)

/-- The call of the function with the given parameters. -/
def callText (w : Wrapper) (passed : List Parameter) : String :=
  w.callee.text ++ "(" ++ String.intercalate ", " (passed.map Parameter.pass) ++ ")"

/-- The expression of the return value to push. A pointer to a constant object sheds its
qualifier. -/
def resultText (r : Result) : String :=
  match r.conversion with
  | .object className true =>
    if r.isConst then "const_cast<" ++ className ++ " *>(" ++ resultVar ++ ")" else resultVar
  | _ => resultVar

/-- How the return value is pushed: only an object that the call made belongs to Lua. -/
def resultPush (w : Wrapper) (r : Result) : Push :=
  r.conversion.push (resultText r) w.library w.callee.allocates

/-- The call, the push of its result, and the return. -/
def callSteps (w : Wrapper) (passed : List Parameter) : List Step :=
  match w.result? with
  | none => [.line (w.callText passed ++ ";"), .line "return 0;"]
  | some r =>
    [.line (declaration r.localType resultVar ++ " = " ++ w.callText passed ++ ";"),
     .line (w.resultPush r).text,
     .line "return 1;"]

/-- The inside of a branch. -/
def branchSteps (w : Wrapper) (b : Branch) : List Step :=
  b.fetched.flatMap (·.fetch w.library) ++ w.callSteps b.passed

/-- The line that opens a branch behind other branches or as the first one. -/
def branchLine (isFirst : Bool) : Option Nat → String
  | none => "\x7d else \x7b"
  | some top =>
    (if isFirst then "if" else "\x7d else if") ++ " (" ++ topVar ++ " >= " ++ toString top
      ++ ") \x7b"

/-- The branches one after the other. -/
def branchChain (w : Wrapper) (isFirst : Bool) : List Branch → List Step
  | [] => [.line "\x7d"]
  | b :: bs =>
    .line (branchLine isFirst b.minTop) :: .indent :: w.branchSteps b
      ++ .dedent :: w.branchChain false bs

/-- The code of the branches: a single one needs no condition. -/
def branchesSteps (w : Wrapper) : List Step :=
  match w.branches with
  | [b] => w.branchSteps b
  | bs => topStep :: w.branchChain true bs

/-- The statement that reads the object a member is called on. -/
def selfSteps (w : Wrapper) : List Step :=
  match w.selfClass with
  | none => []
  | some className =>
    [.line ((Conversion.object className true).fetch selfVar (.index 1) w.library)]

/-- The handlers of exceptions. -/
def handlerSteps (w : Wrapper) : List Step :=
  [.line "\x7d catch (std::exception &e) \x7b",
   .indent,
   .line ("lua_pushfstring(L, \"" ++ w.qualifiedName ++ ": %s\", e.what());"),
   .dedent,
   .line "\x7d catch (...) \x7b",
   .indent,
   .line ("lua_pushfstring(L, \"" ++ w.qualifiedName ++ ": Unknown exception\");"),
   .dedent,
   .line "\x7d"]

/-- The body of the wrapper. -/
def bodySteps (w : Wrapper) : List Step :=
  [.line "try \x7b", .indent]
    ++ w.selfSteps
    ++ w.fetched.flatMap (·.fetch w.library)
    ++ w.branchesSteps
    ++ [.dedent]
    ++ w.handlerSteps
    ++ [.line "return lua_error(L);"]

/-- The code of the wrapper under its comment. -/
def steps (w : Wrapper) : List Step :=
  [.comment w.comment, .block (definitionLine w.name) "\x7d" w.bodySteps]

/-- The text of the wrapper. -/
def text (w : Wrapper) : String := render w.steps

end Wrapper

/-- Wrappers as a renderer of functions. -/
def wrappers : FunctionRenderer where
  render f := (Wrapper.ofFunction f).map Wrapper.text
  identifier := identifier

end LuaBinder.Lua
