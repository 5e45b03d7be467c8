import LuaBinder.Lua.Wrapper

/-!
Choosers: the C function that forwards a call to the overload that its arguments fit.

Overloads are tried from the one that needs the most arguments down. Among those that need the
same number, the one with more integers comes first, since any integer is also a number; then the
declaration order decides.

* `Condition`, `Alternative`: what a branch of a chooser asks, and where it leads.
* `Alternative.ofOverload`: the branch of an overload.
* `Chooser.ofOverloads`, `Chooser.steps`: the chooser of a list of overloads, and its code.
-/

namespace LuaBinder.Lua

open Code Text

/-! ### Conditions -/

/-- What a branch asks about the stack. -/
inductive Condition where
  | topIs (n : Nat)
  | topAtLeast (n : Nat)
  | topAtMost (n : Nat)
  | slotHolds (test : SlotTest) (slot : Nat)
  deriving DecidableEq

/-- The condition as an expression. -/
def Condition.text : Condition → String
  | .topIs n => topVar ++ " == " ++ toString n
  | .topAtLeast n => topVar ++ " >= " ++ toString n
  | .topAtMost n => topVar ++ " <= " ++ toString n
  | .slotHolds test slot => test.text slot

/-- The conditions on the height of the stack: it must hold the mandatory arguments, and no more
than all of them unless the function is variadic. -/
def Signature.heightConditions (s : Signature) : List Condition :=
  let low := s.topFor s.required
  let high := s.topFor s.parameters.length
  if low == high && ! s.variadic then [.topIs low]
  else
    (if low > 0 then [.topAtLeast low] else []) ++ (if s.variadic then [] else [.topAtMost high])

/-- The conditions on the slots of the mandatory parameters. -/
def Signature.slotConditions (s : Signature) : List Condition :=
  s.mandatory.map fun p => .slotHolds (p.test s.library) p.slot

/-! ### Alternatives -/

/-- A branch of a chooser: its conditions and the wrapper it returns to. -/
structure Alternative where
  conditions : List Condition
  target : String
  deriving DecidableEq

namespace Alternative

/-- The branch of an overload. -/
def ofOverload (s : Signature) (f : FunctionDecl) : Alternative where
  conditions := s.heightConditions ++ s.slotConditions
  target := identifier f none

/-- All conditions in one expression. -/
def text (a : Alternative) : String :=
  if a.conditions.isEmpty then "true"
  else String.intercalate " && " (a.conditions.map Condition.text)

end Alternative

/-- An overload is tried no later than another one. -/
def triedBefore (s t : Signature) : Bool :=
  s.required > t.required || (s.required == t.required && s.integerTests ≥ t.integerTests)

/-! ### Choosers -/

/-- The chooser of a list of overloads. -/
structure Chooser where
  functionName : String
  name : String
  qualifiedName : String
  alternatives : List Alternative

namespace Chooser

/-- The overloads with their signatures, or the error of the first without one. -/
def signatures (overloads : List FunctionDecl) :
    Except BindingError (List (Signature × FunctionDecl)) :=
  overloads.mapM fun f => (signatureOf f).map (·, f)

/-- The alternatives in the order in which they are tried. -/
def alternativesOf (overloads : List (Signature × FunctionDecl)) : List Alternative :=
  (overloads.mergeSort fun a b => triedBefore a.1 b.1).map fun (s, f) => .ofOverload s f

/-- The chooser of overloads, absent when there are none. It is named for the first. -/
def ofOverloads : List FunctionDecl → Except BindingError (Option Chooser)
  | [] => .ok none
  | first :: rest =>
    (signatures (first :: rest)).map fun overloads =>
      some {
        functionName := first.name
        name := identifier first (some 0)
        qualifiedName := first.qualifiedName
        alternatives := alternativesOf overloads }

/-- The branches one after the other. -/
def alternativeSteps (isFirst : Bool) : List Alternative → List Step
  | [] => [.line "\x7d"]
  | a :: as =>
    .line ((if isFirst then "if" else "\x7d else if") ++ " (" ++ a.text ++ ") \x7b")
      :: .indent :: .line ("return " ++ a.target ++ "(L);") :: .dedent
      :: alternativeSteps false as

/-- The error of a call that no branch takes. -/
def errorSteps (c : Chooser) : List Step :=
  [.line ("lua_pushstring(L, \"" ++ c.qualifiedName ++ ": no overload accepts these arguments\");"),
   .line "return lua_error(L);"]

/-- The body of the chooser. -/
def bodySteps (c : Chooser) : List Step :=
  topStep :: alternativeSteps true c.alternatives ++ c.errorSteps

/-- The code of the chooser under its comment. -/
def steps (c : Chooser) : List Step :=
  [.comment ["Overloaded function chooser for " ++ c.functionName ++ "(...)"],
   .block (definitionLine c.name) "\x7d" c.bodySteps]

/-- The text of the chooser. -/
def text (c : Chooser) : String := render c.steps

end Chooser

/-- The text of the chooser of overloads, empty when there are none. -/
def chooserText (overloads : List FunctionDecl) : Except BindingError String :=
  (Chooser.ofOverloads overloads).map fun
    | some chooser => chooser.text
    | none => ""

end LuaBinder.Lua
