import LuaBinder.Lua.Chooser
import LuaBinder.Proofs.Code.Scopes
import LuaBinder.Proofs.Lua.Path

/-!
Wrappers and choosers by their scopes.

* `Conversion.fetch_eq`, `declaration_eq`: the statements that declare a variable, around its name.
* `Parameter.statements`, `Wrapper.statements`, `Chooser.statements`: the scopes of the code, with
  the variables that it declares.
* `Wrapper.render_steps`, `Chooser.render_steps`: the code is written from them, see also
  `Wrapper.exists_render`.
-/

namespace LuaBinder.Lua

open Code Text

/-! ### Declarations -/

/-- What stands in front of the variable that a conversion reads a value into. -/
def Conversion.fetchFront : Conversion → String
  | .boolean => "bool "
  | .integer type => type ++ " "
  | .number type => type ++ " "
  | .cString => "const char *"
  | .stdString => "std::string "
  | .object className _ => className ++ " *"

/-- What stands behind that variable. -/
def Conversion.fetchBack (c : Conversion) (slot : Slot) (library : String) : String :=
  match c with
  | .boolean => " = lua_toboolean(L, " ++ slot.text ++ ");"
  | .integer type => " = (" ++ type ++ ")luaL_checkinteger(L, " ++ slot.text ++ ");"
  | .number type => " = (" ++ type ++ ")luaL_checknumber(L, " ++ slot.text ++ ");"
  | .cString => " = luaL_checkstring(L, " ++ slot.text ++ ");"
  | .stdString => "(luaL_checkstring(L, " ++ slot.text ++ "));"
  | .object className _ =>
    " = *((" ++ className ++ " **)dubL_checkudata(L, " ++ slot.text ++ ", \""
      ++ registryTag library className ++ "\"));"

lemma Conversion.fetch_eq (c : Conversion) (var : String) (slot : Slot) (library : String) :
    c.fetch var slot library = c.fetchFront ++ var ++ c.fetchBack slot library := by
  cases c <;> dsimp only [fetch, fetchFront, fetchBack] <;> simp only [String.append_assoc]

/-- The type of a variable, and the blank behind it if there is one. -/
def declarationFront (type : String) : String :=
  if endsWith '*' type || endsWith '&' type then type else type ++ " "

lemma declaration_eq (type var : String) : declaration type var = declarationFront type ++ var := by
  rw [declaration, declarationFront]
  split <;> rfl

/-- The statement that reads a value from a slot into a variable. -/
def fetchLine (role : Role) (c : Conversion) (var : String) (slot : Slot) (library : String) : Line :=
  .declaring role c.fetchFront var (c.fetchBack slot library)

lemma text_fetchLine (role : Role) (c : Conversion) (var : String) (slot : Slot)
    (library : String) : (fetchLine role c var slot library).text = c.fetch var slot library :=
  (c.fetch_eq var slot library).symm

/-- The statement that reads the height of the stack. -/
def topLine : Line := .declaring .internal "int " topVar " = lua_gettop(L);"

/-- The variable of the Lua state. -/
def stateVar : String := "L"

/-- The line that opens the C function of a name, with the Lua state as its parameter. -/
def definitionEntry (name : String) : Line :=
  .declaring .internal ("static int " ++ name ++ "(lua_State *") stateVar ")"

/-- A definition is its comment and one scope. -/
lemma render_definition {body : List Step} {ss : List Statement} (h : Prints body ss)
    (rows : List String) (name : String) :
    render [.comment rows, .block (definitionLine name) "\x7d" body]
      = render [.comment rows]
        ++ textOf .spaces (statementRows 0 [.scopes (.last (definitionEntry name) ss)]) := by
  refine render_comment (.block h ?_) rows
  have hback : "(lua_State *L) \x7b" = "(lua_State *" ++ stateVar ++ ")" ++ " \x7b" := by decide
  rw [definitionLine, hback]
  simp only [definitionEntry, Line.text, String.append_assoc]

/-! ### Parameters -/

/-- The variable of the loop over the elements of an array. -/
def loopVar : String := "i__"

/-- The variable of an element of an array. -/
def elementVar : String := "v__"

/-- The loop that reads the elements of an array. -/
def Parameter.loop (p : Parameter) (element : Conversion) (length library : String) : Scopes :=
  .last (.declaring .internal "for (int " loopVar (" = 0; i__ < " ++ length ++ "; ++i__)"))
    [.line (.plain ("lua_rawgeti(L, " ++ toString p.slot ++ ", i__ + 1);")),
     .line (fetchLine .internal element elementVar .top library),
     .line (.plain (p.name ++ "[i__] = v__;")),
     .line (.plain "lua_pop(L, 1);")]

/-- The statements that read a parameter. -/
def Parameter.statements (p : Parameter) (library : String) : List Statement :=
  match p.shape with
  | .value c => [.line (fetchLine .argument c p.name (.index p.slot) library)]
  | .array element length =>
    [.line (.declaring .argument (p.base ++ " ") p.name ("[" ++ length ++ "];")),
     .line (.plain ("luaL_checktype(L, " ++ toString p.slot ++ ", LUA_TTABLE);")),
     .scopes (p.loop element length library)]

lemma Parameter.prints_fetch (p : Parameter) (library : String) :
    Prints (p.fetch library) (p.statements library) := by
  rw [fetch, statements]
  cases p.shape with
  | value c => exact .line (c.fetch_eq ..) .nil
  | array element length =>
      refine .line (by simp only [Line.text, String.append_assoc]) (.line rfl (.block ?_ ?_))
      · exact .line rfl (.line (element.fetch_eq ..) (.line rfl (.line rfl .nil)))
      · have hfront : "for (int i__ = 0; i__ < " = "for (int " ++ loopVar ++ " = 0; i__ < " := by
          decide
        have hback : "; ++i__) \x7b" = "; ++i__)" ++ " \x7b" := by decide
        rw [hfront, hback]
        simp only [Line.text, String.append_assoc]

lemma prints_flatMap_fetch (ps : List Parameter) (library : String) :
    Prints (ps.flatMap (·.fetch library)) (ps.flatMap (·.statements library)) :=
  .flatMap fun p _ => p.prints_fetch library

/-! ### Wrappers -/

namespace Wrapper

variable (w : Wrapper)

/-- The statements of a call. -/
def callStatements (passed : List Parameter) : List Statement :=
  match w.result? with
  | none => [.line (.plain (w.callText passed ++ ";")), .line (.plain "return 0;")]
  | some r =>
    [.line (.declaring .internal (declarationFront r.localType) resultVar
      (" = " ++ w.callText passed ++ ";")),
     .line (.plain (w.resultPush r).text),
     .line (.plain "return 1;")]

/-- The statements of a branch. -/
def branchStatements (b : Branch) : List Statement :=
  b.fetched.flatMap (·.statements w.library) ++ w.callStatements b.passed

/-- The line that opens the scope of a branch. -/
def branchEntry (isFirst : Bool) : Option Nat → String
  | none => "else"
  | some top =>
    (if isFirst then "if" else "else if") ++ " (" ++ topVar ++ " >= " ++ toString top ++ ")"

/-- The scopes of some branches. -/
def branchScopes (isFirst : Bool) (b : Branch) : List Branch → Scopes
  | [] => .last (.plain (branchEntry isFirst b.minTop)) (w.branchStatements b)
  | next :: bs =>
    .next (.plain (branchEntry isFirst b.minTop)) (w.branchStatements b) (branchScopes false next bs)

/-- The statements of the branches: a single one has no scope of its own. -/
def branchesStatements : List Statement :=
  match w.branches with
  | [] => []
  | [b] => w.branchStatements b
  | b :: bs => [.line topLine, .scopes (w.branchScopes true b bs)]

/-- The statement that reads the object a member is called on. -/
def selfStatements : List Statement :=
  match w.selfClass with
  | none => []
  | some className =>
    [.line (fetchLine .internal (.object className true) selfVar (.index 1) w.library)]

/-- The statements that are guarded against exceptions. -/
def guardedStatements : List Statement :=
  w.selfStatements ++ w.fetched.flatMap (·.statements w.library) ++ w.branchesStatements

/-- The scopes of the handlers. -/
def handlerScopes : Scopes :=
  .next (.declaring .internal "catch (std::exception &" "e" ")")
    [.line (.plain ("lua_pushfstring(L, \"" ++ w.qualifiedName ++ ": %s\", e.what());"))] <|
  .last (.plain "catch (...)")
    [.line (.plain ("lua_pushfstring(L, \"" ++ w.qualifiedName ++ ": Unknown exception\");"))]

/-- The scope of the guarded statements, and those of the handlers. -/
def guardedScopes : Scopes := .next (.plain "try") w.guardedStatements w.handlerScopes

/-- The body of the wrapper. -/
def bodyStatements : List Statement :=
  [.scopes w.guardedScopes, .line (.plain "return lua_error(L);")]

/-- The wrapper below its comment. -/
def statements : List Statement :=
  [.scopes (.last (definitionEntry w.name) w.bodyStatements)]

lemma prints_callSteps (passed : List Parameter) :
    Prints (w.callSteps passed) (w.callStatements passed) := by
  rw [callSteps, callStatements]
  cases w.result? with
  | none => exact .line rfl (.line rfl .nil)
  | some r =>
      refine .line ?_ (.line rfl (.line rfl .nil))
      rw [declaration_eq]
      simp only [Line.text, String.append_assoc]

lemma prints_branchSteps (b : Branch) : Prints (w.branchSteps b) (w.branchStatements b) :=
  (prints_flatMap_fetch b.fetched w.library).append (w.prints_callSteps b.passed)

lemma branchLine_eq {isFirst : Bool} {minTop : Option Nat}
    (h : isFirst = true → minTop.isSome = true) :
    branchLine isFirst minTop
      = (if isFirst then "" else "\x7d ") ++ branchEntry isFirst minTop ++ " \x7b" := by
  have hback : ") \x7b" = ")" ++ " \x7b" := by decide
  have helse : "\x7d else if" = "\x7d " ++ "else if" := by decide
  cases minTop with
  | none =>
      cases isFirst with
      | true => cases h rfl
      | false => rfl
  | some top =>
      rw [branchLine, branchEntry, hback]
      cases isFirst with
      | true => simp only [if_true, String.empty_append, String.append_assoc]
      | false => simp only [Bool.false_eq_true, if_false, helse, String.append_assoc]

/-- The scopes of branches, if the first branch of all has a condition. -/
lemma prints_branchChain {isFirst : Bool} {b : Branch} (h : isFirst = true → b.minTop.isSome = true)
    (bs : List Branch) : PrintsScopes (if isFirst then "" else "\x7d ")
      (w.branchChain isFirst (b :: bs)) (w.branchScopes isFirst b bs) := by
  induction bs generalizing isFirst b with
  | nil => exact .last (w.prints_branchSteps b) (branchLine_eq h)
  | cons next bs ih =>
      have hrest := @ih false next (fun hfirst => absurd hfirst Bool.false_ne_true)
      exact .next (w.prints_branchSteps b) hrest (branchLine_eq h)

lemma prints_selfSteps : Prints w.selfSteps w.selfStatements := by
  rw [selfSteps, selfStatements]
  cases w.selfClass with
  | none => exact .nil
  | some className => exact .line (Conversion.fetch_eq ..) .nil

lemma prints_handlerSteps : PrintsScopes "\x7d " w.handlerSteps w.handlerScopes := by
  have hprints : ∀ text, Prints [.line text] [.line (.plain text)] := fun _ => .line rfl .nil
  have hlast := @PrintsScopes.last _ _ "\x7d " "\x7d catch (...) \x7b" (.plain "catch (...)")
    (hprints ("lua_pushfstring(L, \"" ++ w.qualifiedName ++ ": Unknown exception\");")) rfl
  exact .next (hprints ("lua_pushfstring(L, \"" ++ w.qualifiedName ++ ": %s\", e.what());"))
    hlast rfl

/-- Where there is a choice between branches, the first one has a condition. -/
structure StartsWithCondition : Prop where
  nonempty : w.branches ≠ []
  condition : ∀ b next bs, w.branches = b :: next :: bs → b.minTop.isSome = true

variable {w}

lemma prints_branchesSteps (h : w.StartsWithCondition) :
    Prints w.branchesSteps w.branchesStatements := by
  rw [branchesSteps, branchesStatements]
  cases hbranches : w.branches with
  | nil => exact absurd hbranches h.nonempty
  | cons b bs =>
      cases bs with
      | nil => exact w.prints_branchSteps b
      | cons next bs =>
          have hcondition := h.condition b next bs hbranches
          have hchain : PrintsScopes (if true then "" else "\x7d ") _ _ :=
            w.prints_branchChain (fun _ => hcondition) (next :: bs)
          exact .line rfl (.scopes hchain)

/-- The body of a wrapper is written from its statements. -/
lemma prints_bodySteps (h : w.StartsWithCondition) : Prints w.bodySteps w.bodyStatements := by
  have hguarded : Prints (w.selfSteps ++ w.fetched.flatMap (·.fetch w.library) ++ w.branchesSteps)
      w.guardedStatements :=
    (w.prints_selfSteps.append (prints_flatMap_fetch w.fetched w.library)).append
      (prints_branchesSteps h)
  have hscopes : PrintsScopes ""
      (.line "try \x7b" :: .indent
        :: (w.selfSteps ++ w.fetched.flatMap (·.fetch w.library) ++ w.branchesSteps)
        ++ .dedent :: w.handlerSteps) w.guardedScopes :=
    .next hguarded w.prints_handlerSteps rfl
  have hsteps : w.bodySteps = .line "try \x7b" :: .indent
      :: (w.selfSteps ++ w.fetched.flatMap (·.fetch w.library) ++ w.branchesSteps)
      ++ .dedent :: w.handlerSteps ++ [.line "return lua_error(L);"] := by
    simp only [bodySteps, List.append_assoc, List.cons_append, List.nil_append]
  rw [hsteps]
  exact (Prints.scopes hscopes).append (.line rfl .nil)

/-- A wrapper is its comment and its statements. -/
theorem render_steps (h : w.StartsWithCondition) :
    w.text = render [.comment w.comment] ++ textOf .spaces (statementRows 0 w.statements) :=
  render_definition (prints_bodySteps h) w.comment w.name

/-- The first branch of a wrapper passes all parameters, and asks for them if there is another
one. -/
lemma startsWithCondition_ofSignature {f : FunctionDecl} {s : Signature} (h : s.Describes f) :
    (ofSignature f s).StartsWithCondition := by
  have hladder : (ofSignature f s).branches
      = ladder s (s.parameters.length - s.required) := branchesOf_eq_ladder h.required_le
  cases hd : s.parameters.length - s.required with
  | zero =>
      rw [hd, ladder_zero] at hladder
      refine ⟨by simp [hladder], fun b next bs hbranches => ?_⟩
      rw [hladder] at hbranches
      cases hbranches
  | succ d =>
      rw [hd, ladder_succ] at hladder
      refine ⟨by simp [hladder], fun b next bs hbranches => ?_⟩
      rw [hladder, List.cons.injEq] at hbranches
      have hcount : s.required + d + 1 ≠ s.required := by omega
      rw [← hbranches.1, branchFor, if_neg hcount]
      rfl

/-- The wrapper of a convertible function comes from a signature that describes it, and it is
written as its comment and its statements. -/
theorem exists_render {f : FunctionDecl} (hconv : isConvertible f = true) :
    ∃ s : Signature, s.Describes f ∧ ofFunction f = .ok (ofSignature f s)
      ∧ wrappers.render f = .ok (render [.comment (commentOf f)]
        ++ textOf .spaces (statementRows 0 (ofSignature f s).statements)) := by
  obtain ⟨s, hs⟩ := exists_signature hconv
  have hd : s.Describes f := Signature.describes_of_ofFunction hs
  have hw : ofFunction f = .ok (ofSignature f s) := by
    rw [ofFunction, signatureOf_eq_ok_iff.mpr hs]
    rfl
  refine ⟨s, hd, hw, ?_⟩
  rw [show wrappers.render f = (ofFunction f).map text from rfl, hw]
  exact congrArg Except.ok (render_steps (startsWithCondition_ofSignature hd))

end Wrapper

/-! ### Choosers -/

namespace Chooser

/-- The line that opens the scope of an alternative. -/
def alternativeEntry (isFirst : Bool) (a : Alternative) : Line :=
  .plain ((if isFirst then "if" else "else if") ++ " (" ++ a.text ++ ")")

/-- The statement of an alternative. -/
def alternativeStatements (a : Alternative) : List Statement :=
  [.line (.plain ("return " ++ a.target ++ "(L);"))]

/-- The scopes of some alternatives. -/
def alternativeScopes (isFirst : Bool) (a : Alternative) : List Alternative → Scopes
  | [] => .last (alternativeEntry isFirst a) (alternativeStatements a)
  | next :: as =>
    .next (alternativeEntry isFirst a) (alternativeStatements a) (alternativeScopes false next as)

variable (c : Chooser)

/-- The statements of the alternatives. -/
def choiceStatements : List Statement :=
  match c.alternatives with
  | [] => []
  | a :: as => [.scopes (alternativeScopes true a as)]

/-- The body of the chooser. -/
def bodyStatements : List Statement :=
  .line topLine :: c.choiceStatements ++
    [.line (.plain
      ("lua_pushstring(L, \"" ++ c.qualifiedName ++ ": no overload accepts these arguments\");")),
     .line (.plain "return lua_error(L);")]

/-- The chooser below its comment. -/
def statements : List Statement :=
  [.scopes (.last (definitionEntry c.name) c.bodyStatements)]

lemma prints_alternativeSteps (isFirst : Bool) (a : Alternative) (as : List Alternative) :
    PrintsScopes (if isFirst then "" else "\x7d ") (alternativeSteps isFirst (a :: as))
      (alternativeScopes isFirst a as) := by
  have hback : ") \x7b" = ")" ++ " \x7b" := by decide
  have helse : "\x7d else if" = "\x7d " ++ "else if" := by decide
  have hentry : ∀ (isFirst : Bool) (a : Alternative),
      (if isFirst then "if" else "\x7d else if") ++ " (" ++ a.text ++ ") \x7b"
        = (if isFirst then "" else "\x7d ") ++ (alternativeEntry isFirst a).text ++ " \x7b" := by
    intro isFirst a
    rw [alternativeEntry, hback]
    cases isFirst with
    | true => simp only [Line.text, if_true, String.empty_append, String.append_assoc]
    | false => simp only [Line.text, Bool.false_eq_true, if_false, helse, String.append_assoc]
  have htarget : ∀ a : Alternative,
      Prints [.line ("return " ++ a.target ++ "(L);")] (alternativeStatements a) :=
    fun _ => .line rfl .nil
  induction as generalizing isFirst a with
  | nil => exact .last (htarget a) (hentry isFirst a)
  | cons next as ih => exact .next (htarget a) (ih false next) (hentry isFirst a)

variable {c}

/-- The body of a chooser with alternatives is written from its statements. -/
lemma prints_bodySteps (h : c.alternatives ≠ []) : Prints c.bodySteps c.bodyStatements := by
  obtain ⟨a, as, halternatives⟩ := List.exists_cons_of_ne_nil h
  have hchoice : PrintsScopes (if true then "" else "\x7d ") _ _ :=
    prints_alternativeSteps true a as
  rw [bodySteps, bodyStatements, choiceStatements, halternatives, List.cons_append]
  exact .line rfl ((Prints.scopes hchoice).append (.line rfl (.line rfl .nil)))

/-- A chooser with alternatives is its comment and its statements. -/
theorem render_steps (h : c.alternatives ≠ []) :
    c.text = render [.comment ["Overloaded function chooser for " ++ c.functionName ++ "(...)"]]
      ++ textOf .spaces (statementRows 0 c.statements) :=
  render_definition (prints_bodySteps h) _ c.name

end Chooser

end LuaBinder.Lua
