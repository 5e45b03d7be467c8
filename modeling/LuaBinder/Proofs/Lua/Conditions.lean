import LuaBinder.Lua.Chooser
import LuaBinder.Proofs.Code.Control
import LuaBinder.Proofs.Lua.Characters
import LuaBinder.Proofs.Text.Paths
import LuaBinder.Proofs.Text.References

/-!
What the conditions of a chooser tell of a stack.

A condition is read from its text alone. The text is cut at its blanks, the tokens between two `&&`
make one comparison of the height or one test of a slot, and every numeral in them is read digit by
digit.

* `Stack`: the height of a stack and the tests that its slots pass; `Stack.ofValues`: the stack of a
  call.
* `Stack.meets`, `Stack.truth`: what the tokens of one condition and what a whole expression tell.
* `Stack.truth_intercalate`: a conjunction is true where all its sides are.
* `Condition.truth_text`: the text of a condition is true exactly where the condition holds.
* `Alternative.truth_text`: the text of a branch is true exactly where all its conditions are.
-/

namespace LuaBinder

open Code Text

namespace Lua

/-! ### Stacks -/

/-- A stack as a chooser sees it: its height, and which test each slot passes. -/
structure Stack where
  top : Nat
  passes : SlotTest → Nat → Bool

/-- What a Lua value is to the tests of a chooser. -/
inductive Value where
  | nil
  | boolean
  | integer
  | fraction
  | string
  | table
  | object (tag : String)
  deriving DecidableEq

/-- The value passes the test; any integer is also a number. -/
def SlotTest.accepts : SlotTest → Value → Bool
  | .boolean, .boolean => true
  | .integer, .integer => true
  | .number, .integer => true
  | .number, .fraction => true
  | .string, .string => true
  | .table, .table => true
  | .object tag, .object tag' => tag == tag'
  | _, _ => false

/-- The stack of a call with the given values. -/
def Stack.ofValues (values : List Value) : Stack where
  top := values.length
  passes test slot := slot != 0 && values[slot - 1]?.any test.accepts

/-- What a condition tells of a stack. -/
def Condition.holds (σ : Stack) : Condition → Bool
  | .topIs n => σ.top == n
  | .topAtLeast n => decide (n ≤ σ.top)
  | .topAtMost n => decide (σ.top ≤ n)
  | .slotHolds test slot => σ.passes test slot

/-! ### Reading an expression -/

/-- The number that a token writes in front of the given end. -/
def numberBefore? (back token : String) : Option Nat :=
  (between? "" back token).bind fun digits => number? 10 digits.toList

/-- The test that compares the type of a value with a constant of the Lua interface. -/
def SlotTest.ofConstant? : String → Option SlotTest
  | "LUA_TBOOLEAN" => some .boolean
  | "LUA_TNUMBER" => some .number
  | "LUA_TSTRING" => some .string
  | "LUA_TTABLE" => some .table
  | _ => none

/-- What a comparison of the height or a test of a slot, given by its tokens, tells of a stack. The
tag of an object may hold blanks, and nothing else is true. -/
def Stack.meets (σ : Stack) : List String → Bool
  | ["true"] => true
  | ["top__", "==", n] => (numberBefore? "" n).any (σ.top == ·)
  | ["top__", ">=", n] => (numberBefore? "" n).any (· ≤ σ.top)
  | ["top__", "<=", n] => (numberBefore? "" n).any (σ.top ≤ ·)
  | ["dub_isinteger(L,", slot] => (numberBefore? ")" slot).any (σ.passes .integer)
  | ["lua_type(L,", slot, "==", constant] =>
    (SlotTest.ofConstant? constant).any fun test => (numberBefore? ")" slot).any (σ.passes test)
  | "dubL_testudata(L," :: slot :: tokens =>
    (between? "\"" "\")" (" ".intercalate tokens)).any fun tag =>
      (numberBefore? "," slot).any (σ.passes (.object tag))
  | _ => false

/-- The expression is true for the stack: the tokens in front of, between and behind its `&&`
are. -/
def Stack.truth (σ : Stack) (expression : String) : Bool :=
  (pieces (· == "&&") (parts ' ' expression)).all σ.meets

/-! ### Numerals and tokens -/

lemma numberBefore?_toString (n : Nat) (back : String) :
    numberBefore? back (toString n ++ back) = some n := by
  have hbetween : between? "" back (toString n ++ back) = some (toString n) :=
    between?_eq_some_iff.mpr (by rw [String.empty_append])
  have hne : (Nat.toDigits 10 n).isEmpty = false :=
    List.isEmpty_eq_false_iff.mpr (List.ne_nil_of_length_pos Nat.length_toDigits_pos)
  rw [numberBefore?, hbetween, Option.bind_some, toList_toString_nat, number?, hne,
    if_neg Bool.false_ne_true, digitsValue?_toDigits (by decide) (by decide)]

/-- A numeral holds digits alone. -/
lemma not_mem_toString_nat {c : Char} (hc : c.isDigit = false) (n : Nat) :
    c ∉ (toString n).toList := by
  rw [toList_toString_nat]
  intro hmem
  rw [Nat.isDigit_of_mem_toDigits (by decide) (by decide) hmem] at hc
  cases hc

lemma not_mem_toString_append {c : Char} {back : String} (hc : c.isDigit = false)
    (hback : c ∉ back.toList) (n : Nat) : c ∉ (toString n ++ back).toList := by
  rw [String.toList_append, List.mem_append, not_or]
  exact ⟨not_mem_toString_nat hc n, hback⟩

/-- A blank behind a token ends it. -/
lemma parts_token {token : String} (h : ' ' ∉ token.toList) (rest : String) :
    parts ' ' (token ++ (" " ++ rest)) = token :: parts ' ' rest := by
  have hsplit := parts_append ' ' token rest
  rw [parts_of_not_mem h, String.append_assoc] at hsplit
  exact hsplit

lemma parts_comparison {operator middle : String} (hmiddle : " " ++ (operator ++ " ") = middle)
    (h : ' ' ∉ operator.toList) (n : Nat) :
    parts ' ' (topVar ++ middle ++ toString n) = ["top__", operator, toString n] := by
  have htext : topVar ++ middle ++ toString n
      = topVar ++ (" " ++ (operator ++ (" " ++ toString n))) := by
    rw [← hmiddle]
    simp only [String.append_assoc]
  rw [htext, parts_token (by decide), parts_token h,
    parts_of_not_mem (not_mem_toString_nat rfl n), topVar]

lemma parts_typeTest {constant back : String} (hback : ") == " ++ constant = back)
    (h : ' ' ∉ constant.toList) (n : Nat) :
    parts ' ' ("lua_type(L, " ++ toString n ++ back)
      = ["lua_type(L,", toString n ++ ")", "==", constant] := by
  have htext : "lua_type(L, " ++ toString n ++ back
      = "lua_type(L," ++ (" " ++ (toString n ++ ")" ++ (" " ++ ("==" ++ (" " ++ constant))))) := by
    rw [← hback, show "lua_type(L, " = "lua_type(L," ++ " " by decide,
      show ") == " = ")" ++ (" " ++ ("==" ++ " ")) by decide]
    simp only [String.append_assoc]
  rw [htext, parts_token (by decide), parts_token (not_mem_toString_append rfl (by decide) n),
    parts_token (by decide), parts_of_not_mem h]

lemma parts_integerTest (n : Nat) :
    parts ' ' ("dub_isinteger(L, " ++ toString n ++ ")")
      = ["dub_isinteger(L,", toString n ++ ")"] := by
  rw [show "dub_isinteger(L, " = "dub_isinteger(L," ++ " " by decide, String.append_assoc,
    String.append_assoc, parts_token (by decide),
    parts_of_not_mem (not_mem_toString_append rfl (by decide) n)]

lemma parts_objectTest (n : Nat) (tag : String) :
    parts ' ' ("dubL_testudata(L, " ++ toString n ++ ", \"" ++ tag ++ "\")")
      = "dubL_testudata(L," :: (toString n ++ ",") :: parts ' ' ("\"" ++ tag ++ "\")") := by
  have htext : "dubL_testudata(L, " ++ toString n ++ ", \"" ++ tag ++ "\")"
      = "dubL_testudata(L," ++ (" " ++ (toString n ++ "," ++ (" " ++ ("\"" ++ tag ++ "\")")))) := by
    rw [show "dubL_testudata(L, " = "dubL_testudata(L," ++ " " by decide,
      show ", \"" = "," ++ (" " ++ "\"") by decide]
    simp only [String.append_assoc]
  rw [htext, parts_token (by decide), parts_token (not_mem_toString_append rfl (by decide) n)]

/-! ### Conjunctions -/

section Conjunctions

variable {σ : Stack}

/-- An expression with two sides is true where both are. -/
lemma Stack.truth_and (a b : String) : σ.truth (a ++ " && " ++ b) = (σ.truth a && σ.truth b) := by
  have htokens : parts ' ' (a ++ " && " ++ b) = parts ' ' a ++ "&&" :: parts ' ' b := by
    have htext : a ++ " && " ++ b
        = a ++ String.singleton ' ' ++ ("&&" ++ String.singleton ' ' ++ b) := by
      rw [show " && " = String.singleton ' ' ++ ("&&" ++ String.singleton ' ') by decide]
      simp only [String.append_assoc]
    have hmark : parts ' ' "&&" = ["&&"] := parts_of_not_mem (by decide)
    rw [htext, parts_append, parts_append, hmark, List.singleton_append]
  rw [truth, htokens, pieces_append_cons (by decide), List.all_append, truth, truth]

/-- A conjunction is true where all its sides are. -/
lemma Stack.truth_intercalate {sides : List String} (h : sides ≠ []) :
    σ.truth (" && ".intercalate sides) = sides.all σ.truth := by
  induction sides with
  | nil => exact absurd rfl h
  | cons side sides ih =>
      by_cases hnil : sides = []
      · rw [hnil, String.intercalate_singleton, List.all_cons, List.all_nil, Bool.and_true]
      · rw [String.intercalate_cons_of_ne_nil hnil, truth_and, ih hnil, List.all_cons]

/-- The text of a branch is true exactly where the texts of all its conditions are. -/
lemma Alternative.truth_text (a : Alternative) :
    σ.truth a.text = a.conditions.all fun c => σ.truth c.text := by
  rw [text]
  cases hconditions : a.conditions with
  | nil => rfl
  | cons c cs =>
      rw [if_neg (by simp), Stack.truth_intercalate (by simp), List.all_map]
      rfl

/-- Without an ampersand an expression has one side. -/
lemma Stack.truth_of_not_mem {expression : String} (h : '&' ∉ expression.toList) :
    σ.truth expression = σ.meets (parts ' ' expression) := by
  have hone : pieces (· == "&&") (parts ' ' expression) = [parts ' ' expression] := by
    refine pieces_of_forall_not fun part hpart => beq_eq_false_iff_ne.mpr ?_
    rintro rfl
    exact h (subset_of_mem_parts hpart (by decide))
  rw [truth, hone, List.all_cons, List.all_nil, Bool.and_true]

end Conjunctions

/-! ### Conditions read back -/

/-- The text of a test asks for the test of its slot. -/
lemma SlotTest.meets_text (σ : Stack) (t : SlotTest) (n : Nat) :
    σ.meets (parts ' ' (t.text n)) = σ.passes t n := by
  have htyped : ∀ {constant back : String} {test : SlotTest}, ") == " ++ constant = back →
      ' ' ∉ constant.toList → SlotTest.ofConstant? constant = some test →
      σ.meets (parts ' ' ("lua_type(L, " ++ toString n ++ back)) = σ.passes test n := by
    intro constant back test hback hconstant htest
    rw [parts_typeTest hback hconstant, Stack.meets, htest, numberBefore?_toString]
    rfl
  cases t with
  | boolean => exact htyped (show ") == " ++ "LUA_TBOOLEAN" = _ by decide) (by decide) rfl
  | number => exact htyped (show ") == " ++ "LUA_TNUMBER" = _ by decide) (by decide) rfl
  | string => exact htyped (show ") == " ++ "LUA_TSTRING" = _ by decide) (by decide) rfl
  | table => exact htyped (show ") == " ++ "LUA_TTABLE" = _ by decide) (by decide) rfl
  | integer =>
      show σ.meets (parts ' ' ("dub_isinteger(L, " ++ toString n ++ ")")) = _
      rw [parts_integerTest, Stack.meets, numberBefore?_toString]
      rfl
  | object tag =>
      have hjoin : " ".intercalate (parts ' ' ("\"" ++ tag ++ "\")")) = "\"" ++ tag ++ "\")" :=
        intercalate_parts ' ' _
      show σ.meets (parts ' ' ("dubL_testudata(L, " ++ toString n ++ ", \"" ++ tag ++ "\")")) = _
      rw [parts_objectTest, Stack.meets, hjoin, between?_eq_some_iff.mpr rfl,
        numberBefore?_toString]
      rfl

lemma Condition.meets_text (σ : Stack) (c : Condition) :
    σ.meets (parts ' ' c.text) = c.holds σ := by
  have hnumber : ∀ n, numberBefore? "" (toString n) = some n := by
    intro n
    have hend := numberBefore?_toString n ""
    rwa [String.append_empty] at hend
  cases c with
  | topIs n =>
      rw [text, parts_comparison (show " " ++ ("==" ++ " ") = " == " by decide) (by decide),
        Stack.meets, hnumber]
      rfl
  | topAtLeast n =>
      rw [text, parts_comparison (show " " ++ (">=" ++ " ") = " >= " by decide) (by decide),
        Stack.meets, hnumber]
      rfl
  | topAtMost n =>
      rw [text, parts_comparison (show " " ++ ("<=" ++ " ") = " <= " by decide) (by decide),
        Stack.meets, hnumber]
      rfl
  | slotHolds test slot => exact test.meets_text σ slot

/-! ### Texts without an ampersand -/

lemma consists_numeral (n : Nat) : Consists (· != '&') (toString n) :=
  consists_ne_iff.mpr (not_mem_toString_nat rfl n)

/-- The text of a test without an ampersand is true exactly where its slot passes the test. -/
lemma SlotTest.truth_text {σ : Stack} {t : SlotTest} {n : Nat}
    (h : Consists (· != '&') (t.text n)) : σ.truth (t.text n) = σ.passes t n := by
  rw [Stack.truth_of_not_mem (consists_ne_iff.mp h), t.meets_text]

/-- The text of a condition without an ampersand is true exactly where the condition holds. -/
lemma Condition.truth_text {σ : Stack} {c : Condition} (h : Consists (· != '&') c.text) :
    σ.truth c.text = c.holds σ := by
  rw [Stack.truth_of_not_mem (consists_ne_iff.mp h), c.meets_text]

/-- So is the comparison of the height with a number. -/
lemma Condition.truth_text_of_height {σ : Stack} {c : Condition}
    (h : ∀ test slot, c ≠ .slotHolds test slot) : σ.truth c.text = c.holds σ := by
  refine truth_text ?_
  cases c with
  | slotHolds test slot => exact absurd rfl (h test slot)
  | _ =>
      dsimp only [Condition.text]
      simp only [consists_append, consists_numeral, and_true]
      decide

/-- A test is written without an ampersand if its tag is. -/
lemma SlotTest.consists_text_of_tag {t : SlotTest}
    (h : ∀ tag, t = .object tag → Consists (· != '&') tag) (n : Nat) :
    Consists (· != '&') (t.text n) := by
  cases t with
  | object tag =>
      dsimp only [SlotTest.text]
      simp only [consists_append, consists_numeral, h tag rfl, and_true]
      decide
  | _ =>
      dsimp only [SlotTest.text]
      simp only [consists_append, consists_numeral, and_true]
      decide

/-- The test for an argument is, if the name of the library is: the name of a class is the base of a
type, which holds no ampersand. -/
lemma Conversion.consists_test {t : DeclaredType} {c : Conversion} {library : String}
    (h : Conversion.ofType? t = some c) (hlibrary : '&' ∉ library.toList) (n : Nat) :
    Consists (· != '&') ((c.test library).text n) := by
  have hmade : c.MadeOf (· != '&') :=
    madeOf_of_ofType? (t.consists_base rfl fun _ _ _ hc => bne_iff_ne.mpr hc) h
  refine SlotTest.consists_text_of_tag (fun tag htag => ?_) n
  cases c with
  | object className byPointer =>
      cases htag
      exact consists_registryTag rfl (consists_ne_iff.mpr hlibrary)
        (hmade.types className List.mem_cons_self)
  | _ => cases htag

end Lua

end LuaBinder
