import LuaBinder.Decl.Sketch
import LuaBinder.Lua.Wrapper
import LuaBinder.Proofs.Code.Control
import LuaBinder.Proofs.Lua.Signature
import LuaBinder.Proofs.Text.Decimal

/-!
The way that control takes through a wrapper, for every height of the stack.

* `Wrapper.path`: the statements that control passes in a wrapper, up to its return.
* `FunctionDecl.passedCount`: how many parameters a call passes. It is the number of given
  arguments, but at least the mandatory parameters and at most all of them.
* `Wrapper.executed_ladder`: in the chain of branches that tests the height for every number of
  arguments, from all parameters down to the mandatory ones, control takes the first branch that
  the stack is high enough for, and the last one otherwise.
* `reached_eq_passedCount`: that branch passes as many parameters as it should.
* `wrapper_path`: the way reads the object, then each passed parameter from its slot, makes one
  call with them, and returns one value after one push, or none.
-/

namespace LuaBinder

open Code Text

/-! ### The number of passed parameters -/

/-- Number of parameters that a call with a stack of the given height passes. -/
def FunctionDecl.passedCount (f : FunctionDecl) (top : Nat) : Nat :=
  if (f.formals.length : Int) ≤ f.supplied top then f.formals.length
  else if f.supplied top ≤ f.required then f.required
  else (f.supplied top).toNat

namespace Lua

/-! ### Statements of a wrapper -/

/-- The conditions of a wrapper: the stack is at least as high as the condition says. -/
def heightHolds (top : Nat) (condition : String) : Bool :=
  (List.range (top + 1)).any fun n => condition == topVar ++ " >= " ++ toString n

lemma heightHolds_iff {top n : Nat} :
    heightHolds top (topVar ++ " >= " ++ toString n) = true ↔ n ≤ top := by
  rw [heightHolds, List.any_eq_true]
  constructor
  · rintro ⟨m, hm, h⟩
    have heq : toString n = toString m := by simpa using h
    rw [toString_nat_injective heq]
    exact Nat.lt_succ_iff.mp (List.mem_range.mp hm)
  · intro h
    exact ⟨n, List.mem_range.mpr (Nat.lt_succ_iff.mpr h), by simp⟩

/-- The statements that leave a wrapper with a number of results. -/
def returnsResults : Step → Bool
  | .line text => text == "return 0;" || text == "return 1;"
  | _ => false

/-- The step is a statement, and control goes on behind it. -/
def GoesOn (s : Step) : Prop := s.control? = some .statement ∧ returnsResults s = false

/-- Lines of code are known by their last two characters. -/
lemma goesOn_line {front : String} (back : String) (c : Char)
    (h : back.toList.reverse.take 2 = [';', c]) (hc : c ≠ '0' ∧ c ≠ '1') :
    GoesOn (.line (front ++ back)) := by
  have hlast : (front ++ back).toList.reverse.take 2 = [';', c] := by
    have hlen := congrArg List.length h
    simp only [List.length_take, List.length_cons, List.length_nil] at hlen
    rw [String.toList_append, List.reverse_append, List.take_append_of_le_length (by omega), h]
  refine ⟨congrArg some (ofLine_of_semicolon ?_), ?_⟩
  · rw [endsWith, List.getLast?_eq_head?_reverse]
    cases hr : (front ++ back).toList.reverse with
    | nil => rw [hr] at hlast; cases hlast
    | cons x xs =>
        rw [hr] at hlast
        simp only [List.take_succ_cons, List.cons.injEq] at hlast
        rw [hlast.1]
        rfl
  · have hne : ∀ text : String, text.toList.reverse.take 2 ≠ [';', c] → front ++ back ≠ text := by
      rintro text ht rfl
      exact ht hlast
    have h0 : front ++ back ≠ "return 0;" := hne _ (by simp [hc.1.symm])
    have h1 : front ++ back ≠ "return 1;" := hne _ (by simp [hc.2.symm])
    simp [returnsResults, h0, h1]

lemma goesOn_conversion_fetch (c : Conversion) (var : String) (slot : Slot) (library : String) :
    GoesOn (.line (c.fetch var slot library)) := by
  cases c with
  | stdString => exact goesOn_line "));" ')' (by decide) (by decide)
  | object className byPointer => exact goesOn_line "\"));" ')' (by decide) (by decide)
  | _ => exact goesOn_line ");" ')' (by decide) (by decide)

lemma goesOn_fetch (p : Parameter) (library : String) : ∀ s ∈ p.fetch library, GoesOn s := by
  intro s hs
  rw [Parameter.fetch] at hs
  cases hshape : p.shape with
  | value c =>
      simp only [hshape, List.mem_singleton] at hs
      rw [hs]
      exact goesOn_conversion_fetch c p.name (.index p.slot) library
  | array element length =>
      simp only [hshape, List.mem_cons, List.not_mem_nil, or_false] at hs
      rcases hs with rfl | rfl | rfl
      · exact goesOn_line "];" ']' (by decide) (by decide)
      · exact goesOn_line ", LUA_TTABLE);" ')' (by decide) (by decide)
      · exact ⟨rfl, rfl⟩

lemma goesOn_push (p : Push) : GoesOn (.line p.text) := by
  cases p with
  | stdString value => exact goesOn_line ".c_str());" ')' (by decide) (by decide)
  | copy className value tag => exact goesOn_line "\", true);" ')' (by decide) (by decide)
  | _ => exact goesOn_line ");" ')' (by decide) (by decide)

namespace Wrapper

variable (w : Wrapper)

/-- A line that ends with the call. -/
lemma goesOn_call (front : String) (passed : List Parameter) :
    GoesOn (.line (front ++ w.callText passed ++ ";")) := by
  have h : front ++ w.callText passed ++ ";"
      = (front ++ w.callee.text ++ "(" ++ String.intercalate ", " (passed.map Parameter.pass))
        ++ ");" := by
    rw [callText, show ");" = ")" ++ ";" by decide]
    simp only [String.append_assoc]
  rw [h]
  exact goesOn_line ");" ')' (by decide) (by decide)

/-- The lines of a call: those in front of the return go on, and the return does not. -/
lemma callSteps_eq (passed : List Parameter) :
    ∃ front results, w.callSteps passed = front ++ [.line results]
      ∧ (∀ s ∈ front, GoesOn s) ∧ (results = "return 0;" ∨ results = "return 1;") := by
  rw [callSteps]
  cases w.result? with
  | none =>
      refine ⟨[.line (w.callText passed ++ ";")], "return 0;", rfl, ?_, .inl rfl⟩
      simpa using w.goesOn_call "" passed
  | some r =>
      refine ⟨[.line (declaration r.localType resultVar ++ " = " ++ w.callText passed ++ ";"),
        .line (w.resultPush r).text], "return 1;", rfl, ?_, .inr rfl⟩
      intro s hs
      simp only [List.mem_cons, List.not_mem_nil, or_false] at hs
      rcases hs with rfl | rfl
      · exact w.goesOn_call _ passed
      · exact goesOn_push _

lemma control?_callSteps (passed : List Parameter) :
    ∀ s ∈ w.callSteps passed, s.control? = some .statement := by
  obtain ⟨front, results, heq, hfront, hresults⟩ := w.callSteps_eq passed
  intro s hs
  rw [heq, List.mem_append, List.mem_singleton] at hs
  rcases hs with hs | rfl
  · exact (hfront s hs).1
  · rcases hresults with rfl | rfl <;> exact congrArg some (ofLine_of_semicolon (by decide))

lemma control?_branchSteps (b : Branch) :
    ∀ s ∈ w.branchSteps b, s.control? = some .statement := by
  intro s hs
  rw [branchSteps, List.mem_append, List.mem_flatMap] at hs
  rcases hs with ⟨p, -, hs⟩ | hs
  · exact (goesOn_fetch p w.library s hs).1
  · exact w.control?_callSteps b.passed s hs

variable {holds : String → Bool}

/-- A call is where the way ends. -/
lemma executed_callSteps (passed : List Parameter) (rest : List Step) :
    executed holds returnsResults .running (w.callSteps passed ++ rest) = w.callSteps passed := by
  obtain ⟨front, results, heq, hfront, hresults⟩ := w.callSteps_eq passed
  have hreturn : returnsResults (.line results) = true := by
    rcases hresults with rfl | rfl <;> rfl
  have hstatement : (Step.line results).control? = some .statement := by
    rcases hresults with rfl | rfl <;> exact congrArg some (ofLine_of_semicolon (by decide))
  rw [heq, List.append_assoc, executed_append (fun s hs => (hfront s hs).1)
    fun s hs => (hfront s hs).2, List.singleton_append, executed_return hstatement hreturn]

lemma executed_flatMap_fetch (ps : List Parameter) (rest : List Step) :
    executed holds returnsResults .running (ps.flatMap (·.fetch w.library) ++ rest)
      = ps.flatMap (·.fetch w.library) ++ executed holds returnsResults .running rest := by
  have hall : ∀ s ∈ ps.flatMap (·.fetch w.library), GoesOn s := by
    intro s hs
    obtain ⟨p, -, hs⟩ := List.mem_flatMap.mp hs
    exact goesOn_fetch p w.library s hs
  exact executed_append (fun s hs => (hall s hs).1) fun s hs => (hall s hs).2

/-- So is a branch, whatever follows it. -/
lemma executed_branchSteps (b : Branch) (rest : List Step) :
    executed holds returnsResults .running (w.branchSteps b ++ rest) = w.branchSteps b := by
  rw [branchSteps, List.append_assoc, executed_flatMap_fetch, executed_callSteps]

/-! ### The chain of branches -/

/-- The branches for all numbers of arguments from `s.required + d` down to `s.required`. -/
def ladder (s : Signature) (d : Nat) : List Branch :=
  (List.range (d + 1)).map fun i => branchFor s (s.required + d - i)

lemma ladder_zero (s : Signature) : ladder s 0 = [branchFor s s.required] := rfl

lemma ladder_succ (s : Signature) (d : Nat) :
    ladder s (d + 1) = branchFor s (s.required + d + 1) :: ladder s d := by
  rw [ladder, ladder, List.range_succ_eq_map, List.map_cons, List.map_map]
  refine congrArg₂ _ rfl (List.map_congr_left fun i _ => ?_)
  exact congrArg (branchFor s) (by simp only [Nat.succ_eq_add_one]; omega)

lemma branchesOf_eq_ladder {s : Signature} (h : s.required ≤ s.parameters.length) :
    branchesOf s = ladder s (s.parameters.length - s.required) := by
  rw [branchesOf, ladder, show s.required + (s.parameters.length - s.required)
    = s.parameters.length by omega, show s.parameters.length + 1 - s.required
    = s.parameters.length - s.required + 1 by omega]

/-- The number of arguments whose branch is taken: the first from above for which the stack is high
enough, or the mandatory ones. -/
def reached (s : Signature) (top : Nat) : Nat → Nat
  | 0 => s.required
  | d + 1 => if s.topFor (s.required + d + 1) ≤ top then s.required + d + 1 else reached s top d

lemma branchLine_some (isFirst : Bool) (n : Nat) :
    branchLine isFirst (some n) = branchHead isFirst (topVar ++ " >= " ++ toString n) := by
  rw [branchLine, branchHead]
  simp only [String.append_assoc]

lemma branchChain_cons (isFirst : Bool) (b : Branch) (bs : List Branch) (rest : List Step) :
    w.branchChain isFirst (b :: bs) ++ rest
      = .line (branchLine isFirst b.minTop) :: .indent
        :: (w.branchSteps b ++ .dedent :: (w.branchChain false bs ++ rest)) := by
  simp [branchChain]

/-- One rung of the chain: its branch is taken if the stack is high enough, else the next rung is
looked at. -/
lemma executed_branchChain_cons {s : Signature} {count top : Nat} {bs : List Branch}
    {rest : List Step} {isFirst : Bool} (hcount : count ≠ s.required) :
    executed (heightHolds top) returnsResults (.before isFirst)
        (w.branchChain isFirst (branchFor s count :: bs) ++ rest)
      = if s.topFor count ≤ top then w.branchSteps (branchFor s count)
        else executed (heightHolds top) returnsResults (.before false)
          (w.branchChain false bs ++ rest) := by
  have hmin : (branchFor s count).minTop = some (s.topFor count) := if_neg hcount
  rw [branchChain_cons, hmin, branchLine_some, executed_branch _ _ (w.control?_branchSteps _)]
  simp only [heightHolds_iff, executed_branchSteps]

/-- Where no rung above was taken, control takes the first one that the stack is high enough for,
and the last one otherwise. -/
lemma executed_ladder (s : Signature) (d top : Nat) (rest : List Step) :
    executed (heightHolds top) returnsResults (.before false)
        (w.branchChain false (ladder s d) ++ rest)
      = w.branchSteps (branchFor s (reached s top d)) := by
  induction d with
  | zero =>
      have hmin : (branchFor s s.required).minTop = none := if_pos rfl
      have hline : Control.ofLine (branchLine false none) = .orElse := by decide
      have hnext : (Mode.before false).next (heightHolds top) .orElse = .running := rfl
      rw [ladder_zero, branchChain_cons, hmin, executed_line hline (by decide), executed_indent,
        hnext, executed_branchSteps, reached]
  | succ d ih =>
      rw [ladder_succ, w.executed_branchChain_cons (by omega), ih, reached]
      split <;> rfl

lemma branchesSteps_singleton {b : Branch} (h : w.branches = [b]) :
    w.branchesSteps = w.branchSteps b := by
  rw [branchesSteps, h]

lemma branchesSteps_of_two_le (h : 2 ≤ w.branches.length) :
    w.branchesSteps = topStep :: w.branchChain true w.branches := by
  rw [branchesSteps]
  split
  · next b hb => rw [hb] at h; simp at h
  · rfl

/-- The branches of a signature make the call with the parameters that are reached; the height is
read only if there is a choice. -/
lemma executed_branchesSteps {s : Signature} (hw : w.branches = branchesOf s)
    (hle : s.required ≤ s.parameters.length) (top : Nat) (rest : List Step) :
    executed (heightHolds top) returnsResults .running (w.branchesSteps ++ rest)
      = (if s.required = s.parameters.length then [] else [topStep])
        ++ w.branchSteps (branchFor s (reached s top (s.parameters.length - s.required))) := by
  rw [branchesOf_eq_ladder hle] at hw
  cases hd : s.parameters.length - s.required with
  | zero =>
      rw [hd, ladder_zero] at hw
      rw [if_pos (by omega), List.nil_append, reached, w.branchesSteps_singleton hw]
      exact w.executed_branchSteps _ rest
  | succ d =>
      rw [hd] at hw
      have htop : GoesOn topStep := goesOn_line " = lua_gettop(L);" ')' (by decide) (by decide)
      have hlong : 2 ≤ w.branches.length := by rw [hw]; simp [ladder]
      rw [if_neg (by omega), w.branchesSteps_of_two_le hlong, hw, ladder_succ,
        List.cons_append, executed_statement htop.1 htop.2, ← Mode.before_true,
        w.executed_branchChain_cons (by omega), executed_ladder, reached]
      split <;> rfl

/-- What a branch reads besides the mandatory parameters, and its call. -/
lemma branchSteps_branchFor (s : Signature) (count : Nat) :
    w.branchSteps (branchFor s count)
      = ((s.parameters.take count).drop s.required).flatMap (·.fetch w.library)
        ++ w.callSteps (s.parameters.take count) := rfl

/-! ### The way through a wrapper -/

/-- The statements that control passes with a stack of the given height, up to the return. -/
def path (top : Nat) : List Step :=
  executed (heightHolds top) returnsResults .running w.bodySteps

lemma goesOn_selfSteps : ∀ s ∈ w.selfSteps, GoesOn s := by
  intro s hs
  rw [selfSteps] at hs
  cases h : w.selfClass with
  | none => rw [h] at hs; cases hs
  | some className =>
      simp only [h, List.mem_singleton] at hs
      rw [hs]
      exact goesOn_conversion_fetch _ selfVar (.index 1) w.library

lemma path_eq {s : Signature} (hfetched : w.fetched = s.mandatory) (hw : w.branches = branchesOf s)
    (hle : s.required ≤ s.parameters.length) (top : Nat) :
    w.path top = w.selfSteps ++ s.mandatory.flatMap (·.fetch w.library)
      ++ (if s.required = s.parameters.length then [] else [topStep])
      ++ w.branchSteps (branchFor s (reached s top (s.parameters.length - s.required))) := by
  have htry : Control.ofLine "try \x7b" = .guarded := by decide
  rw [path, bodySteps, hfetched]
  simp only [List.append_assoc, List.cons_append, List.nil_append]
  rw [executed_line htry (by decide), executed_indent, Mode.next_guarded,
    executed_append (fun s hs => (w.goesOn_selfSteps s hs).1)
      fun s hs => (w.goesOn_selfSteps s hs).2,
    executed_flatMap_fetch, w.executed_branchesSteps hw hle]

end Wrapper

/-- The rungs are left as soon as the stack is high enough. -/
lemma reached_eq {s : Signature} {f : FunctionDecl} (h : s.Describes f) (top d : Nat) :
    Wrapper.reached s top d = f.required + min d (top - (f.selfSlots + f.required)) := by
  induction d with
  | zero => rw [Wrapper.reached, h.required, Nat.zero_min, Nat.add_zero]
  | succ d ih =>
      rw [Wrapper.reached, ih, h.topFor_eq, h.required]
      split <;> omega

lemma reached_eq_passedCount {s : Signature} {f : FunctionDecl} (h : s.Describes f) (top : Nat) :
    Wrapper.reached s top (s.parameters.length - s.required) = f.passedCount top := by
  have hle := f.required_le_length_formals
  rw [reached_eq h, h.required, h.length_parameters, FunctionDecl.passedCount,
    FunctionDecl.supplied]
  split
  · omega
  · split <;> omega

lemma required_le_passedCount (f : FunctionDecl) (top : Nat) : f.required ≤ f.passedCount top := by
  have hle := f.required_le_length_formals
  rw [FunctionDecl.passedCount]
  split
  · exact hle
  · split <;> omega

/-- A result is pushed exactly where the function has one. -/
lemma resultOf_eq_ok_none_iff {f : FunctionDecl} :
    Signature.resultOf f = .ok none ↔ f.result? = none := by
  rw [Signature.resultOf]
  cases f.result? with
  | none => simp
  | some a =>
      cases hc : Conversion.ofType? a.type with
      | none => simp [hc]
      | some c => simp [hc]

/-- A call ends with one push and the return of one value where the function has a result, and with
the return of none otherwise. -/
lemma callSteps_ofSignature {s : Signature} {f : FunctionDecl} (h : s.Describes f)
    (passed : List Parameter) :
    (f.result? = none ∧ (Wrapper.ofSignature f s).callSteps passed
        = [.line ((Wrapper.ofSignature f s).callText passed ++ ";"), .line "return 0;"])
      ∨ ∃ r, f.result?.isSome ∧ Signature.resultOf f = .ok (some r)
        ∧ (Wrapper.ofSignature f s).callSteps passed
          = [.line (declaration r.localType resultVar ++ " = "
              ++ (Wrapper.ofSignature f s).callText passed ++ ";"),
             .line ((Wrapper.ofSignature f s).resultPush r).text, .line "return 1;"] := by
  have hresult : (Wrapper.ofSignature f s).result? = s.result? := rfl
  have hof := h.result
  rw [Wrapper.callSteps, hresult]
  cases hr : s.result? with
  | none =>
      rw [hr] at hof
      exact .inl ⟨resultOf_eq_ok_none_iff.mp hof, rfl⟩
  | some r =>
      rw [hr] at hof
      have hsome : f.result?.isSome := by
        rw [Option.isSome_iff_ne_none]
        intro hnone
        rw [resultOf_eq_ok_none_iff.mpr hnone] at hof
        cases hof
      exact .inr ⟨r, hsome, hof, rfl⟩

end Lua

end LuaBinder
