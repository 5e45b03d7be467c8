import LuaBinder.Decl.Sketch
import LuaBinder.Proofs.Lua.Conditions

/-!
Which overload a chooser returns to.

A call is a stack: its height, and for every slot the tests that the value there passes. The
branches of a chooser ask for both in expressions, which are read from their text, and control
returns to the overload of the first branch whose expression is true.

* `Stack.fits`: the expression that tests an argument is true; `Stack.Reads`: it is so exactly where
  the value passes the test, see `Stack.reads`.
* `Matches`: the number of given arguments suits the overload, and its mandatory parameters pass
  their tests.
* `Outranks`: an overload needs more arguments than another one, or as many and more integers, or
  also as many and was declared earlier.
* `Selected`: the matching overload that outranks all others.
* `Alternative.truth_text_iff`: the expression of the branch of an overload is true exactly when the
  overload matches.
* `find?_mergeSort_eq_some`: the first element of a stable sort that passes a test comes before all
  others that pass it, equal ones by their places in the given list.
* `Chooser.path_eq`: control follows the branches from top to bottom.
* `chooser_selects`: control returns to the selected overload, or reaches the error if there is
  none.
-/

namespace LuaBinder

open Code Text

/-! ### Calls -/

/-- The test that a value given for an argument must pass, absent when it has no conversion. -/
def Argument.slotTest? (a : Argument) (library : String) : Option Lua.SlotTest :=
  (Lua.Conversion.ofType? a.type).map fun c =>
    if a.arraySuffix.isSome then .table else c.test library

/-- The argument is a single integer. -/
def Argument.isInteger (a : Argument) : Bool :=
  a.arraySuffix.isNone && (Lua.Conversion.ofType? a.type).any Lua.Conversion.isInteger

/-- Number of mandatory parameters that are single integers. -/
def FunctionDecl.integerCount (f : FunctionDecl) : Nat :=
  (f.formals.take f.required).countP Argument.isInteger

/-- A stack of the given height holds the mandatory arguments, and no more than all of them unless
the function is variadic. -/
def FunctionDecl.Takes (f : FunctionDecl) (top : Nat) : Prop :=
  (f.required : Int) ≤ f.supplied top
    ∧ (f.supplied top ≤ f.formals.length ∨ f.isVariadic = true)

instance (f : FunctionDecl) (top : Nat) : Decidable (f.Takes top) :=
  inferInstanceAs (Decidable (_ ∧ _))

namespace Lua

/-- The expression that tests the slot of an argument is true. -/
def Stack.fits (σ : Stack) (library : String) (a : Argument × Nat) : Bool :=
  (a.1.slotTest? library).any fun test => σ.truth (test.text a.2)

/-- The expressions that test the arguments of an overload are true exactly where the values pass
the tests. -/
def Stack.Reads (σ : Stack) (f : FunctionDecl) : Prop :=
  ∀ a ∈ f.placed, σ.fits f.library a = (a.1.slotTest? f.library).any (σ.passes · a.2)

/-- The number of given arguments suits the overload, and its mandatory parameters pass their
tests. -/
structure Matches (σ : Stack) (f : FunctionDecl) : Prop where
  takes : f.Takes σ.top
  fits : ∀ a ∈ f.placed.take f.required, σ.fits f.library a = true

instance (σ : Stack) (f : FunctionDecl) : Decidable (Matches σ f) :=
  decidable_of_iff (f.Takes σ.top ∧ ∀ a ∈ f.placed.take f.required, σ.fits f.library a = true)
    ⟨fun ⟨h, h'⟩ => ⟨h, h'⟩, fun ⟨h, h'⟩ => ⟨h, h'⟩⟩

/-- An overload at a place among the declarations goes before another one. -/
def Outranks (a b : FunctionDecl × Nat) : Prop :=
  b.1.required < a.1.required
    ∨ (a.1.required = b.1.required
      ∧ (b.1.integerCount < a.1.integerCount
        ∨ (a.1.integerCount = b.1.integerCount ∧ a.2 < b.2)))

instance (a b : FunctionDecl × Nat) : Decidable (Outranks a b) :=
  inferInstanceAs (Decidable (_ ∨ _))

/-- The overload at a place matches, and it outranks all others that match. -/
structure Selected (σ : Stack) (fs : List FunctionDecl) (i : Nat) (f : FunctionDecl) : Prop where
  declared : fs[i]? = some f
  fits : Matches σ f
  first : ∀ (j : Nat) (g : FunctionDecl), fs[j]? = some g → j ≠ i → Matches σ g →
    Outranks (f, i) (g, j)

/-! ### Tests of arguments -/

lemma slotTest?_eq {a : Argument × Nat} {p : Parameter} (h : ReadsFrom a p) (library : String) :
    a.1.slotTest? library = some (p.test library) := by
  obtain ⟨c, hc, hshape⟩ := shapeOf_eq_ok_iff.mp (readsFrom_iff.mp h).1
  rw [Argument.slotTest?, hc, Parameter.test]
  rcases hshape with ⟨ha, hp⟩ | ⟨suffix, length, ha, -, -, hp⟩
  · simp [ha, hp]
  · simp [ha, hp]

/-- An argument is tested for what its expression asks, unless the name of the library holds an
ampersand. -/
lemma Stack.reads (σ : Stack) {f : FunctionDecl} (h : '&' ∉ f.library.toList) : σ.Reads f := by
  intro a _
  rw [fits, Argument.slotTest?]
  cases hc : Conversion.ofType? a.1.type with
  | none => rfl
  | some c =>
      have htest : Consists (· != '&')
          ((if a.1.arraySuffix.isSome then .table else c.test f.library : SlotTest).text a.2) := by
        split
        · exact SlotTest.consists_text_of_tag (fun _ htable => by cases htable) a.2
        · exact Conversion.consists_test hc h a.2
      exact SlotTest.truth_text htest

lemma isInteger_eq {a : Argument × Nat} {p : Parameter} (h : ReadsFrom a p) :
    p.isInteger = a.1.isInteger := by
  obtain ⟨c, hc, hshape⟩ := shapeOf_eq_ok_iff.mp (readsFrom_iff.mp h).1
  rw [Argument.isInteger, hc, Parameter.isInteger]
  rcases hshape with ⟨ha, hp⟩ | ⟨suffix, length, ha, -, -, hp⟩
  · simp [ha, hp]
  · simp [ha, hp]

/-! ### Branches -/

section Branches

variable {s : Signature} {f : FunctionDecl} {σ : Stack}

lemma integerTests_eq (h : s.Describes f) : s.integerTests = f.integerCount := by
  have hcount : ∀ {as : List (Argument × Nat)} {ps : List Parameter},
      List.Forall₂ ReadsFrom as ps →
        ps.countP Parameter.isInteger = (as.map Prod.fst).countP Argument.isInteger := by
    intro as ps hap
    induction hap with
    | nil => rfl
    | cons ha _ ih => rw [List.map_cons, List.countP_cons, List.countP_cons, ih, isInteger_eq ha]
  rw [Signature.integerTests, hcount h.forall₂_mandatory, FunctionDecl.integerCount, List.map_take,
    f.map_fst_placed]

/-- The conditions on the height say that the number of arguments suits the overload. -/
lemma heightConditions_all (h : s.Describes f) :
    s.heightConditions.all (·.holds σ) = true ↔ f.Takes σ.top := by
  have hle := f.required_le_length_formals
  simp only [Signature.heightConditions, h.topFor_eq, h.required, h.length_parameters,
    h.variadic, FunctionDecl.Takes, FunctionDecl.supplied]
  -- the lower bound is written only where it is not zero
  have hlow : (if f.selfSlots + f.required > 0
        then [Condition.topAtLeast (f.selfSlots + f.required)] else []).all (·.holds σ) = true
      ↔ f.selfSlots + f.required ≤ σ.top := by
    split
    · simp [Condition.holds]
    · simp only [List.all_nil, true_iff]
      omega
  cases f.isVariadic with
  | true =>
      rw [if_neg (by simp), if_pos rfl, List.append_nil, hlow]
      simp only [or_true, and_true]
      omega
  | false =>
      rw [if_neg Bool.false_ne_true]
      by_cases heq : f.required = f.formals.length
      · rw [if_pos (by simp [heq])]
        simp only [List.all_cons, List.all_nil, Condition.holds, beq_iff_eq, Bool.and_true,
          Bool.false_eq_true, or_false]
        omega
      · rw [if_neg (by simp [heq]), List.all_append, Bool.and_eq_true, hlow]
        simp only [List.all_cons, List.all_nil, Condition.holds, decide_eq_true_eq, Bool.and_true,
          Bool.false_eq_true, or_false]
        omega

/-- They compare the height alone, so their texts say the same. -/
lemma truth_heightConditions (h : s.Describes f) :
    s.heightConditions.all (fun c => σ.truth c.text) = true ↔ f.Takes σ.top := by
  have hread : ∀ c ∈ s.heightConditions, σ.truth c.text = c.holds σ := by
    intro c hc
    refine Condition.truth_text_of_height ?_
    rintro test slot rfl
    rw [Signature.heightConditions] at hc
    split_ifs at hc <;> simp at hc
  rw [← heightConditions_all h, List.all_eq_true, List.all_eq_true]
  exact forall₂_congr fun c hc => by rw [hread c hc]

/-- The texts of the conditions on the slots say that the mandatory parameters fit. -/
lemma truth_slotConditions (h : s.Describes f) :
    s.slotConditions.all (fun c => σ.truth c.text) = true
      ↔ ∀ a ∈ f.placed.take f.required, σ.fits f.library a = true := by
  have hall : ∀ {as : List (Argument × Nat)} {ps : List Parameter},
      List.Forall₂ ReadsFrom as ps →
        ((ps.map fun p => Condition.slotHolds (p.test s.library) p.slot).all
            (fun c => σ.truth c.text) = true
          ↔ ∀ a ∈ as, σ.fits f.library a = true) := by
    intro as ps hap
    induction hap with
    | nil => simp
    | @cons a p as ps ha _ ih =>
        have hfits : σ.fits f.library a = σ.truth ((p.test s.library).text p.slot) := by
          rw [Stack.fits, slotTest?_eq ha, h.library, (readsFrom_iff.mp ha).2.2.2]
          rfl
        rw [List.map_cons, List.all_cons, Bool.and_eq_true, ih, List.forall_mem_cons, hfits]
        rfl
  rw [Signature.slotConditions]
  exact hall h.forall₂_mandatory

/-- The expression of the branch of an overload is true exactly when the overload matches. -/
lemma Alternative.truth_text_iff (h : s.Describes f) :
    σ.truth (Alternative.ofOverload s f).text = true ↔ Matches σ f := by
  rw [Alternative.truth_text, Alternative.ofOverload, List.all_append, Bool.and_eq_true,
    truth_heightConditions h, truth_slotConditions h]
  exact ⟨fun ⟨htakes, hfits⟩ => ⟨htakes, hfits⟩, fun hm => ⟨hm.takes, hm.fits⟩⟩

end Branches

/-! ### The order of the branches -/

section Order

variable {α : Type} {p : α → Bool} {l : List α} {a : α}

/-- In an ordered list, the first element that passes a test precedes all others that pass it. -/
lemma find?_pairwise {R : α → α → Prop} (h : l.Pairwise R) (hf : l.find? p = some a) :
    ∀ b ∈ l, p b = true → b = a ∨ R a b := by
  induction l with
  | nil => cases hf
  | cons x xs ih =>
      obtain ⟨hx, hxs⟩ := List.pairwise_cons.mp h
      intro b hb hpb
      by_cases hpx : p x = true
      · rw [List.find?_cons_of_pos hpx] at hf
        cases hf
        rcases List.mem_cons.mp hb with rfl | hb
        · exact .inl rfl
        · exact .inr (hx b hb)
      · rw [List.find?_cons_of_neg hpx] at hf
        rcases List.mem_cons.mp hb with rfl | hb
        · exact absurd hpb hpx
        · exact ih hxs hf b hb hpb

/-- In a stable sort, the first element that passes a test comes before every other one that passes
it; those that compare equal keep their places. -/
lemma find?_mergeSort_eq_some {le : α → α → Bool}
    (htrans : ∀ a b c, le a b = true → le b c = true → le a c = true)
    (htotal : ∀ a b, (le a b || le b a) = true) (h : (l.mergeSort le).find? p = some a) :
    ∃ i : Nat, l[i]? = some a ∧ p a = true
      ∧ ∀ (j : Nat) (b : α), l[j]? = some b → p b = true → j ≠ i →
        List.zipIdxLE le (a, i) (b, j) = true := by
  rw [← List.mergeSort_zipIdx, List.find?_map, Option.map_eq_some_iff] at h
  obtain ⟨⟨a', i⟩, hfind, rfl⟩ := h
  have hsorted := List.pairwise_mergeSort (List.zipIdxLE_trans htrans)
    (List.zipIdxLE_total htotal) l.zipIdx
  have hmem := List.mem_mergeSort.mp (List.mem_of_find?_eq_some hfind)
  have hp : p a' = true := List.find?_some (p := p ∘ Prod.fst) hfind
  refine ⟨i, List.mem_zipIdx_iff_getElem?.mp hmem, hp, fun j b hb hpb hne => ?_⟩
  have hbmem : (b, j) ∈ l.zipIdx.mergeSort (List.zipIdxLE le) :=
    List.mem_mergeSort.mpr (List.mem_zipIdx_iff_getElem?.mpr hb)
  rcases find?_pairwise hsorted hfind (b, j) hbmem hpb with heq | hle
  · exact absurd (congrArg Prod.snd heq) hne
  · exact hle

end Order

lemma triedBefore_trans (s t u : Signature) (h : triedBefore s t = true)
    (h' : triedBefore t u = true) : triedBefore s u = true := by
  simp only [triedBefore, Bool.or_eq_true, Bool.and_eq_true, decide_eq_true_eq, beq_iff_eq] at *
  omega

lemma triedBefore_total (s t : Signature) : (triedBefore s t || triedBefore t s) = true := by
  simp only [triedBefore, Bool.or_eq_true, Bool.and_eq_true, decide_eq_true_eq, beq_iff_eq]
  omega

/-- What is tried no later, and earlier in a tie, outranks. -/
lemma outranks_of_zipIdxLE {a b : Signature × FunctionDecl} {i j : Nat}
    (ha : a.1.Describes a.2) (hb : b.1.Describes b.2) (hne : j ≠ i)
    (h : List.zipIdxLE (fun a b : Signature × FunctionDecl => triedBefore a.1 b.1)
      (a, i) (b, j) = true) : Outranks (a.2, i) (b.2, j) := by
  simp only [List.zipIdxLE, triedBefore, ha.required, hb.required, integerTests_eq ha,
    integerTests_eq hb, Bool.or_eq_true, Bool.and_eq_true, decide_eq_true_eq, beq_iff_eq] at h
  simp only [Outranks]
  split at h
  · split at h
    · have hij := of_decide_eq_true h
      omega
    · omega
  · cases h

section Selected

variable {σ : Stack} {fs : List FunctionDecl} {f g : FunctionDecl} {i j : Nat}

lemma not_outranks_of_outranks {a b : FunctionDecl × Nat} (h : Outranks a b) : ¬ Outranks b a := by
  simp only [Outranks] at h ⊢
  omega

/-- Only one overload is selected. -/
lemma Selected.unique (h : Selected σ fs i f) (h' : Selected σ fs j g) : i = j ∧ f = g := by
  have hij : i = j := by
    by_contra hne
    exact not_outranks_of_outranks (h.first j g h'.declared (Ne.symm hne) h'.fits)
      (h'.first i f h.declared hne h.fits)
  subst hij
  exact ⟨rfl, Option.some.inj (h.declared.symm.trans h'.declared)⟩

lemma selected_of_forall (hi : i < fs.length) (hfits : Matches σ fs[i])
    (hfirst : ∀ j : Fin fs.length, j.val ≠ i → Matches σ fs[j] → Outranks (fs[i], i) (fs[j], j)) :
    Selected σ fs i fs[i] := by
  refine ⟨List.getElem?_eq_getElem hi, hfits, fun j g hj hne hg => ?_⟩
  obtain ⟨hlt, rfl⟩ := List.getElem?_eq_some_iff.mp hj
  exact hfirst ⟨j, hlt⟩ hne hg

end Selected

/-! ### Control in a chooser -/

/-- The statements that leave a chooser. -/
def returnsAnything : Step → Bool
  | .line text => startsWith "return " text
  | _ => false

/-- The statements that control passes in a chooser, given which conditions hold. -/
def Chooser.path (truth : String → Bool) (c : Chooser) : List Step :=
  executed truth returnsAnything .running c.bodySteps

/-- The statement that leads to the target of a branch. -/
def Alternative.step (a : Alternative) : Step := .line ("return " ++ a.target ++ "(L);")

lemma startsWith_append (front rest : String) : startsWith front (front ++ rest) = true := by
  rw [startsWith, Option.isSome_iff_exists]
  exact ⟨rest.toList, afterHead?_eq_some_iff.mpr (String.toList_append ..)⟩

/-- Control follows the branches from top to bottom and takes the first whose condition holds. -/
lemma executed_alternativeSteps (truth : String → Bool) (isFirst : Bool)
    (alternatives : List Alternative) (rest : List Step) :
    executed truth returnsAnything (.before isFirst)
        (Chooser.alternativeSteps isFirst alternatives ++ rest)
      = match alternatives.find? fun a => truth a.text with
        | some a => [a.step]
        | none => executed truth returnsAnything .running rest := by
  induction alternatives generalizing isFirst with
  | nil =>
      have hclose : Control.ofLine "\x7d" = .close := by decide
      rw [Chooser.alternativeSteps, List.singleton_append, executed_line hclose (by decide)]
      cases isFirst <;> rfl
  | cons a as ih =>
      have hstep : a.step.control? = some .statement := control?_line _ (by decide)
      have hreturns : returnsAnything a.step = true := by
        rw [Alternative.step, String.append_assoc]
        exact startsWith_append _ _
      have hbranch : Chooser.alternativeSteps isFirst (a :: as) ++ rest
          = .line (branchHead isFirst a.text) :: .indent
            :: ([a.step] ++ .dedent :: (Chooser.alternativeSteps false as ++ rest)) := rfl
      rw [hbranch, executed_branch _ _ (by simpa using hstep), ih]
      cases htruth : truth a.text with
      | true =>
          have hfind : (a :: as).find? (fun b => truth b.text) = some a :=
            List.find?_cons_of_pos htruth
          rw [if_pos rfl, hfind]
          exact executed_return hstep hreturns
      | false =>
          have hfind : (a :: as).find? (fun b => truth b.text)
              = as.find? fun b => truth b.text := List.find?_cons_of_neg (by simp [htruth])
          rw [if_neg Bool.false_ne_true, hfind]

/-- Control reads the height and returns to the first branch whose condition holds, or reports that
there is none. -/
lemma Chooser.path_eq (c : Chooser) (truth : String → Bool) :
    c.path truth = topStep :: match c.alternatives.find? fun a => truth a.text with
      | some a => [a.step]
      | none => c.errorSteps := by
  have htop : topStep.control? = some .statement := control?_line _ (by decide)
  have herror : executed truth returnsAnything .running c.errorSteps = c.errorSteps := by
    have hkeep : returnsAnything (.line ("lua_pushstring(L, \"" ++ c.qualifiedName
        ++ ": no overload accepts these arguments\");")) = false := by
      cases h : startsWith "return " ("lua_pushstring(L, \"" ++ c.qualifiedName
        ++ ": no overload accepts these arguments\");") with
      | false => exact h
      | true => simp [startsWith, afterHead?] at h
    have hreturn : (Step.line "return lua_error(L);").control? = some .statement :=
      congrArg some (ofLine_of_semicolon (by decide))
    rw [Chooser.errorSteps, executed_statement (control?_line _ (by decide)) hkeep,
      executed_return hreturn (by decide)]
  rw [Chooser.path, Chooser.bodySteps, List.cons_append, executed_statement htop (by decide),
    ← Mode.before_true, executed_alternativeSteps, herror]

/-! ### The choosers of overloads -/

/-- The signatures of overloads, in their order. -/
lemma signatures_eq_ok_iff {fs : List FunctionDecl} {overloads : List (Signature × FunctionDecl)} :
    Chooser.signatures fs = .ok overloads
      ↔ List.Forall₂ (fun f o => signatureOf f = .ok o.1 ∧ o.2 = f) fs overloads := by
  have hiff : ∀ f (o : Signature × FunctionDecl), (signatureOf f).map (·, f) = .ok o
      ↔ signatureOf f = .ok o.1 ∧ o.2 = f := by
    rintro f ⟨s, g⟩
    rw [map_eq_ok_iff]
    constructor
    · rintro ⟨t, ht, h⟩
      cases h
      exact ⟨ht, rfl⟩
    · rintro ⟨hs, rfl⟩
      exact ⟨s, hs, rfl⟩
  rw [Chooser.signatures, mapM_eq_ok_iff]
  simp only [hiff]

/-- Every overload keeps its declaration, with a signature that describes it. -/
lemma describes_of_signatures {fs : List FunctionDecl} {overloads : List (Signature × FunctionDecl)}
    (h : Chooser.signatures fs = .ok overloads) :
    overloads.map Prod.snd = fs ∧ ∀ o ∈ overloads, o.1.Describes o.2 := by
  have hall := signatures_eq_ok_iff.mp h
  clear h
  induction hall with
  | nil => exact ⟨rfl, fun o ho => absurd ho List.not_mem_nil⟩
  | cons ho _ ih =>
      obtain ⟨hs, rfl⟩ := ho
      refine ⟨by rw [List.map_cons, ih.1], List.forall_mem_cons.mpr ⟨?_, ih.2⟩⟩
      exact Signature.describes_of_ofFunction (signatureOf_eq_ok_iff.mp hs)

/-- Convertible overloads have signatures. -/
lemma exists_signatures {fs : List FunctionDecl} (h : ∀ f ∈ fs, isConvertible f = true) :
    ∃ overloads, Chooser.signatures fs = .ok overloads := by
  have hall : ∀ f ∈ fs, ∃ o, ((signatureOf f).map (·, f)) = .ok o ∧ True := by
    intro f hf
    obtain ⟨s, hs⟩ := exists_signature (h f hf)
    exact ⟨(s, f), by rw [signatureOf_eq_ok_iff.mpr hs]; rfl, trivial⟩
  obtain ⟨overloads, hoverloads, -⟩ := exists_mapM_eq_ok hall
  exact ⟨overloads, hoverloads⟩

/-- Overloads with signatures have a chooser, named for the first and with the branches of all. -/
lemma exists_ofOverloads {first : FunctionDecl} {rest : List FunctionDecl}
    {overloads : List (Signature × FunctionDecl)}
    (h : Chooser.signatures (first :: rest) = .ok overloads) :
    ∃ c : Chooser, Chooser.ofOverloads (first :: rest) = .ok (some c)
      ∧ c.name = identifier first (some 0)
      ∧ c.alternatives = Chooser.alternativesOf overloads := by
  refine ⟨⟨first.name, identifier first (some 0), first.qualifiedName,
    Chooser.alternativesOf overloads⟩, ?_, rfl, rfl⟩
  rw [Chooser.ofOverloads, h]
  rfl

lemma exists_chooser {fs : List FunctionDecl} {overloads : List (Signature × FunctionDecl)}
    (hne : fs ≠ []) (h : Chooser.signatures fs = .ok overloads) :
    ∃ c : Chooser, chooserText fs = .ok (render c.steps)
      ∧ c.alternatives = Chooser.alternativesOf overloads := by
  cases fs with
  | nil => exact absurd rfl hne
  | cons first rest =>
      obtain ⟨c, hc, -, halternatives⟩ := exists_ofOverloads h
      refine ⟨c, ?_, halternatives⟩
      rw [chooserText, hc]
      rfl

/-- Sorting keeps every branch, once. -/
lemma alternativesOf_perm (overloads : List (Signature × FunctionDecl)) :
    (Chooser.alternativesOf overloads).Perm
      (overloads.map fun o => Alternative.ofOverload o.1 o.2) :=
  (List.mergeSort_perm overloads _).map _

/-- Either no overload matches and no branch is taken, or the taken branch is that of a matching
overload which outranks all others. -/
lemma find?_alternativesOf {overloads : List (Signature × FunctionDecl)}
    (hd : ∀ o ∈ overloads, o.1.Describes o.2) (σ : Stack) :
    ((∀ o ∈ overloads, ¬ Matches σ o.2)
        ∧ (Chooser.alternativesOf overloads).find? (fun a => σ.truth a.text) = none)
      ∨ ∃ (i : Nat) (o : Signature × FunctionDecl), overloads[i]? = some o ∧ Matches σ o.2
        ∧ (∀ (j : Nat) (p : Signature × FunctionDecl), overloads[j]? = some p → j ≠ i →
            Matches σ p.2 → Outranks (o.2, i) (p.2, j))
        ∧ (Chooser.alternativesOf overloads).find? (fun a => σ.truth a.text)
            = some (.ofOverload o.1 o.2) := by
  have htrue : ∀ o ∈ overloads,
      σ.truth (Alternative.ofOverload o.1 o.2).text = true ↔ Matches σ o.2 :=
    fun o ho => Alternative.truth_text_iff (hd o ho)
  have hsorted : Chooser.alternativesOf overloads
      = (overloads.mergeSort fun a b => triedBefore a.1 b.1).map
        fun o => Alternative.ofOverload o.1 o.2 := rfl
  rw [hsorted, List.find?_map]
  cases hfind : (overloads.mergeSort fun a b => triedBefore a.1 b.1).find?
      ((fun a => σ.truth a.text) ∘ fun o => Alternative.ofOverload o.1 o.2) with
  | none =>
      refine .inl ⟨fun o ho hm => ?_, rfl⟩
      exact List.find?_eq_none.mp hfind o (List.mem_mergeSort.mpr ho) ((htrue o ho).mpr hm)
  | some o =>
      obtain ⟨i, hi, ho, hfirst⟩ := find?_mergeSort_eq_some
        (fun a b c => triedBefore_trans a.1 b.1 c.1) (fun a b => triedBefore_total a.1 b.1) hfind
      have hmem := List.mem_of_getElem? hi
      refine .inr ⟨i, o, hi, (htrue o hmem).mp ho, fun j p hj hne hm => ?_, rfl⟩
      have hp := List.mem_of_getElem? hj
      exact outranks_of_zipIdxLE (hd o hmem) (hd p hp) hne
        (hfirst j p hj ((htrue p hp).mpr hm) hne)

/-- Control reaches the error where no overload matches, and the selected overload otherwise. -/
lemma Chooser.path_of_signatures {fs : List FunctionDecl}
    {overloads : List (Signature × FunctionDecl)} {c : Chooser}
    (h : Chooser.signatures fs = .ok overloads)
    (hc : c.alternatives = Chooser.alternativesOf overloads) (σ : Stack) :
    ((∀ f ∈ fs, ¬ Matches σ f) ∧ c.path σ.truth = topStep :: c.errorSteps)
      ∨ ∃ i f, Selected σ fs i f
        ∧ c.path σ.truth = [topStep, .line ("return " ++ identifier f none ++ "(L);")] := by
  obtain ⟨hfs, hd⟩ := describes_of_signatures h
  have hget : ∀ {i : Nat} {f : FunctionDecl}, fs[i]? = some f →
      ∃ o, overloads[i]? = some o ∧ o.2 = f := by
    intro i f hi
    rw [← hfs, List.getElem?_map, Option.map_eq_some_iff] at hi
    exact hi
  rw [Chooser.path_eq, hc]
  rcases find?_alternativesOf hd σ with ⟨hnone, hselect⟩ | ⟨i, o, hi, hm, hfirst, hselect⟩
  · refine .inl ⟨fun f hf => ?_, by rw [hselect]⟩
    rw [← hfs] at hf
    obtain ⟨o, ho, rfl⟩ := List.mem_map.mp hf
    exact hnone o ho
  · refine .inr ⟨i, o.2, ⟨?_, hm, fun j g hj hne hg => ?_⟩, by rw [hselect]; rfl⟩
    · rw [← hfs, List.getElem?_map, hi]
      rfl
    · obtain ⟨p, hp, rfl⟩ := hget hj
      exact hfirst j p hp hne hg

/-- **Selection of an overload.** A chooser has one branch for every overload. The conditions are
true as their text says: the expression that tests an argument is true exactly where the value
passes the test, unless the name of a library holds an ampersand. Where no overload matches a call,
control reaches the error; otherwise it returns to the overload that matches and outranks every
other one that does: it needs the most arguments, then it has the most mandatory integers, then it
was declared first. -/
theorem chooser_selects (fs : List FunctionDecl) (hne : fs ≠ [])
    (hconv : ∀ f ∈ fs, isConvertible f = true) :
    ∃ (c : Chooser) (overloads : List (Signature × FunctionDecl)),
      chooserText fs = .ok (render c.steps)
        ∧ overloads.map Prod.snd = fs
        ∧ (∀ o ∈ overloads, o.1.Describes o.2)
        ∧ c.alternatives.Perm (overloads.map fun o => Alternative.ofOverload o.1 o.2)
        ∧ ∀ σ : Stack, (∀ f ∈ fs, '&' ∉ f.library.toList → σ.Reads f)
          ∧ (((∀ f ∈ fs, ¬ Matches σ f) ∧ c.path σ.truth = topStep :: c.errorSteps)
            ∨ ∃ i f, Selected σ fs i f
              ∧ c.path σ.truth
                = [topStep, .line ("return " ++ identifier f none ++ "(L);")]) := by
  obtain ⟨overloads, hoverloads⟩ := exists_signatures hconv
  obtain ⟨hfs, hd⟩ := describes_of_signatures hoverloads
  obtain ⟨c, htext, halternatives⟩ := exists_chooser hne hoverloads
  refine ⟨c, overloads, htext, hfs, hd, ?_, fun σ => ⟨fun f _ => σ.reads, ?_⟩⟩
  · rw [halternatives]
    exact alternativesOf_perm overloads
  · exact Chooser.path_of_signatures hoverloads halternatives σ

/-- A function that scales by any number, and one that scales by an integer. -/
def scalings : List FunctionDecl :=
  numbered (.ofNamespace "dub") "dub" "scale" <| ["double", "int"].map fun type =>
    { name := "scale", result := "void"
      params := [Sketch.param type "factor" none] : Sketch }.declare

/-- An integer goes to the overload for integers, although the one for all numbers was declared
first. -/
theorem chooser_selects_integer :
    scalings ≠ [] ∧ (∀ f ∈ scalings, isConvertible f = true)
      ∧ ∃ c : Chooser, chooserText scalings = .ok (render c.steps)
        ∧ c.path (Stack.ofValues [.integer]).truth
          = [topStep, .line "return dub_scale2(L);"] := by
  have hne : scalings ≠ [] := by decide
  have hconv : ∀ f ∈ scalings, isConvertible f = true := by decide +kernel
  obtain ⟨c, overloads, htext, -, -, -, h⟩ := chooser_selects scalings hne hconv
  refine ⟨hne, hconv, c, htext, ?_⟩
  have hselected : Selected (Stack.ofValues [.integer]) scalings 1 _ :=
    selected_of_forall (by decide) (by decide +kernel) (by decide +kernel)
  rcases (h (Stack.ofValues [.integer])).2 with ⟨hnone, -⟩ | ⟨i, f, hs, hpath⟩
  · exact absurd hselected.fits (hnone _ (List.mem_of_getElem? hselected.declared))
  · obtain ⟨rfl, rfl⟩ := hs.unique hselected
    have hname : ∀ h1 : 1 < scalings.length, identifier scalings[1] none = "dub_scale2" := by
      decide +kernel
    rw [hpath, hname]
    rfl

end Lua

end LuaBinder
