import LuaBinder.Proofs.Code.Rows
import LuaBinder.Proofs.Lua.Characters

/-!
The layout of wrappers and choosers: their lines, and how deep these lie.

* `FunctionDecl.Unbroken`: the texts that the code for a function shows hold no line break. The
  types are not among them, since a type has its words joined by single spaces.
* `Wrapper.unbroken_steps`, `Chooser.unbroken_steps`: neither do the lines of its wrapper and of a
  chooser.
* `Wrapper.depth_bodySteps`, `Chooser.depth_bodySteps`: a body ends at the depth where it starts,
  and comes never out of it.
-/

namespace LuaBinder

open Text

/-! ### Texts of declarations -/

lemma DeclaredType.unbroken_base (t : DeclaredType) : Unbroken t.base :=
  unbroken_intercalate (unbroken_ofList rfl) fun _ hword =>
    unbroken_of_mem_words (List.mem_filter.mp hword).1

lemma DeclaredType.unbroken_localText (t : DeclaredType) : Unbroken t.localText :=
  unbroken_intercalate (unbroken_ofList rfl) fun _ hword =>
    unbroken_of_mem_words (List.mem_filter.mp hword).1

/-- The texts that the code for a function shows hold no line break. -/
@[mk_iff]
structure FunctionDecl.Unbroken (f : FunctionDecl) : Prop where
  scope : Text.Unbroken f.scope
  name : Text.Unbroken f.name
  qualifiedName : Text.Unbroken f.qualifiedName
  library : Text.Unbroken f.library
  signature : Text.Unbroken f.signature
  source : ∀ text ∈ f.source?, Text.Unbroken text
  arguments : ∀ a ∈ f.arguments,
    Text.Unbroken a.name ∧ ∀ suffix ∈ a.arraySuffix, Text.Unbroken suffix

instance (f : FunctionDecl) : Decidable f.Unbroken := decidable_of_iff' _ (f.unbroken_iff)

/-- Such texts are made of characters that end no line, and so are types. -/
lemma FunctionDecl.Unbroken.madeOf {f : FunctionDecl} (hf : f.Unbroken) : f.MadeOf staysOnLine where
  scope := unbroken_iff_consists.mp hf.scope
  name := unbroken_iff_consists.mp hf.name
  qualifiedName := unbroken_iff_consists.mp hf.qualifiedName
  library := unbroken_iff_consists.mp hf.library
  arguments a ha :=
    ⟨unbroken_iff_consists.mp (hf.arguments a ha).1, unbroken_iff_consists.mp a.type.unbroken_base,
      fun suffix hsuffix => unbroken_iff_consists.mp ((hf.arguments a ha).2 suffix hsuffix)⟩
  result a _ := ⟨unbroken_iff_consists.mp a.type.unbroken_base,
    unbroken_iff_consists.mp a.type.unbroken_localText⟩

namespace Lua

open Code

/-! ### Parameters -/

/-- The types that a conversion names hold no line break. -/
structure Conversion.Unbroken (c : Conversion) : Prop where
  types : ∀ type ∈ c.types, Text.Unbroken type

lemma Conversion.unbroken_iff_madeOf {c : Conversion} : c.Unbroken ↔ c.MadeOf staysOnLine :=
  ⟨fun h => ⟨fun type ht => unbroken_iff_consists.mp (h.types type ht)⟩,
    fun h => ⟨fun type ht => unbroken_iff_consists.mpr (h.types type ht)⟩⟩

lemma Conversion.Unbroken.fetch {c : Conversion} {var library : String} (hc : c.Unbroken)
    (hlibrary : Text.Unbroken library) (hvar : Text.Unbroken var) (slot : Slot) :
    Text.Unbroken (c.fetch var slot library) := by
  rw [unbroken_iff_consists] at hlibrary hvar ⊢
  exact (unbroken_iff_madeOf.mp hc).fetch admits_staysOnLine hlibrary hvar slot

/-- The texts of a parameter hold no line break. -/
structure Parameter.Unbroken (p : Parameter) : Prop where
  name : Text.Unbroken p.name
  base : Text.Unbroken p.base
  conversion : ∀ c, p.shape = .value c → c.Unbroken
  element : ∀ c length, p.shape = .array c length → c.Unbroken ∧ Text.Unbroken length

lemma Parameter.unbroken_iff_madeOf {p : Parameter} : p.Unbroken ↔ p.MadeOf staysOnLine := by
  constructor
  · rintro ⟨hname, hbase, hconversion, helement⟩
    simp only [Conversion.unbroken_iff_madeOf, unbroken_iff_consists] at *
    exact ⟨hname, hbase, hconversion, helement⟩
  · rintro ⟨hname, hbase, hconversion, helement⟩
    simp only [← Conversion.unbroken_iff_madeOf, ← unbroken_iff_consists] at *
    exact ⟨hname, hbase, hconversion, helement⟩

section Parameters

variable {p : Parameter} {library : String}

lemma Parameter.Unbroken.fetch (hp : p.Unbroken) (hlibrary : Text.Unbroken library) :
    UnbrokenAll (p.fetch library) := by
  have hname := hp.name
  have hbase := hp.base
  have hslot := unbroken_toString_nat p.slot
  rw [Parameter.fetch]
  cases hshape : p.shape with
  | value c => exact ⟨(hp.conversion c hshape).fetch hlibrary hname _, trivial⟩
  | array c length =>
      obtain ⟨hc, hlength⟩ := hp.element c length hshape
      have hread := hc.fetch hlibrary (unbroken_ofList rfl : Text.Unbroken "v__") .top
      simp only [UnbrokenAll, Step.Unbroken, unbroken_append, hname, hbase, hslot, hlength, hread,
        and_true, true_and]
      and_intros <;> exact unbroken_ofList rfl

/-- Reading a parameter leads nowhere. -/
lemma Parameter.flatAll_fetch (p : Parameter) (library : String) :
    Builder.flatAll (p.fetch library) = true := by
  rw [fetch]
  split <;> rfl

end Parameters

/-! ### Wrappers -/

lemma unbroken_identifier {f : FunctionDecl} (hscope : Unbroken f.scope) (hname : Unbroken f.name)
    (index : Option Nat) : Unbroken (identifier f index) := by
  rw [unbroken_iff_consists] at hscope hname ⊢
  exact consists_identifier admits_staysOnLine hscope hname index

lemma unbroken_definitionLine {name : String} (h : Unbroken name) :
    Unbroken (definitionLine name) :=
  .append (.append (unbroken_ofList rfl) h) (unbroken_ofList rfl)

/-- The texts of a return value hold no line break. -/
structure Result.Unbroken (r : Result) : Prop where
  localType : Text.Unbroken r.localType
  conversion : r.conversion.Unbroken

/-- The texts of a wrapper hold no line break. -/
structure Wrapper.Unbroken (w : Wrapper) : Prop where
  comment : ∀ row ∈ w.comment, Text.Unbroken row
  name : Text.Unbroken w.name
  qualifiedName : Text.Unbroken w.qualifiedName
  selfClass : ∀ className ∈ w.selfClass, Text.Unbroken className
  library : Text.Unbroken w.library
  fetched : ∀ p ∈ w.fetched, p.Unbroken
  branches : ∀ b ∈ w.branches, (∀ p ∈ b.fetched, p.Unbroken) ∧ ∀ p ∈ b.passed, p.Unbroken
  callee : Text.Unbroken w.callee.text
  result : ∀ r ∈ w.result?, r.Unbroken

lemma Wrapper.unbroken_iff_madeOf {w : Wrapper} :
    w.Unbroken ↔ (∀ row ∈ w.comment, Text.Unbroken row) ∧ w.MadeOf staysOnLine := by
  constructor
  · rintro ⟨hcomment, hname, hqualified, hself, hlibrary, hfetched, hbranches, hcallee, hresult⟩
    simp only [Parameter.unbroken_iff_madeOf] at hfetched hbranches
    rw [unbroken_iff_consists] at hname hqualified hlibrary hcallee
    exact ⟨hcomment, hname, hqualified, fun n hn => unbroken_iff_consists.mp (hself n hn), hlibrary,
      hfetched, hbranches, hcallee, fun r hr => ⟨unbroken_iff_consists.mp (hresult r hr).localType,
        Conversion.unbroken_iff_madeOf.mp (hresult r hr).conversion⟩⟩
  · rintro ⟨hcomment, hname, hqualified, hself, hlibrary, hfetched, hbranches, hcallee, hresult⟩
    simp only [← Parameter.unbroken_iff_madeOf] at hfetched hbranches
    rw [← unbroken_iff_consists] at hname hqualified hlibrary hcallee
    exact ⟨hcomment, hname, hqualified, fun n hn => unbroken_iff_consists.mpr (hself n hn), hlibrary,
      hfetched, hbranches, hcallee, fun r hr => ⟨unbroken_iff_consists.mpr (hresult r hr).localType,
        Conversion.unbroken_iff_madeOf.mpr (hresult r hr).conversion⟩⟩

/-- The wrapper of a function whose texts hold no line break. -/
lemma Wrapper.unbroken_ofSignature {f : FunctionDecl} {s : Signature} (h : s.Describes f)
    (hf : f.Unbroken) : (Wrapper.ofSignature f s).Unbroken := by
  refine unbroken_iff_madeOf.mpr ⟨fun row hrow => ?_,
    madeOf_ofSignature h admits_staysOnLine hf.madeOf⟩
  rcases List.mem_cons.mp hrow with rfl | hrow
  · exact hf.signature
  · exact hf.source row (Option.mem_toList.mp hrow)

namespace Wrapper

variable {w : Wrapper} (hw : w.Unbroken)

lemma unbroken_topStep : topStep.Unbroken := by
  show Text.Unbroken _
  decide

lemma unbrokenAll_flatMap_fetch {ps : List Parameter} {library : String}
    (hps : ∀ p ∈ ps, p.Unbroken) (hlibrary : Text.Unbroken library) :
    UnbrokenAll (ps.flatMap (·.fetch library)) := by
  rw [unbrokenAll_iff]
  intro s hs
  obtain ⟨p, hp, hs⟩ := List.mem_flatMap.mp hs
  exact unbrokenAll_iff.mp ((hps p hp).fetch hlibrary) s hs

lemma unbroken_branchLine (isFirst : Bool) (minTop : Option Nat) :
    Text.Unbroken (branchLine isFirst minTop) := by
  cases minTop with
  | none => exact (unbroken_ofList rfl : Text.Unbroken "\x7d else \x7b")
  | some top =>
      have htop := unbroken_toString_nat top
      have hhead : Text.Unbroken (if isFirst then "if" else "\x7d else if") := by
        cases isFirst <;> exact unbroken_ofList rfl
      have hvar : Text.Unbroken topVar := unbroken_ofList rfl
      dsimp only [branchLine]
      simp only [unbroken_append, hhead, hvar, htop, and_true, true_and]
      and_intros <;> exact unbroken_ofList rfl

include hw

lemma unbroken_callSteps {passed : List Parameter} (hpassed : ∀ p ∈ passed, p.Unbroken) :
    UnbrokenAll (w.callSteps passed) := by
  obtain ⟨-, hmade⟩ := unbroken_iff_madeOf.mp hw
  simp only [Parameter.unbroken_iff_madeOf] at hpassed
  have hcall := unbroken_iff_consists.mpr (hmade.callText admits_staysOnLine hpassed)
  rw [callSteps]
  split
  · simp only [UnbrokenAll, Step.Unbroken, unbroken_append, hcall, and_true, true_and]
    and_intros <;> exact unbroken_ofList rfl
  · next r hr =>
      have hresult := hmade.result r hr
      have hpush := unbroken_iff_consists.mpr (hmade.resultPush admits_staysOnLine hresult)
      have hvar : Consists staysOnLine resultVar := consists_ofList admits_staysOnLine rfl
      have hdeclaration := unbroken_iff_consists.mpr
        (consists_declaration admits_staysOnLine hresult.localType hvar)
      simp only [UnbrokenAll, Step.Unbroken, unbroken_append, hcall, hpush, hdeclaration, and_true,
        true_and]
      and_intros <;> exact unbroken_ofList rfl

lemma unbroken_branchSteps {b : Branch} (hb : b ∈ w.branches) : UnbrokenAll (w.branchSteps b) := by
  obtain ⟨hfetched, hpassed⟩ := hw.branches b hb
  exact unbrokenAll_append.mpr
    ⟨unbrokenAll_flatMap_fetch hfetched hw.library, unbroken_callSteps hw hpassed⟩

lemma unbroken_branchChain {bs : List Branch} (hbs : ∀ b ∈ bs, b ∈ w.branches) (isFirst : Bool) :
    UnbrokenAll (w.branchChain isFirst bs) := by
  induction bs generalizing isFirst with
  | nil => exact ⟨(unbroken_ofList rfl : Text.Unbroken "\x7d"), trivial⟩
  | cons b bs ih =>
      obtain ⟨hb, hrest⟩ := List.forall_mem_cons.mp hbs
      rw [branchChain]
      refine unbrokenAll_append.mpr ⟨?_, trivial, ih hrest false⟩
      exact ⟨unbroken_branchLine isFirst b.minTop, trivial, unbroken_branchSteps hw hb⟩

lemma unbroken_branchesSteps : UnbrokenAll w.branchesSteps := by
  rw [branchesSteps]
  split
  · next b hb => exact unbroken_branchSteps hw (hb ▸ List.mem_cons_self)
  · exact ⟨unbroken_topStep, unbroken_branchChain hw (fun _ hb => hb) true⟩

lemma unbroken_selfSteps : UnbrokenAll w.selfSteps := by
  rw [selfSteps]
  split
  · trivial
  · next className hclass =>
      have hconversion : (Conversion.object className true).Unbroken :=
        ⟨fun _ ht => List.mem_singleton.mp ht ▸ hw.selfClass className hclass⟩
      exact ⟨hconversion.fetch hw.library (by decide) _, trivial⟩

lemma unbroken_handlerSteps : UnbrokenAll w.handlerSteps := by
  have hname := hw.qualifiedName
  simp only [handlerSteps, UnbrokenAll, Step.Unbroken, unbroken_append, hname, and_true, true_and]
  and_intros <;> exact unbroken_ofList rfl

lemma unbroken_bodySteps : UnbrokenAll w.bodySteps := by
  have htry : UnbrokenAll [.line "try \x7b", .indent] :=
    ⟨(unbroken_ofList rfl : Text.Unbroken "try \x7b"), trivial, trivial⟩
  have herror : UnbrokenAll [.line "return lua_error(L);"] :=
    ⟨(unbroken_ofList rfl : Text.Unbroken "return lua_error(L);"), trivial⟩
  rw [bodySteps]
  simp only [unbrokenAll_append]
  exact ⟨⟨⟨⟨⟨⟨htry, unbroken_selfSteps hw⟩, unbrokenAll_flatMap_fetch hw.fetched hw.library⟩,
    unbroken_branchesSteps hw⟩, trivial, trivial⟩, unbroken_handlerSteps hw⟩, herror⟩

/-- The lines of a wrapper hold no line break. -/
lemma unbroken_steps : UnbrokenAll w.steps :=
  ⟨hw.comment, ⟨unbroken_definitionLine hw.name, (unbroken_ofList rfl : Text.Unbroken "\x7d"),
    unbroken_bodySteps hw⟩, trivial⟩

omit hw

lemma flatAll_flatMap_fetch (ps : List Parameter) (library : String) :
    Builder.flatAll (ps.flatMap (·.fetch library)) = true := by
  rw [Builder.flatAll_iff]
  intro s hs
  obtain ⟨p, -, hs⟩ := List.mem_flatMap.mp hs
  exact Builder.flatAll_iff.mp (p.flatAll_fetch library) s hs

lemma flatAll_branchSteps (b : Branch) : Builder.flatAll (w.branchSteps b) = true := by
  refine Builder.flatAll_append (flatAll_flatMap_fetch b.fetched w.library) ?_
  rw [callSteps]
  split <;> rfl

lemma depth_branchChain (isFirst : Bool) (bs : List Branch) (depth : Nat) :
    depthAfterAll? depth (w.branchChain isFirst bs) = some depth := by
  induction bs generalizing isFirst with
  | nil => rfl
  | cons b bs ih =>
      have hbranch : depthAfterAll? depth
          (.line (branchLine isFirst b.minTop) :: .indent :: w.branchSteps b) = some (depth + 1) :=
        depthAfterAll?_of_flatAll (w.flatAll_branchSteps b) (depth + 1)
      exact depthAfterAll?_append hbranch (ih false)

lemma depth_branchesSteps (depth : Nat) : depthAfterAll? depth w.branchesSteps = some depth := by
  rw [branchesSteps]
  split
  · exact depthAfterAll?_of_flatAll (w.flatAll_branchSteps _) depth
  · exact w.depth_branchChain true _ depth

/-- The body of a wrapper ends at the depth where it starts. -/
lemma depth_bodySteps : depthAfterAll? 0 w.bodySteps = some 0 := by
  have hself : Builder.flatAll w.selfSteps = true := by
    rw [selfSteps]
    split <;> rfl
  have hguarded : depthAfterAll? 0 ([Step.line "try \x7b", .indent] ++ w.selfSteps) = some 1 :=
    depthAfterAll?_append rfl (depthAfterAll?_of_flatAll hself 1)
  have hfetched := depthAfterAll?_append hguarded
    (depthAfterAll?_of_flatAll (flatAll_flatMap_fetch w.fetched w.library) 1)
  have hbranches := depthAfterAll?_append hfetched (w.depth_branchesSteps 1)
  have hclosed : depthAfterAll? 0 _ = some 0 :=
    depthAfterAll?_append hbranches (rfl : depthAfterAll? 1 [.dedent] = some 0)
  exact depthAfterAll?_append (depthAfterAll?_append hclosed rfl) rfl

end Wrapper

/-! ### Choosers -/

/-- The texts of a chooser hold no line break. -/
structure Chooser.Unbroken (c : Chooser) : Prop where
  functionName : Text.Unbroken c.functionName
  name : Text.Unbroken c.name
  qualifiedName : Text.Unbroken c.qualifiedName
  alternatives : ∀ a ∈ c.alternatives, Text.Unbroken a.text ∧ Text.Unbroken a.target

/-- The branch of an overload whose texts hold no line break. -/
lemma unbroken_ofOverload {s : Signature} {f : FunctionDecl} (h : s.Describes f)
    (hf : f.Unbroken) : Unbroken (Alternative.ofOverload s f).text
      ∧ Unbroken (Alternative.ofOverload s f).target := by
  simp only [unbroken_iff_consists]
  exact consists_ofOverload_of_madeOf h admits_staysOnLine hf.madeOf

namespace Chooser

lemma unbroken_alternativeSteps {as : List Alternative}
    (has : ∀ a ∈ as, Text.Unbroken a.text ∧ Text.Unbroken a.target) (isFirst : Bool) :
    UnbrokenAll (alternativeSteps isFirst as) := by
  induction as generalizing isFirst with
  | nil => exact ⟨(unbroken_ofList rfl : Text.Unbroken "\x7d"), trivial⟩
  | cons a as ih =>
      obtain ⟨⟨htext, htarget⟩, hrest⟩ := List.forall_mem_cons.mp has
      have hhead : Text.Unbroken (if isFirst then "if" else "\x7d else if") := by
        cases isFirst <;> exact unbroken_ofList rfl
      have hsteps := ih hrest false
      rw [alternativeSteps]
      simp only [UnbrokenAll, Step.Unbroken, unbroken_append, hhead, htext, htarget, hsteps,
        and_true, true_and]
      and_intros <;> exact unbroken_ofList rfl

variable {c : Chooser}

/-- The lines of a chooser hold no line break. -/
lemma unbroken_steps (hc : c.Unbroken) : UnbrokenAll c.steps := by
  have hcomment : Text.Unbroken ("Overloaded function chooser for " ++ c.functionName ++ "(...)") :=
    .append (.append (unbroken_ofList rfl) hc.functionName) (unbroken_ofList rfl)
  have herror : UnbrokenAll c.errorSteps := by
    have hname := hc.qualifiedName
    simp only [errorSteps, UnbrokenAll, Step.Unbroken, unbroken_append, hname, and_true]
    and_intros <;> exact unbroken_ofList rfl
  have hbody : UnbrokenAll c.bodySteps :=
    ⟨Wrapper.unbroken_topStep,
      unbrokenAll_append.mpr ⟨unbroken_alternativeSteps hc.alternatives true, herror⟩⟩
  refine ⟨fun row hrow => ?_,
    ⟨unbroken_definitionLine hc.name, (unbroken_ofList rfl : Text.Unbroken "\x7d"),
    hbody⟩, trivial⟩
  rw [List.mem_singleton.mp hrow]
  exact hcomment

lemma depth_alternativeSteps (isFirst : Bool) (as : List Alternative) (depth : Nat) :
    depthAfterAll? depth (alternativeSteps isFirst as) = some depth := by
  induction as generalizing isFirst with
  | nil => rfl
  | cons a as ih => exact ih false

/-- The body of a chooser ends at the depth where it starts. -/
lemma depth_bodySteps (c : Chooser) : depthAfterAll? 0 c.bodySteps = some 0 := by
  have halternatives :
      depthAfterAll? 0 (topStep :: alternativeSteps true c.alternatives) = some 0 :=
    depth_alternativeSteps true c.alternatives 0
  exact depthAfterAll?_append halternatives rfl

end Chooser

end Lua

end LuaBinder
