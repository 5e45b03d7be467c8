import LuaBinder.Lua.Chooser
import LuaBinder.Proofs.Lua.Signature
import LuaBinder.Proofs.Text.Characters

/-!
What the code for a function is made of: the texts of the declaration, and what any code is written
with.

* `FunctionDecl.MadeOf`: the texts of a declaration that its code shows pass a test, character by
  character. `Parameter.MadeOf` and `Wrapper.MadeOf` say so of parameters and wrappers.
* `Wrapper.madeOf_ofSignature`: the wrapper of such a function.
* `Conversion.MadeOf.fetch`, `Conversion.MadeOf.push`, `Wrapper.MadeOf.callText`: then so do the
  statements of the wrapper, if the test admits code.
* `consists_ofOverload`: so do the conditions and the target of a branch of a chooser.
-/

namespace LuaBinder

open Text

variable {p : Char → Bool}

/-! ### Texts of declarations -/

namespace DeclaredType

variable {t : DeclaredType}

/-- The base of a type holds none of the stars and ampersands of its text. -/
lemma consists_base (hblank : p ' ' = true)
    (h : ∀ c ∈ t.text.toList, c ≠ '*' → c ≠ '&' → p c = true) : Consists p t.base := by
  have hseparator : Consists p " " := fun c hc => List.mem_singleton.mp hc ▸ hblank
  refine consists_intercalate hseparator fun word hword => ?_
  refine Consists.of_mem_words (fun c hc => ?_) (List.mem_filter.mp hword).1
  rw [String.toList_ofList] at hc
  obtain ⟨d, hd, rfl⟩ := List.mem_map.mp hc
  split
  · exact hblank
  · next hmark =>
      rw [Bool.or_eq_true, not_or, beq_iff_eq, beq_iff_eq] at hmark
      exact h d hd hmark.1 hmark.2

lemma consists_localText (hp : Admits p) (h : Consists p t.text) : Consists p t.localText :=
  consists_intercalate (consists_ofList hp rfl) fun _ hword =>
    h.of_mem_words (List.mem_filter.mp hword).1

end DeclaredType

/-- The texts that the code for a function shows below its comment pass a test, character by
character. -/
structure FunctionDecl.MadeOf (p : Char → Bool) (f : FunctionDecl) : Prop where
  scope : Consists p f.scope
  name : Consists p f.name
  qualifiedName : Consists p f.qualifiedName
  library : Consists p f.library
  arguments : ∀ a ∈ f.arguments,
    Consists p a.name ∧ Consists p a.type.base ∧ ∀ suffix ∈ a.arraySuffix, Consists p suffix
  result : ∀ a ∈ f.result?, Consists p a.type.base ∧ Consists p a.type.localText

namespace Lua

open Code

/-! ### Conversions -/

/-- The C++ types that a conversion names. -/
def Conversion.types : Conversion → List String
  | .integer type => [type]
  | .number type => [type]
  | .object className _ => [className]
  | _ => []

/-- The types that a conversion names pass a test, character by character. -/
structure Conversion.MadeOf (p : Char → Bool) (c : Conversion) : Prop where
  types : ∀ type ∈ c.types, Consists p type

lemma Conversion.madeOf_ofNative {type : String} (h : Consists p type) :
    (Conversion.ofNative type).MadeOf p := by
  rw [ofNative]
  split
  · exact ⟨fun _ ht => absurd ht List.not_mem_nil⟩
  · split
    · exact ⟨fun _ ht => List.mem_singleton.mp ht ▸ h⟩
    · exact ⟨fun _ ht => List.mem_singleton.mp ht ▸ h⟩

lemma Conversion.madeOf_of_ofType? {t : DeclaredType} {c : Conversion} (hbase : Consists p t.base)
    (h : Conversion.ofType? t = some c) : c.MadeOf p := by
  rcases ofType?_cases h with ⟨-, hc⟩ | ⟨-, hc⟩ | ⟨-, hc⟩ | ⟨-, hc⟩ <;> rw [hc]
  · exact ⟨fun _ ht => absurd ht List.not_mem_nil⟩
  · exact ⟨fun _ ht => absurd ht List.not_mem_nil⟩
  · exact madeOf_ofNative hbase
  · exact ⟨fun _ ht => List.mem_singleton.mp ht ▸ hbase⟩

section Conversions

variable {c : Conversion} {var value library : String}

lemma consists_registryTag {className : String} (hdot : p '.' = true)
    (hlibrary : Consists p library) (hname : Consists p className) :
    Consists p (registryTag library className) := by
  have hlast := hname.lastName
  have hseparator : Consists p "." := fun c hc => List.mem_singleton.mp hc ▸ hdot
  rw [registryTag]
  split
  · exact hlast
  · exact .append (.append hlibrary hseparator) hlast

lemma Slot.consists_text (hp : Admits p) (slot : Slot) : Consists p slot.text := by
  cases slot with
  | index n => exact consists_toString_nat hp n
  | top => exact consists_ofList hp rfl

lemma Conversion.MadeOf.fetch (hc : c.MadeOf p) (hp : Admits p) (hlibrary : Consists p library)
    (hvar : Consists p var) (slot : Slot) : Consists p (c.fetch var slot library) := by
  have hslot := slot.consists_text hp
  cases c with
  | object className byPointer =>
      have hname := hc.types className List.mem_cons_self
      have htag := consists_registryTag (hp '.' rfl) hlibrary hname
      dsimp only [Conversion.fetch]
      simp only [consists_append, hvar, hslot, hname, htag, and_true, true_and]
      and_intros <;> exact consists_ofList hp rfl
  | integer type =>
      have htype := hc.types type List.mem_cons_self
      dsimp only [Conversion.fetch]
      simp only [consists_append, hvar, hslot, htype, and_true, true_and]
      and_intros <;> exact consists_ofList hp rfl
  | number type =>
      have htype := hc.types type List.mem_cons_self
      dsimp only [Conversion.fetch]
      simp only [consists_append, hvar, hslot, htype, and_true, true_and]
      and_intros <;> exact consists_ofList hp rfl
  | _ =>
      dsimp only [Conversion.fetch]
      simp only [consists_append, hvar, hslot, and_true]
      and_intros <;> exact consists_ofList hp rfl

lemma Conversion.consists_pass (hp : Admits p) (hvar : Consists p var) :
    Consists p (c.pass var) := by
  cases c with
  | object className byPointer =>
      cases byPointer with
      | false => exact .append (consists_ofList hp rfl) hvar
      | true => exact hvar
  | _ => exact hvar

lemma SlotTest.consists_text {t : SlotTest} (hp : Admits p)
    (h : ∀ tag, t = .object tag → Consists p tag) (n : Nat) : Consists p (t.text n) := by
  have hn := consists_toString_nat hp n
  cases t with
  | object tag =>
      have htag := h tag rfl
      dsimp only [SlotTest.text]
      simp only [consists_append, hn, htag, and_true]
      and_intros <;> exact consists_ofList hp rfl
  | _ =>
      dsimp only [SlotTest.text]
      simp only [consists_append, hn, and_true]
      and_intros <;> exact consists_ofList hp rfl

lemma Conversion.MadeOf.test (hc : c.MadeOf p) (hp : Admits p) (hlibrary : Consists p library)
    (n : Nat) : Consists p ((c.test library).text n) := by
  refine SlotTest.consists_text hp (fun tag htag => ?_) n
  cases c with
  | object className byPointer =>
      cases htag
      exact consists_registryTag (hp '.' rfl) hlibrary (hc.types className List.mem_cons_self)
  | _ => cases htag

lemma Conversion.MadeOf.push (hc : c.MadeOf p) (hp : Admits p) (hlibrary : Consists p library)
    (hvalue : Consists p value) (owned : Bool) :
    Consists p (c.push value library owned).text := by
  cases c with
  | object className byPointer =>
      have hname := hc.types className List.mem_cons_self
      have htag := consists_registryTag (hp '.' rfl) hlibrary hname
      cases byPointer with
      | false =>
          dsimp only [Conversion.push, Push.text]
          simp only [consists_append, hvalue, hname, htag, and_true]
          and_intros <;> exact consists_ofList hp rfl
      | true =>
          have howned : Consists p (if owned then "true" else "false") := by
            cases owned <;> exact consists_ofList hp rfl
          dsimp only [Conversion.push, Push.text]
          simp only [consists_append, hvalue, htag, howned, and_true]
          and_intros <;> exact consists_ofList hp rfl
  | _ =>
      dsimp only [Conversion.push, Push.text]
      simp only [consists_append, hvalue, and_true]
      and_intros <;> exact consists_ofList hp rfl

end Conversions

/-! ### Parameters -/

/-- The texts of a parameter pass a test, character by character. -/
structure Parameter.MadeOf (p : Char → Bool) (param : Parameter) : Prop where
  name : Consists p param.name
  base : Consists p param.base
  conversion : ∀ c, param.shape = .value c → c.MadeOf p
  element : ∀ c length, param.shape = .array c length → c.MadeOf p ∧ Consists p length

lemma trimChars_subset {cs : List Char} : trimChars cs ⊆ cs := by
  intro c hc
  rw [trimChars, List.mem_reverse] at hc
  have hinner := (List.dropWhile_sublist _).subset hc
  exact (List.dropWhile_sublist _).subset (List.mem_reverse.mp hinner)

lemma consists_arrayLength? {suffix length : String} (h : arrayLength? suffix = some length)
    (hsuffix : Consists p suffix) : Consists p length := by
  rw [arrayLength?] at h
  split at h
  · next rest hrest =>
      split at h
      · dsimp only at h
        split at h
        · cases h
        · rw [← Option.some.inj h]
          refine hsuffix.of_subset fun c hc => ?_
          rw [String.toList_ofList] at hc
          have hmem := List.dropLast_subset rest (trimChars_subset hc)
          exact trimChars_subset (hrest ▸ List.mem_cons_of_mem _ hmem)
      · cases h
  · cases h

lemma madeOf_of_readsFrom {a : Argument × Nat} {param : Parameter} (h : ReadsFrom a param)
    (hname : Consists p a.1.name) (hbase : Consists p a.1.type.base)
    (hsuffix : ∀ suffix ∈ a.1.arraySuffix, Consists p suffix) : param.MadeOf p := by
  obtain ⟨hshape, hn, hb, -⟩ := readsFrom_iff.mp h
  obtain ⟨c, hc, hshape⟩ := shapeOf_eq_ok_iff.mp hshape
  have hconversion := Conversion.madeOf_of_ofType? hbase hc
  refine ⟨hn ▸ hname, hb ▸ hbase, fun d hd => ?_, fun d l hd => ?_⟩
  · rcases hshape with ⟨-, hshape⟩ | ⟨suffix, length, -, -, -, hshape⟩
    · rw [hshape] at hd
      cases hd
      exact hconversion
    · rw [hshape] at hd
      cases hd
  · rcases hshape with ⟨-, hshape⟩ | ⟨suffix, length, hs, hl, -, hshape⟩
    · rw [hshape] at hd
      cases hd
    · rw [hshape] at hd
      cases hd
      exact ⟨hconversion, consists_arrayLength? hl (hsuffix suffix hs)⟩

section Parameters

variable {param : Parameter} {library : String}

lemma Parameter.MadeOf.pass (hparam : param.MadeOf p) (hp : Admits p) : Consists p param.pass := by
  rw [Parameter.pass]
  split
  · exact Conversion.consists_pass hp hparam.name
  · exact hparam.name

/-- The test of a parameter is made of the type of its argument and the name of the library. -/
lemma Parameter.consists_test {a : Argument × Nat} (h : ReadsFrom a param) (hp : Admits p)
    (hbase : Consists p a.1.type.base) (hlibrary : Consists p library) (n : Nat) :
    Consists p ((param.test library).text n) := by
  obtain ⟨c, hc, hshape⟩ := shapeOf_eq_ok_iff.mp (readsFrom_iff.mp h).1
  rw [Parameter.test]
  rcases hshape with ⟨-, hshape⟩ | ⟨suffix, length, -, -, -, hshape⟩
  · rw [hshape]
    exact (Conversion.madeOf_of_ofType? hbase hc).test hp hlibrary n
  · rw [hshape]
    exact SlotTest.consists_text hp (fun tag htag => by cases htag) n

end Parameters

/-! ### Wrappers -/

/-- The texts of a return value pass a test, character by character. -/
structure Result.MadeOf (p : Char → Bool) (r : Result) : Prop where
  localType : Consists p r.localType
  conversion : r.conversion.MadeOf p

/-- The texts of a wrapper below its comment pass a test, character by character. -/
structure Wrapper.MadeOf (p : Char → Bool) (w : Wrapper) : Prop where
  name : Consists p w.name
  qualifiedName : Consists p w.qualifiedName
  selfClass : ∀ className ∈ w.selfClass, Consists p className
  library : Consists p w.library
  fetched : ∀ param ∈ w.fetched, param.MadeOf p
  branches : ∀ b ∈ w.branches,
    (∀ param ∈ b.fetched, param.MadeOf p) ∧ ∀ param ∈ b.passed, param.MadeOf p
  callee : Consists p w.callee.text
  result : ∀ r ∈ w.result?, r.MadeOf p

section Declarations

variable {f : FunctionDecl} {s : Signature}

lemma consists_identifier (hp : Admits p) (hscope : Consists p f.scope) (hname : Consists p f.name)
    (index : Option Nat) : Consists p (identifier f index) := by
  have hstem : Consists p (f.scope ++ "_" ++ f.name) :=
    .append (.append hscope (consists_ofList hp rfl)) hname
  rw [identifier]
  split
  · exact .append hstem (consists_toString_nat hp _)
  · exact hstem

lemma consists_callee (hp : Admits p) (hscope : Consists p f.scope) (hname : Consists p f.name)
    (hasSelf : Bool) : Consists p (Callee.ofFunction f hasSelf).text := by
  have hself : Consists p selfVar := consists_ofList hp rfl
  rw [Callee.ofFunction]
  split
  · exact .append (consists_ofList hp rfl) hname
  · split
    · exact .append (.append hself (consists_ofList hp rfl)) hname
    · split
      · exact .append (.append hscope (consists_ofList hp rfl)) hname
      · exact hname

lemma madeOf_result {result? : Option Result} (h : Signature.resultOf f = .ok result?)
    (hresult : ∀ a ∈ f.result?, Consists p a.type.base ∧ Consists p a.type.localText) :
    ∀ r ∈ result?, r.MadeOf p := by
  intro r hr
  rw [Signature.resultOf] at h
  split at h
  · rw [← Except.ok.inj h] at hr
    cases hr
  · next a ha =>
      obtain ⟨hbase, hlocal⟩ := hresult a ha
      split at h
      · cases h
      · next c hc =>
          rw [← Except.ok.inj h] at hr
          cases hr
          exact ⟨hlocal, Conversion.madeOf_of_ofType? hbase hc⟩

/-- The parameters of a function are made of what its declaration is made of. -/
lemma madeOf_parameters (h : s.Describes f) (hf : f.MadeOf p) :
    ∀ param ∈ s.parameters, param.MadeOf p := by
  intro param hparam
  obtain ⟨a, ha, hreads⟩ := exists_left_of_mem h.parameters hparam
  have hformal : a.1 ∈ f.formals := by
    rw [← f.map_fst_placed]
    exact List.mem_map_of_mem ha
  obtain ⟨hname, hbase, hsuffix⟩ := hf.arguments a.1 (List.mem_filter.mp hformal).1
  exact madeOf_of_readsFrom hreads hname hbase hsuffix

/-- So is its wrapper. -/
lemma Wrapper.madeOf_ofSignature (h : s.Describes f) (hp : Admits p) (hf : f.MadeOf p) :
    (Wrapper.ofSignature f s).MadeOf p := by
  have hparameters := madeOf_parameters h hf
  refine ⟨consists_identifier hp hf.scope hf.name none, hf.qualifiedName,
    fun className hclass => ?_, ?_, fun param hparam => ?_, fun b hb => ?_,
    consists_callee hp hf.scope hf.name s.hasSelf, madeOf_result h.result hf.result⟩
  · have hscope : className = f.scope := by
      simp only [ofSignature] at hclass
      split at hclass
      · exact (Option.some.inj hclass).symm
      · cases hclass
    exact hscope ▸ hf.scope
  · show Consists p s.library
    rw [h.library]
    exact hf.library
  · exact hparameters param (List.mem_of_mem_take hparam)
  · obtain ⟨i, -, rfl⟩ := List.mem_map.mp hb
    exact ⟨fun param hparam => hparameters param (List.mem_of_mem_take (List.mem_of_mem_drop hparam)),
      fun param hparam => hparameters param (List.mem_of_mem_take hparam)⟩

end Declarations

namespace Wrapper

variable {w : Wrapper}

lemma consists_declaration {type var : String} (hp : Admits p) (htype : Consists p type)
    (hvar : Consists p var) : Consists p (declaration type var) := by
  rw [declaration]
  split
  · exact .append htype hvar
  · exact .append (.append htype (consists_ofList hp rfl)) hvar

lemma consists_resultText {r : Result} (hr : r.MadeOf p) (hp : Admits p) :
    Consists p (resultText r) := by
  have hvar : Consists p resultVar := consists_ofList hp rfl
  rw [resultText]
  split
  · next className hconversion =>
      have hname : Consists p className := by
        refine hr.conversion.types className ?_
        rw [hconversion]
        exact List.mem_cons_self
      split
      · simp only [consists_append, hname, hvar, and_true]
        and_intros <;> exact consists_ofList hp rfl
      · exact hvar
  · exact hvar

lemma MadeOf.callText (hw : w.MadeOf p) (hp : Admits p) {passed : List Parameter}
    (hpassed : ∀ param ∈ passed, param.MadeOf p) : Consists p (w.callText passed) := by
  have harguments : Consists p (String.intercalate ", " (passed.map Parameter.pass)) := by
    refine consists_intercalate (consists_ofList hp rfl) fun text htext => ?_
    obtain ⟨param, hparam, rfl⟩ := List.mem_map.mp htext
    exact (hpassed param hparam).pass hp
  have hcallee := hw.callee
  simp only [Wrapper.callText, consists_append, hcallee, harguments, and_true, true_and]
  and_intros <;> exact consists_ofList hp rfl

lemma MadeOf.resultPush (hw : w.MadeOf p) (hp : Admits p) {r : Result} (hr : r.MadeOf p) :
    Consists p (w.resultPush r).text :=
  hr.conversion.push hp hw.library (consists_resultText hr hp) _

end Wrapper

/-! ### Choosers -/

lemma consists_heightConditions (hp : Admits p) (s : Signature) :
    ∀ condition ∈ s.heightConditions, Consists p condition.text := by
  have hvar : Consists p topVar := consists_ofList hp rfl
  have htext : ∀ (operator : String) (n : Nat), Consists p operator →
      Consists p (topVar ++ operator ++ toString n) := fun operator n hoperator =>
    .append (.append hvar hoperator) (consists_toString_nat hp n)
  intro condition hcondition
  rw [Signature.heightConditions] at hcondition
  split at hcondition
  · rw [List.mem_singleton.mp hcondition]
    exact htext " == " _ (consists_ofList hp rfl)
  · rcases List.mem_append.mp hcondition with hcondition | hcondition
    · split at hcondition
      · rw [List.mem_singleton.mp hcondition]
        exact htext " >= " _ (consists_ofList hp rfl)
      · cases hcondition
    · split at hcondition
      · cases hcondition
      · rw [List.mem_singleton.mp hcondition]
        exact htext " <= " _ (consists_ofList hp rfl)

/-- The branch of an overload is made of the names of the overload and of the library, and of the
types of its parameters. -/
lemma consists_ofOverload {s : Signature} {f : FunctionDecl} (h : s.Describes f) (hp : Admits p)
    (hscope : Consists p f.scope) (hname : Consists p f.name) (hlibrary : Consists p f.library)
    (hbase : ∀ a ∈ f.formals, Consists p a.type.base) :
    Consists p (Alternative.ofOverload s f).text
      ∧ Consists p (Alternative.ofOverload s f).target := by
  refine ⟨?_, consists_identifier hp hscope hname none⟩
  rw [Alternative.text]
  split
  · exact (consists_ofList hp rfl : Consists p "true")
  · refine consists_intercalate (consists_ofList hp rfl) fun text htext => ?_
    obtain ⟨condition, hcondition, rfl⟩ := List.mem_map.mp htext
    rcases List.mem_append.mp hcondition with hcondition | hcondition
    · exact consists_heightConditions hp s condition hcondition
    · obtain ⟨param, hparam, rfl⟩ := List.mem_map.mp hcondition
      obtain ⟨a, ha, hreads⟩ := exists_left_of_mem h.parameters (List.mem_of_mem_take hparam)
      have hformal : a.1 ∈ f.formals := by
        rw [← f.map_fst_placed]
        exact List.mem_map_of_mem ha
      exact Parameter.consists_test hreads hp (hbase a.1 hformal) (h.library ▸ hlibrary) param.slot

/-- So the texts that a declaration is made of suffice. -/
lemma consists_ofOverload_of_madeOf {s : Signature} {f : FunctionDecl} (h : s.Describes f)
    (hp : Admits p) (hf : f.MadeOf p) : Consists p (Alternative.ofOverload s f).text
      ∧ Consists p (Alternative.ofOverload s f).target :=
  consists_ofOverload h hp hf.scope hf.name hf.library fun a ha =>
    (hf.arguments a (List.mem_filter.mp ha).1).2.1

end Lua

end LuaBinder
