import LuaBinder.Proofs.Code.Nesting
import LuaBinder.Proofs.Lua.Acceptance
import LuaBinder.Proofs.Lua.Lines
import LuaBinder.Proofs.Lua.Ownership

/-!
Braces and indentation of wrappers and choosers.

* `FunctionDecl.Inert`: the texts of a declaration hold no brace and no line break.
* `FunctionDecl.Aligned`: no statement of the wrapper of a function starts with a blank, see
  `Wrapper.flushAll_bodySteps_ofSignature_iff`.
* `code_nested_and_indented_iff`: wrappers and choosers open and close their braces in one piece,
  and are indented by them, where the functions are aligned.
-/

namespace LuaBinder

open Code Text

namespace DeclaredType

variable (t : DeclaredType)

lemma flush_base : Flush t.base := flush_intercalate fun _ hword => (List.mem_filter.mp hword).1

lemma flush_localText : Flush t.localText :=
  flush_intercalate fun _ hword => (List.mem_filter.mp hword).1

end DeclaredType

namespace Lua

/-! ### Rows that start with a blank -/

/-- A conversion reads a value with a statement that starts with a type. -/
lemma Conversion.flush_fetch_iff (c : Conversion) (var : String) (slot : Slot) (library : String) :
    Flush (c.fetch var slot library) ↔ ∀ type ∈ c.types, Solid type := by
  rw [fetch_eq, String.append_assoc]
  cases c with
  | integer type => simp [fetchFront, types, flush_append_blank_iff (show ¬ Flush " " by decide)]
  | number type => simp [fetchFront, types, flush_append_blank_iff (show ¬ Flush " " by decide)]
  | object className byPointer =>
      simp [fetchFront, types, flush_append_blank_iff (show ¬ Flush " *" by decide)]
  | boolean => simp [types, (show Solid (fetchFront .boolean) by decide).flush_append]
  | cString => simp [types, (show Solid (fetchFront .cString) by decide).flush_append]
  | stdString => simp [types, (show Solid (fetchFront .stdString) by decide).flush_append]

/-- The types that the conversion of a declared type names have a text, unless the declared type has
none. -/
lemma Conversion.solid_types_iff {t : DeclaredType} {c : Conversion}
    (h : Conversion.ofType? t = some c) : (∀ type ∈ c.types, Solid type) ↔ t.base ≠ "" := by
  have hnil : ∀ d : Conversion, d.types = [] → t.base ≠ "" →
      ((∀ type ∈ d.types, Solid type) ↔ t.base ≠ "") := fun d hd hbase =>
    iff_of_true (fun type htype => absurd (hd ▸ htype) List.not_mem_nil) hbase
  have hbase : ∀ d : Conversion, d.types = [t.base] →
      ((∀ type ∈ d.types, Solid type) ↔ t.base ≠ "") := fun d hd => by
    rw [hd, List.forall_mem_singleton, Solid, and_iff_left t.flush_base]
  rcases ofType?_cases h with ⟨hstring, hc⟩ | ⟨htext, hc⟩ | ⟨-, hc⟩ | ⟨-, hc⟩ <;> rw [hc]
  · have hchar : t.base = "char" := by
      rw [DeclaredType.isString, Bool.and_eq_true, beq_iff_eq] at hstring
      exact hstring.1
    exact hnil _ rfl (by rw [hchar]; decide)
  · exact hnil _ rfl (by rw [htext]; decide)
  · rw [ofNative]
    split
    · next hbool =>
        rw [beq_iff_eq] at hbool
        exact hnil _ rfl (by rw [hbool]; decide)
    · split <;> exact hbase _ rfl
  · exact hbase _ rfl

/-- A parameter is read by statements that start without a blank, unless its type has no text. -/
lemma flushAll_fetch_iff {a : Argument × Nat} {param : Parameter} (h : ReadsFrom a param)
    (hname : Flush a.1.name) (library : String) :
    FlushAll (param.fetch library) ↔ a.1.type.base ≠ "" := by
  obtain ⟨hshape, hn, hb, -⟩ := readsFrom_iff.mp h
  obtain ⟨c, hc, hshape⟩ := shapeOf_eq_ok_iff.mp hshape
  have htypes := Conversion.solid_types_iff hc
  rw [Parameter.fetch]
  rcases hshape with ⟨-, hshape⟩ | ⟨suffix, length, -, -, -, hshape⟩
  · simp only [hshape, flushAll_line, Conversion.flush_fetch_iff, htypes, flushAll_nil, and_true]
  · have hdeclared : Flush (a.1.type.base ++ " " ++ a.1.name ++ "[" ++ length ++ "];")
        ↔ a.1.type.base ≠ "" := by
      have hfront : a.1.type.base ++ " " ++ a.1.name ++ "[" ++ length ++ "];"
          = a.1.type.base ++ " " ++ (a.1.name ++ "[" ++ length ++ "];") := by
        simp only [String.append_assoc]
      rw [hfront, flush_append_blank_iff (by decide), Solid, and_iff_left a.1.type.flush_base]
    have hchecked : Flush ("luaL_checktype(L, " ++ toString param.slot ++ ", LUA_TTABLE);") :=
      (Solid.append (by decide) _).flush_append _
    have hloop : Flush ("for (int i__ = 0; i__ < " ++ length ++ "; ++i__) \x7b") :=
      (Solid.append (by decide) _).flush_append _
    have hraw : Flush ("lua_rawgeti(L, " ++ toString param.slot ++ ", i__ + 1);") :=
      (Solid.append (by decide) _).flush_append _
    have helement : Flush (a.1.name ++ "[i__] = v__;") :=
      flush_append_iff.mpr ⟨hname, fun _ => by decide⟩
    have hpop : Flush "lua_pop(L, 1);" := by decide
    have hclose : Flush "\x7d" := by decide
    simp only [hshape, hn, hb, flushAll_line, flushAll_block, hdeclared, hchecked, hloop, hraw,
      helement, hpop, hclose, Conversion.flush_fetch_iff, htypes, flushAll_nil, true_and, and_true,
      and_self]

lemma flush_push (push : Push) : Flush push.text := by
  cases push with
  | boolean value => exact (Solid.append (by decide) _).flush_append _
  | integer value => exact (Solid.append (by decide) _).flush_append _
  | number value => exact (Solid.append (by decide) _).flush_append _
  | cString value => exact (Solid.append (by decide) _).flush_append _
  | stdString value => exact (Solid.append (by decide) _).flush_append _
  | pointer value tag owned =>
      dsimp only [Push.text]
      simp only [String.append_assoc]
      exact Solid.flush_append (by decide) _
  | copy className value tag =>
      dsimp only [Push.text]
      simp only [String.append_assoc]
      exact Solid.flush_append (by decide) _

lemma flush_declaration_iff {type : String} (htype : Flush type) (var back : String) :
    Flush (declaration type var ++ back) ↔ type ≠ "" := by
  rw [declaration]
  split
  · next hstar =>
      have hne : type ≠ "" := by
        rintro rfl
        exact absurd hstar (by decide)
      have hsolid : Solid (type ++ var) := Solid.append ⟨hne, htype⟩ var
      exact iff_of_true (hsolid.flush_append back) hne
  · rw [String.append_assoc, flush_append_blank_iff (by decide), Solid, and_iff_left htype]

namespace Wrapper

variable (w : Wrapper)

/-- The call of a wrapper starts without a blank: the called function does, or what holds the result
has a type with a text. -/
def FlushCall : Prop :=
  match w.result? with
  | none => Flush w.callee.text
  | some r => r.localType ≠ ""

lemma flushAll_callSteps_iff (hlocal : ∀ r ∈ w.result?, Flush r.localType)
    (passed : List Parameter) : FlushAll (w.callSteps passed) ↔ w.FlushCall := by
  have hzero : Flush "return 0;" := by decide
  have hone : Flush "return 1;" := by decide
  rw [callSteps, FlushCall]
  cases hresult : w.result? with
  | none =>
      have hcall : Flush (w.callText passed ++ ";") ↔ Flush w.callee.text := by
        simp only [callText, String.append_assoc]
        rw [flush_append_iff, and_iff_left fun _ => Solid.flush_append (by decide) _]
      simp only [flushAll_line, hcall, hzero, flushAll_nil, and_true]
  | some r =>
      have htype := hlocal r hresult
      have hcall : Flush (declaration r.localType resultVar ++ " = " ++ w.callText passed ++ ";")
          ↔ r.localType ≠ "" := by
        rw [String.append_assoc, String.append_assoc]
        exact flush_declaration_iff htype _ _
      simp only [flushAll_line, hcall, flush_push, hone, flushAll_nil, and_true]

lemma flushAll_branchSteps_iff (hlocal : ∀ r ∈ w.result?, Flush r.localType) (b : Branch) :
    FlushAll (w.branchSteps b)
      ↔ (∀ param ∈ b.fetched, FlushAll (param.fetch w.library)) ∧ w.FlushCall := by
  rw [branchSteps, flushAll_append, flushAll_flatMap, w.flushAll_callSteps_iff hlocal]

lemma flush_branchLine (isFirst : Bool) (minTop : Option Nat) :
    Flush (branchLine isFirst minTop) := by
  cases minTop with
  | none => exact (by decide : Flush "\x7d else \x7b")
  | some top =>
      have hhead : Solid (if isFirst then "if" else "\x7d else if") := by
        cases isFirst <;> decide
      dsimp only [branchLine]
      simp only [String.append_assoc]
      exact hhead.flush_append _

lemma flushAll_branchChain_iff (isFirst : Bool) (bs : List Branch) :
    FlushAll (w.branchChain isFirst bs) ↔ ∀ b ∈ bs, FlushAll (w.branchSteps b) := by
  have hclose : Flush "\x7d" := by decide
  induction bs generalizing isFirst with
  | nil => simp only [branchChain, flushAll_line, hclose, flushAll_nil, List.not_mem_nil,
      false_implies, implies_true, and_true]
  | cons b bs ih =>
      have hrest : FlushAll (w.branchChain false bs) ↔ _ := ih false
      rw [branchChain, List.cons_append, flushAll_line, List.cons_append, flushAll_indent,
        flushAll_append, flushAll_dedent, hrest, List.forall_mem_cons,
        and_iff_right (flush_branchLine isFirst b.minTop)]

lemma flushAll_branchesSteps_iff :
    FlushAll w.branchesSteps ↔ ∀ b ∈ w.branches, FlushAll (w.branchSteps b) := by
  rw [branchesSteps]
  split
  · next b hb => rw [hb, List.forall_mem_singleton]
  · have htop : Flush ("int " ++ topVar ++ " = lua_gettop(L);") := by decide
    rw [topStep, flushAll_line, flushAll_branchChain_iff, and_iff_right htop]

lemma flushAll_selfSteps_iff :
    FlushAll w.selfSteps ↔ ∀ className ∈ w.selfClass, Solid className := by
  rw [selfSteps]
  cases w.selfClass with
  | none => simp [flushAll_nil]
  | some className =>
      simp [flushAll_line, Conversion.flush_fetch_iff, Conversion.types, flushAll_nil]

/-- The rows of a body start without a blank where those in front of the handlers do. -/
lemma flushAll_bodySteps_iff :
    FlushAll w.bodySteps ↔ (∀ className ∈ w.selfClass, Solid className)
      ∧ (∀ param ∈ w.fetched, FlushAll (param.fetch w.library))
      ∧ ∀ b ∈ w.branches, FlushAll (w.branchSteps b) := by
  have hpushed : ∀ back : String,
      Flush ("lua_pushfstring(L, \"" ++ w.qualifiedName ++ back) := fun back =>
    (Solid.append (by decide) _).flush_append back
  have hhandlers : FlushAll w.handlerSteps := by
    have hcaught : Flush "\x7d catch (std::exception &e) \x7b" := by decide
    have hother : Flush "\x7d catch (...) \x7b" := by decide
    have hclose : Flush "\x7d" := by decide
    simp only [handlerSteps, flushAll_line, flushAll_indent, flushAll_dedent, hpushed, hcaught,
      hother, hclose, flushAll_nil, and_self]
  have htry : Flush "try \x7b" := by decide
  have hreturn : Flush "return lua_error(L);" := by decide
  simp only [bodySteps, flushAll_append, flushAll_line, flushAll_indent, flushAll_dedent, htry,
    hreturn, hhandlers, flushAll_nil, flushAll_flatMap, flushAll_selfSteps_iff,
    flushAll_branchesSteps_iff, true_and, and_true, and_assoc]

end Wrapper

end Lua

/-! ### Functions -/

/-- The texts of the declaration hold no brace and no line break. -/
@[mk_iff]
structure FunctionDecl.Inert (f : FunctionDecl) : Prop where
  scope : Consists isInert f.scope
  name : Consists isInert f.name
  owner : ∀ owner ∈ f.owner, Consists isInert owner.name ∧ Consists isInert owner.library
  arguments : ∀ a ∈ f.arguments, (∀ name ∈ a.declaredName, Consists isInert name)
    ∧ Consists isInert a.type.text ∧ ∀ suffix ∈ a.arraySuffix, Consists isInert suffix
  result : ∀ a ∈ f.result?, Consists isInert a.type.text

/-- The statements that name the class, a type or the function first start with it, and not with a
blank: the types have a text without their qualifiers, and the names do not start with a blank. -/
@[mk_iff]
structure FunctionDecl.Aligned (f : FunctionDecl) : Prop where
  object : Lua.Signature.needsSelf f = true → Solid f.scope
  parameters : ∀ a ∈ f.formals, a.type.base ≠ ""
  result : ∀ a ∈ f.result?, a.type.localText ≠ ""
  callee : f.result? = none → Flush (Lua.Callee.ofFunction f (Lua.Signature.needsSelf f)).text

namespace FunctionDecl

instance (f : FunctionDecl) : Decidable f.Inert := decidable_of_iff' _ f.inert_iff

instance (f : FunctionDecl) : Decidable f.Aligned := decidable_of_iff' _ f.aligned_iff

variable {f : FunctionDecl}

lemma Inert.madeOf (h : f.Inert) : f.MadeOf isInert where
  scope := h.scope
  name := h.name
  qualifiedName := by
    rw [qualifiedName]
    split
    · next name library howner =>
        have hname := (h.owner _ howner).1
        exact .append (.append hname (consists_ofList admits_isInert rfl)) h.name
    · exact h.name
  library := by
    rw [library]
    split
    · next owner howner => exact (h.owner owner howner).2
    · exact (consists_ofList admits_isInert rfl : Consists isInert "")
  arguments a ha := by
    obtain ⟨hname, htype, hsuffix⟩ := h.arguments a ha
    refine ⟨?_, a.type.consists_base (by decide) fun c hc _ _ => htype c hc, hsuffix⟩
    rw [Argument.name]
    cases hdeclared : a.declaredName with
    | some name => exact hname name hdeclared
    | none =>
        cases a.position with
        | some position =>
            exact .append (consists_ofList admits_isInert rfl)
              (consists_toString_nat admits_isInert position)
        | none => exact (consists_ofList admits_isInert rfl : Consists isInert "retval__")
  result a ha := ⟨a.type.consists_base (by decide) fun c hc _ _ => h.result a ha c hc,
    a.type.consists_localText admits_isInert (h.result a ha)⟩

lemma flush_name {a : Argument} (ha : a ∈ f.arguments) : Flush a.name := by
  obtain ⟨⟨param, i⟩, -, rfl⟩ := List.mem_map.mp ha
  rw [Argument.name]
  cases hdeclared : (Argument.ofParam f.name param (i + 1)).declaredName with
  | none => exact Solid.flush_append (by decide) (toString (i + 1))
  | some name =>
      have htrim : trim (param.childText "declname") = name := by
        simp only [Argument.ofParam, nonBlank?] at hdeclared
        split at hdeclared
        · cases hdeclared
        · exact Option.some.inj hdeclared
      exact htrim ▸ flush_trim _

end FunctionDecl

namespace Lua

/-- The brace of a definition is the first one that is opened and the last one that is closed. -/
lemma nested_definition {name : String} {ss : List Statement}
    (h : LinesConsist isInert [.scopes (.last (definitionEntry name) ss)]) :
    Nested (textOf .spaces (statementRows 0 [.scopes (.last (definitionEntry name) ss)])) :=
  nested_scope h

/-- A definition is indented by its braces exactly when no row of its body starts with a blank. -/
lemma indented_definition_iff {name : String} {body : List Step} {ss : List Statement}
    (h : LinesConsist isInert [.scopes (.last (definitionEntry name) ss)]) (hbody : Prints body ss) :
    Indented (textOf .spaces (statementRows 0 [.scopes (.last (definitionEntry name) ss)]))
      ↔ FlushAll body := by
  have hentry : Flush ((definitionEntry name).text ++ " \x7b") := by
    simp only [definitionEntry, Line.text, String.append_assoc]
    exact Solid.flush_append (by decide) _
  have hclose : Flush "\x7d" := by decide
  rw [indented_iff_flush h, statementRows_scope, List.forall_mem_cons, List.forall_mem_append,
    List.forall_mem_singleton, and_iff_right hentry, and_iff_left hclose, hbody.forall_flush_iff]

namespace Wrapper

variable {f : FunctionDecl} {s : Signature} (h : s.Describes f)

include h

lemma flushCall_ofSignature_iff : (ofSignature f s).FlushCall
    ↔ (∀ a ∈ f.result?, a.type.localText ≠ "")
      ∧ (f.result? = none → Flush (Callee.ofFunction f (Signature.needsSelf f)).text) := by
  have hcallee : (ofSignature f s).callee = Callee.ofFunction f (Signature.needsSelf f) := by
    rw [← h.hasSelf]
    rfl
  have hresult := h.result
  cases hr : s.result? with
  | none =>
      rw [hr, resultOf_eq_ok_none_iff] at hresult
      have hcall : (ofSignature f s).FlushCall ↔ Flush (ofSignature f s).callee.text := by
        rw [FlushCall, show (ofSignature f s).result? = none from hr]
      rw [hcall, hcallee, hresult]
      simp
  | some r =>
      rw [hr] at hresult
      obtain ⟨a, ha, -, -, hlocal⟩ := resultOf_eq_ok_some_iff.mp hresult
      have hcall : (ofSignature f s).FlushCall ↔ r.localType ≠ "" := by
        rw [FlushCall, show (ofSignature f s).result? = some r from hr]
      rw [hcall, hlocal, ha]
      simp

/-- All parameters are read by statements that start without a blank, if their types have a text. -/
lemma forall_flushAll_fetch_iff : (∀ param ∈ s.parameters, FlushAll (param.fetch s.library))
    ↔ ∀ a ∈ f.formals, a.type.base ≠ "" := by
  have hiff : ∀ a ∈ f.placed, ∀ param, ReadsFrom a param →
      (FlushAll (param.fetch s.library) ↔ a.1.type.base ≠ "") := by
    intro a ha param hreads
    have hformal : a.1 ∈ f.formals := by
      rw [← f.map_fst_placed]
      exact List.mem_map_of_mem ha
    exact flushAll_fetch_iff hreads (FunctionDecl.flush_name (List.mem_filter.mp hformal).1) _
  rw [← f.map_fst_placed, List.forall_mem_map]
  constructor
  · intro hall a ha
    obtain ⟨param, hparam, hreads⟩ := exists_right_of_mem h.parameters ha
    exact (hiff a ha param hreads).mp (hall param hparam)
  · intro hall param hparam
    obtain ⟨a, ha, hreads⟩ := exists_left_of_mem h.parameters hparam
    exact (hiff a ha param hreads).mpr (hall a ha)

/-- The branches read the parameters that are not mandatory, and each makes the call. -/
lemma flushAll_branches_iff :
    (∀ b ∈ (ofSignature f s).branches, FlushAll ((ofSignature f s).branchSteps b))
      ↔ (∀ param ∈ s.parameters.drop s.required, FlushAll (param.fetch s.library))
        ∧ (ofSignature f s).FlushCall := by
  have hlocal : ∀ r ∈ (ofSignature f s).result?, Flush r.localType := by
    intro r hr
    have hresult := h.result
    rw [show s.result? = some r from hr] at hresult
    obtain ⟨a, -, -, -, hlocal⟩ := resultOf_eq_ok_some_iff.mp hresult
    exact hlocal ▸ a.type.flush_localText
  simp only [flushAll_branchSteps_iff _ hlocal]
  constructor
  · intro hall
    have hle := h.required_le
    have hfull : branchFor s s.parameters.length ∈ (ofSignature f s).branches :=
      List.mem_map.mpr ⟨0, List.mem_range.mpr (by omega), rfl⟩
    obtain ⟨hfetched, hcall⟩ := hall _ hfull
    rw [branchFor, List.take_length] at hfetched
    exact ⟨hfetched, hcall⟩
  · rintro ⟨hfetched, hcall⟩ b hb
    obtain ⟨i, -, rfl⟩ := List.mem_map.mp hb
    refine ⟨fun param hparam => hfetched param ?_, hcall⟩
    rw [branchFor, List.drop_take] at hparam
    exact List.mem_of_mem_take hparam

/-- The rows of the body of a wrapper start without a blank exactly when the function is aligned. -/
lemma flushAll_bodySteps_ofSignature_iff : FlushAll (ofSignature f s).bodySteps ↔ f.Aligned := by
  have hself : (∀ className ∈ (ofSignature f s).selfClass, Solid className)
      ↔ (Signature.needsSelf f = true → Solid f.scope) := by
    rw [← h.hasSelf, show (ofSignature f s).selfClass = if s.hasSelf then some f.scope else none
      from rfl]
    cases s.hasSelf <;> simp
  have hparameters : (∀ param ∈ (ofSignature f s).fetched, FlushAll (param.fetch s.library))
      ∧ (∀ param ∈ s.parameters.drop s.required, FlushAll (param.fetch s.library))
      ↔ ∀ a ∈ f.formals, a.type.base ≠ "" := by
    rw [← forall_flushAll_fetch_iff h, ← List.forall_mem_append]
    show (∀ param ∈ s.parameters.take s.required ++ s.parameters.drop s.required, _) ↔ _
    rw [List.take_append_drop]
  rw [flushAll_bodySteps_iff, flushAll_branches_iff h, flushCall_ofSignature_iff h, hself,
    FunctionDecl.aligned_iff, ← hparameters]
  show _ ∧ (∀ param ∈ (ofSignature f s).fetched, FlushAll (param.fetch s.library)) ∧ _ ↔ _
  tauto

end Wrapper

/-! ### Choosers -/

namespace Chooser

/-- No row of a chooser starts with a blank. -/
lemma flushAll_bodySteps (c : Chooser) : FlushAll c.bodySteps := by
  have halternatives : ∀ (isFirst : Bool) (as : List Alternative),
      FlushAll (alternativeSteps isFirst as) := by
    intro isFirst as
    induction as generalizing isFirst with
    | nil => exact flushAll_line.mpr ⟨by decide, flushAll_nil⟩
    | cons a as ih =>
        have hhead : Solid (if isFirst then "if" else "\x7d else if") := by
          cases isFirst <;> decide
        simp only [alternativeSteps, flushAll_line, flushAll_indent, flushAll_dedent,
          String.append_assoc, hhead.flush_append, (show Solid "return " by decide).flush_append,
          ih false, and_self]
  have hreturn : Flush "return lua_error(L);" := by decide
  simp only [bodySteps, topStep, errorSteps, List.cons_append, flushAll_line, flushAll_append,
    halternatives, hreturn, String.append_assoc, (show Solid "int " by decide).flush_append,
    (show Solid "lua_pushstring(L, \"" by decide).flush_append, flushAll_nil, and_self]

end Chooser

/-! ### Nesting -/

/-- The wrapper of a function whose texts hold no brace and no line break is nested, and it is
indented by its braces exactly when the function is aligned. -/
lemma exists_nested_wrapper {f : FunctionDecl} (hconv : isConvertible f = true) (hf : f.Inert) :
    ∃ code, wrappers.render f = .ok (render [.comment (Wrapper.commentOf f)] ++ code)
      ∧ Nested code ∧ (Indented code ↔ f.Aligned) := by
  obtain ⟨s, hd, -, hrender⟩ := Wrapper.exists_render hconv
  have hlines := Wrapper.linesConsist_statements (Wrapper.madeOf_ofSignature hd admits_isInert
    hf.madeOf) admits_isInert
  have hstart := Wrapper.startsWithCondition_ofSignature hd
  have hindented := indented_definition_iff hlines (Wrapper.prints_bodySteps hstart)
  rw [Wrapper.flushAll_bodySteps_ofSignature_iff hd] at hindented
  exact ⟨_, hrender, nested_definition hlines, hindented⟩

/-- The chooser of such functions is nested and indented by its braces. -/
lemma exists_nested_chooser {first : FunctionDecl} {rest : List FunctionDecl}
    (hconv : ∀ f ∈ first :: rest, isConvertible f = true) (hfs : ∀ f ∈ first :: rest, f.Inert) :
    ∃ code, chooserText (first :: rest)
        = .ok (render [.comment ["Overloaded function chooser for " ++ first.name ++ "(...)"]]
          ++ code)
      ∧ Nested code ∧ Indented code := by
  obtain ⟨overloads, hoverloads⟩ := exists_signatures hconv
  obtain ⟨hsnd, hdescribes⟩ := describes_of_signatures hoverloads
  have hfirst := (hfs first List.mem_cons_self).madeOf
  have hperm := alternativesOf_perm overloads
  set c : Chooser := {
    functionName := first.name
    name := identifier first (some 0)
    qualifiedName := first.qualifiedName
    alternatives := Chooser.alternativesOf overloads } with hc
  have hmade : c.MadeOf isInert := by
    refine ⟨consists_identifier admits_isInert hfirst.scope hfirst.name _, hfirst.qualifiedName,
      fun a ha => ?_⟩
    obtain ⟨o, ho, rfl⟩ := List.mem_map.mp (hperm.mem_iff.mp ha)
    have hmem : o.2 ∈ first :: rest := hsnd ▸ List.mem_map_of_mem ho
    exact consists_ofOverload_of_madeOf (hdescribes o ho) admits_isInert (hfs o.2 hmem).madeOf
  have hne : c.alternatives ≠ [] := by
    intro hnil
    have hempty : overloads.map (fun o => Alternative.ofOverload o.1 o.2) = [] := by
      rw [← List.perm_nil, ← hnil]
      exact hperm.symm
    rw [List.map_eq_nil_iff.mp hempty] at hsnd
    cases hsnd
  have hlines := Chooser.linesConsist_statements hmade admits_isInert
  refine ⟨_, ?_, nested_definition hlines, ?_⟩
  · rw [chooserText, Chooser.ofOverloads, hoverloads]
    exact congrArg Except.ok (Chooser.render_steps hne)
  · rw [indented_definition_iff hlines (Chooser.prints_bodySteps hne)]
    exact c.flushAll_bodySteps

/-- **Nesting.** Below its comment, the code of the wrapper of every convertible function and of the
chooser of every non-empty list of them is nested: the brace that its first line opens is closed by
the last one, and no brace is closed that was not opened before. The chooser is indented by two
blanks for every brace around a line, and so is the wrapper if the function is aligned; a statement
that starts with an empty type stands one blank further in. -/
theorem code_nested_and_indented_iff (first : FunctionDecl) (rest : List FunctionDecl)
    (hconv : ∀ f ∈ first :: rest, isConvertible f = true) (hfs : ∀ f ∈ first :: rest, f.Inert) :
    (∀ f ∈ first :: rest, ∃ code,
        wrappers.render f = .ok (render [.comment (Wrapper.commentOf f)] ++ code)
          ∧ Nested code ∧ (Indented code ↔ f.Aligned))
      ∧ ∃ code, chooserText (first :: rest)
          = .ok (render [.comment ["Overloaded function chooser for " ++ first.name ++ "(...)"]]
            ++ code)
        ∧ Nested code ∧ Indented code :=
  ⟨fun f hf => exists_nested_wrapper (hconv f hf) (hfs f hf), exists_nested_chooser hconv hfs⟩

/-- The methods with a default value, and their chooser. -/
theorem code_nested_and_indented_scale : ∃ first rest, scalingMethods = first :: rest
    ∧ (∀ f ∈ first :: rest, isConvertible f = true) ∧ (∀ f ∈ first :: rest, f.Inert)
    ∧ (∀ f ∈ first :: rest, ∃ code,
        wrappers.render f = .ok (render [.comment (Wrapper.commentOf f)] ++ code)
          ∧ Nested code ∧ Indented code)
    ∧ ∃ code, chooserText (first :: rest)
        = .ok (render [.comment ["Overloaded function chooser for scale(...)"]] ++ code)
      ∧ Nested code ∧ Indented code := by
  have hconv : ∀ f ∈ scalingMethods, isConvertible f = true := by decide +kernel
  have hinert : ∀ f ∈ scalingMethods, f.Inert := by decide +kernel
  have haligned : ∀ f ∈ scalingMethods, f.Aligned := by decide +kernel
  obtain ⟨hwrappers, hchooser⟩ := code_nested_and_indented_iff _ _ hconv hinert
  refine ⟨_, _, rfl, hconv, hinert, fun f hf => ?_, hchooser⟩
  obtain ⟨code, hrender, hnested, hindented⟩ := hwrappers f hf
  exact ⟨code, hrender, hnested, hindented.mpr (haligned f hf)⟩

/-- A function with a parameter whose type has no text. -/
def untypedMove : FunctionDecl where
  owner := some (.ofNamespace "lib")
  name := "move"
  scope := "lib"
  overload := none
  node := { name := "move", result := "void", params := [Sketch.param "" "x" none] : Sketch }.declare

/-- Its wrapper holds a line that starts with a blank more than the braces around it ask for. -/
theorem code_indented_too_far : isConvertible untypedMove = true ∧ untypedMove.Inert
    ∧ ∃ code, wrappers.render untypedMove
        = .ok (render [.comment (Wrapper.commentOf untypedMove)] ++ code) ∧ ¬ Indented code := by
  have hconv : isConvertible untypedMove = true := by decide +kernel
  have hinert : untypedMove.Inert := by decide +kernel
  have hnot : ¬ untypedMove.Aligned := by decide +kernel
  obtain ⟨code, hrender, -, hindented⟩ := exists_nested_wrapper hconv hinert
  exact ⟨hconv, hinert, code, hrender, fun h => hnot (hindented.mp h)⟩

end Lua

end LuaBinder
