import LuaBinder.Proofs.Lua.Acceptance
import LuaBinder.Proofs.Lua.Ownership
import LuaBinder.Proofs.Lua.Variables

/-!
The names of the local variables of wrappers.

* `FallbacksApart`: no declared name is the one that a parameter without a name gets.
* `FunctionDecl.LocalsApart`: what the names of the parameters of a function have to keep apart.
* `locals_clear_iff`: the variables of the wrapper of a function have different names, and hide none
  of the wrapper itself, exactly if the function keeps these names apart.
-/

namespace LuaBinder

open Code Text

/-! ### Functions -/

/-- No declared name is the one that a parameter without a name gets. -/
def FallbacksApart (as : List Argument) : Prop :=
  ∀ a ∈ as, a.declaredName = none → ∀ b ∈ as, b.declaredName ≠ some a.name

instance (as : List Argument) : Decidable (FallbacksApart as) :=
  inferInstanceAs
    (Decidable (∀ a ∈ as, a.declaredName = none → ∀ b ∈ as, b.declaredName ≠ some a.name))

namespace FunctionDecl

open Lua

variable (f : FunctionDecl)

/-- The parameters that a caller must give. -/
def mandatory : List Argument := f.formals.take f.required

/-- The parameters that a caller may leave out. -/
def optional : List Argument := f.formals.drop f.required

lemma mandatory_sublist : f.mandatory.Sublist f.formals := List.take_sublist _ _

lemma optional_sublist : f.optional.Sublist f.formals := List.drop_sublist _ _

/-- The variables of the wrapper besides those of the parameters and of loops. -/
def internalNames : List String :=
  stateVar :: (Wrapper.selfNames (Signature.needsSelf f) ++ (if f.optional = [] then [] else [topVar])
    ++ Wrapper.resultNames f.result?.isSome)

/-- The names of the parameters do not get in the way of each other and of the other variables of
the wrapper. Parameters that a caller may leave out have scopes of their own. -/
@[mk_iff]
structure LocalsApart : Prop where
  mandatory : FallbacksApart f.mandatory
  optional : FallbacksApart f.optional
  internal : ∀ a ∈ f.formals, a.name ∉ f.internalNames
  loops : ∀ a ∈ f.formals, a.arraySuffix.isSome = true → ∀ b ∈ f.mandatory, b.name ∉ loopNames
  optionalLoops :
    ∀ a ∈ f.optional, a.arraySuffix.isSome = true → ∀ b ∈ f.optional, b.name ∉ loopNames

instance : Decidable f.LocalsApart := decidable_of_iff' _ f.localsApart_iff

variable {f}

lemma exists_position {a : Argument} (ha : a ∈ f.arguments) : ∃ n, a.position = some n := by
  obtain ⟨⟨param, i⟩, -, rfl⟩ := List.mem_map.mp ha
  exact ⟨i + 1, rfl⟩

lemma pairwise_position : f.arguments.Pairwise fun a b => a.position ≠ b.position := by
  rw [arguments, List.pairwise_map]
  have hplaces : ((f.node.children "param").zipIdx.map Prod.snd).Nodup := by
    rw [List.zipIdx_map_snd]
    exact List.nodup_range'
  refine (List.pairwise_map.mp hplaces).imp fun hne heq => hne ?_
  exact Nat.succ.inj (Option.some.inj heq)

/-- The names of parameters without a declared name come from their positions. -/
lemma position_eq_of_name_eq {a b : Argument} (ha : a ∈ f.arguments) (hb : b ∈ f.arguments)
    (hda : a.declaredName = none) (hdb : b.declaredName = none) (h : a.name = b.name) :
    a.position = b.position := by
  obtain ⟨n, hn⟩ := exists_position ha
  obtain ⟨m, hm⟩ := exists_position hb
  rw [Argument.name, Argument.name, hda, hdb, hn, hm] at h
  have hdigits : toString n = toString m := by simpa using h
  rw [hn, hm, toString_nat_injective hdigits]

/-- Of parameters with distinct declared names, those without a name decide. -/
lemma nodup_names_iff (hnames : (f.formals.filterMap Argument.declaredName).Nodup)
    {as : List Argument} (hsub : as.Sublist f.formals) :
    (as.map Argument.name).Nodup ↔ FallbacksApart as := by
  have harguments : as.Sublist f.arguments := hsub.trans List.filter_sublist
  have hdeclared : ∀ {a : Argument} {name : String}, a.declaredName = some name → a.name = name := by
    intro a name h
    rw [Argument.name, h]
  constructor
  · intro hnodup a ha hnone b hb hsome
    have heq := List.inj_on_of_nodup_map hnodup hb ha (hdeclared hsome)
    rw [heq, hnone] at hsome
    cases hsome
  · intro hapart
    have hdistinct := (pairwise_position.sublist harguments).and
      (List.pairwise_filterMap.mp (hnames.sublist (hsub.filterMap _)))
    refine List.pairwise_map.mpr (hdistinct.imp_of_mem fun {a b} ha hb ⟨hposition, hne⟩ heq => ?_)
    cases hda : a.declaredName with
    | some x =>
        cases hdb : b.declaredName with
        | some y =>
            rw [hdeclared hda, hdeclared hdb] at heq
            exact hne x hda y hdb heq
        | none => exact hapart b hb hdb a ha (by rw [hda, ← hdeclared hda, heq])
    | none =>
        cases hdb : b.declaredName with
        | some y => exact hapart a ha hda b hb (by rw [hdb, ← hdeclared hdb, heq])
        | none =>
            exact hposition (position_eq_of_name_eq (harguments.subset ha) (harguments.subset hb)
              hda hdb heq)

end FunctionDecl

namespace Lua

/-- What holds of the parameters of a signature, and of those of the declaration. -/
lemma forall_mem_iff_of_map_eq {α β γ : Type} {g : α → γ} {g' : β → γ} {as : List α} {bs : List β}
    (h : as.map g = bs.map g') (P : γ → Prop) : (∀ a ∈ as, P (g a)) ↔ ∀ b ∈ bs, P (g' b) := by
  rw [← List.forall_mem_map, h, List.forall_mem_map]

/-- A parameter has the name of the declared one, and both are arrays or none is. -/
lemma ReadsFrom.key_eq {a : Argument × Nat} {p : Parameter} (h : ReadsFrom a p) :
    (p.name, p.isArray) = (a.1.name, a.1.arraySuffix.isSome) := by
  obtain ⟨hshape, hname, -, -⟩ := readsFrom_iff.mp h
  obtain ⟨c, -, hshape⟩ := shapeOf_eq_ok_iff.mp hshape
  rw [hname, Parameter.isArray]
  rcases hshape with ⟨hsuffix, hshape⟩ | ⟨suffix, length, hsuffix, -, -, hshape⟩ <;>
    rw [hsuffix, hshape] <;> rfl

lemma map_key_eq {as : List (Argument × Nat)} {ps : List Parameter}
    (h : List.Forall₂ ReadsFrom as ps) :
    ps.map (fun p => (p.name, p.isArray)) = as.map fun a => (a.1.name, a.1.arraySuffix.isSome) := by
  induction h with
  | nil => rfl
  | cons ha _ ih => rw [List.map_cons, List.map_cons, ih, ha.key_eq]

namespace Signature.Describes

variable {f : FunctionDecl} {s : Signature} (h : s.Describes f)

include h

lemma map_parameters_eq : s.parameters.map (fun p => (p.name, p.isArray))
    = f.formals.map fun a => (a.name, a.arraySuffix.isSome) := by
  rw [map_key_eq h.parameters, ← f.map_fst_placed, List.map_map]
  rfl

lemma map_mandatory_eq : s.mandatory.map (fun p => (p.name, p.isArray))
    = f.mandatory.map fun a => (a.name, a.arraySuffix.isSome) := by
  rw [Signature.mandatory, FunctionDecl.mandatory, List.map_take, h.map_parameters_eq, List.map_take,
    h.required]

lemma map_optional_eq : s.optional.map (fun p => (p.name, p.isArray))
    = f.optional.map fun a => (a.name, a.arraySuffix.isSome) := by
  rw [Signature.optional, FunctionDecl.optional, List.map_drop, h.map_parameters_eq, List.map_drop,
    h.required]

lemma isSome_result : s.result?.isSome = f.result?.isSome := by
  have hresult := h.result
  cases hr : s.result? with
  | none =>
      rw [hr, resultOf_eq_ok_none_iff] at hresult
      rw [hresult]
      rfl
  | some r =>
      have hne : f.result? ≠ none := by
        intro hnone
        rw [resultOf_eq_ok_none_iff.mpr hnone, hr] at hresult
        cases hresult
      rw [Option.isSome_iff_ne_none.mpr hne]
      rfl

lemma internalNames_eq : s.internalNames = f.internalNames := by
  have hnil : s.optional = [] ↔ f.optional = [] := by
    rw [← List.map_eq_nil_iff, h.map_optional_eq, List.map_eq_nil_iff]
  rw [Signature.internalNames, FunctionDecl.internalNames, h.hasSelf, h.isSome_result]
  simp only [hnil]

omit h in
/-- The names of some parameters differ if no declared one is that of a parameter without a name. -/
lemma nodup_iff {as : List Argument} {ps : List Parameter} (hsub : as.Sublist f.formals)
    (hnames : (f.formals.filterMap Argument.declaredName).Nodup)
    (hkey : ps.map (fun p => (p.name, p.isArray)) = as.map fun a => (a.name, a.arraySuffix.isSome)) :
    (ps.map Parameter.name).Nodup ↔ FallbacksApart as := by
  have hmap : ps.map Parameter.name = as.map Argument.name := by
    have hfst := congrArg (List.map Prod.fst) hkey
    rw [List.map_map, List.map_map] at hfst
    exact hfst
  rw [hmap]
  exact FunctionDecl.nodup_names_iff hnames hsub

/-- What the names of a signature have to keep apart, read off the declaration. -/
lemma namesApart_iff {apart : Variable → Variable → Prop}
    (hnames : (f.formals.filterMap Argument.declaredName).Nodup) :
    s.NamesApart apart ↔ f.LocalsApart
      ∧ ∀ a ∈ f.mandatory, ∀ b ∈ f.optional, apart ⟨.argument, a.name⟩ ⟨.argument, b.name⟩ := by
  -- each condition speaks of names, and of which parameters are arrays
  have hinternals : (∀ p ∈ s.parameters, p.name ∉ s.internalNames)
      ↔ ∀ a ∈ f.formals, a.name ∉ f.internalNames := by
    rw [h.internalNames_eq]
    exact forall_mem_iff_of_map_eq h.map_parameters_eq fun x => x.1 ∉ f.internalNames
  have hloops : (∀ p ∈ s.parameters, p.isArray = true → ∀ q ∈ s.mandatory, q.name ∉ loopNames)
      ↔ ∀ a ∈ f.formals, a.arraySuffix.isSome = true → ∀ b ∈ f.mandatory, b.name ∉ loopNames :=
    (forall_mem_iff_of_map_eq h.map_parameters_eq fun x =>
      x.2 = true → ∀ q ∈ s.mandatory, q.name ∉ loopNames).trans
      (forall₂_congr fun _ _ => imp_congr_right fun _ =>
        forall_mem_iff_of_map_eq h.map_mandatory_eq fun x => x.1 ∉ loopNames)
  have hoptionalLoops :
      (∀ p ∈ s.optional, p.isArray = true → ∀ q ∈ s.optional, q.name ∉ loopNames)
      ↔ ∀ a ∈ f.optional, a.arraySuffix.isSome = true → ∀ b ∈ f.optional, b.name ∉ loopNames :=
    (forall_mem_iff_of_map_eq h.map_optional_eq fun x =>
      x.2 = true → ∀ q ∈ s.optional, q.name ∉ loopNames).trans
      (forall₂_congr fun _ _ => imp_congr_right fun _ =>
        forall_mem_iff_of_map_eq h.map_optional_eq fun x => x.1 ∉ loopNames)
  have hhidden :
      (∀ p ∈ s.mandatory, ∀ q ∈ s.optional, apart ⟨.argument, p.name⟩ ⟨.argument, q.name⟩)
      ↔ ∀ a ∈ f.mandatory, ∀ b ∈ f.optional, apart ⟨.argument, a.name⟩ ⟨.argument, b.name⟩ :=
    (forall_mem_iff_of_map_eq h.map_mandatory_eq fun x =>
      ∀ q ∈ s.optional, apart ⟨.argument, x.1⟩ ⟨.argument, q.name⟩).trans
      (forall₂_congr fun a _ =>
        forall_mem_iff_of_map_eq h.map_optional_eq fun x =>
          apart ⟨.argument, a.name⟩ ⟨.argument, x.1⟩)
  rw [Signature.namesApart_iff, FunctionDecl.localsApart_iff,
    nodup_iff f.mandatory_sublist hnames h.map_mandatory_eq,
    nodup_iff f.optional_sublist hnames h.map_optional_eq,
    hinternals, hloops, hoptionalLoops, hhidden]
  simp only [and_assoc]

end Signature.Describes

/-! ### Variables of wrappers -/

namespace Wrapper

variable {f : FunctionDecl} {s : Signature} (h : s.Describes f)
  (hnames : (f.formals.filterMap Argument.declaredName).Nodup)

include h hnames

/-- Arguments aside, no variable of the wrapper hides another one. -/
lemma clearAll_hidesNoInternal_iff :
    ClearAll HidesNoInternal [] (ofSignature f s).statements ↔ f.LocalsApart := by
  rw [clearAll_ofSignature_iff h separating_hidesNoInternal, h.namesApart_iff hnames]
  refine and_iff_left fun a _ b _ hinternal => ?_
  -- neither of two arguments is internal
  rcases hinternal with hrole | hrole <;> cases hrole

/-- No variable of the wrapper hides another one. -/
lemma clearAll_hidesNothing_iff : ClearAll HidesNothing [] (ofSignature f s).statements
    ↔ f.LocalsApart ∧ FallbacksApart f.formals := by
  have hsplit : f.formals = f.mandatory ++ f.optional := (List.take_append_drop _ _).symm
  have hall : FallbacksApart f.formals ↔ FallbacksApart f.mandatory ∧ FallbacksApart f.optional
      ∧ ∀ a ∈ f.mandatory, ∀ b ∈ f.optional, a.name ≠ b.name := by
    rw [← FunctionDecl.nodup_names_iff hnames (List.Sublist.refl _),
      ← FunctionDecl.nodup_names_iff hnames f.mandatory_sublist,
      ← FunctionDecl.nodup_names_iff hnames f.optional_sublist, hsplit, List.map_append,
      List.nodup_append]
    simp only [List.forall_mem_map]
  rw [clearAll_ofSignature_iff h separating_hidesNothing, h.namesApart_iff hnames, hall]
  exact ⟨fun ⟨happart, hapart⟩ => ⟨happart, happart.mandatory, happart.optional, hapart⟩,
    fun ⟨happart, _, _, hapart⟩ => ⟨happart, hapart⟩⟩

end Wrapper

/-- **Local variables.** The wrapper of a convertible function whose declared parameter names differ
is written from scopes of statements. In each of these scopes the variables have different names,
and no variable hides the state, the object, the height of the stack, the return value or the
variables of a loop, or is hidden by them, exactly if the names of the parameters keep apart from
those that the wrapper uses, the ones of parameters without a name included. No argument hides
another one either if this holds of all parameters together. -/
theorem locals_clear_iff (f : FunctionDecl) (hconv : isConvertible f = true)
    (hnames : (f.formals.filterMap Argument.declaredName).Nodup) :
    ∃ w, Wrapper.ofFunction f = .ok w
      ∧ wrappers.render f = .ok (render [.comment (Wrapper.commentOf f)]
        ++ textOf .spaces (statementRows 0 w.statements))
      ∧ (ClearAll HidesNoInternal [] w.statements ↔ f.LocalsApart)
      ∧ (ClearAll HidesNothing [] w.statements ↔ f.LocalsApart ∧ FallbacksApart f.formals) := by
  obtain ⟨s, hd, hw, hrender⟩ := Wrapper.exists_render hconv
  exact ⟨_, hw, hrender, Wrapper.clearAll_hidesNoInternal_iff hd hnames,
    Wrapper.clearAll_hidesNothing_iff hd hnames⟩

/-- A method that fills pixels of an object: an array, a parameter without a name, and one that a
caller may leave out. -/
def fillPixels : FunctionDecl where
  owner := some (.ofClass "Image" none)
  name := "fill"
  scope := "Image"
  overload := none
  node := {
    name := "fill"
    result := "int"
    params := [
      { tag := "param"
        content := [("type", "int"), ("declname", "pixels"), ("array", "[4]")].map
          fun (tag, text) => (Element.ofText tag text).toMarkup },
      Sketch.param "int" "" none, Sketch.param "int" "color" (some "0")] : Sketch }.declare

/-- No variable of its wrapper hides another one. -/
theorem locals_clear_fill : isConvertible fillPixels = true
    ∧ (fillPixels.formals.filterMap Argument.declaredName).Nodup
    ∧ ∃ w, Wrapper.ofFunction fillPixels = .ok w
      ∧ wrappers.render fillPixels = .ok (render [.comment (Wrapper.commentOf fillPixels)]
        ++ textOf .spaces (statementRows 0 w.statements))
      ∧ ClearAll HidesNoInternal [] w.statements ∧ ClearAll HidesNothing [] w.statements := by
  have hconv : isConvertible fillPixels = true := by decide +kernel
  have hnames : (fillPixels.formals.filterMap Argument.declaredName).Nodup := by decide +kernel
  have hapart : fillPixels.LocalsApart := by decide +kernel
  have hfallbacks : FallbacksApart fillPixels.formals := by decide +kernel
  obtain ⟨w, hw, hrender, hinternal, hnothing⟩ := locals_clear_iff fillPixels hconv hnames
  exact ⟨hconv, hnames, w, hw, hrender, hinternal.mpr hapart, hnothing.mpr ⟨hapart, hfallbacks⟩⟩

/-- A function that takes integers under the given names. -/
def scaleBy (names : List String) : FunctionDecl where
  owner := some (.ofNamespace "lib")
  name := "scale"
  scope := "lib"
  overload := none
  node := {
    name := "scale"
    result := "void"
    params := names.map fun name => Sketch.param "int" name none : Sketch }.declare

/-- An argument hides the state if it has its name, and an argument may have the name that the next
one gets if that one has none. -/
theorem locals_clash :
    (isConvertible (scaleBy ["L"]) = true
      ∧ (scaleBy ["L"]).formals.filterMap Argument.declaredName = ["L"]
      ∧ ∃ w, Wrapper.ofFunction (scaleBy ["L"]) = .ok w
        ∧ ¬ ClearAll HidesNoInternal [] w.statements)
    ∧ isConvertible (scaleBy ["arg2", ""]) = true
      ∧ (scaleBy ["arg2", ""]).formals.filterMap Argument.declaredName = ["arg2"]
      ∧ ∃ w, Wrapper.ofFunction (scaleBy ["arg2", ""]) = .ok w
        ∧ ¬ ClearAll HidesNoInternal [] w.statements := by
  have hclash : ∀ {f : FunctionDecl}, isConvertible f = true →
      (f.formals.filterMap Argument.declaredName).Nodup → ¬ f.LocalsApart →
      ∃ w, Wrapper.ofFunction f = .ok w ∧ ¬ ClearAll HidesNoInternal [] w.statements := by
    intro f hconv hnames hnot
    obtain ⟨s, hd, hw, -⟩ := Wrapper.exists_render hconv
    exact ⟨_, hw, fun hclear =>
      hnot ((Wrapper.clearAll_hidesNoInternal_iff hd hnames).mp hclear)⟩
  have hstate : isConvertible (scaleBy ["L"]) = true := by decide +kernel
  have hstateNames : (scaleBy ["L"]).formals.filterMap Argument.declaredName = ["L"] := by
    decide +kernel
  have hhidden : ¬ (scaleBy ["L"]).LocalsApart := by decide +kernel
  have hfallback : isConvertible (scaleBy ["arg2", ""]) = true := by decide +kernel
  have hfallbackNames : (scaleBy ["arg2", ""]).formals.filterMap Argument.declaredName = ["arg2"] := by
    decide +kernel
  have hrepeated : ¬ (scaleBy ["arg2", ""]).LocalsApart := by decide +kernel
  exact ⟨⟨hstate, hstateNames, hclash hstate (hstateNames ▸ List.nodup_singleton _) hhidden⟩,
    hfallback, hfallbackNames,
    hclash hfallback (hfallbackNames ▸ List.nodup_singleton _) hrepeated⟩

end Lua

end LuaBinder
