import LuaBinder.Proofs.Code.Locals
import LuaBinder.Proofs.Lua.Statements

/-!
The variables of the wrapper of a signature.

* `internals`, `arguments`: variables of the code itself, and variables that hold arguments.
* `readsFit_iff`: what the names of parameters have to keep apart where they are read.
* `Signature.NamesApart`: the names of the parameters do not get in the way of other variables.
* `Wrapper.clearAll_ofSignature_iff`: this decides whether the variables of the wrapper fit into
  their scopes, over all branches on arguments that are left out and over all loops over arrays.
-/

namespace LuaBinder

open Code Text

namespace Lua

/-! ### Variables of scopes -/

/-- Variables for the code itself. -/
def internals (names : List String) : List Variable := names.map fun name => ⟨.internal, name⟩

/-- Variables that hold arguments. -/
def arguments (names : List String) : List Variable := names.map fun name => ⟨.argument, name⟩

lemma map_name_internals (names : List String) : (internals names).map Variable.name = names := by
  rw [internals, List.map_map]
  exact List.map_id' names

lemma map_name_arguments (names : List String) : (arguments names).map Variable.name = names := by
  rw [arguments, List.map_map]
  exact List.map_id' names

/-- Names between others. -/
lemma nodup_between {α : Type} {xs front back : List α} : (front ++ xs ++ back).Nodup
    ↔ (front ++ back).Nodup ∧ xs.Nodup ∧ ∀ x ∈ xs, x ∉ front ++ back := by
  have hperm : (front ++ xs ++ back).Perm (xs ++ (front ++ back)) := by
    rw [← List.append_assoc]
    exact List.perm_append_comm.append_right back
  rw [hperm.nodup_iff, List.nodup_append', List.disjoint_iff_ne]
  simp only [ne_eq, List.forall_mem_ne]
  tauto

section Fits

variable {apart : Variable → Variable → Prop} (hsep : Separating apart) {outer : List Variable}
  {front names back : List String}

include hsep

lemma forall_internals_apart_iff {v : Variable} :
    (∀ u ∈ internals names, apart u v) ↔ v.name ∉ names := by
  rw [internals, List.forall_mem_map]
  simp only [fun name => hsep ⟨.internal, name⟩ v (.inl rfl)]
  exact ⟨fun h hmem => h _ hmem rfl, fun h name hname heq => h (heq ▸ hname)⟩

lemma forall_apart_internals_iff :
    (∀ v ∈ internals names, ∀ u ∈ outer, apart u v) ↔ ∀ u ∈ outer, u.name ∉ names := by
  rw [internals, List.forall_mem_map]
  simp only [fun u name => hsep u ⟨.internal, name⟩ (.inr rfl)]
  exact ⟨fun h u hu hmem => h _ hmem u hu rfl, fun h name hname u hu heq => h u hu (heq ▸ hname)⟩

/-- Arguments between variables of the code fit into a scope if their names differ from these, and
if the variables around do not get in the way of any of them. -/
lemma fits_iff (hinternal : (front ++ back).Nodup) :
    Fits apart outer (internals front ++ arguments names ++ internals back)
      ↔ names.Nodup ∧ (∀ x ∈ names, x ∉ front ++ back) ∧ (∀ u ∈ outer, u.name ∉ front ++ back)
        ∧ ∀ x ∈ names, ∀ u ∈ outer, apart u ⟨.argument, x⟩ := by
  have harguments : (∀ v ∈ arguments names, ∀ u ∈ outer, apart u v)
      ↔ ∀ x ∈ names, ∀ u ∈ outer, apart u ⟨.argument, x⟩ := List.forall_mem_map
  have hfits : Fits apart outer (internals front ++ arguments names ++ internals back) ↔ _ ∧ _ :=
    ⟨fun h => ⟨h.nodup, h.apart⟩, fun h => ⟨h.1, h.2⟩⟩
  rw [hfits, List.map_append, List.map_append, map_name_internals, map_name_arguments,
    map_name_internals, nodup_between, List.forall_mem_append, List.forall_mem_append,
    forall_apart_internals_iff hsep, forall_apart_internals_iff hsep, harguments]
  have houter : (∀ u ∈ outer, u.name ∉ front ++ back)
      ↔ (∀ u ∈ outer, u.name ∉ front) ∧ ∀ u ∈ outer, u.name ∉ back := by
    simp only [List.mem_append, not_or]
    exact forall₂_and
  rw [houter]
  tauto

end Fits

/-! ### Parameters -/

/-- The parameter is an array. -/
def Parameter.isArray (p : Parameter) : Bool :=
  match p.shape with
  | .value _ => false
  | .array _ _ => true

/-- The variables of the loop over an array. -/
def loopNames : List String := [loopVar, elementVar]

/-- The variables of the loops over arrays do not hide the variables around them. -/
def LoopsFit (outer : List Variable) (ps : List Parameter) : Prop :=
  ∀ p ∈ ps, p.isArray = true → ∀ u ∈ outer, u.name ∉ loopNames

/-- The variables of a scope that parameters are read in, between others of the code, fit into the
scopes around it, and so do those of the loops. -/
def ReadsFit (apart : Variable → Variable → Prop) (outer : List Variable) (front back : List String)
    (ps : List Parameter) : Prop :=
  Fits apart outer (internals front ++ arguments (ps.map Parameter.name) ++ internals back)
    ∧ LoopsFit (outer ++ (internals front ++ arguments (ps.map Parameter.name) ++ internals back)) ps

section Parameters

variable {apart : Variable → Variable → Prop} {outer : List Variable} (ps : List Parameter)
  (library : String)

lemma declaredIn_parameters :
    declaredIn (ps.flatMap (·.statements library)) = arguments (ps.map Parameter.name) := by
  have hone : ∀ p : Parameter, declaredIn (p.statements library) = [⟨.argument, p.name⟩] := by
    intro p
    rw [Parameter.statements]
    split <;> rfl
  simp only [declaredIn_flatMap, hone, arguments, List.map_map, ← List.map_eq_flatMap]
  rfl

lemma clear_loop_iff (hsep : Separating apart) (p : Parameter) (element : Conversion)
    (length : String) : (p.loop element length library).Clear apart outer
      ↔ ∀ u ∈ outer, u.name ∉ loopNames := by
  rw [Parameter.loop, Scopes.Clear]
  simp only [clearAll_line, clearAll_nil, and_true]
  show Fits apart outer (internals loopNames ++ arguments [] ++ internals []) ↔ _
  rw [fits_iff hsep (by decide), List.append_nil]
  simp

lemma clearAll_parameters (hsep : Separating apart) :
    ClearAll apart outer (ps.flatMap (·.statements library)) ↔ LoopsFit outer ps := by
  rw [clearAll_flatMap]
  refine forall₂_congr fun p _ => ?_
  rw [Parameter.statements, Parameter.isArray]
  cases p.shape with
  | value c => simp [clearAll_line, clearAll_nil]
  | array element length =>
      simp [clearAll_line, clearAll_scopes, clearAll_nil, clear_loop_iff library hsep]

/-- The names of the parameters differ from each other and from those of the code in and around the
scope, and the arguments that are read around it get in the way of nothing. -/
lemma readsFit_iff (hsep : Separating apart) {around held front back : List String}
    (houter : ∀ u, u ∈ outer ↔ u ∈ internals around ++ arguments held)
    (hdistinct : (around ++ (front ++ back)).Nodup)
    (hspared : ∀ x ∈ around ++ (front ++ back), x ∉ loopNames) :
    ReadsFit apart outer front back ps
      ↔ (ps.map Parameter.name).Nodup
        ∧ (∀ p ∈ ps, p.name ∉ around ++ (front ++ back))
        ∧ (∀ x ∈ held, x ∉ front ++ back)
        ∧ (∀ x ∈ held, ∀ p ∈ ps, apart ⟨.argument, x⟩ ⟨.argument, p.name⟩)
        ∧ ∀ p ∈ ps, p.isArray = true →
          (∀ x ∈ held, x ∉ loopNames) ∧ ∀ q ∈ ps, q.name ∉ loopNames := by
  obtain ⟨-, hnodup, hdisjoint⟩ := List.nodup_append'.mp hdistinct
  have hall : ∀ P : Variable → Prop, (∀ u ∈ outer, P u)
      ↔ (∀ u ∈ internals around, P u) ∧ ∀ x ∈ held, P ⟨.argument, x⟩ := by
    intro P
    simp only [houter, List.forall_mem_append, arguments, List.forall_mem_map]
  have hinternals : ∀ {names : List String}, (∀ x ∈ names, x ∉ loopNames) →
      ∀ u ∈ internals names, u.name ∉ loopNames := fun h => List.forall_mem_map.mpr h
  have haround : ∀ u ∈ internals around, u.name ∉ front ++ back :=
    List.forall_mem_map.mpr fun x hx => List.disjoint_left.mp hdisjoint hx
  obtain ⟨hspared, hfront, hback⟩ : (∀ x ∈ around, x ∉ loopNames) ∧ (∀ x ∈ front, x ∉ loopNames)
      ∧ ∀ x ∈ back, x ∉ loopNames := by
    simpa only [List.forall_mem_append] using hspared
  have hloops : (∀ u ∈ outer ++ (internals front ++ arguments (ps.map Parameter.name)
        ++ internals back), u.name ∉ loopNames)
      ↔ (∀ x ∈ held, x ∉ loopNames) ∧ ∀ q ∈ ps, q.name ∉ loopNames := by
    rw [List.forall_mem_append, List.forall_mem_append, List.forall_mem_append, hall,
      and_iff_right (hinternals hspared), and_iff_right (hinternals hfront),
      and_iff_left (hinternals hback), arguments, List.forall_mem_map, List.forall_mem_map]
  rw [ReadsFit, fits_iff hsep hnodup, LoopsFit, hloops, hall, and_iff_right haround]
  simp only [hall, forall_internals_apart_iff hsep, List.forall_mem_map, List.mem_append, not_or]
  constructor
  · rintro ⟨⟨hnames, hinner, hheld, houter⟩, hloop⟩
    exact ⟨hnames, fun p hp => ⟨(houter p hp).1, hinner p hp⟩, hheld,
      fun x hx p hp => (houter p hp).2 x hx, hloop⟩
  · rintro ⟨hnames, hinner, hheld, hhidden, hloop⟩
    exact ⟨⟨hnames, fun p hp => (hinner p hp).2, hheld,
      fun p hp => ⟨(hinner p hp).1, fun x hx => hhidden x hx p hp⟩⟩, hloop⟩

end Parameters

/-! ### Wrappers -/

namespace Wrapper

variable {apart : Variable → Variable → Prop} {outer : List Variable} (w : Wrapper)

/-- The variable of the object that a member is called on. -/
def selfNames (hasSelf : Bool) : List String := if hasSelf then [selfVar] else []

/-- The variable of the return value. -/
def resultNames (hasResult : Bool) : List String := if hasResult then [resultVar] else []

lemma declaredIn_callStatements (passed : List Parameter) :
    declaredIn (w.callStatements passed) = internals (resultNames w.result?.isSome) := by
  rw [callStatements]
  cases w.result? <;> rfl

lemma clearAll_callStatements (passed : List Parameter) :
    ClearAll apart outer (w.callStatements passed) := by
  rw [callStatements]
  cases w.result? <;> simp [clearAll_line, clearAll_nil]

lemma declaredIn_branchStatements (b : Branch) : declaredIn (w.branchStatements b)
    = arguments (b.fetched.map Parameter.name) ++ internals (resultNames w.result?.isSome) := by
  rw [branchStatements, declaredIn_append, declaredIn_parameters, declaredIn_callStatements]

lemma clearAll_branchStatements (hsep : Separating apart) (b : Branch) :
    ClearAll apart outer (w.branchStatements b) ↔ LoopsFit outer b.fetched := by
  rw [branchStatements, clearAll_append, clearAll_parameters _ _ hsep,
    and_iff_left (w.clearAll_callStatements b.passed)]

lemma clear_branchScopes (hsep : Separating apart) (isFirst : Bool) (b : Branch)
    (bs : List Branch) : (w.branchScopes isFirst b bs).Clear apart outer
      ↔ ∀ b' ∈ b :: bs, ReadsFit apart outer [] (resultNames w.result?.isSome) b'.fetched := by
  have hone : ∀ (isFirst : Bool) (b : Branch),
      scopeVariables (.plain (branchEntry isFirst b.minTop)) (w.branchStatements b)
        = arguments (b.fetched.map Parameter.name) ++ internals (resultNames w.result?.isSome) :=
    fun _ b => w.declaredIn_branchStatements b
  induction bs generalizing isFirst b with
  | nil =>
      rw [branchScopes, Scopes.Clear, hone, clearAll_branchStatements _ hsep,
        List.forall_mem_singleton]
      rfl
  | cons next bs ih =>
      have hrest : (w.branchScopes false next bs).Clear apart outer ↔ _ := ih false next
      rw [branchScopes, Scopes.Clear, hone, clearAll_branchStatements _ hsep, hrest,
        List.forall_mem_cons (a := b)]
      rfl

lemma declaredIn_selfStatements :
    declaredIn w.selfStatements = internals (selfNames w.selfClass.isSome) := by
  rw [selfStatements]
  cases w.selfClass <;> rfl

lemma clearAll_selfStatements : ClearAll apart outer w.selfStatements := by
  rw [selfStatements]
  cases w.selfClass <;> simp [clearAll_line, clearAll_nil]

/-- The variables of a wrapper below the state: those of the guarded statements and of the scopes in
them. The variable of a handler meets none of them. -/
lemma clearAll_statements_iff (hsep : Separating apart) : ClearAll apart [] w.statements
    ↔ Fits apart (internals [stateVar]) (declaredIn w.guardedStatements)
      ∧ ClearAll apart (internals [stateVar] ++ declaredIn w.guardedStatements)
        w.guardedStatements := by
  have hentry : scopeVariables (definitionEntry w.name) w.bodyStatements
      = internals [stateVar] := rfl
  have hcaught : scopeVariables (.declaring .internal "catch (std::exception &" "e" ")")
      [.line (.plain ("lua_pushfstring(L, \"" ++ w.qualifiedName ++ ": %s\", e.what());"))]
      = internals ["e"] ++ arguments [] ++ internals [] := rfl
  have hother : scopeVariables (.plain "catch (...)")
      [.line (.plain ("lua_pushfstring(L, \"" ++ w.qualifiedName ++ ": Unknown exception\");"))]
      = internals [] ++ arguments [] ++ internals [] := rfl
  have hguarded : scopeVariables (.plain "try") w.guardedStatements
      = declaredIn w.guardedStatements := rfl
  have hfixed : ∀ {names outer : List String}, (names ++ []).Nodup → (∀ name ∈ outer, name ∉ names) →
      Fits apart (internals outer) (internals names ++ arguments [] ++ internals []) := by
    intro names outer hnodup hout
    rw [fits_iff hsep hnodup, List.append_nil, internals, List.forall_mem_map]
    exact ⟨List.nodup_nil, by simp, hout, by simp⟩
  have hstate : Fits apart [] (internals [stateVar]) := @hfixed [stateVar] [] (by decide) (by decide)
  have herror : Fits apart (internals [stateVar]) (internals ["e"] ++ arguments [] ++ internals []) :=
    hfixed (by decide) (by decide)
  have hrest : Fits apart (internals [stateVar]) (internals [] ++ arguments [] ++ internals []) :=
    hfixed (by decide) (by decide)
  rw [statements, clearAll_scopes, Scopes.Clear, hentry, bodyStatements, clearAll_scopes,
    clearAll_line, guardedScopes, Scopes.Clear, hguarded, handlerScopes, Scopes.Clear, hcaught,
    Scopes.Clear, hother]
  simp only [clearAll_line, clearAll_nil, hstate, herror, hrest, and_true, true_and, List.nil_append]

end Wrapper

/-! ### Wrappers of signatures -/

namespace Signature

/-- The parameters that a caller may leave out. -/
def optional (s : Signature) : List Parameter := s.parameters.drop s.required

/-- The variables of a wrapper besides those of the parameters and of loops. -/
def internalNames (s : Signature) : List String :=
  stateVar :: (Wrapper.selfNames s.hasSelf ++ (if s.optional = [] then [] else [topVar])
    ++ Wrapper.resultNames s.result?.isSome)

lemma mandatory_append_optional (s : Signature) : s.mandatory ++ s.optional = s.parameters :=
  List.take_append_drop s.required s.parameters

/-- The names of the parameters do not get in the way of other variables of the wrapper. Parameters
that a caller must give are read in front of the branches, the others within them. -/
@[mk_iff]
structure NamesApart (apart : Variable → Variable → Prop) (s : Signature) : Prop where
  mandatory : (s.mandatory.map Parameter.name).Nodup
  optional : (s.optional.map Parameter.name).Nodup
  internal : ∀ p ∈ s.parameters, p.name ∉ s.internalNames
  loops : ∀ p ∈ s.parameters, p.isArray = true → ∀ q ∈ s.mandatory, q.name ∉ loopNames
  optionalLoops : ∀ p ∈ s.optional, p.isArray = true → ∀ q ∈ s.optional, q.name ∉ loopNames
  hidden : ∀ p ∈ s.mandatory, ∀ q ∈ s.optional, apart ⟨.argument, p.name⟩ ⟨.argument, q.name⟩

end Signature

namespace Wrapper

variable {apart : Variable → Variable → Prop} {outer : List Variable} {f : FunctionDecl}
  {s : Signature} (h : s.Describes f)

include h

/-- Without optional parameters there is one branch, which reads nothing more. -/
lemma branches_of_optional_eq_nil (hnil : s.optional = []) :
    ∃ b, (ofSignature f s).branches = [b] ∧ b.fetched = [] := by
  have hle := h.required_le
  rw [Signature.optional, List.drop_eq_nil_iff] at hnil
  have hladder : (ofSignature f s).branches
      = ladder s (s.parameters.length - s.required) := branchesOf_eq_ladder hle
  rw [show s.parameters.length - s.required = 0 by omega, ladder_zero] at hladder
  refine ⟨_, hladder, ?_⟩
  rw [branchFor, List.drop_eq_nil_iff]
  exact List.length_take_le _ _

/-- With optional parameters there are branches for the first few of them, from all to none. -/
lemma branches_of_optional_ne_nil (hne : s.optional ≠ []) :
    (∃ b next bs, (ofSignature f s).branches = b :: next :: bs)
      ∧ (∃ b ∈ (ofSignature f s).branches, b.fetched = s.optional)
      ∧ ∀ b ∈ (ofSignature f s).branches, ∃ rest, s.optional = b.fetched ++ rest := by
  have hle := h.required_le
  rw [Signature.optional, ne_eq, List.drop_eq_nil_iff] at hne
  have hladder : (ofSignature f s).branches
      = ladder s (s.parameters.length - s.required) := branchesOf_eq_ladder hle
  refine ⟨?_, ?_, fun b hb => ?_⟩
  · obtain ⟨d, hd⟩ : ∃ d, s.parameters.length - s.required = d + 1 :=
      ⟨s.parameters.length - s.required - 1, by omega⟩
    rw [hladder, hd, ladder_succ]
    cases d with
    | zero => exact ⟨_, _, _, rfl⟩
    | succ d => rw [ladder_succ]; exact ⟨_, _, _, rfl⟩
  · have hfull : branchFor s s.parameters.length ∈ (ofSignature f s).branches :=
      List.mem_map.mpr ⟨0, List.mem_range.mpr (by omega), rfl⟩
    refine ⟨_, hfull, ?_⟩
    rw [branchFor, List.take_length, Signature.optional]
  · obtain ⟨i, -, rfl⟩ := List.mem_map.mp hb
    refine ⟨s.parameters.drop s.required |>.drop (s.parameters.length - i - s.required), ?_⟩
    rw [branchFor, List.drop_take, Signature.optional, List.take_append_drop]

omit h in
lemma isSome_selfClass : (ofSignature f s).selfClass.isSome = s.hasSelf := by
  show (if s.hasSelf then some f.scope else none).isSome = s.hasSelf
  cases s.hasSelf <;> rfl

omit h in
lemma declaredIn_guardedStatements : declaredIn (ofSignature f s).guardedStatements
    = internals (selfNames s.hasSelf) ++ arguments (s.mandatory.map Parameter.name)
      ++ declaredIn (ofSignature f s).branchesStatements := by
  rw [guardedStatements, declaredIn_append, declaredIn_append, declaredIn_selfStatements,
    declaredIn_parameters, isSome_selfClass]
  rfl

omit h in
lemma clearAll_guardedStatements_iff (hsep : Separating apart) :
    ClearAll apart outer (ofSignature f s).guardedStatements
      ↔ LoopsFit outer s.mandatory
        ∧ ClearAll apart outer (ofSignature f s).branchesStatements := by
  rw [guardedStatements, clearAll_append, clearAll_append, clearAll_parameters _ _ hsep,
    and_iff_right (clearAll_selfStatements _)]
  rfl

omit h in
/-- What is read in front of the branches, where they declare some variables in its scope. -/
lemma readsFit_guarded_iff (hsep : Separating apart) {back : List String}
    (hback : back = resultNames s.result?.isSome ∨ back = [topVar]) :
    ReadsFit apart (internals [stateVar]) (selfNames s.hasSelf) back s.mandatory
      ↔ (s.mandatory.map Parameter.name).Nodup
        ∧ (∀ p ∈ s.mandatory, p.name ∉ stateVar :: (selfNames s.hasSelf ++ back))
        ∧ ∀ p ∈ s.mandatory, p.isArray = true → ∀ q ∈ s.mandatory, q.name ∉ loopNames := by
  have hfixed : (stateVar :: (selfNames s.hasSelf ++ back)).Nodup
      ∧ ∀ x ∈ stateVar :: (selfNames s.hasSelf ++ back), x ∉ loopNames := by
    rcases hback with rfl | rfl <;> cases s.hasSelf <;> cases s.result?.isSome <;> decide
  have houter : ∀ u, u ∈ internals [stateVar] ↔ u ∈ internals [stateVar] ++ arguments [] := by
    simp [arguments]
  rw [readsFit_iff _ hsep houter hfixed.1 hfixed.2]
  simp

omit h in
/-- The scope of a branch behind the mandatory parameters and the height of the stack. -/
lemma readsFit_branch_iff (hsep : Separating apart) (fetched : List Parameter) :
    ReadsFit apart (internals [stateVar] ++ (internals (selfNames s.hasSelf)
        ++ arguments (s.mandatory.map Parameter.name) ++ internals [topVar]))
        [] (resultNames s.result?.isSome) fetched
      ↔ (fetched.map Parameter.name).Nodup
        ∧ (∀ p ∈ fetched, p.name ∉ stateVar :: (selfNames s.hasSelf ++ [topVar]
          ++ resultNames s.result?.isSome))
        ∧ (∀ p ∈ s.mandatory, p.name ∉ resultNames s.result?.isSome)
        ∧ (∀ p ∈ s.mandatory, ∀ q ∈ fetched, apart ⟨.argument, p.name⟩ ⟨.argument, q.name⟩)
        ∧ ∀ p ∈ fetched, p.isArray = true →
          (∀ q ∈ s.mandatory, q.name ∉ loopNames) ∧ ∀ q ∈ fetched, q.name ∉ loopNames := by
  have hfixed : (stateVar :: (selfNames s.hasSelf ++ [topVar] ++ resultNames s.result?.isSome)).Nodup
      ∧ ∀ x ∈ stateVar :: (selfNames s.hasSelf ++ [topVar] ++ resultNames s.result?.isSome),
        x ∉ loopNames := by
    cases s.hasSelf <;> cases s.result?.isSome <;> decide
  have houter : ∀ u, u ∈ internals [stateVar] ++ (internals (selfNames s.hasSelf)
        ++ arguments (s.mandatory.map Parameter.name) ++ internals [topVar])
      ↔ u ∈ internals (stateVar :: (selfNames s.hasSelf ++ [topVar]))
        ++ arguments (s.mandatory.map Parameter.name) := by
    intro u
    simp only [internals, List.map_cons, List.map_append, List.mem_append, List.mem_cons]
    tauto
  rw [readsFit_iff _ hsep houter hfixed.1 hfixed.2]
  simp only [List.forall_mem_map, List.nil_append]
  rfl

/-- A wrapper with one branch. -/
lemma clearAll_iff_of_optional_eq_nil (hsep : Separating apart) (hnil : s.optional = []) :
    ClearAll apart [] (ofSignature f s).statements ↔ s.NamesApart apart := by
  obtain ⟨b, hb, hfetched⟩ := branches_of_optional_eq_nil h hnil
  have hbranches : (ofSignature f s).branchesStatements = (ofSignature f s).branchStatements b := by
    rw [branchesStatements, hb]
  have hdeclared : declaredIn (ofSignature f s).branchesStatements
      = internals (resultNames s.result?.isSome) := by
    rw [hbranches, declaredIn_branchStatements, hfetched]
    rfl
  have hclear : ∀ outer, ClearAll apart outer (ofSignature f s).branchesStatements := by
    intro outer
    rw [hbranches, clearAll_branchStatements _ hsep, hfetched]
    exact fun p hp => absurd hp List.not_mem_nil
  have hinternal : s.internalNames
      = stateVar :: (selfNames s.hasSelf ++ resultNames s.result?.isSome) := by
    rw [Signature.internalNames, if_pos hnil, List.append_nil]
  have hparameters : s.parameters = s.mandatory := by
    rw [← s.mandatory_append_optional, hnil, List.append_nil]
  rw [clearAll_statements_iff _ hsep, declaredIn_guardedStatements, hdeclared,
    clearAll_guardedStatements_iff hsep, and_iff_left (hclear _)]
  refine (readsFit_guarded_iff hsep (.inl rfl)).trans ?_
  rw [Signature.namesApart_iff, hparameters, hinternal, hnil]
  simp

/-- A wrapper with several branches. -/
lemma clearAll_iff_of_optional_ne_nil (hsep : Separating apart) (hne : s.optional ≠ []) :
    ClearAll apart [] (ofSignature f s).statements ↔ s.NamesApart apart := by
  obtain ⟨⟨b, next, bs, hbranches⟩, ⟨full, hfull, hfetched⟩, hprefix⟩ :=
    branches_of_optional_ne_nil h hne
  have hstatements : (ofSignature f s).branchesStatements
      = [.line topLine, .scopes ((ofSignature f s).branchScopes true b (next :: bs))] := by
    rw [branchesStatements, hbranches]
  have hdeclared : declaredIn (ofSignature f s).branchesStatements = internals [topVar] := by
    rw [hstatements]
    rfl
  have hinternal : s.internalNames = stateVar :: (selfNames s.hasSelf ++ [topVar]
      ++ resultNames s.result?.isSome) := by
    rw [Signature.internalNames, if_neg hne]
  have hmem : ∀ {x : String}, x ∉ s.internalNames
      ↔ x ∉ stateVar :: (selfNames s.hasSelf ++ [topVar]) ∧ x ∉ resultNames s.result?.isSome := by
    intro x
    rw [hinternal, ← List.cons_append, List.mem_append, not_or]
  rw [clearAll_statements_iff _ hsep, declaredIn_guardedStatements, hdeclared,
    clearAll_guardedStatements_iff hsep, ← and_assoc, hstatements, clearAll_line, clearAll_scopes,
    and_iff_left clearAll_nil, clear_branchScopes _ hsep, ← hbranches]
  refine (and_congr (readsFit_guarded_iff hsep (.inr rfl))
    (forall₂_congr fun _ _ => readsFit_branch_iff hsep _)).trans ?_
  rw [Signature.namesApart_iff, ← s.mandatory_append_optional, List.forall_mem_append,
    List.forall_mem_append]
  constructor
  · rintro ⟨⟨hnodup, hnames, hloop⟩, hall⟩
    have hoptional := hall full hfull
    rw [hfetched] at hoptional
    obtain ⟨hunique, hapart, hresult, hhidden, hloop'⟩ := hoptional
    exact ⟨hnodup, hunique, ⟨fun p hp => hmem.mpr ⟨hnames p hp, hresult p hp⟩, hinternal ▸ hapart⟩,
      ⟨hloop, fun p hp harray => (hloop' p hp harray).1⟩, fun p hp harray => (hloop' p hp harray).2,
      hhidden⟩
  · rintro ⟨hmandatory, hunique, ⟨hnames, hapart⟩, ⟨hloop, hloop'⟩, hloops, hhidden⟩
    refine ⟨⟨hmandatory, fun p hp => (hmem.mp (hnames p hp)).1, hloop⟩, fun b' hb' => ?_⟩
    -- a branch reads the first few of the optional parameters
    obtain ⟨rest, hrest⟩ := hprefix b' hb'
    have hread : ∀ p ∈ b'.fetched, p ∈ s.optional := fun p hp =>
      hrest ▸ List.mem_append_left rest hp
    rw [hrest, List.map_append] at hunique
    exact ⟨hunique.of_append_left, fun p hp => hinternal ▸ hapart p (hread p hp),
      fun p hp => (hmem.mp (hnames p hp)).2, fun p hp q hq => hhidden p hp q (hread q hq),
      fun p hp harray => ⟨hloop' p (hread p hp) harray,
        fun q hq => hloops p (hread p hp) harray q (hread q hq)⟩⟩

/-- The variables of a wrapper fit into their scopes exactly when the names of the parameters do not
get in their way. -/
lemma clearAll_ofSignature_iff (hsep : Separating apart) :
    ClearAll apart [] (ofSignature f s).statements ↔ s.NamesApart apart := by
  by_cases hnil : s.optional = []
  · exact clearAll_iff_of_optional_eq_nil h hsep hnil
  · exact clearAll_iff_of_optional_ne_nil h hsep hnil

end Wrapper

end Lua

end LuaBinder
