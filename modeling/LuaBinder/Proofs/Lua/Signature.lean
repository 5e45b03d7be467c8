import Mathlib.Data.List.TakeWhile
import LuaBinder.Lua.Signature
import LuaBinder.Proofs.Except

/-!
What a signature keeps of the declaration that it was made from.

* `FunctionDecl.formals`, `FunctionDecl.placed`: the parameters other than the variadic ones, and
  each of them with the stack slot that it is read from.
* `Signature.Describes`: a signature agrees with a declaration on the object, the number of
  mandatory parameters, the variadic tail, the library, the parameters and the return value.
* `Signature.describes_of_ofFunction`: the signature of a function describes it.
* `exists_signature`: a convertible function has a signature.
* `FunctionDecl.required_le_length_formals`: the mandatory parameters are the first ones of the
  parameters, since a variadic parameter is never mandatory.
-/

namespace LuaBinder

/-! ### Parameters and their slots -/

namespace FunctionDecl

variable (f : FunctionDecl)

/-- The parameters in declaration order, without the variadic ones. -/
def formals : List Argument := f.arguments.filter (! ·.isVariadic)

/-- Number of slots that the object of a call takes. -/
def selfSlots : Nat := if Lua.Signature.needsSelf f then 1 else 0

/-- Every parameter with the slot that it is read from: they follow the object, one by one. -/
def placed : List (Argument × Nat) := f.formals.zipIdx (f.selfSlots + 1)

/-- Number of arguments given with a stack of the given height, below zero when even the object is
missing. -/
def supplied (top : Nat) : Int := top - f.selfSlots

lemma firstSlot_needsSelf :
    Lua.Signature.firstSlot (Lua.Signature.needsSelf f) = f.selfSlots + 1 := by
  rw [Lua.Signature.firstSlot, selfSlots]
  split <;> rfl

lemma length_placed : f.placed.length = f.formals.length := by
  rw [placed, List.length_zipIdx]

lemma map_fst_placed : f.placed.map Prod.fst = f.formals := by
  rw [placed, List.zipIdx_map_fst]

/-- A prefix whose elements pass a stronger test is no longer than what a weaker one keeps. -/
lemma length_takeWhile_le_filter {α : Type} {p q : α → Bool} (hpq : ∀ a, p a = true → q a = true)
    (as : List α) : (as.takeWhile p).length ≤ (as.filter q).length := by
  have hsub : ((as.takeWhile p).filter q).Sublist (as.filter q) :=
    (List.takeWhile_sublist p).filter q
  have hall : (as.takeWhile p).filter q = as.takeWhile p :=
    List.filter_eq_self.mpr fun a ha => hpq a (List.mem_takeWhile_imp ha)
  rw [hall] at hsub
  exact hsub.length_le

/-- No variadic parameter is mandatory. -/
lemma required_le_length_formals : f.required ≤ f.formals.length := by
  refine length_takeWhile_le_filter (fun a ha => ?_) f.arguments
  simp only [Bool.and_eq_true] at ha
  exact ha.2

end FunctionDecl

namespace Lua

/-! ### Parameters of a signature -/

/-- A type is converted as a string, as a text, as a scalar, or as an object of the class that it
names. -/
lemma Conversion.ofType?_cases {t : DeclaredType} {c : Conversion} (h : Conversion.ofType? t = some c) :
    (t.isString = true ∧ c = .cString) ∨ (t.base = "std::string" ∧ c = .stdString)
      ∨ (t.isNative = true ∧ c = .ofNative t.base)
      ∨ (t.isNative = false ∧ c = .object t.base (t.stars == 1)) := by
  rw [Conversion.ofType?] at h
  split_ifs at h with hstring htext hnative
  · exact .inl ⟨hstring, (Option.some.inj h).symm⟩
  · rw [Bool.and_eq_true, beq_iff_eq] at htext
    exact .inr (.inl ⟨htext.1, (Option.some.inj h).symm⟩)
  · exact .inr (.inr (.inl ⟨hnative, (Option.some.inj h).symm⟩))
  · exact .inr (.inr (.inr ⟨Bool.eq_false_iff.mpr hnative, (Option.some.inj h).symm⟩))

/-- The shape of an argument is that of its conversion, or an array of it with a fixed length. -/
lemma shapeOf_eq_ok_iff {a : Argument} {shape : Shape} :
    Parameter.shapeOf a = .ok shape ↔ ∃ c, Conversion.ofType? a.type = some c
      ∧ ((a.arraySuffix = none ∧ shape = .value c)
        ∨ ∃ suffix length, a.arraySuffix = some suffix ∧ arrayLength? suffix = some length
          ∧ c.isScalar = true ∧ shape = .array c length) := by
  rw [Parameter.shapeOf]
  cases hc : Conversion.ofType? a.type with
  | none => simp
  | some c =>
      cases ha : a.arraySuffix with
      | none =>
          constructor
          · intro h
            cases h
            exact ⟨c, rfl, .inl ⟨rfl, rfl⟩⟩
          · rintro ⟨_, hc', ⟨-, rfl⟩ | ⟨_, _, h, -⟩⟩
            · cases hc'; rfl
            · cases h
      | some suffix =>
          cases hl : arrayLength? suffix with
          | none => simp [hl]
          | some length =>
              cases hs : c.isScalar with
              | false => simp [hl, hs]
              | true =>
                  simp only [hl, hs, if_true, Except.ok.injEq]
                  constructor
                  · rintro rfl
                    exact ⟨c, rfl, .inr ⟨suffix, length, rfl, hl, hs, rfl⟩⟩
                  · rintro ⟨_, hc', ⟨h, -⟩ | ⟨_, _, h, hl', -, rfl⟩⟩
                    · cases h
                    · cases hc'; cases h
                      rw [hl] at hl'
                      cases hl'
                      rfl

/-- The parameter is read from the slot of the argument. -/
def ReadsFrom (a : Argument × Nat) (p : Parameter) : Prop :=
  Parameter.ofArgument a.1 a.2 = .ok p

/-- What a parameter takes from its argument. -/
lemma readsFrom_iff {a : Argument × Nat} {p : Parameter} :
    ReadsFrom a p ↔ Parameter.shapeOf a.1 = .ok p.shape
      ∧ p.name = a.1.name ∧ p.base = a.1.type.base ∧ p.slot = a.2 := by
  obtain ⟨name, base, slot, shape⟩ := p
  rw [ReadsFrom, Parameter.ofArgument, map_eq_ok_iff]
  simp only [Parameter.mk.injEq]
  constructor
  · rintro ⟨_, hs, hn, hb, hl, rfl⟩
    exact ⟨hs, hn.symm, hb.symm, hl.symm⟩
  · rintro ⟨hs, hn, hb, hl⟩
    exact ⟨shape, hs, hn.symm, hb.symm, hl.symm, rfl⟩

lemma map_name_eq {as : List (Argument × Nat)} {ps : List Parameter}
    (h : List.Forall₂ ReadsFrom as ps) : ps.map Parameter.name = as.map fun a => a.1.name := by
  induction h with
  | nil => rfl
  | cons ha _ ih => rw [List.map_cons, List.map_cons, ih, (readsFrom_iff.mp ha).2.1]

/-- Parameters are read from consecutive slots. -/
lemma forall₂_readsFrom_of_ofArguments {as : List Argument} {ps : List Parameter} {slot : Nat}
    (h : Parameter.ofArguments slot as = .ok ps) :
    List.Forall₂ ReadsFrom (as.zipIdx slot) ps := by
  induction as generalizing slot ps with
  | nil => cases h; exact .nil
  | cons a as ih =>
      rw [Parameter.ofArguments] at h
      obtain ⟨p, hp, h⟩ := bind_eq_ok_iff.mp h
      obtain ⟨rest, hrest, h⟩ := bind_eq_ok_iff.mp h
      cases h
      exact .cons hp (ih hrest)

/-! ### Signatures -/

/-- A signature says of a function what its declaration says. -/
structure Signature.Describes (s : Signature) (f : FunctionDecl) : Prop where
  hasSelf : s.hasSelf = Signature.needsSelf f
  required : s.required = f.required
  variadic : s.variadic = f.isVariadic
  library : s.library = f.library
  parameters : List.Forall₂ ReadsFrom f.placed s.parameters
  result : Signature.resultOf f = .ok s.result?

namespace Signature.Describes

variable {s : Signature} {f : FunctionDecl}

lemma length_parameters (h : s.Describes f) : s.parameters.length = f.formals.length := by
  rw [← h.parameters.length_eq, f.length_placed]

lemma required_le (h : s.Describes f) : s.required ≤ s.parameters.length := by
  rw [h.required, h.length_parameters]
  exact f.required_le_length_formals

/-- The stack is `count` slots higher than the object when `count` arguments are given. -/
lemma topFor_eq (h : s.Describes f) (count : Nat) : s.topFor count = f.selfSlots + count := by
  rw [Signature.topFor, h.hasSelf, f.firstSlot_needsSelf]
  omega

/-- The parameters that a caller gives first, with their slots. -/
lemma forall₂_take (h : s.Describes f) (count : Nat) :
    List.Forall₂ ReadsFrom (f.placed.take count) (s.parameters.take count) :=
  List.forall₂_take count h.parameters

lemma map_name_take (h : s.Describes f) (count : Nat) :
    (s.parameters.take count).map Parameter.name = (f.formals.take count).map Argument.name := by
  rw [map_name_eq (h.forall₂_take count), ← f.map_fst_placed, ← List.map_take, List.map_map]
  rfl

/-- The parameters that a caller must give, with their slots. -/
lemma forall₂_mandatory (h : s.Describes f) :
    List.Forall₂ ReadsFrom (f.placed.take f.required) s.mandatory := by
  rw [Signature.mandatory, ← h.required]
  exact h.forall₂_take s.required

end Signature.Describes

/-- The signature of a function describes it. -/
theorem Signature.describes_of_ofFunction {s : Signature} {f : FunctionDecl}
    (h : Signature.ofFunction f = .ok s) : s.Describes f := by
  rw [Signature.ofFunction] at h
  obtain ⟨ps, hps, h⟩ := bind_eq_ok_iff.mp h
  obtain ⟨r, hr, h⟩ := bind_eq_ok_iff.mp h
  cases h
  have hplaced : List.Forall₂ ReadsFrom f.placed ps := by
    rw [FunctionDecl.placed, ← f.firstSlot_needsSelf]
    exact forall₂_readsFrom_of_ofArguments hps
  -- the mandatory parameters lie among the parameters, so the bound on their number is idle
  have hlen : f.required ≤ ps.length := by
    rw [← hplaced.length_eq, f.length_placed]
    exact f.required_le_length_formals
  exact ⟨rfl, Nat.min_eq_left hlen, rfl, rfl, hplaced, hr⟩

/-- A convertible function has a signature. -/
lemma exists_signature {f : FunctionDecl} (h : isConvertible f = true) :
    ∃ s, Signature.ofFunction f = .ok s := by
  rw [isConvertible] at h
  split at h
  · next s hs => exact ⟨s, hs⟩
  · cases h

/-- A function with a signature has no obstacle to report. -/
lemma signatureOf_eq_ok_iff {f : FunctionDecl} {s : Signature} :
    signatureOf f = .ok s ↔ Signature.ofFunction f = .ok s := by
  rw [signatureOf]
  cases Signature.ofFunction f with
  | ok t => simp
  | error obstacle => simp

end Lua

end LuaBinder
