import LuaBinder.Proofs.Lua.Acceptance

/-!
Whether a call with integers reaches the overload for integers.

Every integer is also a number, so a call with integers may suit two overloads that differ in
nothing else. The one for integers is tried first if it needs as many arguments as the other and has
an integer among those; an integer among the optional arguments does not count.

* `FunctionDecl.given`: the parameters that a call gives values for.
* `Sharpens`: the parameters of an overload are those of another one, with an integer in the place
  of a number at one or more of them.
* `countP_le_of_forall₂`, `forall₂_of_countP_le`: counting along two lists.
* `Selected.integers_first`: what an overload is like that the selected one sharpens no more.
* `integers_before_numbers`: which overloads for integers a call may be kept from.
* `integers_passed_over`: a call is kept from both kinds of them.
-/

namespace LuaBinder

open Code

/-! ### Integers and numbers -/

/-- The value is a number that need not be an integer. -/
def Lua.Conversion.isFloating : Lua.Conversion → Bool
  | .number _ => true
  | _ => false

/-- The argument is a single number that need not be an integer. -/
def Argument.isFloating (a : Argument) : Bool :=
  a.arraySuffix.isNone && (Lua.Conversion.ofType? a.type).any Lua.Conversion.isFloating

/-- The parameters that a call with a stack of the given height gives values for. -/
def FunctionDecl.given (f : FunctionDecl) (top : Nat) : List Argument :=
  f.formals.take (f.supplied top).toNat

/-- No argument is both. -/
lemma Argument.isInteger_of_isFloating {a : Argument} (h : a.isFloating = true) :
    a.isInteger = false := by
  rw [isFloating, Bool.and_eq_true] at h
  rw [isInteger, h.1, Bool.true_and]
  cases hc : Lua.Conversion.ofType? a.type with
  | none => rfl
  | some c =>
      rw [hc] at h
      cases c <;> first | rfl | cases h.2

namespace Lua

/-- The parameters have the same type, as far as values are converted. -/
structure Alike (a b : Argument) : Prop where
  type : Conversion.ofType? a.type = Conversion.ofType? b.type
  array : a.arraySuffix.isSome = b.arraySuffix.isSome

/-- The first parameter is an integer where the second one is any number. -/
structure Sharper (a b : Argument) : Prop where
  integer : a.isInteger = true
  floating : b.isFloating = true

instance (a b : Argument) : Decidable (Alike a b) :=
  decidable_of_iff (Conversion.ofType? a.type = Conversion.ofType? b.type
    ∧ a.arraySuffix.isSome = b.arraySuffix.isSome) ⟨fun ⟨h, h'⟩ => ⟨h, h'⟩, fun ⟨h, h'⟩ => ⟨h, h'⟩⟩

instance (a b : Argument) : Decidable (Sharper a b) :=
  decidable_of_iff (a.isInteger = true ∧ b.isFloating = true)
    ⟨fun ⟨h, h'⟩ => ⟨h, h'⟩, fun ⟨h, h'⟩ => ⟨h, h'⟩⟩

/-- At a place among the given parameters, the first overload has an integer and the second one any
number. -/
def SharperAt (top : Nat) (f g : FunctionDecl) (k : Nat) : Prop :=
  ∃ a ∈ (f.given top)[k]?, ∃ b ∈ (g.given top)[k]?, Sharper a b

instance (top : Nat) (f g : FunctionDecl) (k : Nat) : Decidable (SharperAt top f g k) :=
  inferInstanceAs (Decidable (∃ a ∈ (f.given top)[k]?, ∃ b ∈ (g.given top)[k]?, Sharper a b))

/-- The given parameters of two overloads have the same types, except that at one or more places the
first one has an integer and the second one any number. -/
structure Sharpens (top : Nat) (f g : FunctionDecl) : Prop where
  places : List.Forall₂ (fun a b => Alike a b ∨ Sharper a b) (f.given top) (g.given top)
  sharper : ∃ k, SharperAt top f g k

lemma Alike.isInteger_eq {a b : Argument} (h : Alike a b) : a.isInteger = b.isInteger := by
  have harray : a.arraySuffix.isNone = b.arraySuffix.isNone := by
    rw [← Option.not_isSome, ← Option.not_isSome, h.array]
  rw [Argument.isInteger, Argument.isInteger, h.type, harray]

/-! ### Counting along two lists -/

section Counting

variable {α β : Type} {p : α → Bool} {q : β → Bool} {as : List α} {bs : List β}

lemma countP_le_of_forall₂ (h : List.Forall₂ (fun a b => q b = true → p a = true) as bs) :
    bs.countP q ≤ as.countP p := by
  induction h with
  | nil => exact Nat.le_refl _
  | @cons a b as bs hab _ ih =>
      rw [List.countP_cons, List.countP_cons]
      cases hb : q b with
      | true =>
          rw [hab hb]
          exact Nat.add_le_add_right ih _
      | false => exact Nat.le_add_right_of_le ih

/-- Where the count is no greater on the side that passes more often, both sides pass at the same
places. -/
lemma forall₂_of_countP_le (h : List.Forall₂ (fun a b => q b = true → p a = true) as bs)
    (hle : as.countP p ≤ bs.countP q) : List.Forall₂ (fun a b => p a = q b) as bs := by
  induction h with
  | nil => exact .nil
  | @cons a b as bs hab hrest ih =>
      have htail := countP_le_of_forall₂ hrest
      rw [List.countP_cons, List.countP_cons] at hle
      cases hb : q b with
      | true =>
          rw [hb, hab hb] at hle
          exact .cons (by rw [hb, hab hb]) (ih (Nat.le_of_add_le_add_right hle))
      | false =>
          rw [hb, if_neg Bool.false_ne_true] at hle
          cases ha : p a with
          | true =>
              rw [ha, if_pos rfl] at hle
              omega
          | false =>
              rw [ha, if_neg Bool.false_ne_true] at hle
              exact .cons (by rw [ha, hb]) (ih hle)

end Counting

/-! ### Selected overloads -/

section Selected

variable {σ : Stack} {fs : List FunctionDecl} {f g : FunctionDecl} {i j : Nat}

/-- The mandatory parameters are the first of the given ones. -/
lemma take_given {top : Nat} (h : f.Takes top) :
    (f.given top).take f.required = f.formals.take f.required := by
  have hle : f.required ≤ (f.supplied top).toNat := by
    have henough := h.1
    omega
  rw [FunctionDecl.given, List.take_take, Nat.min_eq_left hle]

namespace Sharpens

variable {top : Nat}

/-- An overload does not sharpen itself. -/
lemma ne (h : Sharpens top f g) : f ≠ g := by
  rintro rfl
  obtain ⟨k, a, ha, b, hb, hsharper⟩ := h.sharper
  have heq : a = b := Option.some.inj (ha.symm.trans hb)
  have hinteger := hsharper.integer
  rw [heq, Argument.isInteger_of_isFloating hsharper.floating] at hinteger
  cases hinteger

/-- Where both overloads need as many arguments, the sharper one has an integer among them wherever
the other one has. -/
lemma isInteger (h : Sharpens top f g) (hf : f.Takes top) (hg : g.Takes top)
    (hsame : g.required = f.required) :
    List.Forall₂ (fun a b => Argument.isInteger b = true → Argument.isInteger a = true)
      (f.formals.take f.required) (g.formals.take g.required) := by
  have hgiven := List.forall₂_take f.required h.places
  rw [take_given hf, ← hsame, take_given hg] at hgiven
  rw [← hsame]
  refine hgiven.imp fun a b hab hb => ?_
  rcases hab with halike | hsharper
  · rw [halike.isInteger_eq, hb]
  · exact hsharper.integer

/-- So it has as many integers there as the other one only if it is sharper behind them. -/
lemma required_le (h : Sharpens top f g) (hf : f.Takes top) (hg : g.Takes top)
    (hsame : g.required = f.required) (hcount : f.integerCount ≤ g.integerCount) {k : Nat}
    (hk : SharperAt top f g k) : f.required ≤ k := by
  by_contra hlt
  obtain ⟨a, ha, b, hb, hsharper⟩ := hk
  have hequal := forall₂_of_countP_le (h.isInteger hf hg hsame) hcount
  have hfirst : ∀ {e : FunctionDecl} {c : Argument}, e.Takes top → e.required = f.required →
      (e.given top)[k]? = some c → (e.formals.take e.required)[k]? = some c := by
    intro e c he hrequired hc
    rw [← take_given he, List.getElem?_take_of_lt (by omega), hc]
  obtain ⟨hka, hgeta⟩ := List.getElem?_eq_some_iff.mp (hfirst hf rfl ha)
  obtain ⟨hkb, hgetb⟩ := List.getElem?_eq_some_iff.mp (hfirst hg hsame hb)
  have hab : a.isInteger = b.isInteger := by
    rw [← hgeta, ← hgetb]
    exact hequal.get hka hkb
  rw [hsharper.integer, Argument.isInteger_of_isFloating hsharper.floating] at hab
  cases hab

end Sharpens

/-- An overload that accepts a call and sharpens the selected one needs fewer arguments, or as many
with integers in the place of numbers among the optional ones only, and was declared behind it. -/
lemma Selected.integers_first (h : Selected σ fs i g) (hj : fs[j]? = some f) (hf : Accepts σ f)
    (hsharpens : Sharpens σ.top f g) :
    f.required < g.required
      ∨ (f.required = g.required ∧ i < j ∧ ∀ k, SharperAt σ.top f g k → f.required ≤ k) := by
  have hne : j ≠ i := by
    rintro rfl
    exact hsharpens.ne (Option.some.inj (hj.symm.trans h.declared))
  rcases h.first j f hj hne hf.matches with hfewer | ⟨hsame, hcounts⟩
  · exact .inl hfewer
  · have hle : g.integerCount ≤ f.integerCount :=
      countP_le_of_forall₂ (hsharpens.isInteger hf.takes h.fits.takes hsame)
    obtain ⟨hequal, hij⟩ : g.integerCount = f.integerCount ∧ i < j := by
      dsimp only at hcounts
      omega
    exact .inr ⟨hsame.symm, hij, fun k hk =>
      hsharpens.required_le hf.takes h.fits.takes hsame hequal.ge hk⟩

end Selected

/-- The chooser of overloads of which one is selected returns to it. -/
lemma exists_chooser_of_selected {fs : List FunctionDecl} (hconv : ∀ f ∈ fs, isConvertible f = true)
    {σ : Stack} {i : Nat} {f : FunctionDecl} (hselected : Selected σ fs i f) :
    ∃ c : Chooser, chooserText fs = .ok (render c.steps)
      ∧ c.path σ.truth = [topStep, .line ("return " ++ identifier f none ++ "(L);")] := by
  have hmem : f ∈ fs := List.mem_of_getElem? hselected.declared
  obtain ⟨overloads, hoverloads⟩ := exists_signatures hconv
  obtain ⟨c, htext, halternatives⟩ := exists_chooser (List.ne_nil_of_mem hmem) hoverloads
  refine ⟨c, htext, ?_⟩
  rcases Chooser.path_of_signatures hoverloads halternatives σ with
    ⟨hnone, -⟩ | ⟨j, g, hs, hpath⟩
  · exact absurd hselected.fits (hnone f hmem)
  · obtain ⟨rfl, rfl⟩ := hs.unique hselected
    exact hpath

/-! ### Integers first -/

/-- **Integers first.** Where control returns to an overload, the list may hold another one that
also accepts the call and has the same types at the given places, except for integers in the place
of numbers; but it needs fewer arguments than the selected one, or it needs as many, has these
integers among its optional parameters only, and was declared behind it. The conditions are true as
their text says, which is where the values pass the tests. -/
theorem integers_before_numbers (fs : List FunctionDecl) (hne : fs ≠ [])
    (hconv : ∀ f ∈ fs, isConvertible f = true) (σ : Stack) :
    (∀ f ∈ fs, '&' ∉ f.library.toList → σ.Reads f)
      ∧ ∃ c : Chooser, chooserText fs = .ok (render c.steps)
        ∧ (((∀ f ∈ fs, ¬ Matches σ f) ∧ c.path σ.truth = topStep :: c.errorSteps)
          ∨ ∃ (i : Nat) (g : FunctionDecl), fs[i]? = some g
            ∧ c.path σ.truth = [topStep, .line ("return " ++ identifier g none ++ "(L);")]
            ∧ ∀ (j : Nat) (f : FunctionDecl), fs[j]? = some f → Accepts σ f →
              Sharpens σ.top f g → f.required < g.required
                ∨ (f.required = g.required ∧ i < j
                  ∧ ∀ k, SharperAt σ.top f g k → f.required ≤ k)) := by
  obtain ⟨overloads, hoverloads⟩ := exists_signatures hconv
  obtain ⟨c, htext, halternatives⟩ := exists_chooser hne hoverloads
  refine ⟨fun f _ => σ.reads, c, htext, ?_⟩
  refine (Chooser.path_of_signatures hoverloads halternatives σ).imp_right ?_
  rintro ⟨i, g, hselected, hpath⟩
  exact ⟨i, g, hselected.declared, hpath,
    fun j f hj hf hsharpens => hselected.integers_first hj hf hsharpens⟩

/-- The integer goes to the overload for integers, which is declared behind the one for numbers. -/
theorem integers_before_numbers_scale :
    scalings ≠ [] ∧ (∀ f ∈ scalings, isConvertible f = true)
      ∧ ∃ c : Chooser, chooserText scalings = .ok (render c.steps)
        ∧ c.path (Stack.ofValues [.integer]).truth
          = [topStep, .line "return dub_scale2(L);"] := by
  have hne : scalings ≠ [] := by decide
  have hconv : ∀ f ∈ scalings, isConvertible f = true := by decide +kernel
  obtain ⟨-, c, htext, h⟩ :=
    integers_before_numbers scalings hne hconv (Stack.ofValues [.integer])
  refine ⟨hne, hconv, c, htext, ?_⟩
  have hpair : ∃ g f, scalings = [g, f] ∧ identifier f none = "dub_scale2"
      ∧ Accepts (Stack.ofValues [.integer]) f ∧ g.required = 1 ∧ f.required = 1
      ∧ SharperAt 1 f g 0
      ∧ List.Forall₂ (fun a b => Alike a b ∨ Sharper a b) (f.given 1) (g.given 1) := by
    refine ⟨_, _, rfl, ?_, ?_, ?_, ?_, ?_, ?_⟩ <;> decide +kernel
  obtain ⟨g, f, hlist, hname, haccepts, hg, hf, hsharper, hplaces⟩ := hpair
  rw [hlist] at h
  rcases h with ⟨hnone, -⟩ | ⟨i, e, hi, hpath, hall⟩
  · exact absurd haccepts.matches (hnone f (by simp))
  · match i, hi with
    | 0, hi =>
        cases hi
        rcases hall 1 f rfl haccepts ⟨hplaces, 0, hsharper⟩ with hfewer | ⟨-, -, hoptional⟩
        · omega
        · have hle := hoptional 0 hsharper
          omega
    | 1, hi =>
        cases hi
        rw [hpath, hname]
        rfl

/-- A call goes to the overload of the given name, although another overload accepts it as well and
has an integer where this one has any number. -/
structure PassesOver (σ : Stack) (fs : List FunctionDecl) (target : String) : Prop where
  convertible : ∀ f ∈ fs, isConvertible f = true
  path : ∃ c : Chooser, chooserText fs = .ok (render c.steps)
    ∧ c.path σ.truth = [topStep, .line ("return " ++ target ++ "(L);")]
  sharper : ∃ f ∈ fs, ∃ g ∈ fs, identifier g none = target ∧ Accepts σ f ∧ Sharpens σ.top f g

/-- Methods that scale an object in two directions, each given by the types of its parameters and by
the default value of the second one. -/
def planarScalings (overloads : List (String × String × Option String)) : List FunctionDecl :=
  numbered (.ofClass "Image" none) "Image" "scale" <| overloads.map fun (first, second, value) =>
    { name := "scale", result := "void"
      params := [Sketch.param first "x" none, Sketch.param second "y" value] : Sketch }.declare

/-- An object and two integers go to the method for two numbers, which needs more arguments than the
one for integers; and of two methods that differ in the optional argument only, they go to the one
that was declared first. -/
theorem integers_passed_over :
    PassesOver stepped (planarScalings [("int", "int", some "1"), ("double", "double", none)])
        "Image_scale2"
      ∧ PassesOver stepped
        (planarScalings [("int", "double", some "1"), ("int", "int", some "1")]) "Image_scale1" := by
  have hpasses : ∀ {fs : List FunctionDecl} {f g : FunctionDecl} {i : Nat},
      (∀ f ∈ fs, isConvertible f = true) → Selected stepped fs i g → f ∈ fs → Accepts stepped f →
        Sharpens stepped.top f g → PassesOver stepped fs (identifier g none) :=
    fun hconv hselected hmem haccepts hsharpens =>
      ⟨hconv, exists_chooser_of_selected hconv hselected, _, hmem, _,
        List.mem_of_getElem? hselected.declared, rfl, haccepts, hsharpens⟩
  constructor
  · have hselected : Selected stepped
        (planarScalings [("int", "int", some "1"), ("double", "double", none)]) 1 _ :=
      selected_of_forall (by decide) (by decide +kernel) (by decide +kernel)
    exact hpasses (by decide +kernel) hselected List.mem_cons_self (by decide +kernel)
      ⟨by decide +kernel, 0, by decide +kernel⟩
  · have hselected : Selected stepped
        (planarScalings [("int", "double", some "1"), ("int", "int", some "1")]) 0 _ :=
      selected_of_forall (by decide) (by decide +kernel) (by decide +kernel)
    exact hpasses (by decide +kernel) hselected (List.mem_cons_of_mem _ List.mem_cons_self)
      (by decide +kernel) ⟨by decide +kernel, 1, by decide +kernel⟩

end Lua

end LuaBinder
