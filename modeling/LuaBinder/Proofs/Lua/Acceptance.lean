import LuaBinder.Proofs.Lua.Selection

/-!
Whether a chooser forwards a call to an overload that accepts it.

An overload accepts a call when every given argument passes its test, optional ones included. The
branches of a chooser look at the mandatory parameters alone, so an overload may be selected that
cannot read an optional argument, in front of one that could.

* `Accepts`: the number of given arguments suits the overload, and all of them pass their tests.
* `Shadows`: an overload matches a call without accepting it, and outranks all that accept it.
* `chooser_accepts_iff`: a call that some overload accepts is forwarded to one that accepts it
  exactly when no overload shadows these.
* `chooser_forwards_unread`: a call that the second of two overloads accepts goes to the first.
-/

namespace LuaBinder.Lua

open Code Text

/-! ### Accepted calls -/

/-- The number of given arguments suits the overload, and all of them pass their tests. -/
structure Accepts (σ : Stack) (f : FunctionDecl) : Prop where
  takes : f.Takes σ.top
  fits : ∀ a ∈ f.placed.take (f.supplied σ.top).toNat, σ.fits f.library a = true

instance (σ : Stack) (f : FunctionDecl) : Decidable (Accepts σ f) :=
  decidable_of_iff
    (f.Takes σ.top ∧ ∀ a ∈ f.placed.take (f.supplied σ.top).toNat, σ.fits f.library a = true)
    ⟨fun ⟨h, h'⟩ => ⟨h, h'⟩, fun ⟨h, h'⟩ => ⟨h, h'⟩⟩

/-- The overload at a place matches a call that it does not accept, and it outranks all overloads
that accept the call. -/
structure Shadows (σ : Stack) (fs : List FunctionDecl) (i : Nat) (f : FunctionDecl) : Prop where
  declared : fs[i]? = some f
  fits : Matches σ f
  unread : ¬ Accepts σ f
  first : ∀ (j : Nat) (g : FunctionDecl), fs[j]? = some g → Accepts σ g → Outranks (f, i) (g, j)

section

variable {σ : Stack} {fs : List FunctionDecl} {f g : FunctionDecl} {i j : Nat}

/-- The mandatory parameters are among the given ones. -/
lemma Accepts.matches (h : Accepts σ f) : Matches σ f := by
  refine ⟨h.takes, fun a ha => h.fits a ?_⟩
  have hle : f.required ≤ (f.supplied σ.top).toNat := by
    have henough := h.takes.1
    omega
  exact List.take_subset_take_left f.placed hle ha

/-- An overload that does not accept the call is selected exactly when it shadows all that do. -/
lemma Selected.shadows (h : Selected σ fs i f) (hf : ¬ Accepts σ f) : Shadows σ fs i f := by
  refine ⟨h.declared, h.fits, hf, fun j g hj hg => h.first j g hj ?_ hg.matches⟩
  rintro rfl
  have heq : some g = some f := hj.symm.trans h.declared
  cases heq
  exact hf hg

/-- Where the selected overload accepts the call, no other one outranks it. -/
lemma Selected.not_shadows (h : Selected σ fs i f) (hf : Accepts σ f) : ¬ Shadows σ fs j g := by
  intro hg
  have hne : j ≠ i := by
    rintro rfl
    have heq : some g = some f := hg.declared.symm.trans h.declared
    cases heq
    exact hg.unread hf
  exact not_outranks_of_outranks (h.first j g hg.declared hne hg.fits)
    (hg.first i f h.declared hf)

end

/-! ### Forwarding -/

/-- **Forwarding to an accepting overload.** A call that some overload accepts never reaches the
error. It is forwarded to an overload that accepts it exactly when no overload shadows these. The
conditions are true as their text says, which is where the values pass the tests. -/
theorem chooser_accepts_iff (fs : List FunctionDecl) (hconv : ∀ f ∈ fs, isConvertible f = true)
    (σ : Stack) (haccepted : ∃ f ∈ fs, Accepts σ f) :
    (∀ f ∈ fs, '&' ∉ f.library.toList → σ.Reads f)
      ∧ ∃ c : Chooser, chooserText fs = .ok (render c.steps)
        ∧ ∃ (i : Nat) (f : FunctionDecl), fs[i]? = some f
          ∧ c.path σ.truth = [topStep, .line ("return " ++ identifier f none ++ "(L);")]
          ∧ (Accepts σ f ↔ ∀ j g, ¬ Shadows σ fs j g) := by
  obtain ⟨g, hg, hgacc⟩ := haccepted
  obtain ⟨overloads, hoverloads⟩ := exists_signatures hconv
  obtain ⟨c, htext, halternatives⟩ := exists_chooser (List.ne_nil_of_mem hg) hoverloads
  refine ⟨fun f _ => σ.reads, c, htext, ?_⟩
  rcases Chooser.path_of_signatures hoverloads halternatives σ with
    ⟨hnone, -⟩ | ⟨i, f, hselected, hpath⟩
  · exact absurd hgacc.matches (hnone g hg)
  · refine ⟨i, f, hselected.declared, hpath, fun hf j g => hselected.not_shadows hf, fun h => ?_⟩
    by_contra hf
    exact h i f (hselected.shadows hf)

/-- Two methods that scale an object, each with an optional argument of its own. -/
def scalingMethods : List FunctionDecl :=
  numbered (.ofClass "Image" none) "Image" "scale" <|
    [("int", "int", "step", "1"), ("double", "const char *", "label", "\"\"")].map
      fun (type, optional, name, value) =>
        { name := "scale", result := "void"
          params := [Sketch.param type "factor" none, Sketch.param optional name (some value)]
          : Sketch }.declare

/-- An object, a factor without a fraction, and a step. -/
def stepped : Stack := Stack.ofValues [.object "Image", .integer, .integer]

/-- A call with a step is forwarded to a method that accepts it. -/
theorem chooser_accepts_step :
    (∀ f ∈ scalingMethods, isConvertible f = true) ∧ (∃ f ∈ scalingMethods, Accepts stepped f)
      ∧ ∃ c : Chooser, chooserText scalingMethods = .ok (render c.steps)
        ∧ ∃ f ∈ scalingMethods,
          c.path stepped.truth = [topStep, .line ("return " ++ identifier f none ++ "(L);")]
            ∧ Accepts stepped f := by
  have hconv : ∀ f ∈ scalingMethods, isConvertible f = true := by decide +kernel
  have haccepted : ∃ f ∈ scalingMethods, Accepts stepped f := by decide +kernel
  obtain ⟨-, c, htext, i, f, hi, hpath, hiff⟩ :=
    chooser_accepts_iff scalingMethods hconv stepped haccepted
  have hselected : Selected stepped scalingMethods 0 _ :=
    selected_of_forall (by decide) (by decide +kernel) (by decide +kernel)
  have hfirst : ∀ h0 : 0 < scalingMethods.length, Accepts stepped scalingMethods[0] := by
    decide +kernel
  exact ⟨hconv, haccepted, c, htext, f, List.mem_of_getElem? hi, hpath,
    hiff.mpr fun j g => hselected.not_shadows (hfirst (by decide))⟩

/-- An object, a factor without a fraction, and a label. -/
def labelled : Stack := Stack.ofValues [.object "Image", .integer, .string]

/-- A call with a label is accepted by the second method alone, and forwarded to the first one,
which reads an integer in the place of the label. -/
theorem chooser_forwards_unread :
    (∀ f ∈ scalingMethods, isConvertible f = true)
      ∧ scalingMethods.map (fun f => (identifier f none, decide (Accepts labelled f)))
        = [("Image_scale1", false), ("Image_scale2", true)]
      ∧ ∃ c : Chooser, chooserText scalingMethods = .ok (render c.steps)
        ∧ c.path labelled.truth = [topStep, .line "return Image_scale1(L);"] := by
  have hconv : ∀ f ∈ scalingMethods, isConvertible f = true := by decide +kernel
  obtain ⟨overloads, hoverloads⟩ := exists_signatures hconv
  obtain ⟨c, htext, halternatives⟩ := exists_chooser (by decide) hoverloads
  refine ⟨hconv, by decide +kernel, c, htext, ?_⟩
  have hselected : Selected labelled scalingMethods 0 _ :=
    selected_of_forall (by decide) (by decide +kernel) (by decide +kernel)
  rcases Chooser.path_of_signatures hoverloads halternatives labelled with
    ⟨hnone, -⟩ | ⟨i, f, hs, hpath⟩
  · exact absurd hselected.fits (hnone _ (List.mem_of_getElem? hselected.declared))
  · obtain ⟨rfl, rfl⟩ := hs.unique hselected
    have hname : ∀ h0 : 0 < scalingMethods.length,
        identifier scalingMethods[0] none = "Image_scale1" := by decide +kernel
    rw [hpath, hname]
    rfl

end LuaBinder.Lua
