import LuaBinder.Proofs.Code.Headers
import LuaBinder.Proofs.Lua.Preview
import LuaBinder.Proofs.Lua.Tags
import LuaBinder.Proofs.Text.Segments

/-!
The metatable that a class registers, and the one that its objects are looked up with.

A class registers under its namespace and its name. The code for a function finds the metatable of
an object from the namespace of the function and the last segment of the declared type, so the two
agree where the last segment is the name of the class, and where both know of the namespace.

* `SameNamespace`, `Spelled`: a class with a function of its namespace, and the ways to write the
  class in a type.
* `registryTag_eq_registryName_iff`: when the two names of a metatable agree, whatever the names of
  the class and of the namespace are.
* `filterMap_registeredTag?`, `filterMap_hookTag?`: what the file of a class registers, and what its
  hooks check.
* `tags_registered`: the tag of a function is the one that the class registers and that its hooks
  check.
-/

namespace LuaBinder.Lua

open Code Text

/-! ### Classes and the types that mean them -/

/-- The class and the function belong to one namespace, as a member of any of its classes or as a
free function, or neither of them belongs to any. -/
inductive SameNamespace : ClassDecl → FunctionDecl → Prop where
  | inside {name : String} {classes : List ClassSource} {functions : List Element} {c : ClassDecl}
      {f : FunctionDecl} (hc : c ∈ (NamespaceDecl.ofSources name classes functions).classes)
      (hf : f ∈ (NamespaceDecl.ofSources name classes functions).allFunctions) : SameNamespace c f
  | outside {source other : ClassSource} {f : FunctionDecl}
      (hf : f ∈ (ClassDecl.ofSource none other).functions) :
      SameNamespace (.ofSource none source) f

/-- The ways to write a class in a type: its name, with the namespace in front or without. -/
inductive Spelled (c : ClassDecl) : String → Prop where
  | bare : Spelled c c.name
  | qualified {library : String} (h : c.library = some library) :
      Spelled c (library ++ "::" ++ c.name)

/-- The name of the class has one segment. -/
def IsPlain (c : ClassDecl) : Prop := ¬ "::".toList <:+: c.name.toList

instance (c : ClassDecl) : Decidable (IsPlain c) :=
  inferInstanceAs (Decidable (¬ "::".toList <:+: c.name.toList))

/-- In a namespace with an empty name, no type that means a class ends with a dot and the name of
the class. -/
lemma Spelled.not_suffix {c : ClassDecl} (hlibrary : c.library = some "") {type : String}
    (h : Spelled c type) : ¬ '.' :: c.name.toList <:+ type.toList := by
  have hname : ¬ '.' :: c.name.toList <:+ c.name.toList := fun hsuffix =>
    absurd hsuffix.length_le (by simp)
  cases h with
  | bare => exact hname
  | @qualified library hqualified =>
      rw [hlibrary] at hqualified
      cases hqualified
      show ¬ '.' :: c.name.toList <:+ ("" ++ "::" ++ c.name).toList
      rw [String.toList_append, show ("" ++ "::").toList = [':', ':'] by decide, List.cons_append,
        List.cons_append, List.nil_append, List.suffix_cons_iff, List.suffix_cons_iff, not_or,
        not_or]
      exact ⟨fun heq => absurd (List.cons.inj heq).1 (by decide),
        fun heq => absurd (List.cons.inj heq).1 (by decide), hname⟩

lemma SameNamespace.library_eq {c : ClassDecl} {f : FunctionDecl} (h : SameNamespace c f) :
    f.library = c.library.getD "" := by
  cases h with
  | @inside name classes functions _ _ hc hf =>
      obtain ⟨source, -, rfl⟩ := List.mem_map.mp hc
      exact library_of_mem_allFunctions hf
  | @outside source other _ hf =>
      rw [FunctionDecl.library, (grouping_ofSource none other).owner_of_mem hf]
      rfl

/-- The tag of a type that means a class is the name under which the class is registered, unless the
namespace has an empty name, or the type is qualified and the name of the class starts with a
colon. -/
lemma registryTag_eq_registryName_iff {c : ClassDecl} (hplain : IsPlain c) {type : String}
    (h : Spelled c type) : registryTag (c.library.getD "") type = c.registryName
      ↔ c.library ≠ some "" ∧ (type = c.name ∨ c.name.toList.head? ≠ some ':') := by
  have hsegment : lastName type = c.name ↔ type = c.name ∨ c.name.toList.head? ≠ some ':' := by
    cases h with
    | bare => exact iff_of_true (lastName_eq_self hplain) (.inl rfl)
    | @qualified library _ =>
        rw [lastName_qualified_iff hplain]
        refine (or_iff_right fun heq => hplain ?_).symm
        rw [← heq, String.toList_append, String.toList_append]
        exact List.infix_append _ _ _
  rw [← hsegment, registryTag, ClassDecl.registryName]
  cases hlibrary : c.library with
  | none => simp
  | some library =>
      rw [Option.getD_some, Ne, Option.some_inj]
      by_cases hempty : library = ""
      · -- the registered name starts with a dot
        refine iff_of_false (fun heq => ?_) fun hboth => hboth.1 hempty
        have hsuffix := lastName_suffix type
        rw [if_pos (by simp [hempty])] at heq
        rw [heq, hempty, String.toList_append] at hsuffix
        exact h.not_suffix (hempty ▸ hlibrary) hsuffix
      · rw [if_neg (by simpa using hempty), String.append_right_inj]
        exact (and_iff_right hempty).symm

/-! ### The file of a class -/

/-- The name of the metatable that a line makes. -/
def registeredTag? (line : String) : Option String :=
  between? "luaL_newmetatable(L, \"" "\");" line

/-- The name of the metatable that a line of a hook checks. -/
def hookTag? (line : String) : Option String :=
  between? "DubUserdata *userdata = (DubUserdata *)luaL_checkudata(L, 1, \"" "\");" line

/-- The opening function of a class makes one metatable. -/
lemma filterMap_registeredTag? (file : ClassFile) :
    (textsAll file.openSteps).filterMap registeredTag? = [file.registryName] := by
  have hmade : registeredTag? ("luaL_newmetatable(L, \"" ++ (file.registryName ++ "\");"))
      = some file.registryName := by
    rw [← String.append_assoc]
    exact between?_eq_some_iff.mpr rfl
  have hopen : ∀ rest, registeredTag? ("extern \"C\" int luaopen_" ++ rest) = none :=
    between?_eq_none_of_apart rfl rfl _
  have hconstants : (textsAll (if file.constants.isEmpty then []
      else
        [.line "// register class constants",
         .line ("dub_register_const(L, " ++ (file.name ++ "_const);")),
         .blank])).filterMap registeredTag? = [] := by
    have hconstant : ∀ rest, registeredTag? ("dub_register_const(L, " ++ rest) = none :=
      between?_eq_none_of_apart rfl rfl _
    split
    · rfl
    · simp only [textsAll, Step.texts, List.filterMap_append, List.filterMap_cons, hconstant]
      rfl
  have hmethods : ∀ rest, registeredTag? ("luaL_register(L, NULL, " ++ rest) = none :=
    between?_eq_none_of_apart rfl rfl _
  have hcreators : ∀ rest, registeredTag? ("luaL_register(L, \"" ++ rest) = none :=
    between?_eq_none_of_apart rfl rfl _
  simp only [ClassFile.openSteps, textsAll, Step.texts, textsAll_append, List.filterMap_append,
    List.filterMap_cons, String.append_assoc, hmade, hopen, hconstants, hmethods, hcreators]
  rfl

/-- Both hooks of a class check one metatable. -/
lemma filterMap_hookTag? (file : ClassFile) :
    (textsAll file.hookSteps).filterMap hookTag? = [file.registryName, file.registryName] := by
  have hchecked : hookTag? ("DubUserdata *userdata = (DubUserdata *)luaL_checkudata(L, 1, \""
      ++ (file.registryName ++ "\");")) = some file.registryName := by
    rw [← String.append_assoc]
    exact between?_eq_some_iff.mpr rfl
  have hheader : ∀ rest, hookTag? ("static int " ++ rest) = none :=
    between?_eq_none_of_apart rfl rfl _
  have hdelete : ∀ rest, hookTag? ("if (userdata->gc && userdata->ptr) delete (" ++ rest) = none :=
    between?_eq_none_of_apart rfl rfl _
  have hnull : ∀ rest, hookTag? ("lua_pushstring(L, \"<" ++ rest) = none :=
    between?_eq_none_of_apart rfl rfl _
  have htext : ∀ rest, hookTag? ("lua_pushfstring(L, \"<" ++ rest) = none :=
    between?_eq_none_of_apart rfl rfl _
  simp only [ClassFile.hookSteps, ClassFile.userdataLine, definitionLine, textsAll, Step.texts,
    List.filterMap_append, List.filterMap_cons, String.append_assoc, hchecked, hheader, hdelete,
    hnull, htext]
  rfl

/-! ### Definition and use -/

/-- **Metatables.** A function of the namespace of a class that is called on an object of the class,
or whose declaration means the class in a type, looks objects up with a metatable. It is the one
that the class registers, and the one that both hooks of the class check. A namespace has a name,
and the name of a class is a single segment that does not start with a colon. -/
theorem tags_registered (o : Options) (c : ClassDecl) (f : FunctionDecl)
    (hsame : SameNamespace c f) (hnamed : c.library ≠ some "") (hplain : IsPlain c)
    (hcolon : c.name.toList.head? ≠ some ':') (hkept : exclusion? o f = none) (type : String)
    (hspelled : Spelled c type) (hmeant : type ∈ classTypes f) :
    ∃ file, ClassFile.ofClass o everywhere c = .ok file
      ∧ (textsAll file.openSteps).filterMap registeredTag? = [c.registryName]
      ∧ (textsAll file.hookSteps).filterMap hookTag? = [c.registryName, c.registryName]
      ∧ (∃ tag, Handles f type tag)
      ∧ ∀ tag, Handles f type tag → tag = c.registryName := by
  have hconvertible := isConvertible_of_exclusion?_eq_none hkept
  refine ⟨.ofKept o c, ofClass_eq everywhere_eq o c, filterMap_registeredTag? _,
    filterMap_hookTag? _, ⟨_, handles_iff.mpr ⟨hconvertible, hmeant, rfl⟩⟩, fun tag htag => ?_⟩
  obtain ⟨-, -, rfl⟩ := handles_iff.mp htag
  rw [hsame.library_eq]
  exact (registryTag_eq_registryName_iff hplain hspelled).mpr ⟨hnamed, .inr hcolon⟩

/-- A namespace with a class of images, where an image takes another one of the given type. -/
def joinNamespace (name type : String) : NamespaceDecl :=
  .ofSources name
    [{ name := "Image", node := Sketch.compound "Image" "image.h"
       members := [{ name := "join", result := "void"
                     params := [Sketch.param type "other" none] : Sketch }.declare] }]
    []

/-- An image that is passed by reference, under the qualified name of its class. -/
theorem tags_registered_image : ∃ c f,
    (joinNamespace "dub" "const dub::Image &").classes = [c] ∧ c.functions = [f]
      ∧ c.registryName = "dub.Image" ∧ exclusion? {} f = none
      ∧ (∃ tag, Handles f "dub::Image" tag)
      ∧ ∀ tag, Handles f "dub::Image" tag → tag = "dub.Image" := by
  have hnamespace : ∃ c f,
      (joinNamespace "dub" "const dub::Image &").classes = [c] ∧ c.functions = [f]
        ∧ f ∈ (joinNamespace "dub" "const dub::Image &").allFunctions ∧ c.library = some "dub"
        ∧ c.name = "Image" ∧ exclusion? {} f = none ∧ "dub::Image" ∈ classTypes f :=
    ⟨_, _, rfl, rfl, List.mem_cons_self, rfl, rfl, by decide +kernel, by decide +kernel⟩
  obtain ⟨c, f, hclasses, hfunctions, hmem, hlibrary, hname, hkept, hmeant⟩ := hnamespace
  have hregistry : c.registryName = "dub.Image" := by
    rw [ClassDecl.registryName, hlibrary, hname]
    rfl
  have hsame : SameNamespace c f := .inside (hclasses ▸ List.mem_cons_self) hmem
  have hspelled : Spelled c "dub::Image" := by
    have hqualified := Spelled.qualified hlibrary
    rwa [hname] at hqualified
  obtain ⟨-, -, -, -, hhandled, htags⟩ := tags_registered {} c f hsame (by simp [hlibrary])
    (by rw [IsPlain, hname]; decide) (by rw [hname]; decide) hkept "dub::Image" hspelled hmeant
  exact ⟨c, f, hclasses, hfunctions, hregistry, hkept, hhandled, hregistry ▸ htags⟩

end LuaBinder.Lua
