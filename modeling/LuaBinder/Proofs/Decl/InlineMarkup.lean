import LuaBinder.Proofs.Decl.Members

/-!
Markup inside the texts of a declaration.

A declaration is read off the texts of some of its children and of those of its parameters. Inside
of them the markup does not matter, so a declaration can be made plain: every such text becomes one
run.

* `Element.Restyles`, `ClassSource.Restyles`: other markup inside the texts, everything else as it
  was.
* `Element.plain`: the declaration with one run for each of the texts; `plain_eq_of_restyles`:
  declarations that differ in the markup inside their texts are the same when they are plain.
* `FunctionDecl.plain` and its lemmas: a function has the same arguments, the same result, the same
  signature and the same source when its declaration is plain.
* `Member.mapAll_mapAll`, `Member.filterAll_mapAll`: images of member lists.
* `ofSource_plain`, `ofSources_plain`: plain declarations are grouped in the same way.
-/

namespace LuaBinder

lemma map_eq_map_of_forall₂ {α β γ : Type} {R : α → β → Prop} {f : α → γ} {g : β → γ} {as : List α}
    {bs : List β} (h : List.Forall₂ R as bs) (hR : ∀ a b, R a b → f a = g b) :
    as.map f = bs.map g := by
  rw [← List.forall₂_eq_eq_eq, List.forall₂_map_left_iff, List.forall₂_map_right_iff]
  exact h.imp hR

/-! ### Other markup with the same texts -/

/-- The children whose texts a declaration or a parameter is read from. -/
def textTags : List String :=
  ["type", "declname", "defval", "array", "name", "definition", "argsstring"]

/-- The same run, or two elements that are related. -/
inductive Markup.Related (R : Element → Element → Prop) : Markup → Markup → Prop
  | run (run : String) : Related R (.text run) (.text run)
  | element {e e' : Element} (h : R e e') : Related R e.toMarkup e'.toMarkup

namespace Element

/-- Two elements that differ in their children alone, which are related one by one. -/
structure Childwise (R : Element → Element → Prop) (e e' : Element) : Prop where
  tag : e'.tag = e.tag
  attributes : e'.attributes = e.attributes
  content : List.Forall₂ (Markup.Related R) e.content e'.content

/-- The same element, or one whose text is read with any other content of the same text. -/
inductive RestylesText : Element → Element → Prop
  | same (e : Element) : RestylesText e e
  | text {tag : String} {attributes : List (String × String)} {content other : List Markup}
      (htag : tag ∈ textTags) (h : Markup.flattenAll other = Markup.flattenAll content) :
    RestylesText ⟨tag, attributes, content⟩ ⟨tag, attributes, other⟩

/-- So with a child of a declaration; those that are parameters have such children themselves. -/
inductive RestylesChild : Element → Element → Prop
  | text {e e' : Element} (h : RestylesText e e') : RestylesChild e e'
  | param {e e' : Element} (htag : e.tag = "param") (h : Childwise RestylesText e e') :
    RestylesChild e e'

/-- Two declarations that differ in the markup inside their texts and those of their parameters. -/
def Restyles (e e' : Element) : Prop := Childwise RestylesChild e e'

end Element

/-- Where every element is related to itself, so is every piece of content. -/
lemma Markup.Related.refl {R : Element → Element → Prop} (h : ∀ e, R e e) (m : Markup) :
    Markup.Related R m m := by
  cases m with
  | text run => exact .run run
  | element tag attributes content => exact .element (h ⟨tag, attributes, content⟩)

lemma Element.RestylesChild.refl (e : Element) : e.RestylesChild e := .text (.same e)

lemma Element.Restyles.refl (e : Element) : e.Restyles e :=
  ⟨rfl, rfl, List.forall₂_same.mpr fun m _ => .refl RestylesChild.refl m⟩

/-- Two classes whose declarations differ in the markup inside of texts. -/
structure ClassSource.Restyles (c c' : ClassSource) : Prop where
  name : c'.name = c.name
  node : c.node.Restyles c'.node
  members : List.Forall₂ Element.Restyles c.members c'.members
  aliases : c'.aliases = c.aliases
  constants : c'.constants = c.constants

/-! ### Changes to children -/

/-- A change to an element, as one to a piece of content. -/
def Markup.onElement (change : Element → Element) : Markup → Markup
  | .text run => .text run
  | .element tag attributes content => (change ⟨tag, attributes, content⟩).toMarkup

/-- The change leaves the tag and the text of every element as they are. -/
structure KeepsText (change : Element → Element) : Prop where
  tag : ∀ e, (change e).tag = e.tag
  text : ∀ e, (change e).text = e.text

namespace Element

/-- A change to all children. -/
def onChildren (change : Element → Element) (e : Element) : Element :=
  { e with content := e.content.map (Markup.onElement change) }

variable {change : Element → Element}

lemma element?_onElement (m : Markup) :
    (m.onElement change).element? = m.element?.map change := by
  cases m with
  | text run => rfl
  | element tag attributes content => rfl

lemma children_onChildren (h : KeepsText change) (e : Element) (tag : String) :
    (e.onChildren change).children tag = (e.children tag).map change := by
  have helements : (e.onChildren change).elements = e.elements.map change := by
    rw [elements, elements, onChildren, List.filterMap_map, List.map_filterMap]
    exact List.filterMap_congr fun m _ => element?_onElement m
  have htag : ((·.tag == tag) ∘ change) = (·.tag == tag) :=
    funext fun child => congrArg (· == tag) (h.tag child)
  rw [children, children, helements, List.filter_map, htag]

lemma child?_onChildren (h : KeepsText change) (e : Element) (tag : String) :
    (e.onChildren change).child? tag = (e.child? tag).map change := by
  rw [child?, child?, children_onChildren h, List.head?_map]

lemma childText_onChildren (h : KeepsText change) (e : Element) (tag : String) :
    (e.onChildren change).childText tag = e.childText tag := by
  rw [childText, childText, child?_onChildren h]
  cases e.child? tag with
  | none => rfl
  | some child => exact h.text child

lemma text_onChildren (h : KeepsText change) (e : Element) :
    (e.onChildren change).text = e.text := by
  rw [text, text, onChildren]
  induction e.content with
  | nil => rfl
  | cons m ms ih =>
      have hm : (m.onElement change).flatten = m.flatten := by
        cases m with
        | text run => rfl
        | element tag attributes content => exact h.text ⟨tag, attributes, content⟩
      rw [List.map_cons, Markup.flattenAll, Markup.flattenAll, hm, ih]

/-- A change that does not tell related elements apart does not tell their parents apart. -/
lemma Childwise.onChildren_eq {R : Element → Element → Prop} {e e' : Element}
    (h : e.Childwise R e') (hR : ∀ e e', R e e' → change e = change e') :
    e.onChildren change = e'.onChildren change := by
  have hcontent : e.content.map (Markup.onElement change)
      = e'.content.map (Markup.onElement change) := by
    refine map_eq_map_of_forall₂ h.content fun m m' hm => ?_
    cases hm with
    | run run => rfl
    | element h => exact congrArg toMarkup (hR _ _ h)
  rw [onChildren, onChildren, hcontent, h.tag, h.attributes]

/-! ### Plain declarations -/

/-- One run for the text of the element, if this is read. -/
def oneRun (e : Element) : Element :=
  if e.tag ∈ textTags then { e with content := [.text e.text] } else e

/-- One run for each text of a child of a declaration. -/
def plainChild (e : Element) : Element :=
  if e.tag = "param" then e.onChildren oneRun else e.oneRun

/-- The declaration with one run for each text that is read. -/
def plain (e : Element) : Element := e.onChildren plainChild

lemma keepsText_oneRun : KeepsText oneRun where
  tag e := by
    rw [oneRun]
    split <;> rfl
  text e := by
    rw [oneRun]
    split
    · exact String.append_empty
    · rfl

lemma keepsText_plainChild : KeepsText plainChild where
  tag e := by
    rw [plainChild]
    split
    · rfl
    · exact keepsText_oneRun.tag e
  text e := by
    rw [plainChild]
    split
    · exact text_onChildren keepsText_oneRun e
    · exact keepsText_oneRun.text e

lemma oneRun_eq_of_restylesText {e e' : Element} (h : e.RestylesText e') :
    e.oneRun = e'.oneRun := by
  cases h with
  | same => rfl
  | text htag htext => rw [oneRun, oneRun, if_pos htag, if_pos htag, text, text, htext]

lemma plainChild_eq_of_restylesChild {e e' : Element} (h : e.RestylesChild e') :
    e.plainChild = e'.plainChild := by
  cases h with
  | text h =>
      cases h with
      | same => rfl
      | text htag htext =>
          have hparam : "param" ∉ textTags := by decide
          have hne : ∀ tag ∈ textTags, tag ≠ "param" := fun tag hmem heq => hparam (heq ▸ hmem)
          rw [plainChild, plainChild, if_neg (hne _ htag), if_neg (hne _ htag)]
          exact oneRun_eq_of_restylesText (.text htag htext)
  | param htag h =>
      rw [plainChild, plainChild, if_pos htag, if_pos (h.tag.trans htag)]
      exact h.onChildren_eq fun _ _ => oneRun_eq_of_restylesText

/-- Declarations that differ in the markup inside their texts are the same when they are plain. -/
lemma plain_eq_of_restyles {e e' : Element} (h : e.Restyles e') : e.plain = e'.plain :=
  Childwise.onChildren_eq h fun _ _ => plainChild_eq_of_restylesChild

lemma childText_plain (e : Element) (tag : String) : e.plain.childText tag = e.childText tag :=
  childText_onChildren keepsText_plainChild e tag

/-- Children that are neither parameters nor read as texts stay as they are. -/
lemma child?_plain {tag : String} (hparam : tag ≠ "param") (htext : tag ∉ textTags) (e : Element) :
    e.plain.child? tag = e.child? tag := by
  rw [plain, child?_onChildren keepsText_plainChild]
  cases hchild : e.child? tag with
  | none => rfl
  | some child =>
      have htag : child.tag = tag :=
        beq_iff_eq.mp (List.mem_filter.mp (List.mem_of_head? hchild)).2
      rw [Option.map_some, plainChild, if_neg (htag ▸ hparam), oneRun, if_neg (htag ▸ htext)]

lemma children_plain_param (e : Element) :
    e.plain.children "param" = (e.children "param").map (onChildren oneRun) := by
  rw [plain, children_onChildren keepsText_plainChild]
  refine List.map_congr_left fun child hchild => ?_
  rw [plainChild, if_pos (beq_iff_eq.mp (List.mem_filter.mp hchild).2)]

end Element

/-! ### Functions with plain declarations -/

namespace FunctionDecl

/-- The function with a plain declaration. -/
def plain (f : FunctionDecl) : FunctionDecl := { f with node := f.node.plain }

@[simp] lemma plain_name (f : FunctionDecl) : f.plain.name = f.name := rfl

@[simp] lemma plain_overload (f : FunctionDecl) : f.plain.overload = f.overload := rfl

@[simp] lemma plain_isConstructor (f : FunctionDecl) :
    f.plain.isConstructor = f.isConstructor := rfl

@[simp] lemma plain_qualifiedName (f : FunctionDecl) :
    f.plain.qualifiedName = f.qualifiedName := rfl

@[simp] lemma plain_library (f : FunctionDecl) : f.plain.library = f.library := rfl

/-- Parameters are read off the texts of their children. -/
@[simp] lemma plain_arguments (f : FunctionDecl) : f.plain.arguments = f.arguments := by
  have hparam : ∀ (p : Element) (i : Nat),
      Argument.ofParam f.name (p.onChildren Element.oneRun) i = Argument.ofParam f.name p i := by
    intro p i
    simp only [Argument.ofParam, Element.childText_onChildren Element.keepsText_oneRun]
  rw [arguments, arguments, plain, Element.children_plain_param, List.zipIdx_map, List.map_map]
  exact List.map_congr_left fun p _ => hparam p.1 (p.2 + 1)

/-- The result is read off the text of its type. -/
@[simp] lemma plain_result? (f : FunctionDecl) : f.plain.result? = f.result? := by
  have hdeclared : f.plain.declaredResult? = f.declaredResult? := by
    rw [declaredResult?, declaredResult?, plain, Element.plain,
      Element.child?_onChildren Element.keepsText_plainChild]
    cases f.node.child? "type" with
    | none => rfl
    | some type => simp only [Option.map_some, Element.keepsText_plainChild.text]
  rw [result?, result?, hdeclared, plain_isConstructor, plain_name]

@[simp] lemma plain_signature (f : FunctionDecl) : f.plain.signature = f.signature := by
  rw [signature, signature, plain, Element.childText_plain, Element.childText_plain]

@[simp] lemma child?_location_plain (f : FunctionDecl) :
    f.plain.node.child? "location" = f.node.child? "location" :=
  Element.child?_plain (by decide) (by decide) f.node

@[simp] lemma plain_source? (f : FunctionDecl) : f.plain.source? = f.source? := by
  rw [source?, source?, child?_location_plain]

end FunctionDecl

/-! ### Images of member lists -/

namespace Member

variable {α β γ : Type}

lemma mapAll_eq_map (f : α → β) (ms : List (Member α)) : mapAll f ms = ms.map (map f) := by
  induction ms with
  | nil => rfl
  | cons m ms ih => rw [mapAll, ih, List.map_cons]

lemma mapAll_map_leaf (f : α → β) (as : List α) :
    mapAll f (as.map .leaf) = (as.map f).map .leaf := by
  rw [mapAll_eq_map, List.map_map, List.map_map]
  rfl

lemma isGroup_map (f : α → β) (m : Member α) : (m.map f).isGroup = m.isGroup := by
  cases m <;> rfl

mutual

lemma leaves_map (f : α → β) (m : Member α) : (m.map f).leaves = m.leaves.map f := by
  cases m with
  | leaf member => rfl
  | group members => rw [map, leaves, leaves, leavesAll_mapAll]

lemma leavesAll_mapAll (f : α → β) (ms : List (Member α)) :
    leavesAll (mapAll f ms) = (leavesAll ms).map f := by
  cases ms with
  | nil => rfl
  | cons m ms => rw [mapAll, leavesAll, leavesAll, List.map_append, leaves_map, leavesAll_mapAll]

end

lemma first?_map (f : α → β) (m : Member α) : (m.map f).first? = m.first?.map f := by
  rw [first?_eq_head?_leaves, first?_eq_head?_leaves, leaves_map, List.head?_map]

mutual

lemma map_map (g : β → γ) (f : α → β) (m : Member α) : (m.map f).map g = m.map (g ∘ f) := by
  cases m with
  | leaf member => rfl
  | group members => rw [map, map, map, mapAll_mapAll]

/-- An image of an image. -/
lemma mapAll_mapAll (g : β → γ) (f : α → β) (ms : List (Member α)) :
    mapAll g (mapAll f ms) = mapAll (g ∘ f) ms := by
  cases ms with
  | nil => rfl
  | cons m ms => rw [mapAll, mapAll, mapAll, map_map, mapAll_mapAll]

end

mutual

lemma filter?_map {ignore : α → Bool} {other : β → Bool} {f : α → β}
    (h : ∀ a, other (f a) = ignore a) (m : Member α) :
    (m.map f).filter? other = (m.filter? ignore).map (map f) := by
  cases m with
  | leaf member =>
      rw [map, filter?, filter?, h]
      cases ignore member <;> rfl
  | group members =>
      rw [map, filter?, filter?, filterAll_mapAll h]
      cases filterAll ignore members <;> rfl

/-- A filter that does not see what an image changes leaves the image of what it leaves. -/
lemma filterAll_mapAll {ignore : α → Bool} {other : β → Bool} {f : α → β}
    (h : ∀ a, other (f a) = ignore a) (ms : List (Member α)) :
    filterAll other (mapAll f ms) = mapAll f (filterAll ignore ms) := by
  cases ms with
  | nil => rfl
  | cons m ms =>
      rw [mapAll, filterAll, filterAll, filter?_map h, filterAll_mapAll h]
      cases m.filter? ignore <;> rfl

end

end Member

/-! ### Classes and namespaces with plain declarations -/

lemma groupByKey_map {α κ : Type} [BEq κ] {key : α → κ} {f : α → α} (h : ∀ a, key (f a) = key a)
    (as : List α) :
    groupByKey key (as.map f) = (groupByKey key as).map fun (k, group) => (k, group.map f) := by
  have hkeys : (as.map f).map key = as.map key := by
    rw [List.map_map]
    exact List.map_congr_left fun a _ => h a
  rw [groupByKey, groupByKey, hkeys, List.map_map]
  refine List.map_congr_left fun k _ => ?_
  have hfilter : ((fun a => key a == k) ∘ f) = fun a => key a == k :=
    funext fun a => congrArg (· == k) (h a)
  rw [Function.comp_apply, List.filter_map, hfilter]

/-- A group of functions with plain declarations. -/
def plainGroup (group : String × List FunctionDecl) : String × List FunctionDecl :=
  (group.1, group.2.map FunctionDecl.plain)

/-- Plain declarations are grouped by the same names. -/
lemma overloads_plain (owner : Owner) (nodes : List Element) :
    overloads owner (nodes.map Element.plain) = (overloads owner nodes).map plainGroup := by
  have hname : ∀ node : Element, declaredName node.plain = declaredName node := fun node => by
    rw [declaredName, declaredName, Element.childText_plain]
  rw [overloads, overloads, groupByKey_map hname, List.map_map, List.map_map]
  refine List.map_congr_left fun group _ => ?_
  simp only [Function.comp_apply, plainGroup, numbered, List.length_map, List.zipIdx_map,
    List.map_map]
  rfl

lemma filter_map_plainGroup (p : String → Bool) (groups : List (String × List FunctionDecl)) :
    (groups.map plainGroup).filter (p ·.1) = (groups.filter (p ·.1)).map plainGroup :=
  List.filter_map

lemma slot_plain (fs : List FunctionDecl) :
    slot (fs.map FunctionDecl.plain) = (slot fs).map FunctionDecl.plain := by
  match fs with
  | [] => rfl
  | [f] => rfl
  | f :: g :: rest =>
      have hleaves := Member.mapAll_map_leaf FunctionDecl.plain (f :: g :: rest)
      exact congrArg Member.group hleaves.symm

lemma map_slot_plainGroup (groups : List (String × List FunctionDecl)) :
    ((groups.map plainGroup).map fun (_, fs) => slot fs)
      = Member.mapAll FunctionDecl.plain (groups.map fun (_, fs) => slot fs) := by
  rw [Member.mapAll_eq_map, List.map_map, List.map_map]
  exact List.map_congr_left fun group _ => slot_plain group.2

lemma flatMap_plainGroup (groups : List (String × List FunctionDecl)) :
    (groups.map plainGroup).flatMap (·.2) = (groups.flatMap (·.2)).map FunctionDecl.plain := by
  rw [List.flatMap_map, List.map_flatMap]
  rfl

/-- What a class is made from, with plain declarations. -/
def ClassSource.plain (c : ClassSource) : ClassSource :=
  { c with node := c.node.plain, members := c.members.map Element.plain }

/-- The class with plain declarations. -/
def ClassDecl.plain (c : ClassDecl) : ClassDecl :=
  { c with
    node := c.node.plain
    constructors := c.constructors.map FunctionDecl.plain
    members := Member.mapAll FunctionDecl.plain c.members }

/-- The namespace with plain declarations. -/
def NamespaceDecl.plain (n : NamespaceDecl) : NamespaceDecl :=
  { n with
    classes := n.classes.map ClassDecl.plain
    functions := Member.mapAll FunctionDecl.plain n.functions }

lemma ClassSource.plain_eq_of_restyles {c c' : ClassSource} (h : c.Restyles c') :
    c.plain = c'.plain := by
  have hmembers : c.members.map Element.plain = c'.members.map Element.plain :=
    map_eq_map_of_forall₂ h.members fun _ _ => Element.plain_eq_of_restyles
  rw [plain, plain, hmembers, Element.plain_eq_of_restyles h.node, h.name, h.aliases, h.constants]

/-- A class groups plain declarations in the same way. -/
lemma ofSource_plain (library : Option String) (source : ClassSource) :
    ClassDecl.ofSource library source.plain = (ClassDecl.ofSource library source).plain := by
  have hgroups := overloads_plain (.ofClass source.name library) source.members
  simp only [ClassDecl.ofSource, ClassSource.plain, ClassDecl.plain, hgroups,
    filter_map_plainGroup (· == source.name), filter_map_plainGroup (· != source.name),
    flatMap_plainGroup, map_slot_plainGroup]

/-- So does a namespace. -/
lemma ofSources_plain (name : String) (classes : List ClassSource) (functions : List Element) :
    NamespaceDecl.ofSources name (classes.map ClassSource.plain) (functions.map Element.plain)
      = (NamespaceDecl.ofSources name classes functions).plain := by
  have hclasses : (classes.map ClassSource.plain).map (ClassDecl.ofSource (some name))
      = (classes.map (ClassDecl.ofSource (some name))).map ClassDecl.plain := by
    rw [List.map_map, List.map_map]
    exact List.map_congr_left fun c _ => ofSource_plain (some name) c
  simp only [NamespaceDecl.ofSources, NamespaceDecl.plain, hclasses, overloads_plain,
    map_slot_plainGroup]

/-- Namespaces whose declarations differ in the markup inside their texts are the same when they are
plain. -/
lemma plain_ofSources_eq {name : String} {classes classes' : List ClassSource}
    {functions functions' : List Element}
    (hclasses : List.Forall₂ ClassSource.Restyles classes classes')
    (hfunctions : List.Forall₂ Element.Restyles functions functions') :
    (NamespaceDecl.ofSources name classes functions).plain
      = (NamespaceDecl.ofSources name classes' functions').plain := by
  have hclasses' : classes.map ClassSource.plain = classes'.map ClassSource.plain :=
    map_eq_map_of_forall₂ hclasses fun _ _ => ClassSource.plain_eq_of_restyles
  have hfunctions' : functions.map Element.plain = functions'.map Element.plain :=
    map_eq_map_of_forall₂ hfunctions fun _ _ => Element.plain_eq_of_restyles
  rw [← ofSources_plain, ← ofSources_plain, hclasses', hfunctions']

end LuaBinder
