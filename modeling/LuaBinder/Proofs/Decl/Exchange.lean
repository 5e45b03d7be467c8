import Mathlib.Tactic
import LuaBinder.Decl.Exchange

/-!
Declaration markup that goes through an exchange document.

* `Markup.Keyed`, `Element.Keyed`: no element names an attribute twice.
* `attributes?_object`: attributes are read back in their order.
* `Markup.fields`, `ofExchange?_fields`: the fields of an element, and how they are read where some
  of them are left out.
* `ofExchange?_toExchange`, `ofExchanges?_toExchanges`: content is read back, by induction on it.
* `readFrom_of_ofExchange?`: strings are read as runs, and what else is read is an element.
* `exchange_roundtrip`: elements are read back as they were written.
-/

namespace LuaBinder

/-! ### Attributes -/

/-- No element of the content names an attribute twice. -/
inductive Markup.Keyed : Markup → Prop
  | text (run : String) : Keyed (.text run)
  | element {tag : String} {attributes : List (String × String)} {content : List Markup}
      (names : (attributes.map Prod.fst).Nodup) (inner : ∀ m ∈ content, Keyed m) :
    Keyed (.element tag attributes content)

/-- Neither the element nor any below it names an attribute twice. -/
def Element.Keyed (e : Element) : Prop := e.toMarkup.Keyed

/-- A new name comes last. -/
lemma Element.setAttribute_of_not_mem {name value : String} {attributes : List (String × String)}
    (h : name ∉ attributes.map Prod.fst) :
    setAttribute name value attributes = attributes ++ [(name, value)] := by
  induction attributes with
  | nil => rfl
  | cons a rest ih =>
      rw [List.map_cons, List.mem_cons, not_or] at h
      rw [setAttribute, if_neg (Ne.symm h.1), ih h.2, List.cons_append]

namespace Exchange

/-- Attributes with different names are read back in their order. -/
lemma attributes?_object {attributes : List (String × String)}
    (h : (attributes.map Prod.fst).Nodup) :
    attributes? (.object (attributes.map fun (n, v) => (n, .string v))) = some attributes := by
  -- by induction on the attributes that are still to be read, behind those that were
  suffices hrest : ∀ done rest : List (String × String),
      ((done ++ rest).map Prod.fst).Nodup →
        (rest.map fun (n, v) => (n, Exchange.string v)).foldlM (fun done field =>
          (field.2.string?).map (Element.setAttribute field.1 · done)) done
            = some (done ++ rest) from
    hrest [] attributes h
  intro done rest
  induction rest generalizing done with
  | nil =>
      intro _
      rw [List.append_nil]
      rfl
  | cons a rest ih =>
      intro hnames
      obtain ⟨name, value⟩ := a
      have hnew : name ∉ done.map Prod.fst := by
        rw [List.map_append, List.map_cons] at hnames
        exact fun hmem => List.disjoint_of_nodup_append hnames hmem List.mem_cons_self
      have hnext := ih (done ++ [(name, value)]) (by rwa [List.append_assoc])
      rw [List.append_assoc, ← Element.setAttribute_of_not_mem hnew] at hnext
      exact hnext

end Exchange

/-! ### Elements -/

namespace Markup

/-- The fields of an element, with the attributes and the content where they are given. -/
def fields (tag : String) (attributes? content? : Option Exchange) : List (String × Exchange) :=
  [("tag", .string tag)] ++ (attributes?.map ("attributes", ·)).toList
    ++ (content?.map ("content", ·)).toList

/-- What is not given is empty. -/
lemma ofExchange?_fields (tag : String) (attributes? content? : Option Exchange) :
    ofExchange? (.object (fields tag attributes? content?)) = do
      let attributes ← (attributes?.map Exchange.attributes?).getD (some [])
      let content ← (content?.map listOfExchange?).getD (some [])
      return .element tag attributes content := by
  cases attributes? <;> cases content? <;> rfl

/-- What is empty is not given. -/
lemma toExchange_element (tag : String) (attributes : List (String × String))
    (content : List Markup) : toExchange (.element tag attributes content)
      = .object (fields tag
        (if attributes.isEmpty then none
          else some (.object (attributes.map fun (n, v) => (n, .string v))))
        (if content.isEmpty then none else some (.array (toExchanges content)))) := by
  rw [toExchange]
  cases attributes <;> cases content <;> rfl

/-- An element is read back if its content is. -/
lemma ofExchange?_toExchange_element {tag : String} {attributes : List (String × String)}
    {content : List Markup} (hnames : (attributes.map Prod.fst).Nodup)
    (hcontent : ofExchanges? (toExchanges content) = some content) :
    ofExchange? (toExchange (.element tag attributes content))
      = some (.element tag attributes content) := by
  have hlist : ((if content.isEmpty then none else some (Exchange.array (toExchanges content))).map
      listOfExchange?).getD (some []) = some content := by
    cases content with
    | nil => rfl
    | cons m ms => exact hcontent
  have hattributes : ((if attributes.isEmpty then none
        else some (Exchange.object (attributes.map fun (n, v) => (n, .string v)))).map
      Exchange.attributes?).getD (some []) = some attributes := by
    cases attributes with
    | nil => rfl
    | cons a attributes => exact Exchange.attributes?_object hnames
  rw [toExchange_element, ofExchange?_fields, hattributes, hlist]
  rfl

mutual

/-- Content is read back as it was written. -/
lemma ofExchange?_toExchange : ∀ {m : Markup}, m.Keyed → ofExchange? m.toExchange = some m
  | .text _, _ => by
      rw [toExchange, ofExchange?]
  | .element _ _ content, .element names inner =>
      ofExchange?_toExchange_element names (ofExchanges?_toExchanges inner)

/-- So is a list of content. -/
lemma ofExchanges?_toExchanges : ∀ {content : List Markup}, (∀ m ∈ content, m.Keyed) →
    ofExchanges? (toExchanges content) = some content
  | [], _ => by
      rw [toExchanges, ofExchanges?]
  | m :: ms, h => by
      obtain ⟨hm, hms⟩ := List.forall_mem_cons.mp h
      rw [toExchanges, ofExchanges?, ofExchange?_toExchange hm, ofExchanges?_toExchanges hms]
      rfl

end

/-! ### Kinds of content -/

/-- What an exchange value is read as: a string as a run, anything else as an element. -/
inductive ReadFrom : Exchange → Markup → Prop
  | run (run : String) : ReadFrom (.string run) (.text run)
  | object (fields : List (String × Exchange)) (e : Element) : ReadFrom (.object fields) e.toMarkup
  | array (items : List Exchange) (e : Element) : ReadFrom (.array items) e.toMarkup

/-- Every string is read, and only strings are read as runs. -/
lemma readFrom_of_ofExchange? {item : Exchange} {m : Markup} (h : ofExchange? item = some m) :
    ReadFrom item m := by
  cases item with
  | string run =>
      rw [ofExchange?] at h
      cases h
      exact .run run
  | object fields =>
      rw [ofExchange?] at h
      obtain ⟨tag, -, h⟩ := Option.bind_eq_some_iff.mp h
      dsimp only at h
      -- the attributes are given or not
      split at h
      all_goals
        obtain ⟨attributes, -, h⟩ := Option.bind_eq_some_iff.mp h
        obtain ⟨content, -, h⟩ := Option.bind_eq_some_iff.mp h
        cases h
        exact .object fields ⟨tag, attributes, content⟩
  | array items =>
      rw [ofExchange?] at h
      obtain ⟨tag, -, h⟩ := Option.bind_eq_some_iff.mp h
      dsimp only at h
      split at h
      all_goals
        obtain ⟨attributes, -, h⟩ := Option.bind_eq_some_iff.mp h
        obtain ⟨content, -, h⟩ := Option.bind_eq_some_iff.mp h
        split at h
        · cases h
          exact .array items ⟨tag, attributes, content⟩
        · cases h
  | null => simp [ofExchange?] at h
  | boolean value => simp [ofExchange?] at h
  | number text => simp [ofExchange?] at h

lemma forall₂_readFrom {items : List Exchange} {content : List Markup}
    (h : ofExchanges? items = some content) : List.Forall₂ ReadFrom items content := by
  induction items generalizing content with
  | nil =>
      rw [ofExchanges?] at h
      cases h
      exact .nil
  | cons item items ih =>
      rw [ofExchanges?] at h
      obtain ⟨m, hm, h⟩ := Option.bind_eq_some_iff.mp h
      obtain ⟨ms, hms, h⟩ := Option.bind_eq_some_iff.mp h
      cases h
      exact .cons (readFrom_of_ofExchange? hm) (ih hms)

end Markup

/-! ### Round trips -/

/-- **Exchange documents.** An element that names no attribute twice, at any depth, is read back
from the exchange object that it is written as: with the same tag, the same attributes and the same
content in the same order, where attributes and content may be empty. Wherever a list of content is
read, every string becomes a run with its text, no other value becomes a run, and every object
becomes an element. -/
theorem exchange_roundtrip {e : Element} (h : e.Keyed) :
    Element.ofExchange? e.toExchange = some e
      ∧ ∀ items content, Markup.ofExchanges? items = some content →
        List.Forall₂ (fun item m => (∀ run, item = .string run ↔ m = .text run)
          ∧ ∀ fields, item = .object fields → ∃ inner : Element, m = inner.toMarkup)
          items content := by
  constructor
  · rw [Element.ofExchange?, Element.toExchange, Markup.ofExchange?_toExchange h]
    rfl
  · intro items content hread
    refine (Markup.forall₂_readFrom hread).imp fun item m hitem => ?_
    cases hitem with
    | run text =>
        refine ⟨fun run => ?_, fun fields hfields => by cases hfields⟩
        rw [Exchange.string.injEq, Markup.text.injEq]
    | object fields e =>
        exact ⟨fun run => iff_of_false nofun nofun, fun _ _ => ⟨e, rfl⟩⟩
    | array items e =>
        exact ⟨fun run => iff_of_false nofun nofun, fun _ hfields => by cases hfields⟩

/-- A parameter whose type has a reference between two runs, next to a child without content. -/
theorem exchange_roundtrip_param :
    let e : Element := {
      tag := "param"
      content := [
        Element.toMarkup {
          tag := "type"
          content := [.text "const ",
            .element "ref" [("refid", "classFoo"), ("kindref", "compound")] [.text "Foo"],
            .text " &"] },
        .element "declname" [] []] }
    e.Keyed ∧ Element.ofExchange? e.toExchange = some e := by
  intro e
  have hkeyed : e.Keyed := by
    refine .element (by decide) (List.forall_mem_cons.mpr ⟨?_, List.forall_mem_singleton.mpr ?_⟩)
    · refine .element (by decide) (List.forall_mem_cons.mpr ⟨.text _,
        List.forall_mem_cons.mpr ⟨?_, List.forall_mem_singleton.mpr (.text _)⟩⟩)
      exact .element (by decide) (List.forall_mem_singleton.mpr (.text _))
    · exact .element (by decide) (List.forall_mem_nil _)
  exact ⟨hkeyed, (exchange_roundtrip hkeyed).1⟩

end LuaBinder
