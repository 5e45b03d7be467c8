import LuaBinder.Proofs.Manifest.Source

/-!
The strings in the text of a manifest, in order, each with what stands in front of it.

* `SourcePart`, `Renders`: a text taken apart into layout and strings; only strings hold quotes.
* `WrittenText`: a string with what stands between it and the string before, and its place.
* `ManifestText.strings`: the strings of a manifest; `exists_tail_strings`, the manifest is made of
  them, and `texts_filter_strings`, what the strings of one setting hold.
-/

namespace LuaBinder

open Text Toml

/-! ### Strings of a document -/

/-- A part of a document: layout, names and signs, or a string of a setting. -/
inductive SourcePart where
  | layout (cs : List Char)
  | string (field : String) (value : PlainText)

namespace SourcePart

/-- The characters of the part. -/
def chars : SourcePart → List Char
  | .layout cs => cs
  | .string _ value => value.quoted

/-- The string with the name of its setting. -/
def string? : SourcePart → Option (String × PlainText)
  | .layout _ => none
  | .string field value => some (field, value)

/-- Only strings hold quotes. -/
def Unquoted : SourcePart → Prop
  | .layout cs => '"' ∉ cs
  | .string _ _ => True

end SourcePart

/-- A string of a document: what stands in front of it, behind the string before, then the name of
its setting and its text. -/
structure WrittenText where
  lead : List Char
  field : String
  value : PlainText

namespace WrittenText

/-- The text between the quotes. -/
def text (w : WrittenText) : String := w.value.text

/-- The characters up to the closing quote. -/
def chars (w : WrittenText) : List Char := w.lead ++ w.value.quoted

/-- The stretch between the quotes, behind the strings in front. -/
def place (front : List WrittenText) (w : WrittenText) : Span where
  offset := byteCount (front.flatMap chars ++ w.lead) + 1
  length := byteCount w.value.chars

/-- The strings among the parts, with `lead` in front of the first one. -/
def ofParts : List Char → List SourcePart → List WrittenText
  | _, [] => []
  | lead, .layout cs :: parts => ofParts (lead ++ cs) parts
  | lead, .string field value :: parts => { lead, field, value } :: ofParts [] parts

lemma text_eq_iff {w : WrittenText} {value : String} :
    w.text = value ↔ w.value.chars = value.toList := by
  rw [text, PlainText.text, ← String.toList_inj, String.toList_ofList]

lemma exists_tail_ofParts (lead : List Char) (parts : List SourcePart) :
    ∃ tail, lead ++ parts.flatMap SourcePart.chars
      = (ofParts lead parts).flatMap chars ++ tail := by
  induction parts generalizing lead with
  | nil => exact ⟨lead, by simp [ofParts]⟩
  | cons part parts ih =>
      cases part with
      | layout cs =>
          obtain ⟨tail, htail⟩ := ih (lead ++ cs)
          exact ⟨tail, by rw [ofParts, ← htail, List.flatMap_cons, List.append_assoc]; rfl⟩
      | string field value =>
          obtain ⟨tail, htail⟩ := ih []
          refine ⟨tail, ?_⟩
          rw [ofParts, List.flatMap_cons, List.flatMap_cons, List.append_assoc, ← htail, chars,
            List.append_assoc]
          rfl

/-- No quote stands between strings. -/
lemma quote_not_mem_lead {lead : List Char} {parts : List SourcePart} (hlead : '"' ∉ lead)
    (h : ∀ part ∈ parts, part.Unquoted) : ∀ w ∈ ofParts lead parts, '"' ∉ w.lead := by
  induction parts generalizing lead with
  | nil => simp [ofParts]
  | cons part parts ih =>
      obtain ⟨hpart, hparts⟩ := List.forall_mem_cons.mp h
      cases part with
      | layout cs => exact ih (by simpa using ⟨hlead, hpart⟩) hparts
      | string field value =>
          rw [ofParts, List.forall_mem_cons]
          exact ⟨hlead, ih List.not_mem_nil hparts⟩

lemma map_ofParts (lead : List Char) (parts : List SourcePart) :
    (ofParts lead parts).map (fun w => (w.field, w.value))
      = parts.filterMap SourcePart.string? := by
  induction parts generalizing lead with
  | nil => rfl
  | cons part parts ih =>
      cases part with
      | layout cs => exact ih (lead ++ cs)
      | string field value => exact congrArg _ (ih [])

end WrittenText

/-! ### Parts of a document -/

/-- The parts have these characters and these strings. -/
structure Renders (parts : List SourcePart) (cs : List Char) (strings : List (String × PlainText)) :
    Prop where
  chars : parts.flatMap SourcePart.chars = cs
  strings : parts.filterMap SourcePart.string? = strings
  unquoted : ∀ part ∈ parts, part.Unquoted

namespace Renders

lemma layout {cs : List Char} (h : '"' ∉ cs) : Renders [.layout cs] cs [] :=
  ⟨by simp [SourcePart.chars], rfl, by simpa [SourcePart.Unquoted] using h⟩

lemma sign {c : Char} (h : c ≠ '"') : Renders [.layout [c]] [c] [] :=
  layout (by simpa using h.symm)

lemma string (field : String) (value : PlainText) :
    Renders [.string field value] value.quoted [(field, value)] :=
  ⟨by simp [SourcePart.chars], rfl, by simp [SourcePart.Unquoted]⟩

lemma append {parts parts' : List SourcePart} {cs cs' : List Char}
    {strings strings' : List (String × PlainText)} (h : Renders parts cs strings)
    (h' : Renders parts' cs' strings') :
    Renders (parts ++ parts') (cs ++ cs') (strings ++ strings') where
  chars := by rw [List.flatMap_append, h.chars, h'.chars]
  strings := by rw [List.filterMap_append, h.strings, h'.strings]
  unquoted := List.forall_mem_append.mpr ⟨h.unquoted, h'.unquoted⟩

lemma flatMap {α : Type} {parts : α → List SourcePart} {cs : α → List Char}
    {strings : α → List (String × PlainText)} (h : ∀ a, Renders (parts a) (cs a) (strings a))
    (l : List α) : Renders (l.flatMap parts) (l.flatMap cs) (l.flatMap strings) := by
  induction l with
  | nil => exact ⟨rfl, rfl, by simp⟩
  | cons a l ih => exact (h a).append ih

end Renders

lemma quote_not_mem_of_isLayout {cs : List Char} (h : ∀ c ∈ cs, isLayout c = true) : '"' ∉ cs :=
  fun hc => absurd (h _ hc) (by decide)

lemma quote_not_mem_gap (g : Gap) : '"' ∉ g.chars :=
  quote_not_mem_of_isLayout fun _ => Gap.isLayout_of_mem

lemma quote_not_mem_spaces (s : Spaces) : '"' ∉ s.chars :=
  quote_not_mem_of_isLayout fun _ => s.isLayout_of_mem

/-- The parts of an item. -/
def itemParts (field : String) (i : TextItem) : List SourcePart :=
  [.layout i.before.chars] ++ [.string field i.text] ++ [.layout i.behind.chars]

lemma renders_itemParts (field : String) (i : TextItem) :
    Renders (itemParts field i) i.chars [(field, i.text)] :=
  ((Renders.layout (quote_not_mem_gap i.before)).append (.string field i.text)).append
    (.layout (quote_not_mem_gap i.behind))

/-- The parts of an array. -/
def arrayParts (field : String) (a : TextArray) : List SourcePart :=
  [.layout ['[']] ++ (a.items.flatMap (fun i => itemParts field i ++ [.layout [',']])
    ++ a.last.elim (itemParts field) (fun g => [.layout g.chars]) ++ [.layout [']']])

lemma renders_arrayParts (field : String) (a : TextArray) :
    Renders (arrayParts field a) a.chars (a.texts.map (field, ·)) := by
  have hitems := Renders.flatMap
    (fun i => (renders_itemParts field i).append (.sign (by decide : ',' ≠ '"'))) a.items
  have hlast : Renders (a.last.elim (itemParts field) fun g => [.layout g.chars])
      (a.last.elim TextItem.chars Gap.chars)
      ((a.last.elim (fun i => [i.text]) fun _ => []).map (field, ·)) := by
    cases a.last with
    | inl i => exact renders_itemParts field i
    | inr g => exact .layout (quote_not_mem_gap g)
  have hall := (Renders.sign (by decide : '[' ≠ '"')).append
    ((hitems.append hlast).append (.sign (by decide : ']' ≠ '"')))
  have htexts : a.texts.map (field, ·) = (a.items.flatMap fun i => [(field, i.text)] ++ [])
      ++ (a.last.elim (fun i => [i.text]) fun _ => []).map (field, ·) := by
    rw [TextArray.texts, List.map_append, List.map_map, List.map_eq_flatMap]
    rfl
  rw [List.nil_append, List.append_nil, ← htexts] at hall
  exact hall

/-- The parts of a line. -/
def SettingLine.parts (l : SettingLine) : List SourcePart :=
  [.layout (l.ending.chars ++ l.gap.chars ++ l.field.toList ++ l.before.chars ++ ['=']
      ++ l.behind.chars)]
    ++ l.setting.content.elim (fun p => [.string l.field p]) (arrayParts l.field)

lemma SettingLine.renders_parts (l : SettingLine) :
    Renders l.parts l.chars (l.setting.texts.map (l.field, ·)) := by
  have hfield : '"' ∉ l.field.toList :=
    (by decide : ∀ f ∈ Manifest.fieldNames, '"' ∉ f.toList) _ l.setting.known
  have hlayout : '"' ∉ l.ending.chars ++ l.gap.chars ++ l.field.toList ++ l.before.chars ++ ['=']
      ++ l.behind.chars := by
    have hending := quote_not_mem_of_isLayout fun c => l.ending.isLayout_of_mem (c := c)
    simp [hending, quote_not_mem_gap, hfield, quote_not_mem_spaces]
  have hvalue : Renders (l.setting.content.elim (fun p => [.string l.field p]) (arrayParts l.field))
      l.setting.chars (l.setting.texts.map (l.field, ·)) := by
    rw [Setting.chars, Setting.texts]
    cases l.setting.content with
    | inl p => exact .string l.field p
    | inr a => exact renders_arrayParts l.field a
  have hall := (Renders.layout hlayout).append hvalue
  have hchars : l.chars = l.ending.chars ++ l.gap.chars ++ l.field.toList ++ l.before.chars ++ ['=']
      ++ l.behind.chars ++ l.setting.chars := by
    simp [SettingLine.chars, SettingLine.body, List.append_assoc]
  rw [hchars]
  exact hall

namespace ManifestText

/-- The parts of the document. -/
def parts (t : ManifestText) : List SourcePart :=
  [.layout (t.above.chars ++ t.header)] ++ (t.lines.flatMap SettingLine.parts
    ++ [.layout t.below.chars])

lemma renders_parts (t : ManifestText) :
    Renders t.parts t.chars (t.lines.flatMap fun l => l.setting.texts.map (l.field, ·)) := by
  have hhead : '"' ∉ t.above.chars ++ t.header := by
    have hname : '"' ∉ Manifest.tableName.toList := by decide
    simp [header, quote_not_mem_gap, hname, quote_not_mem_spaces]
  have hlines := Renders.flatMap SettingLine.renders_parts t.lines
  have hall := (Renders.layout hhead).append
    (hlines.append (.layout (quote_not_mem_gap t.below)))
  rw [List.nil_append, List.append_nil, List.append_assoc] at hall
  exact hall

/-- The strings of the document, in order. -/
def strings (t : ManifestText) : List WrittenText := WrittenText.ofParts [] t.parts

/-- The document is its strings, each behind its lead, and what is left behind the last one. -/
lemma exists_tail_strings (t : ManifestText) :
    ∃ tail, t.chars = t.strings.flatMap WrittenText.chars ++ tail := by
  obtain ⟨tail, htail⟩ := WrittenText.exists_tail_ofParts [] t.parts
  exact ⟨tail, by rw [strings, ← htail, List.nil_append, t.renders_parts.chars]⟩

lemma quote_not_mem_lead (t : ManifestText) : ∀ w ∈ t.strings, '"' ∉ w.lead :=
  WrittenText.quote_not_mem_lead List.not_mem_nil t.renders_parts.unquoted

lemma texts_filter_lines (field : String) (lines : List SettingLine) :
    ((lines.flatMap fun l => l.setting.texts.map (l.field, ·)).filter (·.1 == field)).map
      (·.2.text) = textsIn field lines := by
  induction lines with
  | nil => rfl
  | cons l lines ih =>
      rw [List.flatMap_cons, List.filter_append, List.map_append, ih, textsIn_cons, List.filter_map]
      congr 1
      by_cases hfield : l.field = field
      · have hall : (l.setting.texts.filter ((·.1 == field) ∘ (l.field, ·))) = l.setting.texts :=
          List.filter_eq_self.mpr fun _ _ => beq_iff_eq.mpr hfield
        rw [hall, if_pos hfield, List.map_map]
        rfl
      · have hnone : (l.setting.texts.filter ((·.1 == field) ∘ (l.field, ·))) = [] :=
          List.filter_eq_nil_iff.mpr fun _ _ h => hfield (beq_iff_eq.mp h)
        rw [hnone, if_neg hfield]
        rfl

/-- The strings of a field have the texts of its lines. -/
lemma texts_filter_strings (t : ManifestText) (field : String) :
    (t.strings.filter (·.field == field)).map WrittenText.text = textsIn field t.lines := by
  have hstrings : t.strings.map (fun w => (w.field, w.value)) = _ :=
    (WrittenText.map_ofParts [] t.parts).trans t.renders_parts.strings
  rw [← texts_filter_lines, ← hstrings, List.filter_map, List.map_map]
  rfl

end ManifestText

end LuaBinder
