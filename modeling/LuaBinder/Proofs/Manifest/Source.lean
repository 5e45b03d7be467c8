import LuaBinder.Manifest.Basic
import LuaBinder.Proofs.Toml.Reading

/-!
The text of a manifest, setting by setting, and what is read from it.

* `Setting`, `SettingLine`, `ManifestText`: a table of settings, each with a text or an array of
  texts, on lines of their own and in any order.
* `takeStatements?_lines`, `parse?_text`: the statements of the document are its header and its
  settings.
* `of_ofStatements?`: they fill one table, and the names of the settings differ.
* `CheckedField`, `read_of_parse`: what a manifest has for the settings that are checked is what
  stands in the text.
-/

namespace LuaBinder

open Text Toml

/-! ### Settings -/

/-- A setting with its text or its texts. -/
structure Setting where
  field : String
  known : field ∈ Manifest.fieldNames := by decide
  content : PlainText ⊕ TextArray

namespace Setting

/-- The characters of the value. -/
def chars (s : Setting) : List Char := s.content.elim PlainText.quoted TextArray.chars

/-- The value, absent when a control stands in a text. -/
def value? (s : Setting) : Option Value := s.content.elim PlainText.value? TextArray.value?

/-- The texts in the value. -/
def texts (s : Setting) : List PlainText := s.content.elim (fun p => [p]) TextArray.texts

lemma field_ne_nil (s : Setting) : s.field.toList ≠ [] :=
  (by decide : ∀ f ∈ Manifest.fieldNames, f.toList ≠ []) _ s.known

lemma isBare_of_mem_field (s : Setting) : ∀ c ∈ s.field.toList, isBare c = true := by
  have hbare : ∀ f ∈ Manifest.fieldNames, f.toList.all isBare = true := by decide
  exact List.all_eq_true.mp (hbare s.field s.known)

/-- The value is read in front of anything but a quote. -/
lemma takeValue?_chars (s : Setting) {rest : List Char} (h : ∀ c ∈ rest.head?, c ≠ '"')
    (depth : Nat) : takeValue? (depth + 1) (s.chars ++ rest) = s.value?.map (·, rest) := by
  obtain ⟨field, known, content⟩ := s
  cases content with
  | inl p => exact takeValue?_text p h (depth + 1)
  | inr a => exact takeValue?_array a depth rest

lemma continues_chars (s : Setting) (rest : List Char) : Continues (s.chars ++ rest) := by
  obtain ⟨field, known, content⟩ := s
  cases content with
  | inl p => exact continues_cons.mpr rfl
  | inr a => exact continues_cons.mpr rfl

end Setting

/-- A setting on lines of its own, behind the rest of the line in front of it. -/
structure SettingLine where
  ending : EmptyLine := {}
  gap : Gap := {}
  before : Spaces := { chars := [' '] }
  behind : Spaces := { chars := [' '] }
  setting : Setting

namespace SettingLine

/-- The name of the setting. -/
def field (l : SettingLine) : String := l.setting.field

/-- The characters from the name on. -/
def body (l : SettingLine) : List Char :=
  l.field.toList ++ (l.before.chars ++ '=' :: (l.behind.chars ++ l.setting.chars))

/-- All the characters of the line. -/
def chars (l : SettingLine) : List Char := l.ending.chars ++ (l.gap.chars ++ l.body)

/-- The entry that the line makes in its table. -/
def entry? (l : SettingLine) : Option (String × Value) := l.setting.value?.map (l.field, ·)

/-- A line starts with a letter. -/
lemma exists_body (l : SettingLine) :
    ∃ c cs, l.body = c :: cs ∧ isContent c = true ∧ c ≠ '[' := by
  have hletters : ∀ f ∈ Manifest.fieldNames,
      (f.toList.all fun c => isContent c && c != '[') = true := by decide
  obtain ⟨c, cs, hfield⟩ : ∃ c cs, l.field.toList = c :: cs :=
    List.exists_cons_of_ne_nil l.setting.field_ne_nil
  refine ⟨c, _, by rw [body, hfield, List.cons_append], ?_⟩
  have hfirst := List.all_eq_true.mp (hletters l.field l.setting.known) c
    (hfield ▸ List.mem_cons_self)
  simpa using hfirst

/-- A setting is read in front of anything but a quote. -/
lemma takeStatement?_body (l : SettingLine) {rest : List Char} (h : ∀ c ∈ rest.head?, c ≠ '"') :
    takeStatement? (l.body ++ rest)
      = l.entry?.map fun entry => (.pair [entry.1] entry.2, rest) := by
  have hpath : takePath? (l.field.toList
        ++ (l.before.chars ++ '=' :: (l.behind.chars ++ l.setting.chars ++ rest)))
      = some ([String.ofList l.field.toList], '=' :: (l.behind.chars ++ l.setting.chars ++ rest)) :=
    takePath?_bare l.setting.field_ne_nil l.setting.isBare_of_mem_field {} l.before (.inl rfl) _
  have hpair : takePair? (some ∘ skipSpaces) (takeValue? depthLimit) (l.body ++ rest)
      = l.setting.value?.map fun value => (([l.field], value), rest) := by
    have hbody : l.body ++ rest = l.field.toList
        ++ (l.before.chars ++ '=' :: (l.behind.chars ++ l.setting.chars ++ rest)) := by
      simp [body, List.append_assoc]
    have hequals : skipSpaces ('=' :: (l.behind.chars ++ l.setting.chars ++ rest))
        = '=' :: (l.behind.chars ++ l.setting.chars ++ rest) := rfl
    have hvalue : skipSpaces (l.behind.chars ++ l.setting.chars ++ rest)
        = l.setting.chars ++ rest := by
      rw [List.append_assoc]
      exact (l.setting.continues_chars rest).skipSpaces_append l.behind
    rw [String.ofList_toList] at hpath
    rw [hbody, takePair?, hpath]
    simp only [Option.bind_eq_bind, Option.bind_some, Function.comp_apply, hequals, afterHead?,
      hvalue, reduceIte, depthLimit, l.setting.takeValue?_chars h]
    cases l.setting.value? <;> rfl
  obtain ⟨c, cs, hbody, -, hbracket⟩ := l.exists_body
  rw [hbody, List.cons_append] at hpair ⊢
  rw [takeStatement?, hpair, entry?]
  · cases l.setting.value? <;> rfl
  · simp [hbracket]
  · simp [hbracket]

end SettingLine

/-! ### Documents -/

/-- The table of a manifest: its header, its settings, and what is left below them. -/
structure ManifestText where
  above : Gap := {}
  before : Spaces := {}
  behind : Spaces := {}
  lines : List SettingLine
  below : Gap := { lines := [{}] }

namespace ManifestText

/-- The characters of the header. -/
def header (t : ManifestText) : List Char :=
  '[' :: (t.before.chars ++ (Manifest.tableName.toList ++ (t.behind.chars ++ [']'])))

/-- The characters below the header. -/
def settings (t : ManifestText) : List Char := t.lines.flatMap SettingLine.chars ++ t.below.chars

/-- All the characters. -/
def chars (t : ManifestText) : List Char := t.above.chars ++ (t.header ++ t.settings)

/-- The document. -/
def text (t : ManifestText) : String := String.ofList t.chars

/-- What is left below the header, or below a line, starts with layout. -/
lemma isLayout_head?_below (lines : List SettingLine) (below : Gap) :
    ∀ c ∈ (lines.flatMap SettingLine.chars ++ below.chars).head?, isLayout c = true := by
  intro c hc
  cases lines with
  | nil =>
      rw [List.flatMap_nil, List.nil_append] at hc
      exact Gap.isLayout_of_mem (List.mem_of_mem_head? hc)
  | cons l lines =>
      rw [List.flatMap_cons, SettingLine.chars, List.append_assoc, List.append_assoc,
        List.head?_append_of_ne_nil _ l.ending.chars_ne_nil] at hc
      exact l.ending.isLayout_of_mem (List.mem_of_mem_head? hc)

/-- No statement is left below the last setting. -/
lemma takeStatements?_below (below : Gap) (fuel : Nat) :
    (endLine? below.chars >>= takeStatements? (fuel + 1)) = some [] := by
  obtain ⟨lines, indent⟩ := below
  cases lines with
  | nil =>
      have hend := endLine?_spaces indent
      simp only [Gap.chars, List.flatMap_nil, List.nil_append, hend]
      rfl
  | cons l lines =>
      have hchars : (Gap.mk (l :: lines) indent).chars
          = l.chars ++ (Gap.mk lines indent).chars := by
        simp [Gap.chars, List.append_assoc]
      have hgap := skipGaps?_gap ⟨lines, indent⟩ continues_nil
      rw [List.append_nil] at hgap
      rw [hchars, endLine?_emptyLine, Option.bind_eq_bind, Option.bind_some, takeStatements?, hgap]

/-- The statements behind the end of the header, or of a line, are the settings below. -/
lemma takeStatements?_lines (lines : List SettingLine) (below : Gap) {fuel : Nat}
    (hfuel : lines.length < fuel) :
    (endLine? (lines.flatMap SettingLine.chars ++ below.chars) >>= takeStatements? fuel)
      = (lines.mapM SettingLine.entry?).map fun entries =>
          entries.map fun entry => .pair [entry.1] entry.2 := by
  -- by induction on the lines: each one starts with the end of the line in front of it
  induction lines generalizing fuel with
  | nil =>
      obtain ⟨fuel, rfl⟩ := Nat.exists_eq_succ_of_ne_zero (Nat.ne_zero_of_lt hfuel)
      exact takeStatements?_below below fuel
  | cons l lines ih =>
      obtain ⟨fuel, rfl⟩ := Nat.exists_eq_succ_of_ne_zero (Nat.ne_zero_of_lt hfuel)
      have hchars : (l :: lines).flatMap SettingLine.chars ++ below.chars = l.ending.chars
          ++ (l.gap.chars ++ (l.body ++ (lines.flatMap SettingLine.chars ++ below.chars))) := by
        simp [SettingLine.chars, List.append_assoc]
      have hnext : ∀ c ∈ (lines.flatMap SettingLine.chars ++ below.chars).head?, c ≠ '"' := by
        rintro c hc rfl
        exact absurd (isLayout_head?_below lines below _ hc) (by decide)
      have hstatement := l.takeStatement?_body hnext
      have hrest := ih (Nat.lt_of_succ_lt_succ hfuel)
      obtain ⟨c, cs, hbody, hc, -⟩ := l.exists_body
      rw [hbody, List.cons_append] at hstatement
      rw [hchars, endLine?_emptyLine, Option.bind_eq_bind, Option.bind_some, takeStatements?, hbody,
        List.cons_append, skipGaps?_gap _ (continues_cons.mpr hc)]
      simp only [hstatement, List.mapM_cons]
      cases l.entry? with
      | none => rfl
      | some entry =>
          simp only [Option.map_some, Option.bind_eq_bind, Option.bind_some] at hrest ⊢
          rw [← Option.bind_assoc, hrest]
          cases lines.mapM SettingLine.entry? <;> rfl

lemma takeStatement?_header (t : ManifestText) (rest : List Char) :
    takeStatement? (t.header ++ rest) = some (.table [Manifest.tableName], rest) := by
  have hpath : takePath? (t.before.chars
        ++ (Manifest.tableName.toList ++ (t.behind.chars ++ ']' :: rest)))
      = some ([String.ofList Manifest.tableName.toList], ']' :: rest) :=
    takePath?_bare (by decide) (List.all_eq_true.mp (by decide)) t.before t.behind (.inr rfl) rest
  have hheader : t.header ++ rest = '[' :: (t.before.chars
      ++ (Manifest.tableName.toList ++ (t.behind.chars ++ ']' :: rest))) := by
    simp [header, List.append_assoc]
  rw [String.ofList_toList] at hpath
  rw [hheader, takeStatement?, takeHeader?, hpath]
  · rfl
  · intro tail heq
    cases hbefore : t.before.chars with
    | nil =>
        rw [hbefore] at heq
        exact absurd (List.cons.inj heq).1 (by decide)
    | cons c cs =>
        rw [hbefore, List.cons_append] at heq
        have hspace := t.before.isSpace c (hbefore ▸ List.mem_cons_self)
        rw [(List.cons.inj heq).1] at hspace
        exact absurd hspace (by decide)

/-- The document holds no byte order mark. -/
lemma withoutMark_chars (t : ManifestText) : withoutMark t.chars = t.chars := by
  rw [withoutMark]
  intro cs heq
  have hhead : '\ufeff' ∈ (t.above.chars ++ '[' :: (t.header.tail ++ t.settings)).head? := by
    rw [show t.above.chars ++ '[' :: (t.header.tail ++ t.settings) = t.chars from rfl, heq]
    rfl
  rcases mem_or_eq_of_head?_gap hhead with hmem | hmark
  · exact absurd (Gap.isLayout_of_mem hmem) (by decide)
  · exact absurd hmark (by decide)

/-- The statements of the document are its header and its settings. -/
lemma takeStatements?_chars (t : ManifestText) {fuel : Nat} (hfuel : t.lines.length < fuel) :
    takeStatements? (fuel + 1) t.chars
      = (t.lines.mapM SettingLine.entry?).map fun entries =>
          .table [Manifest.tableName] :: entries.map fun entry => .pair [entry.1] entry.2 := by
  have hheader := t.takeStatement?_header t.settings
  have hsettings := takeStatements?_lines t.lines t.below hfuel
  have hstart : t.header ++ t.settings = '[' :: (t.header.tail ++ t.settings) := rfl
  have hskip : skipGaps? (t.above.chars ++ (t.header ++ t.settings))
      = some (t.header ++ t.settings) :=
    skipGaps?_gap t.above (by rw [hstart, continues_cons]; rfl)
  rw [hstart] at hheader
  rw [takeStatements?, chars, hskip, hstart]
  simp only [hheader, Option.bind_eq_bind, Option.bind_some] at hsettings ⊢
  rw [settings, ← Option.bind_assoc, hsettings]
  cases t.lines.mapM SettingLine.entry? <;> rfl

/-- The document is read setting by setting, if no control stands in a text. -/
lemma parse?_text (t : ManifestText) :
    Toml.parse? t.text
      = (t.lines.mapM SettingLine.entry?).bind fun entries => ofStatements?
          (.table [Manifest.tableName] :: entries.map fun entry => .pair [entry.1] entry.2) := by
  have hlines : t.lines.length ≤ (t.lines.flatMap SettingLine.chars).length :=
    length_le_length_flatMap fun l _ => by
      rw [SettingLine.chars, Ne, List.append_eq_nil_iff, not_and]
      exact fun h => absurd h l.ending.chars_ne_nil
  have hfuel : t.lines.length < t.chars.length := by
    rw [chars, header, settings, List.length_append, List.length_append, List.length_append,
      List.length_cons]
    omega
  rw [Toml.parse?, text, String.toList_ofList, withoutMark_chars, takeStatements?_chars t hfuel]
  cases t.lines.mapM SettingLine.entry? <;> rfl

/-! ### Tables -/

/-- A table with the settings read so far, which takes the next one. -/
def draft (entries : Table) : Draft where
  root := [(Manifest.tableName, .table .opened entries)]
  current := [Manifest.tableName]

/-- A setting is added unless there is one of its name. -/
lemma add?_draft (entries : Table) (field : String) (value : Value) :
    (draft entries).add? (.pair [field] value)
      = if (entries.value? field).isSome then none else some (draft (entries.set field value)) := by
  have hroot : Table.value? [(Manifest.tableName, .table .opened entries)] Manifest.tableName
      = some (.table .opened entries) := rfl
  rw [Draft.add?, draft]
  simp only [Table.modifyBelow, Table.modifyAt, hroot, Table.insert?, List.getLast?_singleton,
    List.dropLast_singleton]
  cases entries.value? field with
  | none => rfl
  | some old => rfl

lemma set_of_value?_eq_none {entries : Table} {field : String} (value : Value)
    (h : entries.value? field = none) : entries.set field value = entries ++ [(field, value)] := by
  induction entries with
  | nil => rfl
  | cons entry entries ih =>
      rw [Table.value?, Option.map_eq_none_iff, List.find?_eq_none] at h
      obtain ⟨hentry, hentries⟩ := List.forall_mem_cons.mp h
      rw [beq_iff_eq] at hentry
      rw [Table.set, if_neg hentry, List.cons_append]
      exact congrArg _ (ih (by rwa [Table.value?, Option.map_eq_none_iff, List.find?_eq_none]))

/-- Settings of different names fill the table in order. -/
lemma of_foldlM_draft {entries read : Table} {d : Draft} (hread : (read.map (·.1)).Nodup)
    (h : (entries.map fun entry => Statement.pair [entry.1] entry.2).foldlM Draft.add? (draft read)
      = some d) :
    d = draft (read ++ entries) ∧ ((read ++ entries).map (·.1)).Nodup := by
  induction entries generalizing read with
  | nil =>
      rw [List.append_nil]
      exact ⟨(Option.some.inj h).symm, hread⟩
  | cons entry entries ih =>
      rw [List.map_cons, List.foldlM_cons, add?_draft] at h
      cases hold : read.value? entry.1 with
      | some old => simp [hold] at h
      | none =>
          rw [hold, if_neg (by simp), Option.bind_eq_bind, Option.bind_some,
            set_of_value?_eq_none _ hold] at h
          rw [List.append_cons]
          refine ih ?_ h
          rw [Table.value?, Option.map_eq_none_iff, List.find?_eq_none] at hold
          rw [List.map_append, List.map_singleton, ← List.concat_eq_append]
          refine hread.concat fun hmem => ?_
          obtain ⟨other, hother, heq⟩ := List.mem_map.mp hmem
          exact hold other hother (beq_iff_eq.mpr heq)

/-- The table of the settings, whose names differ. -/
lemma of_ofStatements? {entries document : Table}
    (h : ofStatements? (.table [Manifest.tableName]
      :: entries.map fun entry => .pair [entry.1] entry.2) = some document) :
    document = [(Manifest.tableName, .table .opened entries)]
      ∧ (entries.map (·.1)).Nodup := by
  rw [ofStatements?, Option.map_eq_some_iff] at h
  obtain ⟨d, hd, rfl⟩ := h
  have hopen : Draft.add? {} (.table [Manifest.tableName]) = some (draft []) := rfl
  rw [List.foldlM_cons, hopen, Option.bind_eq_bind, Option.bind_some] at hd
  have hfresh : (([] : Table).map (·.1)).Nodup := List.nodup_nil
  obtain ⟨rfl, hnodup⟩ := of_foldlM_draft hfresh hd
  exact ⟨rfl, hnodup⟩

end ManifestText

/-! ### Checked settings -/

/-- The settings whose texts are checked. -/
inductive CheckedField where
  | name
  | ignore
  | headerBase
  deriving DecidableEq

namespace CheckedField

/-- The name of the setting. -/
def field : CheckedField → String
  | .name => "name"
  | .ignore => "ignore"
  | .headerBase => "header_base"

/-- The texts that a manifest has for the setting. -/
def read (m : Manifest) : CheckedField → List String
  | .name => [m.name]
  | .ignore => m.ignore
  | .headerBase => m.headerBase.toList

lemma mapM_string?_of_mapM_value? {texts : List PlainText} {items : List Value}
    (h : texts.mapM PlainText.value? = some items) :
    items.mapM Manifest.string? = some (texts.map PlainText.text) := by
  induction texts generalizing items with
  | nil =>
      rw [List.mapM_nil] at h
      cases h
      rfl
  | cons p texts ih =>
      obtain ⟨value, rest, hvalue, hrest, rfl⟩ := exists_of_mapM_cons h
      have hstring : Manifest.string? value = some p.text := by
        rw [PlainText.value?] at hvalue
        split at hvalue <;> cases hvalue
        rfl
      rw [List.mapM_cons, hstring, ih hrest]
      rfl

variable {s : Setting} {value : Value}

/-- A setting that is read as a text is written as one. -/
lemma texts_of_string? (hvalue : s.value? = some value) {text : String}
    (h : Manifest.string? value = some text) : s.texts.map PlainText.text = [text] := by
  obtain ⟨name, known, content⟩ := s
  cases content with
  | inl p =>
      rw [Setting.value?, Sum.elim_inl, PlainText.value?] at hvalue
      split at hvalue <;> cases hvalue
      rw [← Option.some.inj h]
      rfl
  | inr a =>
      rw [Setting.value?, Sum.elim_inr, TextArray.value?] at hvalue
      obtain ⟨items, -, rfl⟩ := Option.map_eq_some_iff.mp hvalue
      cases h

/-- A setting that is read as an array of texts is written as one. -/
lemma texts_of_strings? (hvalue : s.value? = some value) {texts : List String}
    (h : Manifest.strings? value = some texts) : s.texts.map PlainText.text = texts := by
  obtain ⟨name, known, content⟩ := s
  cases content with
  | inl p =>
      rw [Setting.value?, Sum.elim_inl, PlainText.value?] at hvalue
      split at hvalue <;> cases hvalue
      cases h
  | inr a =>
      rw [Setting.value?, Sum.elim_inr, TextArray.value?] at hvalue
      obtain ⟨items, hitems, rfl⟩ := Option.map_eq_some_iff.mp hvalue
      exact Option.some.inj ((mapM_string?_of_mapM_value? hitems).symm.trans h)

/-- A setting changes the texts of its own field only. -/
lemma read_set? {m m' : Manifest} (hvalue : s.value? = some value)
    (h : m.set? s.field value = some m') (f : CheckedField) :
    f.read m' = if s.field = f.field then s.texts.map PlainText.text else f.read m := by
  have hknown := s.known
  simp only [Manifest.fieldNames, List.mem_cons, List.not_mem_nil, or_false] at hknown
  rcases hknown with hs | hs | hs | hs | hs | hs
  all_goals
    rw [hs, Manifest.set?] at h
    obtain ⟨text, htext, rfl⟩ := Option.map_eq_some_iff.mp h
    rw [hs]
  · cases f <;> simp [read, field, texts_of_string? hvalue htext]
  · cases f <;> simp [read, field]
  · cases f <;> simp [read, field]
  · cases f <;> simp [read, field]
  · cases f <;> simp [read, field, texts_of_string? hvalue htext]
  · cases f <;> simp [read, field, texts_of_strings? hvalue htext]

end CheckedField

namespace ManifestText

lemma map_fst_of_mapM_entry? {lines : List SettingLine} {entries : Table}
    (h : lines.mapM SettingLine.entry? = some entries) :
    entries.map (·.1) = lines.map SettingLine.field := by
  induction lines generalizing entries with
  | nil =>
      rw [List.mapM_nil] at h
      cases h
      rfl
  | cons l lines ih =>
      obtain ⟨entry, rest, hentry, hrest, rfl⟩ := exists_of_mapM_cons h
      obtain ⟨value, hvalue, rfl⟩ := Option.map_eq_some_iff.mp hentry
      rw [List.map_cons, List.map_cons, ih hrest]

/-- The texts of a field in some lines. -/
def textsIn (field : String) (lines : List SettingLine) : List String :=
  (lines.filter (·.field == field)).flatMap fun l => l.setting.texts.map PlainText.text

lemma textsIn_cons (field : String) (l : SettingLine) (lines : List SettingLine) :
    textsIn field (l :: lines)
      = (if l.field = field then l.setting.texts.map PlainText.text else [])
        ++ textsIn field lines := by
  by_cases hfield : l.field = field
  · rw [textsIn, List.filter_cons_of_pos (by simpa using hfield), List.flatMap_cons, if_pos hfield,
      textsIn]
  · rw [textsIn, List.filter_cons_of_neg (by simpa using hfield), if_neg hfield, List.nil_append,
      textsIn]

lemma textsIn_eq_nil {field : String} {lines : List SettingLine}
    (h : field ∉ lines.map SettingLine.field) : textsIn field lines = [] := by
  have hfilter : lines.filter (·.field == field) = [] := by
    rw [List.filter_eq_nil_iff]
    intro l hl heq
    exact h (List.mem_map.mpr ⟨l, hl, beq_iff_eq.mp heq⟩)
  rw [textsIn, hfilter, List.flatMap_nil]

/-- Settings of different names leave what stands on their lines. -/
lemma read_of_foldlM (f : CheckedField) {lines : List SettingLine} {entries : Table}
    {m m' : Manifest} (h : lines.mapM SettingLine.entry? = some entries)
    (hnodup : (lines.map SettingLine.field).Nodup)
    (hm : entries.foldlM (fun m (field, value) => m.set? field value) m = some m') :
    f.read m' = if f.field ∈ lines.map SettingLine.field then textsIn f.field lines
      else f.read m := by
  induction lines generalizing entries m with
  | nil =>
      rw [List.mapM_nil] at h
      cases h
      obtain rfl := Option.some.inj hm
      rfl
  | cons l lines ih =>
      obtain ⟨entry, rest, hentry, hrest, rfl⟩ := exists_of_mapM_cons h
      obtain ⟨value, hvalue, rfl⟩ := Option.map_eq_some_iff.mp hentry
      rw [List.foldlM_cons, Option.bind_eq_bind, Option.bind_eq_some_iff] at hm
      obtain ⟨next, hnext, hm⟩ := hm
      rw [List.map_cons, List.nodup_cons] at hnodup
      have hread : CheckedField.read next f
          = if l.field = f.field then l.setting.texts.map PlainText.text
            else CheckedField.read m f := f.read_set? hvalue hnext
      rw [ih hrest hnodup.2 hm, hread, List.map_cons, textsIn_cons]
      by_cases hfield : l.field = f.field
      · have hfresh : f.field ∉ lines.map SettingLine.field := hfield ▸ hnodup.1
        rw [if_neg hfresh, if_pos hfield, if_pos (hfield ▸ List.mem_cons_self), if_pos hfield,
          textsIn_eq_nil hfresh, List.append_nil]
      · have hmem : f.field ∈ l.field :: lines.map SettingLine.field
            ↔ f.field ∈ lines.map SettingLine.field := by
          rw [List.mem_cons, or_iff_right (Ne.symm hfield)]
        rw [if_neg hfield, if_neg hfield, List.nil_append]
        simp only [hmem]

/-- **What is read for a checked setting stands in the text**: the texts that the manifest has for
it are those that the document has, in order. -/
lemma read_of_parse (t : ManifestText) {m : Manifest}
    (h : (Toml.parse? t.text).bind Manifest.ofDocument? = some m) (f : CheckedField) :
    f.read m = textsIn f.field t.lines := by
  obtain ⟨document, hparse, hdocument⟩ := Option.bind_eq_some_iff.mp h
  rw [parse?_text, Option.bind_eq_some_iff] at hparse
  obtain ⟨entries, hentries, htable⟩ := hparse
  obtain ⟨rfl, hnodup⟩ := of_ofStatements? htable
  have hfields := map_fst_of_mapM_entry? hentries
  have hvalue : Table.value? [(Manifest.tableName, .table .opened entries)] Manifest.tableName
      = some (.table .opened entries) := rfl
  rw [Manifest.ofDocument?] at hdocument
  split at hdocument
  · rw [hvalue, Option.bind_some, Manifest.ofValue?] at hdocument
    split at hdocument
    · next hname =>
        have hread := read_of_foldlM f hentries (hfields ▸ hnodup) hdocument
        split at hread
        · exact hread
        · next habsent =>
            rw [textsIn_eq_nil habsent, hread]
            cases f with
            | name =>
                obtain ⟨entry, hentry, hname⟩ := List.any_eq_true.mp hname
                rw [← hfields] at habsent
                exact absurd (List.mem_map.mpr ⟨entry, hentry, beq_iff_eq.mp hname⟩) habsent
            | ignore => rfl
            | headerBase => rfl
    · cases hdocument
  · cases hdocument

end ManifestText

end LuaBinder
