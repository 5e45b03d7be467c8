import LuaBinder.Proofs.Manifest.Strings
import LuaBinder.Proofs.Text.Places

/-!
Where the labels of a rejected manifest are.

A manifest is checked after its text was read, so the place of a value that is rejected is searched
again: it is the first place where two quotes enclose what the value reads. That is another place
when a value of another setting reads the same, or when the layout between two strings does.

* `ManifestError.rejects`: whether an error is about a string; `find?_rejects`: it is about one.
* `findSpan?_eq_iff`: when a search finds the string that is meant.
* `label_at_rejected_iff`: when the label of an error is at the value that it rejects.
-/

namespace LuaBinder

open Text Toml

/-! ### Rejected strings -/

namespace ManifestError

/-- The error is about this string if about none in front of it. -/
def rejects (e : ManifestError) (w : WrittenText) : Bool :=
  match e with
  | .badName _ _ _ _ => w.field == CheckedField.name.field
  | .emptyIgnore _ _ => w.field == CheckedField.ignore.field && Manifest.namesNothing w.text
  | .emptyHeaderBase _ => w.field == CheckedField.headerBase.field
  | .unreadable _ | .malformed => false

/-- The text whose place is searched for the label. -/
def searched : ManifestError → String
  | .badName _ _ name _ => name
  | .emptyIgnore entry _ => entry
  | .emptyHeaderBase _ | .unreadable _ | .malformed => ""

end ManifestError

lemma exists_find?_of_map_filter {p : WrittenText → Bool} {strings : List WrittenText}
    {text : String} {texts : List String}
    (h : (strings.filter p).map WrittenText.text = text :: texts) :
    ∃ w, strings.find? p = some w ∧ w.text = text := by
  obtain ⟨w, rest, hfilter, hw, -⟩ := List.map_eq_cons_iff.mp h
  refine ⟨w, ?_, hw⟩
  rw [← List.head?_filter, hfilter]
  rfl

/-- What a check complains about: the name, the first entry to ignore that names nothing, or the
base directory. -/
lemma of_check_eq_error {source : String} {m : Manifest} {e : ManifestError}
    (h : Manifest.check source m = .error e) :
    (∃ fault, e = .badName fault "namespace name" m.name (findSpan? source m.name))
      ∨ (∃ entry, m.ignore.find? Manifest.namesNothing = some entry
        ∧ e = .emptyIgnore entry (findSpan? source entry))
      ∨ ∃ base, m.headerBase = some base ∧ e = .emptyHeaderBase (findSpan? source "") := by
  rw [Manifest.check, checkName] at h
  cases hfault : nameFault? m.name with
  | some fault =>
      rw [hfault] at h
      cases h
      exact .inl ⟨fault, rfl⟩
  | none =>
      simp only [hfault, bind, Except.bind] at h
      cases hentry : m.ignore.find? Manifest.namesNothing with
      | some entry =>
          simp only [hentry] at h
          cases h
          exact .inr (.inl ⟨entry, rfl, rfl⟩)
      | none =>
          simp only [hentry] at h
          split at h
          · next hblank =>
              cases h
              cases hbase : m.headerBase with
              | none => simp [hbase] at hblank
              | some base => exact .inr (.inr ⟨base, rfl, rfl⟩)
          · cases h

/-- The string that an error is about stands in the document, and its text is what is searched,
unless it is the base directory. -/
lemma find?_rejects (t : ManifestText) {m : Manifest} {e : ManifestError}
    (hread : ∀ f : CheckedField, f.read m = ManifestText.textsIn f.field t.lines)
    (h : Manifest.check t.text m = .error e) :
    e.span? = findSpan? t.text e.searched
      ∧ ∃ w, t.strings.find? e.rejects = some w
        ∧ (e.searched = w.text ∨ w.field = CheckedField.headerBase.field ∧ e.searched = "") := by
  have htexts : ∀ f : CheckedField,
      (t.strings.filter (·.field == f.field)).map WrittenText.text = f.read m :=
    fun f => (t.texts_filter_strings f.field).trans (hread f).symm
  rcases of_check_eq_error h with ⟨fault, rfl⟩ | ⟨entry, hentry, rfl⟩ | ⟨base, hbase, rfl⟩
  · obtain ⟨w, hw, htext⟩ := exists_find?_of_map_filter (htexts .name)
    exact ⟨rfl, w, hw, .inl htext.symm⟩
  · have hignore := htexts .ignore
    rw [CheckedField.read] at hignore
    rw [← hignore, List.find?_map, List.find?_filter] at hentry
    obtain ⟨w, hw, htext⟩ := Option.map_eq_some_iff.mp hentry
    refine ⟨rfl, w, ?_, .inl htext.symm⟩
    rw [← hw]
    congr 1
    funext p
    rw [ManifestError.rejects, Bool.decide_and, Bool.decide_eq_true, Bool.decide_eq_true]
    rfl
  · have hheader := htexts .headerBase
    rw [CheckedField.read, hbase] at hheader
    obtain ⟨w, hw, -⟩ := exists_find?_of_map_filter hheader
    have hfield := List.find?_some hw
    exact ⟨rfl, w, hw, .inr ⟨beq_iff_eq.mp hfield, rfl⟩⟩

/-! ### Places -/

variable {front : List WrittenText} {w : WrittenText}

/-- Between the quotes in front of a text stand the strings in front, and what separates them. -/
lemma pieces_front (hleads : ∀ p ∈ front ++ [w], '"' ∉ p.lead) {v : List Char} (hv : '"' ∉ v) :
    pieces (· == '"') (front.flatMap WrittenText.chars ++ w.lead ++ '"' :: v)
      = front.flatMap (fun p => [p.lead, p.value.chars]) ++ [w.lead, v] := by
  induction front with
  | nil =>
      have hlead := hleads w List.mem_cons_self
      rw [List.flatMap_nil, List.nil_append, pieces_append_cons (by rfl), pieces_of_not_mem hlead,
        pieces_of_not_mem hv]
      rfl
  | cons p front ih =>
      obtain ⟨hlead, hrest⟩ := List.forall_mem_cons.mp hleads
      have hchars : (p :: front).flatMap WrittenText.chars ++ w.lead ++ '"' :: v
          = p.lead ++ '"' :: (p.value.chars ++ '"'
              :: (front.flatMap WrittenText.chars ++ w.lead ++ '"' :: v)) := by
        simp [WrittenText.chars, PlainText.quoted, List.append_assoc]
      rw [hchars, pieces_append_cons (by rfl), pieces_append_cons (by rfl), ih hrest,
        pieces_of_not_mem hlead, pieces_of_not_mem p.value.quote_not_mem]
      rfl

/-- A text stands in quotes in front of a string exactly when it is the text of an earlier one, or
what separates two of them. -/
lemma infix_front_iff (hleads : ∀ p ∈ front ++ [w], '"' ∉ p.lead) {v : List Char} (hv : '"' ∉ v) :
    '"' :: v ++ ['"'] <:+: front.flatMap WrittenText.chars ++ w.lead ++ '"' :: v
      ↔ (∃ p ∈ front, p.value.chars = v) ∨ ∃ p ∈ (front ++ [w]).tail, p.lead = v := by
  rw [infix_marked_iff hv, pieces_front hleads hv]
  cases front with
  | nil => simp
  | cons p front =>
      have hinner : (((p :: front).flatMap fun p => [p.lead, p.value.chars])
            ++ [w.lead, v]).tail.dropLast
          = p.value.chars :: (front.flatMap (fun p => [p.lead, p.value.chars]) ++ [w.lead]) := by
        rw [List.append_cons]
        exact List.dropLast_concat
      rw [hinner, List.cons_append, List.tail_cons]
      simp only [List.mem_cons, List.mem_append, List.mem_flatMap, List.not_mem_nil, or_false,
        exists_eq_or_imp]
      grind

/-- A text is first found in quotes where a string is written exactly when the string has the text,
and it does not stand in quotes in front. -/
lemma exists_splitFirst?_iff (hleads : ∀ p ∈ front ++ [w], '"' ∉ p.lead) {v : List Char}
    (hv : '"' ∉ v) (tail : List Char) :
    (∃ rest, splitFirst? ('"' :: v ++ ['"'])
        (front.flatMap WrittenText.chars ++ w.lead ++ (w.value.quoted ++ tail))
          = some (front.flatMap WrittenText.chars ++ w.lead, rest))
      ↔ w.value.chars = v ∧ (∀ p ∈ front, p.value.chars ≠ v)
        ∧ ∀ p ∈ (front ++ [w]).tail, p.lead ≠ v := by
  have hdrop : ('"' :: v ++ ['"']).dropLast = '"' :: v := List.dropLast_concat
  have hhere : (∃ rest, front.flatMap WrittenText.chars ++ w.lead ++ (w.value.quoted ++ tail)
        = front.flatMap WrittenText.chars ++ w.lead ++ ('"' :: v ++ ['"']) ++ rest)
      ↔ w.value.chars = v := by
    constructor
    · rintro ⟨rest, heq⟩
      rw [List.append_assoc _ _ rest] at heq
      have hbehind := List.append_cancel_left heq
      exact (append_cons_inj w.value.quote_not_mem hv
        (by simpa [PlainText.quoted] using hbehind)).1
    · rintro rfl
      exact ⟨tail, by simp [PlainText.quoted]⟩
  have hfirst := not_congr (infix_front_iff hleads hv)
  simp only [not_or, not_exists, not_and] at hfirst
  simp only [splitFirst?_eq_some_iff (by simp : '"' :: v ++ ['"'] ≠ []), hdrop, hfirst,
    exists_and_right, hhere, Ne]

/-- **What a search finds**: when the text of a string is searched, or the empty one, this string is
found exactly when it has the text that is searched, no string in front has it, and nothing that
separates two strings so far reads like it. -/
lemma findSpan?_eq_iff {source value : String} {tail : List Char} {span : Span}
    (hsource : source.toList
      = front.flatMap WrittenText.chars ++ w.lead ++ (w.value.quoted ++ tail))
    (hleads : ∀ p ∈ front ++ [w], '"' ∉ p.lead) (hvalue : value = w.text ∨ value = "")
    (h : findSpan? source value = some span) :
    span = w.place front ↔ value = w.text ∧ (∀ p ∈ front, p.text ≠ value)
      ∧ ∀ p ∈ (front ++ [w]).tail, p.lead ≠ value.toList := by
  have hquote : '"' ∉ value.toList := by
    rcases hvalue with htext | rfl
    · rw [← WrittenText.text_eq_iff.mp htext.symm]
      exact w.value.quote_not_mem
    · exact List.not_mem_nil
  have hfound := exists_splitFirst?_iff hleads hquote tail
  simp only [Ne, ← WrittenText.text_eq_iff, ← hsource] at hfound
  rw [eq_comm (a := value), ← hfound]
  rw [findSpan?] at h
  cases hsplit : splitFirst? ('"' :: value.toList ++ ['"']) source.toList with
  | some cut =>
      obtain ⟨before, rest⟩ := cut
      simp only [hsplit] at h
      obtain rfl := Option.some.inj h
      constructor
      · intro hplace
        have hbefore : before <+: source.toList := by
          rw [eq_of_splitFirst? hsplit, List.append_assoc]
          exact List.prefix_append _ _
        have heq := eq_of_byteCount_eq hbefore ⟨_, hsource.symm⟩
          (Nat.succ_injective (Span.mk.inj hplace).1)
        exact ⟨rest, by rw [heq]⟩
      · rintro ⟨rest', heq⟩
        obtain ⟨htext, -⟩ := hfound.mp ⟨rest', hsplit.trans heq⟩
        obtain ⟨rfl, -⟩ := Prod.mk.inj (Option.some.inj heq)
        rw [WrittenText.place, WrittenText.text_eq_iff.mp htext]
  | none =>
      simp only [hsplit] at h
      rcases hvalue with htext | rfl
      · refine absurd ?_ (splitFirst?_eq_none_iff.mp hsplit)
        rw [hsource, ← WrittenText.text_eq_iff.mp htext.symm]
        exact ⟨_, tail, List.append_assoc _ w.value.quoted tail⟩
      · cases h

/-! ### Labels -/

lemma check_of_parse {source : String} {m : Manifest} {e : ManifestError}
    (hm : (Toml.parse? source).bind Manifest.ofDocument? = some m)
    (h : Manifest.parse source = .error e) : Manifest.check source m = .error e := by
  rw [Manifest.parse] at h
  simp only [hm] at h
  cases hcheck : Manifest.check source m with
  | error e' =>
      rw [hcheck] at h
      cases h
      rfl
  | ok _ =>
      rw [hcheck] at h
      cases h

/-- **When a label is at the rejected value**: a manifest that is rejected with a label has a string
that the error is about, and its place is the stretch between its quotes. The label is at this place
exactly when the text of the string is the one that is searched, no string in front has this text,
and nothing that separates two strings so far reads like it. The right text is searched for all but
the base directory, for which the empty one is searched whatever it holds. -/
theorem label_at_rejected_iff (t : ManifestText) {e : ManifestError} {span : Span}
    (h : Manifest.parse t.text = .error e) (hspan : e.span? = some span) :
    ∃ front w back, t.strings = front ++ w :: back
      ∧ e.rejects w = true ∧ (∀ p ∈ front, e.rejects p = false)
      ∧ (∃ before behind, t.text.toList = before ++ '"' :: (w.value.chars ++ '"' :: behind)
          ∧ w.place front
            = { offset := byteCount before + 1, length := byteCount w.value.chars })
      ∧ (e.searched = w.text ∨ w.field = CheckedField.headerBase.field ∧ e.searched = "")
      ∧ (span = w.place front ↔ e.searched = w.text ∧ (∀ p ∈ front, p.text ≠ e.searched)
          ∧ ∀ p ∈ (front ++ [w]).tail, p.lead ≠ e.searched.toList) := by
  cases hparse : (Toml.parse? t.text).bind Manifest.ofDocument? with
  | none =>
      rw [Manifest.parse, hparse] at h
      cases h
      cases hspan
  | some m =>
      obtain ⟨hsearch, w, hw, hsearched⟩ :=
        find?_rejects t (t.read_of_parse hparse) (check_of_parse hparse h)
      obtain ⟨hrejects, front, back, hstrings, hfront⟩ := List.find?_eq_some_iff_append.mp hw
      obtain ⟨tail, hchars⟩ := t.exists_tail_strings
      have hsource : t.text.toList = front.flatMap WrittenText.chars ++ w.lead
          ++ (w.value.quoted ++ (back.flatMap WrittenText.chars ++ tail)) := by
        rw [ManifestText.text, String.toList_ofList, hchars, hstrings]
        simp [WrittenText.chars, List.append_assoc]
      have hleads : ∀ p ∈ front ++ [w], '"' ∉ p.lead := by
        intro p hp
        refine t.quote_not_mem_lead p ?_
        rw [hstrings, List.append_cons]
        exact List.mem_append_left _ hp
      refine ⟨front, w, back, hstrings, hrejects, fun p hp => by simpa using hfront p hp, ?_,
        hsearched, ?_⟩
      · refine ⟨front.flatMap WrittenText.chars ++ w.lead, back.flatMap WrittenText.chars ++ tail,
          ?_, rfl⟩
        rw [hsource, PlainText.quoted]
        simp
      · exact findSpan?_eq_iff hsource hleads (hsearched.imp_right And.right) (hsearch ▸ hspan)

/-- A manifest with a reserved word for a name, behind a directory with letters of two bytes and
behind members to ignore. -/
def reservedName : ManifestText where
  lines := [
    { setting := { field := "output", content := .inl { chars := "gebäude".toList } } },
    { setting := { field := "ignore", content := .inr {
        items := [{ text := { chars := "Image::copy".toList } }]
        last := .inl { before := { indent := { chars := [' '] } }
                       text := { chars := "classes".toList } } } } },
    { setting := { field := "name", content := .inl { chars := "class".toList } } }]

/-- The name of that manifest is labelled where it stands: nothing else reads like it. -/
theorem label_at_reserved_name :
    Manifest.parse reservedName.text
        = .error (.badName .reserved "namespace name" "class" (some ⟨75, 5⟩))
      ∧ ∃ front w back, reservedName.strings = front ++ w :: back ∧ w.field = "name"
        ∧ w.place front = ⟨75, 5⟩ := by
  have hparse : Manifest.parse reservedName.text
      = .error (.badName .reserved "namespace name" "class" (some ⟨75, 5⟩)) := rfl
  have htexts : ∀ p ∈ reservedName.strings, p.text = "class" → p.field = "name" := by
    decide +kernel
  have hleads : ∀ p ∈ reservedName.strings, p.lead ≠ "class".toList := by decide +kernel
  obtain ⟨front, w, back, hstrings, hrejects, hfirst, -, hsearched, hiff⟩ :=
    label_at_rejected_iff reservedName hparse rfl
  have hname : w.field = "name" := beq_iff_eq.mp hrejects
  have hmem : ∀ p ∈ front ++ [w], p ∈ reservedName.strings := by
    intro p hp
    rw [hstrings, List.append_cons]
    exact List.mem_append_left _ hp
  refine ⟨hparse, front, w, back, hstrings, hname, (hiff.mpr ⟨?_, ?_, ?_⟩).symm⟩
  · refine hsearched.resolve_right fun ⟨hbase, _⟩ => ?_
    exact absurd (hname.symm.trans hbase) (by decide)
  · intro p hp htext
    have hother := hfirst p hp
    rw [ManifestError.rejects, beq_eq_false_iff_ne] at hother
    exact hother (htexts p (hmem p (List.mem_append_left _ hp)) htext)
  · exact fun p hp => hleads p (hmem p (List.mem_of_mem_tail hp))

/-- A manifest whose input and name read the same. -/
def sharedText : ManifestText where
  lines := [
    { setting := { field := "input", content := .inl { chars := "class".toList } } },
    { setting := { field := "name", content := .inl { chars := "class".toList } } }]

/-- The label of the name is at the input. -/
theorem label_at_other_setting :
    sharedText.text = "[bindings]\ninput = \"class\"\nname = \"class\"\n"
      ∧ Manifest.parse sharedText.text
        = .error (.badName .reserved "namespace name" "class" (some ⟨20, 5⟩))
      ∧ ∃ input name, sharedText.strings = [input, name]
        ∧ input.field = "input" ∧ input.place [] = ⟨20, 5⟩
        ∧ name.field = "name" ∧ name.place [input] = ⟨35, 5⟩ :=
  ⟨by decide +kernel, rfl, _, _, rfl, rfl, rfl, rfl, rfl⟩

end LuaBinder
