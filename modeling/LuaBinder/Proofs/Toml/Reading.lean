import Mathlib.Tactic
import LuaBinder.Toml.Document

/-!
Configuration documents with plain strings, and how the reader goes over them.

A string is plain when its text stands between its quotes as it is. No comment stands in what is
read here, so nothing but such a string holds a quote.

* `Spaces`, `EmptyLine`, `Gap`: what stands between the parts of a document; `skipGaps?_gap`.
* `PlainText`: the text of a string without escapes; `takeValue?_text`.
* `TextArray`: an array of such strings; `takeValue?_array`.
* `takePath?_bare`: a name without quotes is read up to the character that ends it.
-/

namespace LuaBinder.Toml

open LuaBinder.Text

/-- Where every element gives something, there is enough fuel for the elements. -/
lemma length_le_length_flatMap {α β : Type} {f : α → List β} {l : List α}
    (h : ∀ a ∈ l, f a ≠ []) : l.length ≤ (l.flatMap f).length := by
  induction l with
  | nil => exact Nat.zero_le _
  | cons a l ih =>
      obtain ⟨ha, hl⟩ := List.forall_mem_cons.mp h
      have hpos := List.length_pos_iff.mpr ha
      have hle := ih hl
      rw [List.flatMap_cons, List.length_append, List.length_cons]
      omega

lemma exists_of_mapM_cons {α β : Type} {f : α → Option β} {a : α} {as : List α} {bs : List β}
    (h : (a :: as).mapM f = some bs) :
    ∃ b rest, f a = some b ∧ as.mapM f = some rest ∧ bs = b :: rest := by
  rw [List.mapM_cons, Option.bind_eq_bind, Option.bind_eq_some_iff] at h
  obtain ⟨b, hb, h⟩ := h
  obtain ⟨rest, hrest, h⟩ := Option.bind_eq_some_iff.mp h
  exact ⟨b, rest, hb, hrest, (Option.some.inj h).symm⟩

/-! ### Layout -/

/-- A space or a part of a line end. -/
def isLayout (c : Char) : Bool := isSpace c || !inLine c

/-- Any number of spaces and tabs. -/
structure Spaces where
  chars : List Char := []
  all_isSpace : chars.all isSpace = true := by decide

lemma Spaces.isSpace (s : Spaces) : ∀ c ∈ s.chars, Toml.isSpace c = true :=
  List.all_eq_true.mp s.all_isSpace

lemma Spaces.isLayout_of_mem (s : Spaces) {c : Char} (h : c ∈ s.chars) : isLayout c = true := by
  rw [isLayout, s.isSpace c h, Bool.true_or]

/-- The end of a line. -/
inductive LineEnd where
  | feed
  | returnFeed

/-- The characters that end a line. -/
def LineEnd.chars : LineEnd → List Char
  | .feed => ['\n']
  | .returnFeed => ['\r', '\n']

/-- A line, or the rest of one, that holds spaces only. -/
structure EmptyLine where
  spaces : Spaces := {}
  ending : LineEnd := .feed

/-- The characters of the line, its end among them. -/
def EmptyLine.chars (l : EmptyLine) : List Char := l.spaces.chars ++ l.ending.chars

lemma EmptyLine.isLayout_of_mem (l : EmptyLine) {c : Char} (h : c ∈ l.chars) :
    isLayout c = true := by
  rcases List.mem_append.mp h with h | h
  · exact l.spaces.isLayout_of_mem h
  · have hending : ∀ e : LineEnd, e.chars.all isLayout = true := by
      rintro (_ | _) <;> rfl
    exact List.all_eq_true.mp (hending l.ending) c h

lemma EmptyLine.chars_ne_nil (l : EmptyLine) : l.chars ≠ [] := by
  rw [EmptyLine.chars, Ne, List.append_eq_nil_iff, not_and]
  cases l.ending <;> simp [LineEnd.chars]

/-- Empty lines, and the spaces in front of what follows them. -/
structure Gap where
  lines : List EmptyLine := []
  indent : Spaces := {}

/-- The characters of the gap. -/
def Gap.chars (g : Gap) : List Char := g.lines.flatMap EmptyLine.chars ++ g.indent.chars

/-- Gaps hold nothing but spaces and line ends. -/
lemma Gap.isLayout_of_mem {g : Gap} {c : Char} (h : c ∈ g.chars) : isLayout c = true := by
  rcases List.mem_append.mp h with h | h
  · obtain ⟨l, -, hc⟩ := List.mem_flatMap.mp h
    exact l.isLayout_of_mem hc
  · exact g.indent.isLayout_of_mem h

lemma mem_or_eq_of_head?_gap {g : Gap} {c d : Char} {rest : List Char}
    (h : c ∈ (g.chars ++ d :: rest).head?) : c ∈ g.chars ∨ c = d := by
  cases hg : g.chars with
  | nil =>
      rw [hg] at h
      exact .inr (Option.some.inj h).symm
  | cons b bs =>
      rw [hg] at h
      exact .inl (Option.some.inj h ▸ List.mem_cons_self)

/-- Neither layout nor the start of a comment: something that is read. -/
def isContent (c : Char) : Bool := !isLayout c && c != '#'

/-- Something that is read starts here, or nothing is left. -/
def Continues (cs : List Char) : Prop := ∀ c ∈ cs.head?, isContent c = true

lemma continues_nil : Continues [] := by simp [Continues]

lemma continues_cons {c : Char} {cs : List Char} : Continues (c :: cs) ↔ isContent c = true := by
  simp [Continues]

variable {rest : List Char}

lemma skipSpaces_append (s : Spaces) (h : ∀ c ∈ rest.head?, isSpace c = false) :
    skipSpaces (s.chars ++ rest) = rest := by
  rw [skipSpaces, List.dropWhile_append_of_pos s.isSpace]
  cases rest with
  | nil => rfl
  | cons c cs => rw [List.dropWhile_cons_of_neg (by simp [h c rfl])]

lemma Continues.skipSpaces_append (h : Continues rest) (s : Spaces) :
    skipSpaces (s.chars ++ rest) = rest := by
  refine LuaBinder.Toml.skipSpaces_append s fun c hc => ?_
  have hcontent := h c hc
  simp only [isContent, isLayout, Bool.and_eq_true, Bool.not_eq_true', Bool.or_eq_false_iff]
    at hcontent
  exact hcontent.1.1

lemma Continues.skipComment?_eq (h : Continues rest) : skipComment? rest = some rest := by
  cases rest with
  | nil => rfl
  | cons c cs =>
      rw [skipComment?]
      rintro tail heq
      rw [continues_cons, (List.cons.inj heq).1] at h
      exact absurd h (by decide)

lemma Continues.lineEnd?_eq (h : Continues rest) : lineEnd? rest = none := by
  cases rest with
  | nil => rfl
  | cons c cs =>
      rw [continues_cons] at h
      rw [lineEnd?]
      · rintro tail heq
        rw [(List.cons.inj heq).1] at h
        exact absurd h (by decide)
      · rintro tail heq
        rw [(List.cons.inj heq).1] at h
        exact absurd h (by decide)

/-- In front of the end of an empty line, there are its spaces and no comment. -/
lemma skipComment?_emptyLine (l : EmptyLine) (rest : List Char) :
    skipComment? (skipSpaces (l.chars ++ rest)) = some (l.ending.chars ++ rest) := by
  rw [EmptyLine.chars, List.append_assoc, skipSpaces_append]
  · cases l.ending <;> rfl
  · cases l.ending <;> simp [LineEnd.chars, isSpace]

lemma lineEnd?_append (e : LineEnd) (rest : List Char) :
    lineEnd? (e.chars ++ rest) = some rest := by
  cases e <;> rfl

/-- The rest of a line is left behind. -/
lemma endLine?_emptyLine (l : EmptyLine) (rest : List Char) :
    endLine? (l.chars ++ rest) = some rest := by
  rw [endLine?, skipComment?_emptyLine]
  cases hending : l.ending with
  | feed => rfl
  | returnFeed => rfl

/-- The last line needs no end. -/
lemma endLine?_spaces (s : Spaces) : endLine? s.chars = some [] := by
  have hskip := continues_nil.skipSpaces_append s
  rw [List.append_nil] at hskip
  rw [endLine?, hskip]
  rfl

lemma skipGapsFrom?_gap (g : Gap) (h : Continues rest) {fuel : Nat}
    (hfuel : g.lines.length < fuel) : skipGapsFrom? fuel (g.chars ++ rest) = some rest := by
  obtain ⟨lines, indent⟩ := g
  induction lines generalizing fuel with
  | nil =>
      obtain ⟨fuel, rfl⟩ := Nat.exists_eq_succ_of_ne_zero (Nat.ne_zero_of_lt hfuel)
      rw [skipGapsFrom?, Gap.chars, List.flatMap_nil, List.nil_append, h.skipSpaces_append,
        h.skipComment?_eq]
      simp only [h.lineEnd?_eq]
  | cons l lines ih =>
      obtain ⟨fuel, rfl⟩ := Nat.exists_eq_succ_of_ne_zero (Nat.ne_zero_of_lt hfuel)
      have hchars : (Gap.mk (l :: lines) indent).chars ++ rest
          = l.chars ++ ((Gap.mk lines indent).chars ++ rest) := by
        simp only [Gap.chars, List.flatMap_cons, List.append_assoc]
      rw [hchars, skipGapsFrom?, skipComment?_emptyLine]
      simp only [lineEnd?_append]
      exact ih (Nat.lt_of_succ_lt_succ hfuel)

/-- A gap is skipped up to what is read next. -/
lemma skipGaps?_gap (g : Gap) (h : Continues rest) : skipGaps? (g.chars ++ rest) = some rest := by
  have hlines : g.lines.length ≤ (g.lines.flatMap EmptyLine.chars).length :=
    length_le_length_flatMap fun l _ => l.chars_ne_nil
  refine skipGapsFrom?_gap g h ?_
  rw [Gap.chars, List.length_append, List.length_append]
  omega

/-! ### Texts -/

/-- The character stands in a string on one line as it is, unless it is a control. -/
def isPlain (c : Char) : Bool := c != '"' && c != '\\' && inLine c

/-- A text that needs no escapes. It may still hold controls, which no string may. -/
structure PlainText where
  chars : List Char
  all_isPlain : chars.all isPlain = true := by decide

namespace PlainText

lemma isPlain (p : PlainText) : ∀ c ∈ p.chars, Toml.isPlain c = true :=
  List.all_eq_true.mp p.all_isPlain

/-- The text. -/
def text (p : PlainText) : String := String.ofList p.chars

/-- The text in quotes. -/
def quoted (p : PlainText) : List Char := '"' :: (p.chars ++ ['"'])

/-- The value of the text in quotes, absent when a control stands in it. -/
def value? (p : PlainText) : Option Value :=
  if p.chars.any isControl then none else some (.string p.text)

lemma quote_not_mem (p : PlainText) : '"' ∉ p.chars := fun h => absurd (p.isPlain _ h) (by decide)

end PlainText

lemma takeBasic?_plain {cs : List Char} (h : ∀ c ∈ cs, isPlain c = true) (rest : List Char)
    {fuel : Nat} (hfuel : cs.length < fuel) :
    takeBasic? fuel (cs ++ '"' :: rest)
      = if cs.any isControl then none else some (cs, rest) := by
  induction cs generalizing fuel with
  | nil =>
      obtain ⟨fuel, rfl⟩ := Nat.exists_eq_succ_of_ne_zero (Nat.ne_zero_of_lt hfuel)
      rfl
  | cons c cs ih =>
      obtain ⟨fuel, rfl⟩ := Nat.exists_eq_succ_of_ne_zero (Nat.ne_zero_of_lt hfuel)
      obtain ⟨hc, hcs⟩ := List.forall_mem_cons.mp h
      simp only [isPlain, Bool.and_eq_true, bne_iff_ne] at hc
      rw [List.cons_append, takeBasic?, if_neg hc.1.1, if_neg hc.1.2,
        ih hcs (Nat.lt_of_succ_lt_succ hfuel), List.any_cons]
      cases isControl c with
      | true => rfl
      | false =>
          cases cs.any isControl with
          | true => rfl
          | false => rfl

/-- A text in quotes is read unless another quote stands behind it. -/
lemma takeString?_plain (p : PlainText) (h : ∀ c ∈ rest.head?, c ≠ '"') :
    takeString? (p.quoted ++ rest)
      = if p.chars.any isControl then none else some (p.chars, rest) := by
  have hchars : p.quoted ++ rest = '"' :: (p.chars ++ '"' :: rest) := by simp [PlainText.quoted]
  have htriple : afterHead? "\"\"\"".toList (p.quoted ++ rest) = none := by
    rw [hchars]
    cases hp : p.chars with
    | nil =>
        cases rest with
        | nil => rfl
        | cons c cs => simp [afterHead?, Ne.symm (h c rfl)]
    | cons c cs =>
        have hc : c ≠ '"' := fun heq => p.quote_not_mem (by simp [hp, heq])
        simp [afterHead?, Ne.symm hc]
  have hsingle : afterHead? "'''".toList (p.quoted ++ rest) = none := by rw [hchars]; rfl
  simp only [takeString?, htriple, hsingle]
  rw [hchars, takeShort?, takeBasic?_plain p.isPlain]
  simp only [List.length_append]
  omega

/-- The value of a text in quotes is read at any depth. -/
lemma takeValue?_text (p : PlainText) (h : ∀ c ∈ rest.head?, c ≠ '"') (depth : Nat) :
    takeValue? depth (p.quoted ++ rest) = p.value?.map (·, rest) := by
  have hchars : p.quoted ++ rest = '"' :: (p.chars ++ '"' :: rest) := by simp [PlainText.quoted]
  have htake := takeString?_plain p h
  rw [hchars] at htake ⊢
  rw [takeValue?]
  · simp only [List.head?_cons, htake, PlainText.value?]
    split <;> rfl
  · simp
  · simp

/-! ### Arrays -/

/-- A text in an array, with the gaps around it. -/
structure TextItem where
  before : Gap := {}
  text : PlainText
  behind : Gap := {}

/-- The characters of the item. -/
def TextItem.chars (i : TextItem) : List Char := i.before.chars ++ i.text.quoted ++ i.behind.chars

/-- An array of texts: the items with a comma behind them, and the last one without a comma or the
gap that is left. -/
structure TextArray where
  items : List TextItem := []
  last : TextItem ⊕ Gap

namespace TextArray

/-- The texts of the array. -/
def texts (a : TextArray) : List PlainText :=
  a.items.map TextItem.text ++ a.last.elim (fun i => [i.text]) fun _ => []

/-- The characters behind the opening bracket. -/
def inner (a : TextArray) : List Char :=
  a.items.flatMap (fun i => i.chars ++ [',']) ++ a.last.elim TextItem.chars Gap.chars ++ [']']

/-- The characters of the array. -/
def chars (a : TextArray) : List Char := '[' :: a.inner

/-- The value of the array, absent when a control stands in one of its texts. -/
def value? (a : TextArray) : Option Value := (a.texts.mapM PlainText.value?).map .array

end TextArray

/-- An item is read up to the comma or the closing bracket behind it. -/
lemma takeItems?_item (i : TextItem) {d : Char} (hd : d = ',' ∨ d = ']') (depth fuel : Nat)
    (rest : List Char) :
    takeItems? (takeValue? depth) ']' (fuel + 1) (i.chars ++ d :: rest)
      = i.text.value?.bind fun value =>
          if d = ',' then
            (takeItems? (takeValue? depth) ']' fuel rest).map fun (values, rest) =>
              (value :: values, rest)
          else some ([value], rest) := by
  have hbehind : skipGaps? (i.behind.chars ++ d :: rest) = some (d :: rest) :=
    skipGaps?_gap i.behind (by rcases hd with rfl | rfl <;> exact continues_cons.mpr rfl)
  have hnext : ∀ c ∈ (i.behind.chars ++ d :: rest).head?, c ≠ '"' := by
    intro c hc
    rcases mem_or_eq_of_head?_gap hc with hc | rfl
    · rintro rfl
      exact absurd (Gap.isLayout_of_mem hc) (by decide)
    · rcases hd with rfl | rfl <;> decide
  have hvalue := takeValue?_text i.text hnext depth
  have hquote : i.text.quoted ++ (i.behind.chars ++ d :: rest)
      = '"' :: (i.text.chars ++ ['"'] ++ (i.behind.chars ++ d :: rest)) := rfl
  rw [hquote] at hvalue
  rw [takeItems?, TextItem.chars, List.append_assoc, List.append_assoc,
    skipGaps?_gap i.before (by rw [hquote, continues_cons]; rfl), hquote]
  simp only [hvalue]
  cases i.text.value? with
  | none => rfl
  | some value =>
      rcases hd with rfl | rfl
      · simp [hbehind]
      · simp [hbehind]

/-- The items of an array are read up to its closing bracket. -/
lemma takeItems?_array (a : TextArray) (depth : Nat) (rest : List Char) {fuel : Nat}
    (hfuel : a.items.length < fuel) :
    takeItems? (takeValue? depth) ']' fuel (a.inner ++ rest)
      = (a.texts.mapM PlainText.value?).map (·, rest) := by
  obtain ⟨items, last⟩ := a
  induction items generalizing fuel with
  | nil =>
      obtain ⟨fuel, rfl⟩ := Nat.exists_eq_succ_of_ne_zero (Nat.ne_zero_of_lt hfuel)
      cases last with
      | inl i =>
          have hitem := takeItems?_item i (.inr rfl) depth fuel rest
          simp only [TextArray.inner, TextArray.texts, Sum.elim_inl, List.flatMap_nil,
            List.nil_append, List.append_assoc, List.map_nil, List.cons_append]
          rw [hitem, List.mapM_cons, List.mapM_nil]
          cases i.text.value? with
          | none => rfl
          | some value => rfl
      | inr g =>
          have hgap : skipGaps? (g.chars ++ ']' :: rest) = some (']' :: rest) :=
            skipGaps?_gap g (continues_cons.mpr rfl)
          simp only [TextArray.inner, TextArray.texts, Sum.elim_inr, List.flatMap_nil,
            List.nil_append, List.append_assoc, List.map_nil, List.cons_append]
          rw [takeItems?, hgap]
          rfl
  | cons i items ih =>
      obtain ⟨fuel, rfl⟩ := Nat.exists_eq_succ_of_ne_zero (Nat.ne_zero_of_lt hfuel)
      have hinner : (TextArray.mk (i :: items) last).inner ++ rest
          = i.chars ++ ',' :: ((TextArray.mk items last).inner ++ rest) := by
        simp [TextArray.inner]
      have htexts : (TextArray.mk (i :: items) last).texts
          = i.text :: (TextArray.mk items last).texts := rfl
      rw [hinner, htexts, takeItems?_item i (.inl rfl), ih (Nat.lt_of_succ_lt_succ hfuel),
        List.mapM_cons]
      cases i.text.value? with
      | none => rfl
      | some value => cases (TextArray.mk items last).texts.mapM PlainText.value? <;> rfl

/-- The value of an array of texts is read above the deepest level. -/
lemma takeValue?_array (a : TextArray) (depth : Nat) (rest : List Char) :
    takeValue? (depth + 1) (a.chars ++ rest) = a.value?.map (·, rest) := by
  have hitems : a.items.length ≤ (a.items.flatMap fun i => i.chars ++ [',']).length :=
    length_le_length_flatMap fun i _ => by simp
  have hfuel : a.items.length < (a.inner ++ rest).length + 1 := by
    rw [TextArray.inner, List.length_append, List.length_append, List.length_append]
    omega
  rw [TextArray.chars, List.cons_append, takeValue?, takeItems?_array a depth rest hfuel,
    TextArray.value?]
  cases a.texts.mapM PlainText.value? <;> rfl

/-! ### Keys -/

lemma isBare_of_isSpace {c : Char} (h : isSpace c = true) : isBare c = false := by
  rw [isSpace, Bool.or_eq_true, beq_iff_eq, beq_iff_eq] at h
  rcases h with rfl | rfl <;> decide

/-- Behind a name without quotes, there are spaces or the character that ends it. -/
lemma takeName?_bare {name : List Char} (hname : name ≠ []) (hbare : ∀ c ∈ name, isBare c = true)
    (behind : Spaces) {d : Char} (hd : isBare d = false) (rest : List Char) :
    takeName? (name ++ (behind.chars ++ d :: rest))
      = some (String.ofList name, behind.chars ++ d :: rest) := by
  have hstop : ∃ c cs, behind.chars ++ d :: rest = c :: cs ∧ isBare c = false := by
    cases hbehind : behind.chars with
    | nil => exact ⟨d, rest, rfl, hd⟩
    | cons c cs =>
        have hc := behind.isSpace c (hbehind ▸ List.mem_cons_self)
        exact ⟨c, cs ++ d :: rest, rfl, isBare_of_isSpace hc⟩
  obtain ⟨c, cs, hcs, hc⟩ := hstop
  rw [hcs, takeName?, List.takeWhile_append_of_pos hbare, List.dropWhile_append_of_pos hbare,
    List.takeWhile_cons_of_neg (by simp [hc]), List.dropWhile_cons_of_neg (by simp [hc]),
    List.append_nil]
  simp [hname]

/-- A name without quotes and the spaces around it are read up to the character that ends them. -/
lemma takePath?_bare {name : List Char} (hname : name ≠ []) (hbare : ∀ c ∈ name, isBare c = true)
    (before behind : Spaces) {d : Char} (hd : d = '=' ∨ d = ']') (rest : List Char) :
    takePath? (before.chars ++ (name ++ (behind.chars ++ d :: rest)))
      = some ([String.ofList name], d :: rest) := by
  have hbefore : skipSpaces (before.chars ++ (name ++ (behind.chars ++ d :: rest)))
      = name ++ (behind.chars ++ d :: rest) := by
    refine skipSpaces_append before fun c hc => ?_
    obtain ⟨first, tail, rfl⟩ := List.exists_cons_of_ne_nil hname
    obtain rfl : first = c := Option.some.inj hc
    by_contra hspace
    rw [Bool.not_eq_false] at hspace
    exact absurd (isBare_of_isSpace hspace) (by simp [hbare first List.mem_cons_self])
  have hbehind : skipSpaces (behind.chars ++ d :: rest) = d :: rest :=
    Continues.skipSpaces_append (by rcases hd with rfl | rfl <;> exact continues_cons.mpr rfl) _
  have hstop : isBare d = false := by rcases hd with rfl | rfl <;> rfl
  have htake := takeName?_bare hname hbare behind hstop rest
  rw [takePath?, takeNames?, hbefore, htake]
  simp only [hbehind]
  rcases hd with rfl | rfl <;> rfl

end LuaBinder.Toml
