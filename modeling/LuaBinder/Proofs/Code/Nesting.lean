import LuaBinder.Proofs.Code.Scopes
import LuaBinder.Proofs.Text.Characters

/-!
Braces and indentation of code.

* `openBraces`, `depthAt`: the braces that are open behind some characters, and those around a line.
* `Nested`, `Indented`: code that opens and closes its braces in one piece, and that is indented by
  its braces.
* `RowStep`, `Walk`: rows that stand at the level of the braces around them.
* `walk_statementRows`: so do the rows of statements, if no line holds a brace or a line break.
* `nested_scope`, `indented_iff_flush`: hence a scope is nested, and it is indented exactly when no
  row starts with a blank.
-/

namespace LuaBinder.Code

open Text

/-! ### Braces -/

/-- How many braces the characters open, less those that they close. -/
def openBraces (cs : List Char) : Int := cs.count '\x7b' - cs.count '\x7d'

/-- Number of blanks that a line starts with. -/
def indentWidth (line : String) : Nat := (line.toList.takeWhile (· == ' ')).length

/-- Behind its blanks the line starts with a closing brace. -/
def closesFirst (line : String) : Bool := (line.toList.dropWhile (· == ' ')).head? == some '\x7d'

/-- How many braces are open around a line behind other lines. A line that starts with a closing
brace stands outside of what it closes. -/
def depthAt (front : List String) (line : String) : Int :=
  openBraces (front.flatMap String.toList) - if closesFirst line then 1 else 0

/-- The code opens a brace in its first line and closes it in the last one, and in between every
brace is closed behind where it was opened. Lines are indented by two blanks at least for every
brace around them. -/
structure Nested (code : String) : Prop where
  balanced : openBraces code.toList = 0
  covered : ∀ cs, cs <+: code.toList → 0 ≤ openBraces cs
  inside : ∀ front line back, lines code = front ++ line :: back → front ≠ [] →
    0 < openBraces (front.flatMap String.toList)
  indented : ∀ front line back, lines code = front ++ line :: back →
    2 * depthAt front line ≤ indentWidth line

/-- Every line is indented by two blanks for every brace around it. -/
def Indented (code : String) : Prop :=
  ∀ front line back, lines code = front ++ line :: back →
    (indentWidth line : Int) = 2 * depthAt front line

lemma openBraces_append (cs ds : List Char) :
    openBraces (cs ++ ds) = openBraces cs + openBraces ds := by
  simp only [openBraces, List.count_append]
  omega

/-- A prefix closes no more braces than there are. -/
lemma neg_count_le_openBraces {cs ds : List Char} (h : cs <+: ds) :
    -(ds.count '\x7d' : Int) ≤ openBraces cs := by
  have hle := h.sublist.count_le '\x7d'
  rw [openBraces]
  omega

/-- A prefix of two lists is one of the first, or goes on into the second. -/
lemma prefix_append_cases {cs ds es : List Char} (h : cs <+: ds ++ es) :
    cs <+: ds ∨ ∃ fs, fs <+: es ∧ cs = ds ++ fs := by
  obtain ⟨rest, hrest⟩ := h
  rcases List.append_eq_append_iff.mp hrest with ⟨bs, hds, -⟩ | ⟨bs, hcs, hes⟩
  · exact .inl ⟨bs, hds.symm⟩
  · exact .inr ⟨bs, ⟨rest, hes.symm⟩, hcs⟩

/-! ### Rows at the level of their braces -/

/-- A character that is no brace and ends no line. -/
def isInert (c : Char) : Bool := c != '\x7b' && c != '\x7d' && staysOnLine c

lemma admits_isInert : Admits isInert := by
  intro c hc
  rw [isInert, admits_staysOnLine c hc, Bool.and_true, Bool.and_eq_true, bne_iff_ne, bne_iff_ne]
  constructor <;> (rintro rfl; exact absurd hc (by decide))

/-- A row that is met with some open braces and leaves others open. It stands at the level of the
braces around it, and it closes no brace below a floor. -/
inductive RowStep (floor : Nat) : Nat → CodeRow → Nat → Prop where
  | plain {d : Nat} {text : String} (h : Consists isInert text) : RowStep floor d ⟨d, text⟩ d
  | opening {d : Nat} {text : String} (h : Consists isInert text) :
    RowStep floor d ⟨d, text ++ " \x7b"⟩ (d + 1)
  | turning {d : Nat} {text : String} (h : Consists isInert text) (hfloor : floor ≤ d) :
    RowStep floor (d + 1) ⟨d, "\x7d " ++ text ++ " \x7b"⟩ (d + 1)
  | closing {d : Nat} (hfloor : floor ≤ d) : RowStep floor (d + 1) ⟨d, "\x7d"⟩ d

/-- Such rows one behind the other. -/
inductive Walk (floor : Nat) : Nat → List CodeRow → Nat → Prop where
  | nil {d : Nat} : Walk floor d [] d
  | cons {c d e : Nat} {r : CodeRow} {rows : List CodeRow} (h : RowStep floor c r d)
    (hs : Walk floor d rows e) : Walk floor c (r :: rows) e

section RowStep

variable {floor c d : Nat} {r : CodeRow}

/-- The blanks in front of a row. -/
lemma toList_indentation (level : Nat) :
    (indentation .spaces level).toList = List.replicate (2 * level) ' ' := by
  induction level with
  | zero => rfl
  | succ level ih =>
      have hunit : (IndentStyle.unit .spaces).toList = [' ', ' '] := rfl
      rw [indentation, List.replicate_succ, String.join_cons, String.toList_append, hunit,
        ← indentation, ih, Nat.mul_succ]
      rfl

lemma toList_line (r : CodeRow) :
    (r.line .spaces).toList = List.replicate (2 * r.level) ' ' ++ r.text.toList := by
  rw [CodeRow.line, String.toList_append, toList_indentation]

lemma count_line (r : CodeRow) {b : Char} (hb : b ≠ ' ') :
    (r.line .spaces).toList.count b = r.text.toList.count b := by
  have hblanks : b ∉ List.replicate (2 * r.level) ' ' := fun h => hb (List.eq_of_mem_replicate h)
  rw [toList_line, List.count_append, List.count_eq_zero_of_not_mem hblanks, Nat.zero_add]

lemma count_of_inert {text : String} (h : Consists isInert text) :
    text.toList.count '\x7b' = 0 ∧ text.toList.count '\x7d' = 0 :=
  ⟨List.count_eq_zero_of_not_mem (h.not_mem (by decide)),
    List.count_eq_zero_of_not_mem (h.not_mem (by decide))⟩

/-- What a row does to the open braces, and how many it closes. -/
lemma RowStep.count (h : RowStep floor c r d) (hc : floor ≤ c) :
    openBraces (r.line .spaces).toList = (d : Int) - c
      ∧ floor + (r.line .spaces).toList.count '\x7d' ≤ c ∧ floor ≤ d := by
  rw [openBraces, count_line r (by decide), count_line r (by decide)]
  cases h with
  | plain h =>
      obtain ⟨hopen, hclose⟩ := count_of_inert h
      simp only [hopen, hclose]
      omega
  | opening h =>
      obtain ⟨hopen, hclose⟩ := count_of_inert h
      simp only [String.toList_append, List.count_append, hopen, hclose]
      simp
      omega
  | turning h hfloor =>
      obtain ⟨hopen, hclose⟩ := count_of_inert h
      simp only [String.toList_append, List.count_append, hopen, hclose]
      simp
      omega
  | closing hfloor =>
      simp
      omega

lemma closesFirst_of_inert {text : String} (h : Consists isInert text) (more : String)
    (hmore : closesFirst more = false) : closesFirst (text ++ more) = false := by
  rw [closesFirst, String.toList_append]
  rw [closesFirst, beq_eq_false_iff_ne] at *
  cases hdrop : text.toList.dropWhile (· == ' ') with
  | nil => rwa [List.dropWhile_append, hdrop, List.isEmpty_nil, if_pos rfl]
  | cons x xs =>
      have hx : x ∈ text.toList := (List.dropWhile_sublist _).subset (hdrop ▸ List.mem_cons_self)
      rw [List.dropWhile_append, hdrop, List.isEmpty_cons, if_neg Bool.false_ne_true,
        List.cons_append, List.head?_cons, ne_eq, Option.some_inj]
      rintro rfl
      exact h.not_mem (by decide) hx

/-- A row starts behind its indentation. -/
lemma closesFirst_line (r : CodeRow) : closesFirst (r.line .spaces) = closesFirst r.text := by
  rw [closesFirst, toList_line, List.dropWhile_append_of_pos (by simp), closesFirst]

lemma indentWidth_line (r : CodeRow) :
    indentWidth (r.line .spaces) = 2 * r.level + indentWidth r.text := by
  rw [indentWidth, toList_line, List.takeWhile_append_of_pos (by simp), List.length_append,
    List.length_replicate, indentWidth]

/-- A row stands at the level of the braces around it. -/
lemma RowStep.level_eq (h : RowStep floor c r d) :
    (r.level : Int) = c - if closesFirst (r.line .spaces) then 1 else 0 := by
  rw [closesFirst_line]
  cases h with
  | plain h =>
      have hclose := closesFirst_of_inert h "" (by decide)
      rw [String.append_empty] at hclose
      simp [hclose]
  | opening h => simp [closesFirst_of_inert h " \x7b" (by decide)]
  | @turning d text h hfloor =>
      have hclose : closesFirst ("\x7d " ++ text ++ " \x7b") = true := by
        rw [closesFirst, String.toList_append, String.toList_append]
        rfl
      simp [hclose]
  | closing hfloor =>
      have hclose : closesFirst "\x7d" = true := rfl
      simp [hclose]

lemma RowStep.unbroken (h : RowStep floor c r d) : Unbroken r.text := by
  have hinert : ∀ {text}, Consists isInert text → Unbroken text := fun htext =>
    ⟨htext.not_mem (by decide), htext.not_mem (by decide)⟩
  cases h with
  | plain h => exact hinert h
  | opening h => exact .append (hinert h) (unbroken_ofList rfl)
  | turning h _ => exact .append (.append (unbroken_ofList rfl) (hinert h)) (unbroken_ofList rfl)
  | closing _ => exact unbroken_ofList rfl

end RowStep

section Walk

variable {floor outer c d e : Nat} {rows more : List CodeRow}

lemma Walk.append (h : Walk floor c rows d) (h' : Walk floor d more e) :
    Walk floor c (rows ++ more) e := by
  induction h with
  | nil => exact h'
  | cons hr _ ih => exact .cons hr (ih h')

lemma Walk.mono (h : Walk floor c rows d) (hle : outer ≤ floor) : Walk outer c rows d := by
  induction h with
  | nil => exact .nil
  | cons hr _ ih =>
      refine .cons ?_ ih
      cases hr with
      | plain h => exact .plain h
      | opening h => exact .opening h
      | turning h hfloor => exact .turning h (hle.trans hfloor)
      | closing hfloor => exact .closing (hle.trans hfloor)

/-- A walk passes between its rows. -/
lemma Walk.split (h : Walk floor c (rows ++ more) e) :
    ∃ d, Walk floor c rows d ∧ Walk floor d more e := by
  induction rows generalizing c with
  | nil => exact ⟨c, .nil, h⟩
  | cons r rows ih =>
      cases h with
      | cons hr hs =>
          obtain ⟨d, hrows, hmore⟩ := ih hs
          exact ⟨d, .cons hr hrows, hmore⟩

lemma Walk.unbroken (h : Walk floor c rows d) : ∀ r ∈ rows, Unbroken r.text := by
  induction h with
  | nil => exact fun _ hr => absurd hr List.not_mem_nil
  | cons hr _ ih => exact List.forall_mem_cons.mpr ⟨hr.unbroken, ih⟩

/-- What rows do to the open braces. -/
lemma Walk.openBraces_lines (h : Walk floor c rows d) (hc : floor ≤ c) :
    openBraces (rows.flatMap fun r => (r.line .spaces).toList) = (d : Int) - c ∧ floor ≤ d := by
  induction h with
  | nil => exact ⟨(Int.sub_self _).symm, hc⟩
  | cons hr _ ih =>
      obtain ⟨hcount, -, hd⟩ := hr.count hc
      obtain ⟨hrest, he⟩ := ih hd
      rw [List.flatMap_cons, openBraces_append, hcount, hrest]
      exact ⟨by omega, he⟩

lemma openBraces_textOf_cons (r : CodeRow) (rows : List CodeRow) :
    openBraces (textOf .spaces (r :: rows)).toList
      = openBraces (r.line .spaces).toList + openBraces (textOf .spaces rows).toList := by
  have hfeed : openBraces "\n".toList = 0 := rfl
  rw [textOf, String.toList_append, String.toList_append, openBraces_append, openBraces_append,
    hfeed, Int.add_zero]

/-- So does the text of the rows, and no prefix of it comes below the floor. -/
lemma Walk.openBraces_textOf (h : Walk floor c rows d) (hc : floor ≤ c) :
    openBraces (textOf .spaces rows).toList = (d : Int) - c
      ∧ ∀ cs, cs <+: (textOf .spaces rows).toList → (floor : Int) - c ≤ openBraces cs := by
  induction h with
  | nil =>
      refine ⟨(Int.sub_self _).symm, fun cs hcs => ?_⟩
      rw [textOf, String.toList_empty, List.prefix_nil] at hcs
      rw [hcs, show openBraces [] = 0 by rfl]
      omega
  | cons hr _ ih =>
      obtain ⟨hcount, hclosed, hd⟩ := hr.count hc
      obtain ⟨hrest, hcovered⟩ := ih hd
      refine ⟨by rw [openBraces_textOf_cons, hcount, hrest]; omega, fun cs hcs => ?_⟩
      rw [textOf, String.toList_append] at hcs
      have hfeed : openBraces "\n".toList = 0 := rfl
      have hclosers : "\n".toList.count '\x7d' = 0 := rfl
      rcases prefix_append_cases hcs with hcs | ⟨fs, hfs, rfl⟩
      · have hle := neg_count_le_openBraces hcs
        rw [String.toList_append, List.count_append, hclosers] at hle
        omega
      · have hle := hcovered fs hfs
        rw [openBraces_append, String.toList_append, openBraces_append, hcount, hfeed]
        omega

end Walk

/-! ### Rows of statements -/

/-- What stands in front of the line that opens a scope, and the braces that are open there. -/
def Enters (closing : String) (level depth : Nat) : Prop :=
  (closing = "" ∧ depth = level) ∨ (closing = "\x7d " ∧ depth = level + 1)

lemma Enters.walk {closing text : String} {level depth e : Nat} {rows : List CodeRow}
    (h : Enters closing level depth) (htext : Consists isInert text)
    (hs : Walk level (level + 1) rows e) :
    Walk level depth (⟨level, closing ++ text ++ " \x7b"⟩ :: rows) e := by
  rcases h with ⟨rfl, rfl⟩ | ⟨rfl, rfl⟩
  · rw [String.empty_append]
    exact .cons (.opening htext) hs
  · exact .cons (.turning htext le_rfl) hs

mutual

lemma walk_rows (level : Nat) {s : Statement} (h : ∀ l ∈ s.lines, Consists isInert l.text) :
    Walk level level (s.rows level) level := by
  cases s with
  | line l => exact .cons (.plain (h l List.mem_cons_self)) .nil
  | scopes s => exact walk_scopes_rows level h (.inl ⟨rfl, rfl⟩)

lemma walk_scopes_rows (level : Nat) {s : Scopes} (h : ∀ l ∈ s.lines, Consists isInert l.text)
    {closing : String} {depth : Nat} (henter : Enters closing level depth) :
    Walk level depth (s.rows level closing) level := by
  cases s with
  | last head body =>
      obtain ⟨hhead, hbody⟩ := List.forall_mem_cons.mp h
      have hwalk := (walk_statementRows (level + 1) hbody).mono (Nat.le_add_right level 1)
      exact henter.walk hhead (hwalk.append (.cons (.closing le_rfl) .nil))
  | next head body rest =>
      obtain ⟨hlines, hrest⟩ := List.forall_mem_append.mp h
      obtain ⟨hhead, hbody⟩ := List.forall_mem_cons.mp hlines
      have hwalk := (walk_statementRows (level + 1) hbody).mono (Nat.le_add_right level 1)
      exact henter.walk hhead (hwalk.append (walk_scopes_rows level hrest (.inr ⟨rfl, rfl⟩)))

/-- The rows of statements stand at the level of the braces around them, if these are the only
braces. -/
lemma walk_statementRows (level : Nat) {ss : List Statement}
    (h : ∀ l ∈ linesAll ss, Consists isInert l.text) :
    Walk level level (statementRows level ss) level := by
  cases ss with
  | nil => exact .nil
  | cons s ss =>
      obtain ⟨hs, hss⟩ := List.forall_mem_append.mp h
      exact (walk_rows level hs).append (walk_statementRows level hss)

end

/-! ### A scope by itself -/

lemma indentWidth_eq_zero_iff {text : String} : indentWidth text = 0 ↔ Flush text := by
  rw [indentWidth, Flush, List.length_eq_zero_iff]
  cases text.toList with
  | nil => simp
  | cons c cs => by_cases hc : c = ' ' <;> simp [hc]

section Scope

variable {head : Line} {body : List Statement}
  (h : ∀ l ∈ linesAll [.scopes (.last head body)], Consists isInert l.text)

include h

lemma walk_scope : Walk 0 0 (statementRows 0 [.scopes (.last head body)]) 0 :=
  walk_statementRows 0 h

/-- The lines of the scope are its rows. -/
lemma lines_scope : lines (textOf .spaces (statementRows 0 [.scopes (.last head body)]))
    = (statementRows 0 [.scopes (.last head body)]).map (CodeRow.line .spaces) :=
  lines_textOf .spaces (walk_scope h).unbroken

omit h in
lemma statementRows_scope : statementRows 0 [.scopes (.last head body)]
    = ⟨0, head.text ++ " \x7b"⟩ :: (statementRows 1 body ++ [⟨0, "\x7d"⟩]) := by
  rw [statementRows, statementRows, List.append_nil, Statement.rows, Scopes.rows,
    String.empty_append, List.cons_append]

/-- A row of the scope stands at the level of the braces that the rows in front of it leave open. -/
lemma level_eq_depthAt {rows more : List CodeRow} {r : CodeRow}
    (hrows : statementRows 0 [.scopes (.last head body)] = rows ++ r :: more) :
    (r.level : Int) = depthAt (rows.map (CodeRow.line .spaces)) (r.line .spaces) := by
  obtain ⟨d, hwalk, hnext⟩ := (hrows ▸ walk_scope h).split
  cases hnext with
  | cons hr _ =>
      have hopen := (hwalk.openBraces_lines le_rfl).1
      rw [depthAt, List.flatMap_map, hopen, hr.level_eq]
      omega

/-- A line of the scope is one of its rows. -/
lemma exists_row_of_lines {front back : List String} {line : String}
    (hlines : lines (textOf .spaces (statementRows 0 [.scopes (.last head body)]))
      = front ++ line :: back) :
    ∃ rows r more, statementRows 0 [.scopes (.last head body)] = rows ++ r :: more
      ∧ front = rows.map (CodeRow.line .spaces) ∧ line = r.line .spaces := by
  rw [lines_scope h] at hlines
  obtain ⟨rows, rest, hrows, hfront, hrest⟩ := List.map_eq_append_iff.mp hlines
  obtain ⟨r, more, rfl, rfl, -⟩ := List.map_eq_cons_iff.mp hrest
  exact ⟨rows, r, more, hrows, hfront.symm, rfl⟩

/-- Behind the first row of the scope and up to the last one, its brace is open. -/
lemma openBraces_pos {first r : CodeRow} {rows more : List CodeRow}
    (hrows : statementRows 0 [.scopes (.last head body)] = first :: rows ++ r :: more) :
    0 < openBraces (((first :: rows).map (CodeRow.line .spaces)).flatMap String.toList) := by
  rw [linesAll, linesAll, List.append_nil] at h
  obtain ⟨hhead, hbody⟩ := List.forall_mem_cons.mp h
  rw [statementRows_scope, List.cons_append, List.cons.injEq] at hrows
  obtain ⟨rfl, hrows⟩ := hrows
  -- the rows in between belong to the body, which does not come out of the scope
  have hrest := congrArg List.dropLast hrows
  rw [List.dropLast_concat, List.dropLast_append_cons] at hrest
  obtain ⟨d, hwalk, -⟩ := (hrest ▸ walk_statementRows 1 hbody).split
  obtain ⟨hopen, hd⟩ := hwalk.openBraces_lines le_rfl
  have hfirst := ((RowStep.opening hhead : RowStep 0 0 _ 1).count le_rfl).1
  rw [List.map_cons, List.flatMap_cons, List.flatMap_map, openBraces_append, hopen, hfirst]
  omega

/-- A scope is nested. -/
theorem nested_scope : Nested (textOf .spaces (statementRows 0 [.scopes (.last head body)])) where
  balanced := ((walk_scope h).openBraces_textOf le_rfl).1
  covered cs hcs := ((walk_scope h).openBraces_textOf le_rfl).2 cs hcs
  inside front line back hlines hfront := by
    obtain ⟨rows, r, more, hrows, rfl, -⟩ := exists_row_of_lines h hlines
    rw [ne_eq, List.map_eq_nil_iff] at hfront
    obtain ⟨first, rows, rfl⟩ := List.exists_cons_of_ne_nil hfront
    exact openBraces_pos h hrows
  indented front line back hlines := by
    obtain ⟨rows, r, more, hrows, rfl, rfl⟩ := exists_row_of_lines h hlines
    rw [← level_eq_depthAt h hrows, indentWidth_line]
    omega

/-- A scope is indented by its braces exactly when no row starts with a blank. -/
theorem indented_iff_flush :
    Indented (textOf .spaces (statementRows 0 [.scopes (.last head body)]))
      ↔ ∀ r ∈ statementRows 0 [.scopes (.last head body)], Flush r.text := by
  constructor
  · intro hindented r hr
    obtain ⟨rows, more, hrows⟩ := List.append_of_mem hr
    have hlines := lines_scope h
    rw [hrows, List.map_append, List.map_cons, ← hrows] at hlines
    have hwidth := hindented _ _ _ hlines
    rw [← level_eq_depthAt h hrows, indentWidth_line] at hwidth
    exact indentWidth_eq_zero_iff.mp (by omega)
  · intro hflush front line back hlines
    obtain ⟨rows, r, more, hrows, rfl, rfl⟩ := exists_row_of_lines h hlines
    have hr : r ∈ statementRows 0 [.scopes (.last head body)] := by
      rw [hrows]
      exact List.mem_append_right _ List.mem_cons_self
    rw [← level_eq_depthAt h hrows, indentWidth_line, indentWidth_eq_zero_iff.mpr (hflush r hr)]
    omega

end Scope

/-! ### Steps that start without a blank -/

/-- No row of the steps starts with a blank. -/
def FlushAll (steps : List Step) : Prop := ∀ text ∈ textsAll steps, Flush text

section FlushAll

variable {steps more : List Step}

lemma flushAll_append : FlushAll (steps ++ more) ↔ FlushAll steps ∧ FlushAll more := by
  rw [FlushAll, textsAll_append, List.forall_mem_append]
  rfl

lemma flushAll_line {text : String} :
    FlushAll (.line text :: steps) ↔ Flush text ∧ FlushAll steps := by
  rw [FlushAll, textsAll, List.forall_mem_append]
  exact and_congr_left' List.forall_mem_singleton

lemma flushAll_indent : FlushAll (.indent :: steps) ↔ FlushAll steps := Iff.rfl

lemma flushAll_dedent : FlushAll (.dedent :: steps) ↔ FlushAll steps := Iff.rfl

lemma flushAll_nil : FlushAll [] := fun _ htext => absurd htext List.not_mem_nil

lemma flushAll_block {header close : String} :
    FlushAll (.block header close steps :: more)
      ↔ (Flush header ∧ FlushAll steps ∧ Flush close) ∧ FlushAll more := by
  rw [FlushAll, textsAll, List.forall_mem_append, Step.texts, List.cons_append,
    List.forall_mem_cons, List.forall_mem_append, List.forall_mem_singleton]
  rfl

lemma flushAll_flatMap {α : Type} {stepsOf : α → List Step} {as : List α} :
    FlushAll (as.flatMap stepsOf) ↔ ∀ a ∈ as, FlushAll (stepsOf a) := by
  induction as with
  | nil => simp [FlushAll, textsAll]
  | cons a as ih => rw [List.flatMap_cons, flushAll_append, ih, List.forall_mem_cons]

/-- The rows of statements start without a blank exactly when those of the steps do. -/
lemma Prints.forall_flush_iff {ss : List Statement} (h : Prints steps ss) (level : Nat) :
    (∀ r ∈ statementRows level ss, Flush r.text) ↔ FlushAll steps := by
  rw [← h.rows, FlushAll, ← map_text_rowsAll level, List.forall_mem_map]

end FlushAll

end LuaBinder.Code
