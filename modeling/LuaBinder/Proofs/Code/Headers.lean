import LuaBinder.Proofs.Code.Control
import LuaBinder.Proofs.Code.Rows

/-!
The lines of written code that open something.

Indented lines, comments, closing braces and the directives at the top of a file name nothing. What
is left of a file are the headers of its functions and tables, and a name that is read off a line of
the file is read off one of these.

* `headerOf?`: the lines that open something.
* `Heads`: the headers that steps write, in order; `Heads.append` puts them together.
* `Heads.block`, `Heads.enclosed`: of a block and of a table only the first line counts.
* `Heads.filterMap_lines_render`: what is read off the rendered text is read off its headers.
-/

namespace LuaBinder.Code

open Text

/-! ### Lines -/

/-- A line starts as those do that are indented, a comment, the end of a block, an inclusion or the
use of a namespace. -/
def startsQuietly : List Char → Bool
  | [] => false
  | c :: _ => [' ', '/', '\x7d', '#', 'u'].contains c

/-- The line, if it opens something. -/
def headerOf? (line : String) : Option String :=
  if line.isEmpty || startsQuietly line.toList then none else some line

lemma headerOf?_quiet {cs : List Char} (h : startsQuietly cs = true) (rest : String) :
    headerOf? (String.ofList cs ++ rest) = none := by
  cases cs with
  | nil => cases h
  | cons c cs =>
      rw [headerOf?, String.toList_append, String.toList_ofList, List.cons_append]
      exact if_pos (Bool.or_eq_true_iff.mpr (.inr h))

/-- The characters start a line that opens something. -/
def startsHeader : List Char → Bool
  | [] => false
  | c :: cs => ! startsQuietly (c :: cs)

lemma headerOf?_header {cs : List Char} (h : startsHeader cs = true) (rest : String) :
    headerOf? (String.ofList cs ++ rest) = some (String.ofList cs ++ rest) := by
  cases cs with
  | nil => cases h
  | cons c cs =>
      have hne : (String.ofList (c :: cs) ++ rest).isEmpty = false := by simp
      have hquiet : startsQuietly (c :: (cs ++ rest.toList)) = false := by
        rw [startsHeader, Bool.not_eq_true'] at h
        exact h
      rw [headerOf?, hne, String.toList_append, String.toList_ofList, List.cons_append, hquiet]
      rfl

/-- What stands between two texts is read off a header, if the first of them opens something. -/
lemma between?_eq_none_of_quiet {cs : List Char} {back line : String} (hcs : startsHeader cs = true)
    (h : headerOf? line = none) : between? (String.ofList cs) back line = none := by
  cases hmiddle : between? (String.ofList cs) back line with
  | none => rfl
  | some middle =>
      rw [between?_eq_some_iff.mp hmiddle, String.append_assoc, headerOf?_header hcs] at h
      cases h

lemma prefix_of_between? {front back line middle : String}
    (h : between? front back line = some middle) : front.toList <+: line.toList := by
  rw [between?_eq_some_iff.mp h, String.toList_append, String.toList_append, List.append_assoc]
  exact List.prefix_append _ _

/-- Nothing is read off a line that does not start like the first text. -/
lemma between?_eq_none_of_start {start cs : List Char} {front : String}
    (h : start.isPrefixOf cs = false) (hfront : start <+: front.toList) (back : String) :
    between? front back (String.ofList cs) = none := by
  cases hmiddle : between? front back (String.ofList cs) with
  | none => rfl
  | some middle =>
      have hcs := hfront.trans (prefix_of_between? hmiddle)
      rw [String.toList_ofList] at hcs
      rw [List.isPrefixOf_iff_prefix.mpr hcs] at h
      cases h

/-- Of a line whose start is known, this is seen from the start. -/
lemma between?_eq_none_of_apart {cs front : List Char} (h : cs.isPrefixOf front = false)
    (h' : front.isPrefixOf cs = false) (back rest : String) :
    between? (String.ofList front) back (String.ofList cs ++ rest) = none := by
  cases hmiddle : between? (String.ofList front) back (String.ofList cs ++ rest) with
  | none => rfl
  | some middle =>
      have hline := prefix_of_between? hmiddle
      rw [String.toList_append, String.toList_ofList, String.toList_ofList] at hline
      rcases List.prefix_or_prefix_of_prefix (List.prefix_append cs _) hline with hp | hp
      · rw [List.isPrefixOf_iff_prefix.mpr hp] at h
        cases h
      · rw [List.isPrefixOf_iff_prefix.mpr hp] at h'
        cases h'

lemma line_of_level_zero (style : IndentStyle) (text : String) :
    CodeRow.line style ⟨0, text⟩ = text := by
  rw [CodeRow.line, indentation, List.replicate_zero]
  exact String.empty_append

/-- The row, if it opens something. -/
def rowHeader? (r : CodeRow) : Option String := headerOf? (r.line .spaces)

lemma rowHeader?_of_level_zero (text : String) : rowHeader? ⟨0, text⟩ = headerOf? text := by
  rw [rowHeader?, line_of_level_zero]

/-- An indented row opens nothing, and neither does an empty one. -/
lemma rowHeader?_of_inside {r : CodeRow} (h : r.Inside 1) : rowHeader? r = none := by
  have hspaces : ∀ level text, rowHeader? ⟨level + 1, text⟩ = none := by
    intro level text
    rw [rowHeader?, CodeRow.line, indentation, List.replicate_succ, String.join_cons,
      String.append_assoc]
    exact headerOf?_quiet rfl _
  obtain ⟨level, text⟩ := r
  cases level with
  | succ level => exact hspaces level text
  | zero =>
      rcases h with h | h
      · cases h
      · dsimp only at h
        rw [h, rowHeader?_of_level_zero]
        decide

/-- Neither do the rows of a comment. -/
lemma headerOf?_of_mem_commentRows {rows : List String} :
    ∀ row ∈ commentRows rows, headerOf? row = none := by
  intro row hrow
  match rows with
  | [] => cases hrow
  | [single] =>
      rw [List.mem_singleton.mp hrow, String.append_assoc]
      exact headerOf?_quiet rfl _
  | first :: second :: rest =>
      rcases List.mem_append.mp hrow with hrow | hrow
      · rcases List.mem_cons.mp hrow with rfl | hrow
        · exact headerOf?_quiet rfl _
        · obtain ⟨text, -, rfl⟩ := List.mem_map.mp hrow
          exact headerOf?_quiet rfl _
      · rw [List.mem_singleton.mp hrow]
        decide

/-! ### Steps -/

/-- The steps write the given headers, in order. -/
structure Heads (steps : List Step) (headers : List String) : Prop where
  unbroken : UnbrokenAll steps
  depth : depthAfterAll? 0 steps = some 0
  headers : (rowsAll 0 steps).filterMap rowHeader? = headers

namespace Heads

variable {steps more : List Step} {headers others : List String}

lemma level (h : Heads steps headers) : levelAfterAll 0 steps = 0 :=
  (inside_of_mem_rowsAll 0 h.depth).1

lemma append (h : Heads steps headers) (h' : Heads more others) :
    Heads (steps ++ more) (headers ++ others) := by
  refine ⟨unbrokenAll_append.mpr ⟨h.unbroken, h'.unbroken⟩, depthAfterAll?_append h.depth h'.depth,
    ?_⟩
  rw [rowsAll_append, h.level, List.filterMap_append, h.headers, h'.headers]

lemma nil : Heads [] [] := ⟨trivial, rfl, rfl⟩

lemma append_nil (h : Heads steps headers) (h' : Heads more []) :
    Heads (steps ++ more) headers := by
  have hall := h.append h'
  rwa [List.append_nil] at hall

lemma flatMap {α : Type} {f : α → List Step} {g : α → List String} {as : List α}
    (h : ∀ a ∈ as, Heads (f a) (g a)) : Heads (as.flatMap f) (as.flatMap g) := by
  induction as with
  | nil => exact nil
  | cons a as ih =>
      obtain ⟨ha, has⟩ := List.forall_mem_cons.mp h
      rw [List.flatMap_cons, List.flatMap_cons]
      exact ha.append (ih has)

lemma blank : Heads [.blank] [] := ⟨⟨trivial, trivial⟩, rfl, by decide⟩

lemma line {text : String} (htext : Unbroken text) :
    Heads [.line text] (headerOf? text).toList := by
  refine ⟨⟨htext, trivial⟩, rfl, ?_⟩
  show List.filterMap rowHeader? [⟨0, text⟩] = _
  rw [List.filterMap_cons, rowHeader?_of_level_zero]
  cases headerOf? text <;> rfl

/-- A line that opens nothing. -/
lemma line_quiet {cs : List Char} {rest : String} (hcs : startsQuietly cs = true)
    (hfront : Unbroken (String.ofList cs)) (hrest : Unbroken rest) :
    Heads [.line (String.ofList cs ++ rest)] [] := by
  have hline := line (.append hfront hrest)
  rwa [headerOf?_quiet hcs, Option.toList_none] at hline

/-- A longer text has the headers among its lines. -/
lemma lines {text : String} (htext : ∀ row ∈ Text.lines text, Unbroken row) :
    Heads [.lines text] ((Text.lines text).filterMap headerOf?) := by
  refine ⟨⟨htext, trivial⟩, rfl, ?_⟩
  show List.filterMap rowHeader? ((Text.lines text).map (.ofLine 0) ++ []) = _
  rw [List.append_nil, List.filterMap_map]
  refine List.filterMap_congr fun row _ => ?_
  have hrow : CodeRow.ofLine 0 row = ⟨0, row⟩ := by
    rw [CodeRow.ofLine, ite_self]
  rw [Function.comp_apply, hrow, rowHeader?_of_level_zero]

lemma filterMap_rowHeader?_inside {rows : List CodeRow} (h : ∀ r ∈ rows, r.Inside 1) :
    rows.filterMap rowHeader? = [] :=
  List.filterMap_eq_nil_iff.mpr fun r hr => rowHeader?_of_inside (h r hr)

/-- Indented steps write none. -/
lemma nested {inner : List Step} (hinner : UnbrokenAll inner)
    (hflat : Builder.flatAll inner = true) : Heads (Step.indent :: inner ++ [Step.dedent]) [] := by
  obtain ⟨hlevel, hrows⟩ := inside_of_mem_rowsAll 1 (depthAfterAll?_of_flatAll hflat 0)
  have hdepth : depthAfterAll? 0 (.indent :: inner) = some 1 := depthAfterAll?_of_flatAll hflat 1
  refine ⟨unbrokenAll_append.mpr ⟨⟨trivial, hinner⟩, trivial, trivial⟩,
    depthAfterAll?_append hdepth rfl, ?_⟩
  have hall : rowsAll 0 (Step.indent :: inner ++ [Step.dedent]) = rowsAll 1 inner := by
    rw [rowsAll_append]
    exact List.append_nil _
  rw [hall]
  exact filterMap_rowHeader?_inside hrows

/-- A block whose body ends at the depth where it starts writes its own header. -/
lemma block {header : String} {body : List Step} (hheader : Unbroken header)
    (hbody : UnbrokenAll body) (hdepth : depthAfterAll? 0 body = some 0) :
    Heads [.block header "\x7d" body] (headerOf? header).toList := by
  obtain ⟨hlevel, hrows⟩ := inside_of_mem_rowsAll 1 hdepth
  have hclose : [CodeRow.mk 0 "\x7d"].filterMap rowHeader? = [] := by decide
  have hall : rowsAll 0 [.block header "\x7d" body]
      = [⟨0, header⟩] ++ rowsAll 1 body ++ [⟨0, "\x7d"⟩] := by
    rw [rowsAll, Step.rows, rowsAll, List.append_nil, hlevel]
    rfl
  refine ⟨⟨⟨hheader, (unbroken_ofList rfl : Unbroken "\x7d"), hbody⟩, trivial⟩, ?_, ?_⟩
  · rw [depthAfterAll?, Step.depthAfter?, if_pos hdepth]
    rfl
  · rw [hall, List.filterMap_append, List.filterMap_append, filterMap_rowHeader?_inside hrows,
      hclose, List.append_nil, List.append_nil]
    exact (line hheader).headers

/-- A comment writes none. -/
lemma comment {rows : List String} (hrows : ∀ row ∈ rows, Unbroken row) :
    Heads [.comment rows] [] := by
  refine ⟨⟨hrows, trivial⟩, rfl, ?_⟩
  show List.filterMap rowHeader? ((commentRows rows).map (⟨0, ·⟩) ++ []) = []
  rw [List.append_nil, List.filterMap_map, List.filterMap_eq_nil_iff]
  intro row hrow
  rw [Function.comp_apply, rowHeader?_of_level_zero]
  exact headerOf?_of_mem_commentRows row hrow

/-- A table writes the line that opens it. -/
lemma enclosed {header ending : String} {body : List Step} (hheader : Unbroken header)
    (hending : Unbroken ending) (hbody : UnbrokenAll body) (hflat : Builder.flatAll body = true) :
    Heads ([Step.line header, .indent] ++ body
      ++ [Step.line ending, .dedent, .line "\x7d;", .blank]) (headerOf? header).toList := by
  have hline : UnbrokenAll [Step.line ending] := ⟨hending, trivial⟩
  have hinner := nested (unbrokenAll_append.mpr ⟨hbody, hline⟩) (Builder.flatAll_append hflat rfl)
  have hclose : Heads [Step.line "\x7d;"] [] := line (unbroken_ofList rfl)
  have hsteps : [Step.line header, .indent] ++ body
      ++ [Step.line ending, .dedent, .line "\x7d;", .blank]
      = [Step.line header] ++ ((Step.indent :: (body ++ [Step.line ending]) ++ [Step.dedent])
          ++ ([Step.line "\x7d;"] ++ [Step.blank])) := by
    simp only [List.append_assoc, List.cons_append, List.nil_append]
  rw [hsteps]
  exact (line hheader).append_nil (hinner.append (hclose.append blank))

/-- The headers in the rendered text. -/
lemma filterMap_headerOf?_render (h : Heads steps headers) :
    (Text.lines (render steps)).filterMap headerOf? = headers := by
  rw [lines_render h.unbroken, List.filterMap_map]
  exact h.headers

/-! ### Readers -/

variable {read : String → Option String} (hread : ∀ line, headerOf? line = none → read line = none)

include hread

/-- A reader of lines that open something reads it off the headers. -/
lemma bind_headerOf? (line : String) : (headerOf? line).bind read = read line := by
  cases hline : headerOf? line with
  | none => exact (hread line hline).symm
  | some header =>
      have heq : header = line := by
        rw [headerOf?] at hline
        split at hline
        · cases hline
        · exact (Option.some.inj hline).symm
      rw [Option.bind_some, heq]

/-- What is read off the rows. -/
lemma filterMap_rowsAll (h : Heads steps headers) :
    (rowsAll 0 steps).filterMap (fun r => read (r.line .spaces)) = headers.filterMap read := by
  rw [← h.headers, List.filterMap_filterMap]
  exact List.filterMap_congr fun r _ => (bind_headerOf? hread _).symm

/-- What is read off the rendered text. -/
lemma filterMap_lines_render (h : Heads steps headers) :
    (Text.lines (render steps)).filterMap read = headers.filterMap read := by
  rw [← h.filterMap_headerOf?_render, List.filterMap_filterMap]
  exact List.filterMap_congr fun line _ => (bind_headerOf? hread line).symm

end Heads

end LuaBinder.Code
