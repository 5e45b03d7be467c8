import LuaBinder.Decl.Sketch
import LuaBinder.Lua.Wrapper
import LuaBinder.Proofs.Code.Headers
import LuaBinder.Proofs.Lua.Signature
import LuaBinder.Proofs.Text.Occurrences

/-!
The comments above functions.

A comment is written around texts of the source as they are, so it ends where such a text holds the
two characters that end a comment.

* `behindComment?`: what follows the first end of a comment behind its start.
* `infix_rows_iff`: the marks between the rows of a comment do not end it.
* `behindComment?_render_comment`: a comment ends where it was written to end exactly when none of
  its rows ends a comment.
* `wrapper_comment_closed_iff`: hence the code of a wrapper starts behind its comment exactly when
  neither the signature nor the source of the function ends a comment.
-/

namespace LuaBinder

namespace Code

open Text

/-- What follows the first end of a comment, for a text that starts with a comment. -/
def behindComment? (text : String) : Option String :=
  ((afterHead? "/**".toList text.toList).bind (splitFirst? "*/".toList)).map fun cut =>
    String.ofList cut.2

/-- A comment ends at a place exactly when no other end of a comment stands further in front. -/
lemma behindComment?_eq_some_iff (inside code : String) :
    behindComment? ("/**" ++ inside ++ "*/" ++ code) = some code
      ↔ ¬ "*/".toList <:+: inside.toList ++ ['*'] := by
  have hhead : afterHead? "/**".toList ("/**" ++ inside ++ "*/" ++ code).toList
      = some (inside.toList ++ "*/".toList ++ code.toList) := by
    simp [afterHead?_eq_some_iff]
  have hsplit : ∀ before, splitFirst? "*/".toList (inside.toList ++ "*/".toList ++ code.toList)
      = some (before, code.toList) ↔ before = inside.toList
        ∧ ¬ "*/".toList <:+: inside.toList ++ ['*'] := by
    intro before
    rw [splitFirst?_eq_some_iff (by decide), List.append_left_inj, List.append_left_inj,
      @eq_comm _ inside.toList]
    exact and_congr_right fun h => by rw [h]; rfl
  rw [behindComment?, hhead, Option.bind_some, Option.map_eq_some_iff]
  constructor
  · rintro ⟨⟨before, rest⟩, hcut, hcode⟩
    obtain rfl : rest = code.toList := by rw [← hcode, String.toList_ofList]
    exact ((hsplit before).mp hcut).2
  · intro h
    exact ⟨_, (hsplit inside.toList).mpr ⟨rfl, h⟩, String.ofList_toList⟩

/-! ### Rows of a comment -/

/-- The characters of the rows of a comment behind the first one. -/
def furtherRows (rest : List String) : List Char :=
  rest.flatMap fun row => " * ".toList ++ row.toList ++ ['\n']

/-- What stands in a comment between its two ends. -/
def commentInside (first : String) (rest : List String) : String :=
  if rest.isEmpty then " " ++ first ++ " "
  else " " ++ first ++ "\n" ++ String.ofList (furtherRows rest) ++ " "

lemma textOf_map_level_zero (style : IndentStyle) (texts : List String) :
    (textOf style (texts.map (⟨0, ·⟩))).toList
      = texts.flatMap fun text => text.toList ++ ['\n'] := by
  induction texts with
  | nil => rfl
  | cons text texts ih =>
      rw [List.map_cons, textOf, line_of_level_zero, String.toList_append, String.toList_append, ih,
        List.flatMap_cons]
      rfl

/-- A comment is what stands in it, between its two ends. -/
lemma render_comment_cons (first : String) (rest : List String) :
    render [.comment (first :: rest)] = "/**" ++ commentInside first rest ++ "*/" ++ "\n" := by
  have hrows : render [.comment (first :: rest)]
      = textOf .spaces ((commentRows (first :: rest)).map (⟨0, ·⟩)) := by
    rw [render, text_run, String.empty_append, rowsAll, rowsAll, List.append_nil, Step.rows]
  rw [← String.toList_inj, hrows, textOf_map_level_zero, commentInside]
  cases rest with
  | nil => simp [commentRows]
  | cons second rest => simp [commentRows, furtherRows, List.flatMap_map]

/-- The marks between the rows, and those in front of its end, do not end a comment. -/
lemma infix_rows_iff (row : String) (rest : List String) :
    "*/".toList <:+: row.toList ++ '\n' :: (furtherRows rest ++ [' ', '*'])
      ↔ ∃ r ∈ row :: rest, "*/".toList <:+: r.toList := by
  induction rest generalizing row with
  | nil =>
      rw [infix_append_cons_iff (by decide) (by decide), furtherRows, List.flatMap_nil,
        List.nil_append, or_iff_left (by decide)]
      simp
  | cons r rest ih =>
      have hchars : furtherRows (r :: rest) ++ [' ', '*']
          = [' ', '*'] ++ ' ' :: (r.toList ++ '\n' :: (furtherRows rest ++ [' ', '*'])) := by
        simp [furtherRows]
      have hmarks : ¬ "*/".toList <:+: [' ', '*'] := by decide
      rw [infix_append_cons_iff (by decide) (by decide), hchars,
        infix_append_cons_iff (by decide) (by decide), or_iff_right hmarks, ih,
        List.exists_mem_cons_iff _ row]

/-- The rows alone decide whether a comment ends early. -/
lemma infix_commentInside_iff (first : String) (rest : List String) :
    "*/".toList <:+: (commentInside first rest).toList ++ ['*']
      ↔ ∃ row ∈ first :: rest, "*/".toList <:+: row.toList := by
  have hblank : ∀ cs, "*/".toList <:+: ' ' :: cs ↔ "*/".toList <:+: cs := fun cs => by
    rw [← List.nil_append (' ' :: cs), infix_append_cons_iff (by decide) (by decide),
      or_iff_right (by decide)]
  cases rest with
  | nil =>
      have hchars : (commentInside first []).toList ++ ['*']
          = ' ' :: (first.toList ++ ' ' :: ['*']) := by
        simp [commentInside]
      rw [hchars, hblank, infix_append_cons_iff (by decide) (by decide), or_iff_left (by decide)]
      simp
  | cons second rest =>
      have hchars : (commentInside first (second :: rest)).toList ++ ['*']
          = ' ' :: (first.toList ++ '\n' :: (furtherRows (second :: rest) ++ [' ', '*'])) := by
        simp [commentInside]
      rw [hchars, hblank, infix_rows_iff]

/-- A comment ends where it was written to end exactly when none of its rows ends a comment. -/
theorem behindComment?_render_comment {rows : List String} (hrows : rows ≠ []) (code : String) :
    behindComment? (render [.comment rows] ++ code) = some ("\n" ++ code)
      ↔ ∀ row ∈ rows, occurs "*/" row = false := by
  obtain ⟨first, rest, rfl⟩ := List.exists_cons_of_ne_nil hrows
  rw [render_comment_cons, String.append_assoc, behindComment?_eq_some_iff, infix_commentInside_iff]
  simp only [occurs_eq_false_iff, not_exists, not_and]

/-- A block starts with its header. -/
lemma exists_render_block (header close : String) (steps : List Step) :
    ∃ body, render [.block header close steps] = header ++ "\n" ++ body := by
  refine ⟨textOf .spaces (rowsAll 1 steps ++ [⟨levelAfterAll 1 steps - 1, close⟩]), ?_⟩
  rw [render, text_run, String.empty_append, rowsAll, rowsAll, List.append_nil, Step.rows,
    List.cons_append, textOf, line_of_level_zero]

end Code

namespace Lua

open Code Text

/-- The text of a wrapper is its comment, and behind it the line that opens the C function. -/
lemma exists_text_of_render {f : FunctionDecl} {text : String} (h : wrappers.render f = .ok text) :
    ∃ body, text = render [.comment (Wrapper.commentOf f)]
      ++ (definitionLine (identifier f none) ++ "\n" ++ body) := by
  obtain ⟨w, hw, rfl⟩ := map_eq_ok_iff.mp h
  obtain ⟨s, -, rfl⟩ := map_eq_ok_iff.mp hw
  have hdepth : depthAfterAll? 0 [Step.comment (Wrapper.commentOf f)] = some 0 := rfl
  obtain ⟨body, hbody⟩ := exists_render_block (definitionLine (identifier f none)) "\x7d"
    (Wrapper.ofSignature f s).bodySteps
  refine ⟨body, ?_⟩
  rw [← hbody]
  exact render_append hdepth _

/-- **Comments above wrappers.** The text of a wrapper is a comment with the signature and, where it
is known, the source of the function, and behind it the line that opens the C function. The first
end of a comment in this text is the one that was written there exactly when neither the signature
nor the source holds the end of a comment. -/
theorem wrapper_comment_closed_iff {f : FunctionDecl} {text : String}
    (h : wrappers.render f = .ok text) :
    ∃ inside body, render [.comment (f.signature :: f.source?.toList)] = "/**" ++ inside ++ "*/\n"
      ∧ text = "/**" ++ inside ++ "*/\n" ++ definitionLine (identifier f none) ++ "\n" ++ body
      ∧ (behindComment? text = some ("\n" ++ definitionLine (identifier f none) ++ "\n" ++ body)
        ↔ occurs "*/" f.signature = false ∧ ∀ source ∈ f.source?, occurs "*/" source = false) := by
  have hcomment : render [.comment (f.signature :: f.source?.toList)]
      = "/**" ++ commentInside f.signature f.source?.toList ++ "*/\n" := by
    rw [render_comment_cons, String.append_assoc]
    rfl
  obtain ⟨body, htext⟩ := exists_text_of_render h
  rw [Wrapper.commentOf] at htext
  refine ⟨_, body, hcomment, ?_, ?_⟩
  · rw [htext, hcomment]
    simp only [String.append_assoc]
  · have hclosed := behindComment?_render_comment (List.cons_ne_nil f.signature f.source?.toList)
      (definitionLine (identifier f none) ++ "\n" ++ body)
    rw [← htext, List.forall_mem_cons] at hclosed
    simpa only [String.append_assoc, Option.mem_toList, Option.mem_def] using hclosed

/-- A function that looks for a pattern, with a default value for it. -/
def patternFinder (defaultValue : String) : FunctionDecl where
  owner := some (.ofNamespace "lib")
  name := "find"
  scope := "lib"
  overload := none
  node := {
    name := "find"
    result := "int"
    params := [Sketch.param "const char *" "pattern" (some defaultValue)]
    definition := some "int lib::find"
    argsstring := some ("(const char *pattern=" ++ defaultValue ++ ")")
    location := some ("/work/lib/find.h", "12") : Sketch }.declare

lemma exists_text_patternFinder (defaultValue : String)
    (h : isConvertible (patternFinder defaultValue) = true) :
    ∃ text, wrappers.render (patternFinder defaultValue) = .ok text := by
  obtain ⟨s, hs⟩ := exists_signature h
  exact ⟨_, map_eq_ok_iff.mpr ⟨_, map_eq_ok_iff.mpr ⟨s, signatureOf_eq_ok_iff.mpr hs, rfl⟩, rfl⟩⟩

/-- A text that only starts a comment does not end the one around it. -/
theorem wrapper_comment_closed_slash : ∃ text, wrappers.render (patternFinder "\"/**\"") = .ok text
    ∧ ∃ body, behindComment? text = some ("\n" ++ definitionLine "lib_find" ++ "\n" ++ body) := by
  obtain ⟨text, htext⟩ := exists_text_patternFinder "\"/**\"" (by decide +kernel)
  have hsignature : occurs "*/" (patternFinder "\"/**\"").signature = false := by decide +kernel
  have hsource : ∀ source ∈ (patternFinder "\"/**\"").source?, occurs "*/" source = false := by
    decide +kernel
  have hname : identifier (patternFinder "\"/**\"") none = "lib_find" := by decide +kernel
  obtain ⟨-, body, -, -, hclosed⟩ := wrapper_comment_closed_iff htext
  rw [hname] at hclosed
  exact ⟨text, htext, body, hclosed.mpr ⟨hsignature, hsource⟩⟩

/-- A default value that holds the end of a comment ends the one above its function, and the rest of
the signature is left in front of the code. -/
theorem wrapper_comment_ended_early : ∃ text body,
    wrappers.render (patternFinder "\"*/\"") = .ok text
      ∧ text = "/** int lib::find(const char *pattern=\"*/\")\n * work/lib/find.h:12\n */\n"
        ++ (definitionLine "lib_find" ++ "\n" ++ body)
      ∧ behindComment? text = some ("\")\n * work/lib/find.h:12\n */\n"
        ++ (definitionLine "lib_find" ++ "\n" ++ body)) := by
  obtain ⟨text, htext⟩ := exists_text_patternFinder "\"*/\"" (by decide +kernel)
  have hname : identifier (patternFinder "\"*/\"") none = "lib_find" := by decide +kernel
  have hcomment : render [.comment (Wrapper.commentOf (patternFinder "\"*/\""))]
      = "/** int lib::find(const char *pattern=\"*/\")\n * work/lib/find.h:12\n */\n" := by
    decide +kernel
  obtain ⟨body, hbody⟩ := exists_text_of_render htext
  rw [hname, hcomment] at hbody
  refine ⟨text, body, htext, hbody, ?_⟩
  have hopen : "/** int lib::find(const char *pattern=\"*/\")\n * work/lib/find.h:12\n */\n"
      = "/**" ++ " int lib::find(const char *pattern=\"" ++ "*/"
        ++ "\")\n * work/lib/find.h:12\n */\n" := by decide
  rw [hbody, hopen, String.append_assoc]
  exact (behindComment?_eq_some_iff _ _).mpr (by decide)

end Lua

end LuaBinder
