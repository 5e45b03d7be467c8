import LuaBinder.Code.Table
import LuaBinder.Proofs.Text.Identifier
import LuaBinder.Proofs.Text.Quoted

/-!
Registration tables: their text determines their rows.

The quotes of a name close where the name ends, an identifier ends at the space behind it, and the
spaces between the two are as many as the name leaves of its column. So a row shows where it ends,
whatever its name holds, and the rows of a table can be told apart one after another.

* `selfDelimiting_rowText`: rows are written in a code whose end shows.
* `toList_tableText_cons`: a table is its first row and every other row behind a separator.
* `tableText_inj`: different lists of rows have different tables.
-/

namespace LuaBinder.Code

open Text

/-! ### One row -/

/-- What stands in a row between the quoted name and the identifier. -/
def Row.filling (r : Row) : List Char :=
  List.replicate (nameColumn - (quote r.name).length) ' ' ++ [',', ' ']

lemma toList_rowText (r : Row) : r.text.toList
    = '\x7b' :: ' ' :: (quoteChars r.name.toList ++ (r.filling ++ (r.identifier.toList
      ++ [' ', '\x7d']))) := by
  simp [Row.text, padRight, quote, Row.filling]

/-- A row shows where it ends, whatever its name holds. -/
lemma selfDelimiting_rowText :
    SelfDelimiting (fun r : Row => ' ' ∉ r.identifier.toList) fun r => r.text.toList := by
  intro r r' hr hr' s t h
  simp only [toList_rowText, List.cons_append, List.append_assoc, List.cons.injEq, true_and] at h
  obtain ⟨hname, hbehind⟩ := selfDelimiting_quoteChars trivial trivial h
  rw [String.toList_inj] at hname
  -- equal names leave as many spaces
  have hfilling : r.filling = r'.filling := by rw [Row.filling, hname, Row.filling]
  rw [hfilling] at hbehind
  obtain ⟨hidentifier, hend⟩ := append_cons_inj hr hr' (List.append_cancel_left hbehind)
  rw [String.toList_inj] at hidentifier
  refine ⟨?_, (List.cons.inj hend).2⟩
  cases r
  cases r'
  exact congrArg₂ Row.mk hname hidentifier

/-! ### The rows of a table -/

/-- A row behind the separator of a table. -/
def Row.further (r : Row) : List Char := ',' :: '\n' :: r.text.toList

lemma selfDelimiting_further :
    SelfDelimiting (fun r : Row => ' ' ∉ r.identifier.toList) Row.further := by
  intro r r' hr hr' s t h
  exact selfDelimiting_rowText hr hr' (List.cons.inj (List.cons.inj h).2).2

/-- A table is its first row and every other row behind a separator. -/
lemma toList_tableText_cons (r : Row) (rows : List Row) :
    (tableText (r :: rows)).toList = r.text.toList ++ rows.flatMap Row.further := by
  induction rows generalizing r with
  | nil => simp [tableText]
  | cons next rows ih =>
      have hcut : tableText (r :: next :: rows) = r.text ++ ",\n" ++ tableText (next :: rows) := by
        simp only [tableText, List.map_cons, String.intercalate_cons_cons]
      rw [hcut, String.toList_append, String.toList_append, ih, List.flatMap_cons, Row.further]
      simp

lemma tableText_cons_ne_empty (r : Row) (rows : List Row) : tableText (r :: rows) ≠ "" := by
  intro h
  have hchars := toList_tableText_cons r rows
  rw [h, toList_rowText] at hchars
  exact absurd hchars.symm (List.cons_ne_nil _ _)

/-- **A table can be read back**: no name can merge rows, split a row or pass for another name, so
different lists of rows have different tables. -/
theorem tableText_inj {rows rows' : List Row} (h : ∀ r ∈ rows, isIdentifier r.identifier = true)
    (h' : ∀ r ∈ rows', isIdentifier r.identifier = true) :
    tableText rows = tableText rows' ↔ rows = rows' := by
  refine ⟨fun htext => ?_, congrArg tableText⟩
  cases rows with
  | nil =>
      cases rows' with
      | nil => rfl
      | cons r' rows' => exact absurd htext.symm (tableText_cons_ne_empty r' rows')
  | cons r rows =>
      cases rows' with
      | nil => exact absurd htext (tableText_cons_ne_empty r rows)
      | cons r' rows' =>
          have hspace : ∀ r : Row, isIdentifier r.identifier = true → ' ' ∉ r.identifier.toList :=
            fun r hr => not_mem_of_isIdentifier hr (by decide)
          obtain ⟨hr, hrows⟩ := List.forall_mem_cons.mp fun r hr => hspace r (h r hr)
          obtain ⟨hr', hrows'⟩ := List.forall_mem_cons.mp fun r hr => hspace r (h' r hr)
          have hchars := congrArg String.toList htext
          rw [toList_tableText_cons, toList_tableText_cons] at hchars
          obtain ⟨rfl, hfurther⟩ := selfDelimiting_rowText hr hr' hchars
          -- nothing follows the last row, so no further row can begin there
          have hend : ∀ r : Row, ' ' ∉ r.identifier.toList → ¬ r.further <+: [] :=
            fun r _ => by simp [Row.further]
          obtain ⟨rfl, -⟩ := selfDelimiting_further.flatMap_inj hrows hrows' hend hend
            (congrArg (· ++ []) hfurther)
          rfl

/-- A name that holds the end of a row, a separator and the start of another row makes no second
row. -/
theorem tableText_separator_in_name :
    (∀ r ∈ [Row.mk "a\", F_a \x7d,\n\x7b \"b" "F_b"], isIdentifier r.identifier = true)
      ∧ (∀ r ∈ [Row.mk "a" "F_a", Row.mk "b" "F_b"], isIdentifier r.identifier = true)
      ∧ tableText [⟨"a\", F_a \x7d,\n\x7b \"b", "F_b"⟩]
        ≠ tableText [⟨"a", "F_a"⟩, ⟨"b", "F_b"⟩] := by
  have hone : ∀ r ∈ [Row.mk "a\", F_a \x7d,\n\x7b \"b" "F_b"],
      isIdentifier r.identifier = true := by decide
  have htwo : ∀ r ∈ [Row.mk "a" "F_a", Row.mk "b" "F_b"],
      isIdentifier r.identifier = true := by decide
  exact ⟨hone, htwo, (tableText_inj hone htwo).not.mpr (by decide)⟩

end LuaBinder.Code
