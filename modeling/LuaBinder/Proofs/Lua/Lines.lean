import LuaBinder.Proofs.Lua.Characters
import LuaBinder.Proofs.Lua.Statements

/-!
What the lines of wrappers and choosers are made of, apart from the braces of their scopes.

* `LinesConsist`: the lines of statements pass a test, character by character.
* `Wrapper.linesConsist_statements`, `Chooser.linesConsist_statements`: so do those of wrappers and
  choosers, if the texts of the declaration do.
-/

namespace LuaBinder.Lua

open Code Text

variable {p : Char → Bool}

/-! ### Lines -/

/-- The lines of the statements pass a test, character by character. -/
def LinesConsist (p : Char → Bool) (ss : List Statement) : Prop :=
  ∀ l ∈ linesAll ss, Consists p l.text

section Lines

variable {ss ts : List Statement}

lemma linesConsist_nil : LinesConsist p [] := fun _ hl => absurd hl List.not_mem_nil

lemma linesConsist_append :
    LinesConsist p (ss ++ ts) ↔ LinesConsist p ss ∧ LinesConsist p ts := by
  rw [LinesConsist, linesAll_append, List.forall_mem_append]
  rfl

lemma linesConsist_line {l : Line} :
    LinesConsist p (.line l :: ss) ↔ Consists p l.text ∧ LinesConsist p ss := by
  rw [LinesConsist, linesAll, Statement.lines, List.forall_mem_append]
  simp [LinesConsist]

lemma linesConsist_scopes {s : Scopes} :
    LinesConsist p (.scopes s :: ss) ↔ (∀ l ∈ s.lines, Consists p l.text) ∧ LinesConsist p ss := by
  rw [LinesConsist, linesAll, Statement.lines, List.forall_mem_append]
  rfl

lemma linesConsist_flatMap {α : Type} {statements : α → List Statement} {as : List α}
    (h : ∀ a ∈ as, LinesConsist p (statements a)) : LinesConsist p (as.flatMap statements) := by
  intro l hl
  rw [linesAll_flatMap] at hl
  obtain ⟨a, ha, hl⟩ := List.mem_flatMap.mp hl
  exact h a ha l hl

lemma forall_lines_last {head : Line} :
    (∀ l ∈ (Scopes.last head ss).lines, Consists p l.text)
      ↔ Consists p head.text ∧ LinesConsist p ss := by
  rw [Scopes.lines, List.forall_mem_cons]
  rfl

lemma forall_lines_next {head : Line} {rest : Scopes} :
    (∀ l ∈ (Scopes.next head ss rest).lines, Consists p l.text)
      ↔ Consists p head.text ∧ LinesConsist p ss ∧ ∀ l ∈ rest.lines, Consists p l.text := by
  rw [Scopes.lines, List.cons_append, List.forall_mem_cons, List.forall_mem_append]
  rfl

end Lines

lemma Parameter.MadeOf.linesConsist {param : Parameter} {library : String}
    (hparam : param.MadeOf p) (hp : Admits p) (hlibrary : Consists p library) :
    LinesConsist p (param.statements library) := by
  have hname := hparam.name
  have hbase := hparam.base
  have hslot := consists_toString_nat hp param.slot
  rw [Parameter.statements]
  cases hshape : param.shape with
  | value c =>
      refine linesConsist_line.mpr ⟨?_, linesConsist_nil⟩
      rw [text_fetchLine]
      exact (hparam.conversion c hshape).fetch hp hlibrary hname _
  | array element length =>
      obtain ⟨helement, hlength⟩ := hparam.element element length hshape
      have hread := helement.fetch hp hlibrary (consists_ofList hp rfl : Consists p "v__") .top
      have hloop : Consists p loopVar := consists_ofList hp rfl
      simp only [linesConsist_line, linesConsist_scopes, Parameter.loop, forall_lines_last,
        text_fetchLine, elementVar, hread, linesConsist_nil, and_true, true_and]
      simp only [Line.text, consists_append, hname, hbase, hslot, hlength, hloop, and_true,
        true_and]
      and_intros <;> exact consists_ofList hp rfl

namespace Wrapper

variable {w : Wrapper} (hw : w.MadeOf p) (hp : Admits p)

include hw hp

lemma linesConsist_callStatements {passed : List Parameter}
    (hpassed : ∀ param ∈ passed, param.MadeOf p) : LinesConsist p (w.callStatements passed) := by
  have hcall := hw.callText hp hpassed
  rw [callStatements]
  split
  · simp only [linesConsist_line, Line.text, consists_append, hcall, linesConsist_nil, and_true,
      true_and]
    and_intros <;> exact consists_ofList hp rfl
  · next r hr =>
      have hresult := hw.result r hr
      have hpush := hw.resultPush hp hresult
      have hvar : Consists p resultVar := consists_ofList hp rfl
      have hdeclaration := consists_declaration hp hresult.localType hvar
      rw [declaration_eq] at hdeclaration
      simp only [linesConsist_line, Line.text, consists_append (a := _ ++ resultVar), hdeclaration]
      simp only [consists_append, hcall, hpush, linesConsist_nil, and_true, true_and]
      and_intros <;> exact consists_ofList hp rfl

lemma linesConsist_branchStatements {b : Branch} (hb : b ∈ w.branches) :
    LinesConsist p (w.branchStatements b) := by
  obtain ⟨hfetched, hpassed⟩ := hw.branches b hb
  refine linesConsist_append.mpr ⟨linesConsist_flatMap fun param hparam => ?_,
    linesConsist_callStatements hw hp hpassed⟩
  exact (hfetched param hparam).linesConsist hp hw.library

omit hw in
lemma consists_branchEntry (isFirst : Bool) (minTop : Option Nat) :
    Consists p (branchEntry isFirst minTop) := by
  cases minTop with
  | none => exact (consists_ofList hp rfl : Consists p "else")
  | some top =>
      have htop := consists_toString_nat hp top
      have hhead : Consists p (if isFirst then "if" else "else if") := by
        cases isFirst <;> exact consists_ofList hp rfl
      have hvar : Consists p topVar := consists_ofList hp rfl
      dsimp only [branchEntry]
      simp only [consists_append, hhead, hvar, htop, and_true, true_and]
      and_intros <;> exact consists_ofList hp rfl

lemma forall_lines_branchScopes {isFirst : Bool} {b : Branch} {bs : List Branch}
    (hb : b ∈ w.branches) (hbs : ∀ b ∈ bs, b ∈ w.branches) :
    ∀ l ∈ (w.branchScopes isFirst b bs).lines, Consists p l.text := by
  have hentry := consists_branchEntry hp isFirst b.minTop
  have hbody := linesConsist_branchStatements hw hp hb
  induction bs generalizing isFirst b with
  | nil => exact forall_lines_last.mpr ⟨hentry, hbody⟩
  | cons next bs ih =>
      obtain ⟨hnext, hbs⟩ := List.forall_mem_cons.mp hbs
      exact forall_lines_next.mpr ⟨hentry, hbody, ih hnext hbs
        (consists_branchEntry hp false next.minTop) (linesConsist_branchStatements hw hp hnext)⟩

omit hw in
lemma consists_topLine : Consists p topLine.text := by
  have hvar : Consists p topVar := consists_ofList hp rfl
  simp only [topLine, Line.text, consists_append, hvar, and_true]
  and_intros <;> exact consists_ofList hp rfl

lemma linesConsist_branchesStatements : LinesConsist p w.branchesStatements := by
  rw [branchesStatements]
  split
  · exact linesConsist_nil
  · next b hb => exact linesConsist_branchStatements hw hp (hb ▸ List.mem_cons_self)
  · next b bs _ hb =>
      refine linesConsist_line.mpr ⟨consists_topLine hp, linesConsist_scopes.mpr
        ⟨forall_lines_branchScopes hw hp (hb ▸ List.mem_cons_self) fun b' hb' => ?_,
          linesConsist_nil⟩⟩
      exact hb ▸ List.mem_cons_of_mem b hb'

lemma linesConsist_selfStatements : LinesConsist p w.selfStatements := by
  rw [selfStatements]
  split
  · exact linesConsist_nil
  · next className hclass =>
      have hconversion : (Conversion.object className true).MadeOf p :=
        ⟨fun _ ht => List.mem_singleton.mp ht ▸ hw.selfClass className hclass⟩
      have hvar : Consists p selfVar := consists_ofList hp rfl
      refine linesConsist_line.mpr ⟨?_, linesConsist_nil⟩
      rw [text_fetchLine]
      exact hconversion.fetch hp hw.library hvar _

lemma linesConsist_guardedStatements : LinesConsist p w.guardedStatements := by
  rw [guardedStatements, linesConsist_append, linesConsist_append]
  exact ⟨⟨linesConsist_selfStatements hw hp, linesConsist_flatMap fun param hparam =>
    (hw.fetched param hparam).linesConsist hp hw.library⟩, linesConsist_branchesStatements hw hp⟩

omit hw in
lemma consists_definitionEntry {name : String} (hname : Consists p name) :
    Consists p (definitionEntry name).text := by
  have hvar : Consists p stateVar := consists_ofList hp rfl
  simp only [definitionEntry, Line.text, consists_append, hname, hvar, and_true]
  and_intros <;> exact consists_ofList hp rfl

/-- The lines of a wrapper are made of what the wrapper is made of. -/
lemma linesConsist_statements : LinesConsist p w.statements := by
  have hname := hw.qualifiedName
  have hguarded := linesConsist_guardedStatements hw hp
  have hentry := consists_definitionEntry hp hw.name
  simp only [statements, bodyStatements, guardedScopes, handlerScopes, linesConsist_scopes,
    linesConsist_line, forall_lines_next, forall_lines_last, hguarded, hentry, linesConsist_nil,
    true_and, and_true]
  simp only [Line.text, consists_append, hname, and_true]
  and_intros <;> exact consists_ofList hp rfl

end Wrapper

/-! ### Choosers -/

namespace Chooser

/-- The texts of a chooser below its comment pass a test, character by character. -/
structure MadeOf (p : Char → Bool) (c : Chooser) : Prop where
  name : Consists p c.name
  qualifiedName : Consists p c.qualifiedName
  alternatives : ∀ a ∈ c.alternatives, Consists p a.text ∧ Consists p a.target

variable {c : Chooser}

lemma forall_lines_alternativeScopes (hp : Admits p) {isFirst : Bool} {a : Alternative}
    {as : List Alternative} (h : ∀ b ∈ a :: as, Consists p b.text ∧ Consists p b.target) :
    ∀ l ∈ (alternativeScopes isFirst a as).lines, Consists p l.text := by
  have hentry : ∀ (isFirst : Bool) (a : Alternative), Consists p a.text →
      Consists p (alternativeEntry isFirst a).text := by
    intro isFirst a htext
    have hhead : Consists p (if isFirst then "if" else "else if") := by
      cases isFirst <;> exact consists_ofList hp rfl
    simp only [alternativeEntry, Line.text, consists_append, htext, hhead, and_true, true_and]
    and_intros <;> exact consists_ofList hp rfl
  have hbody : ∀ a : Alternative, Consists p a.target → LinesConsist p (alternativeStatements a) := by
    intro a htarget
    simp only [alternativeStatements, linesConsist_line, Line.text, consists_append, htarget,
      linesConsist_nil, and_true]
    and_intros <;> exact consists_ofList hp rfl
  induction as generalizing isFirst a with
  | nil =>
      obtain ⟨htext, htarget⟩ := h a List.mem_cons_self
      exact forall_lines_last.mpr ⟨hentry isFirst a htext, hbody a htarget⟩
  | cons next as ih =>
      obtain ⟨⟨htext, htarget⟩, hrest⟩ := List.forall_mem_cons.mp h
      exact forall_lines_next.mpr ⟨hentry isFirst a htext, hbody a htarget, ih hrest⟩

/-- The lines of a chooser are made of what the chooser is made of. -/
lemma linesConsist_statements (hc : c.MadeOf p) (hp : Admits p) : LinesConsist p c.statements := by
  have hname := hc.qualifiedName
  have hentry := Wrapper.consists_definitionEntry hp hc.name
  have htop := Wrapper.consists_topLine hp
  have hchoice : LinesConsist p c.choiceStatements := by
    rw [choiceStatements]
    cases halternatives : c.alternatives with
    | nil => exact linesConsist_nil
    | cons a as =>
        exact linesConsist_scopes.mpr ⟨forall_lines_alternativeScopes hp
          (halternatives ▸ hc.alternatives), linesConsist_nil⟩
  simp only [statements, bodyStatements, linesConsist_scopes, forall_lines_last, linesConsist_line,
    List.cons_append, linesConsist_append, hentry, htop, hchoice, linesConsist_nil, true_and,
    and_true]
  simp only [Line.text, consists_append, hname, and_true]
  and_intros <;> exact consists_ofList hp rfl

end Chooser

end LuaBinder.Lua
