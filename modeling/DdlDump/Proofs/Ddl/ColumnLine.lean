import DdlDump.Proofs.Ddl.Column
import DdlDump.Proofs.Text.Front

/-!
# Lines that list a column

A column is listed on an indented line that starts with a word, unless this is the first word of a
constraint. In a list of columns the word is put in quotes and nothing else on the line is changed
(`emit_quoting_columns`).
-/

namespace DdlDump

open Text

/-- The words with which constraints start. -/
def constraintWords : List Text :=
  ["CONSTRAINT", "PRIMARY", "FOREIGN"].map String.toList

/-- A line that lists a column: an indent, the name of the column, and the rest of the line behind a
space. -/
structure ColumnLine where
  indent : Text
  name : Text
  rest : Text
  isIndent : indent ≠ [] ∧ ∀ c ∈ indent, DdlDump.isIndent c = true
  isWord : name ≠ [] ∧ ∀ c ∈ name, isWordChar c = true
  not_constraint : name ∉ constraintWords
  isLine : IsLine rest

namespace ColumnLine

/-- The line, as it is written. -/
def toLine (c : ColumnLine) : Text :=
  c.indent ++ (c.name ++ ' ' :: c.rest)

/-- The line with the name of the column in quotes. -/
def quoted (c : ColumnLine) : Text :=
  c.indent ++ '\x60' :: (c.name ++ '\x60' :: ' ' :: c.rest)

/-- It is a line. -/
lemma isLine_toLine (c : ColumnLine) : IsLine c.toLine := by
  have hindent : '\n' ∉ c.indent := fun h => absurd (c.isIndent.2 _ h) (by decide)
  have hname : '\n' ∉ c.name := fun h => absurd (c.isWord.2 _ h) (by decide)
  have hrest : '\n' ∉ c.rest := c.isLine
  unfold IsLine toLine
  simp [hindent, hname, hrest]

/-! ### The name of the column -/

/-- A text that starts with the words of a constraint starts with the first of them, as a word. -/
lemma word_mem_of_opensConstraint {t : Text} (h : Column.opensConstraint t = true) :
    word t ∈ constraintWords := by
  unfold Column.opensConstraint Column.constraintKeywords at h
  simp only [List.any_cons, List.any_nil, Bool.or_false, Bool.or_eq_true, Option.any_eq_true] at h
  unfold constraintWords
  rcases h with ⟨r, hr, hend⟩ | ⟨r, hr, -⟩ | ⟨r, hr, -⟩
  · have hword : word t = "CONSTRAINT".toList := by
      rw [after?_eq_some_iff.1 hr]
      exact word_append (List.all_eq_true.1 (by decide)) hend
    rw [hword]
    decide
  · have hword : word t = "PRIMARY".toList := by
      rw [after?_eq_some_iff.1 hr]
      exact word_append (w := "PRIMARY".toList) (List.all_eq_true.1 (by decide))
        (atWordEnd_space ("KEY".toList ++ r))
    rw [hword]
    decide
  · have hword : word t = "FOREIGN".toList := by
      rw [after?_eq_some_iff.1 hr]
      exact word_append (w := "FOREIGN".toList) (List.all_eq_true.1 (by decide))
        (atWordEnd_space ("KEY".toList ++ r))
    rw [hword]
    decide

/-- The line names its column. -/
lemma namesColumn_toLine (c : ColumnLine) :
    Column.NamesColumn c.toLine c.indent c.name (' ' :: c.rest) where
  cut := rfl
  isIndent := c.isIndent
  isWord := c.isWord
  ends := by
    intro d hd
    rw [← Option.some.inj hd]
    exact Or.inl (by decide)
  noConstraint := by
    rw [← Column.opensConstraint_eq_false_iff, ← Bool.not_eq_true]
    intro hconstraint
    have hword : word (c.name ++ ' ' :: c.rest) = c.name :=
      word_append c.isWord.2 (atWordEnd_space c.rest)
    exact c.not_constraint (hword ▸ word_mem_of_opensConstraint hconstraint)

/-- The line is indented. -/
lemma isIndented_toLine (c : ColumnLine) : Line.isIndented c.toLine = true :=
  c.namesColumn_toLine.isIndented_append _

/-- Quoting puts the name of the column in quotes. -/
theorem quoteName_toLine (c : ColumnLine) : Column.quoteName c.toLine = c.quoted :=
  c.namesColumn_toLine.quoteName_eq

end ColumnLine

/-- In a list of columns every column is quoted. -/
theorem emit_quoting_columns {cs : List ColumnLine}
    (hopening : ∀ c ∈ cs, Line.opening c.toLine ≠ .unrecognised)
    (hlist : ∀ c ∈ cs, Column.opensList c.toLine = false) :
    Column.quoting.emit ⟨.columns, false⟩ (cs.map ColumnLine.toLine) = cs.map ColumnLine.quoted ∧
    Column.quoting.after ⟨.columns, false⟩ (cs.map ColumnLine.toLine) = ⟨.columns, false⟩ := by
  induction cs with
  | nil => exact ⟨rfl, rfl⟩
  | cons c cs ih =>
    obtain ⟨hemit, hafter⟩ := ih (fun d hd => hopening d (List.mem_cons_of_mem c hd))
      fun d hd => hlist d (List.mem_cons_of_mem c hd)
    rw [List.map_cons, Pass.emit_cons, Pass.after_cons,
      Pass.visit_of_opening (hopening c List.mem_cons_self),
      Column.quoting_of_isIndented (hlist c List.mem_cons_self) c.isIndented_toLine,
      c.quoteName_toLine]
    exact ⟨congrArg (c.quoted :: ·) hemit, hafter⟩

end DdlDump
