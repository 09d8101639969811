import DdlDump.Proofs.Ddl.ClauseBlock
import DdlDump.Proofs.Ddl.ColumnLine

/-!
# What becomes of a table

A warehouse writes a table in a fixed layout: a line with the header, a line for each column,
possibly a line that opens the columns of its partitions and a line for each of these, and clauses.
For statements in this layout the whole of what makes a script replayable is told part by part
(`replayable_tableStatement`): the header is prepared, every column is quoted, and every clause is
either left as it is or struck.
-/

namespace DdlDump

open Text

/-- The parts of a statement that creates a table. -/
structure TableParts where
  /-- Whether the table's data is kept outside the warehouse. -/
  external : Bool
  name : Text
  columns : List ColumnLine
  /-- The columns by which the table is partitioned; none when it is not. -/
  partitions : List ColumnLine
  clauses : List ClauseBlock

namespace TableParts

/-- The line with the header, possibly guarded against a table that exists already. -/
def headerLine (t : TableParts) (guard : Bool) : Text :=
  "CREATE ".toList ++ ((if t.external then "EXTERNAL ".toList else []) ++ ("TABLE ".toList ++
    ((if guard then "IF NOT EXISTS ".toList else []) ++ (t.name ++ ['(']))))

/-- The line that opens the columns of partitions. -/
def partitionLine : Text :=
  "PARTITIONED BY (".toList

/-- The lines that list columns, with every column written as `write` says. -/
def columnLines (t : TableParts) (write : ColumnLine → Text) : List Text :=
  t.columns.map write ++
    (if t.partitions.isEmpty then [] else partitionLine :: t.partitions.map write)

/-- Such a line lists a column, or it opens the columns of partitions. -/
lemma mem_columnLines {t : TableParts} {write : ColumnLine → Text} {l : Text}
    (hl : l ∈ t.columnLines write) :
    (∃ c ∈ t.columns ++ t.partitions, l = write c) ∨ l = partitionLine := by
  unfold columnLines at hl
  rcases List.mem_append.1 hl with hl | hl
  · obtain ⟨c, hc, rfl⟩ := List.mem_map.1 hl
    exact Or.inl ⟨c, List.mem_append_left _ hc, rfl⟩
  · split at hl
    · exact absurd hl List.not_mem_nil
    · rcases List.mem_cons.1 hl with rfl | hl
      · exact Or.inr rfl
      · obtain ⟨c, hc, rfl⟩ := List.mem_map.1 hl
        exact Or.inl ⟨c, List.mem_append_right _ hc, rfl⟩

/-- The lines behind the header. -/
def body (t : TableParts) : List Text :=
  t.columnLines ColumnLine.toLine ++ t.clauses.flatMap ClauseBlock.toLines

/-- All lines of the statement. -/
def toLines (t : TableParts) : List Text :=
  t.headerLine false :: t.body

/-- The lines that drop the table. -/
def dropLines (t : TableParts) : List Text :=
  ["DROP TABLE ".toList ++ (t.name ++ [';']), []]

/-- The lines of the statement as flags make them replayable. A clause is struck when its first line
starts with one of the texts that the flags strike; if this is the last clause, the semicolon at its
end is left on a line of its own. -/
def replayableLines (t : TableParts) (flags : Flags) : List Text :=
  (if flags.isOn .dropTable then t.dropLines else []) ++
    t.headerLine (flags.isOn .ifNotExists) :: (t.columnLines ColumnLine.quoted ++
      ((t.clauses.filter fun b => !opensAny flags.struckClauses b.first).flatMap
          ClauseBlock.toLines ++
        (if t.clauses.getLast?.any fun b => opensAny flags.struckClauses b.first then [[';']]
          else [])))

end TableParts

/-- A statement that creates a table, in the layout of a warehouse: only its last line ends it, no
line but the first starts with CREATE, and columns are listed only behind the header and behind the
line that opens the columns of partitions. -/
structure TableStatement extends TableParts where
  isName : Header.IsName name
  isLine : ∀ b ∈ clauses, ∀ l ∈ b.toLines, IsLine l
  inner : ∀ l ∈ toTableParts.body, Statement.startsWithCreate l = false
  columns_list : ∀ c ∈ columns ++ partitions, Column.opensList c.toLine = false
  clauses_list : ∀ b ∈ clauses, ∀ l ∈ b.toLines, Column.opensList l = false
  unfinished : ∀ l ∈ toTableParts.toLines.dropLast, Line.isTerminated l = false
  finished : ∃ last ∈ toTableParts.toLines.getLast?, Line.isTerminated last = true

namespace TableStatement

/-! ### The header -/

/-- The header of the statement. -/
def header (s : TableStatement) : Header :=
  ⟨[], s.external, .table, false, s.name⟩

/-- The line with the header is the printed header and a parenthesis. -/
lemma headerLine_eq_render (s : TableStatement) (guard : Bool) :
    s.headerLine guard = (s.header.guardedIf guard).render ++ ['('] := by
  obtain ⟨⟨external, name, columns, partitions, clauses⟩, -, -, -, -, -, -, -⟩ := s
  cases external <;> cases guard <;> rfl

/-- The header can be read from its line. -/
lemma parse?_headerLine (s : TableStatement) (guard : Bool) :
    Header.parse? (s.headerLine guard) = some (s.header.guardedIf guard, ['(']) := by
  have hends := Header.endsName_parenthesis []
  have hfree := Header.guardFree_append s.isName.2 hends (by decide)
  exact Header.parse?_eq_some_iff.2 ⟨s.headerLine_eq_render guard,
    by simp [header, Header.guardedIf], s.isName, hends, fun _ => hfree⟩

/-- The header is noticed by every pass. -/
lemma opening_headerLine (s : TableStatement) (guard : Bool) :
    Line.opening (s.headerLine guard) = .recognised := by
  rw [Line.opening_eq_recognised_iff, s.parse?_headerLine]
  rfl

/-- Columns are listed behind the header. -/
lemma opensList_headerLine (s : TableStatement) (guard : Bool) :
    Column.opensList (s.headerLine guard) = true := by
  unfold TableParts.headerLine
  cases s.external with
  | false => exact Column.opensList_append (k := "CREATE TABLE".toList) (by decide) _
  | true => exact Column.opensList_append (k := "CREATE EXTERNAL TABLE".toList) (by decide) _

/-! ### The lines of the statement -/

variable {s : TableStatement}

/-- No line behind the header sets out to create something. -/
lemma opening_of_mem_body {l : Text} (hl : l ∈ s.body) : Line.opening l = .inner :=
  Line.opening_eq_inner_iff.2 (s.inner l hl)

/-- The statement consists of lines. -/
lemma isLine_of_mem_toLines {l : Text} (hl : l ∈ s.toLines) : IsLine l := by
  rcases List.mem_cons.1 hl with rfl | hl
  · have hname : '\n' ∉ s.name := fun h => absurd (s.isName.2 _ h) (by decide)
    unfold IsLine TableParts.headerLine
    cases s.external <;> simp [hname]
  · rcases List.mem_append.1 hl with hl | hl
    · rcases TableParts.mem_columnLines hl with ⟨c, -, rfl⟩ | rfl
      · exact c.isLine_toLine
      · decide
    · obtain ⟨b, hb, hlb⟩ := List.mem_flatMap.1 hl
      exact s.isLine b hb l hlb

/-- The lines in front of the clauses, with the header prepared as flags say. -/
def front (s : TableStatement) (flags : Flags) : List Text :=
  (if flags.isOn .dropTable then s.dropLines else []) ++
    s.headerLine (flags.isOn .ifNotExists) :: s.columnLines ColumnLine.toLine

/-- Preparing the header changes nothing behind it. -/
lemma headerLines_toLines (flags : Flags) :
    headerLines flags s.toLines =
      s.front flags ++ s.clauses.flatMap ClauseBlock.toLines := by
  have hbody : headerLines flags s.body = s.body :=
    headerLines_of_parse?_eq_none flags fun l hl =>
      Line.parse?_eq_none_of_opening (by simp [opening_of_mem_body hl])
  have hheader : preparedLines (flags.isOn .dropTable) (flags.isOn .ifNotExists)
      (s.headerLine false) = (if flags.isOn .dropTable then s.dropLines else []) ++
        [s.headerLine (flags.isOn .ifNotExists)] := by
    unfold preparedLines
    rw [s.parse?_headerLine, s.headerLine_eq_render (flags.isOn .ifNotExists)]
    rfl
  have hcons : headerLines flags s.toLines =
      preparedLines (flags.isOn .dropTable) (flags.isOn .ifNotExists) (s.headerLine false) ++
        headerLines flags s.body := List.flatMap_cons
  rw [hcons, hheader, hbody]
  unfold front TableParts.body
  simp only [List.append_assoc, List.cons_append, List.nil_append]

/-- Whether a line in front of the clauses drops the table, is empty, is the header or lists
columns. -/
lemma front_cases {flags : Flags} {l : Text} (hl : l ∈ s.front flags) :
    l = "DROP TABLE ".toList ++ (s.name ++ [';']) ∨ l = [] ∨
      l = s.headerLine (flags.isOn .ifNotExists) ∨ l ∈ s.columnLines ColumnLine.toLine := by
  unfold front at hl
  rcases List.mem_append.1 hl with hl | hl
  · split at hl
    · rcases List.mem_cons.1 hl with rfl | hl
      · exact Or.inl rfl
      · exact Or.inr (Or.inl (List.mem_singleton.1 hl))
    · exact absurd hl List.not_mem_nil
  · exact Or.inr (Or.inr (List.mem_cons.1 hl))

/-- No line in front of the clauses sets out to create something without a header. -/
lemma opening_of_mem_front {flags : Flags} {l : Text} (hl : l ∈ s.front flags) :
    Line.opening l ≠ .unrecognised := by
  rcases front_cases hl with rfl | rfl | rfl | hl
  · have hinner : Line.opening ("DROP TABLE ".toList ++ (s.name ++ [';'])) = .inner :=
      Line.opening_eq_inner_iff.2 rfl
    rw [hinner]
    decide
  · simp
  · simp [s.opening_headerLine]
  · simp [opening_of_mem_body (s := s) (List.mem_append_left _ hl)]

/-- No line in front of the clauses opens one. -/
lemma opensClause_of_mem_front {flags : Flags} {clause l : Text} (hclause : clause ∈ allClauses)
    (hl : l ∈ s.front flags) : opensClause clause l = false := by
  have hdrop : ∀ k ∈ allClauses, k.head? ≠ some 'D' := by decide
  have hcreate : ∀ k ∈ allClauses, k.head? ≠ some 'C' := by decide
  rcases front_cases hl with rfl | rfl | rfl | hl
  · exact opensClause_of_head? hclause hdrop
  · exact opensClause_nil hclause
  · exact opensClause_of_head? hclause hcreate
  · rcases TableParts.mem_columnLines hl with ⟨c, -, rfl⟩ | rfl
    · exact opensClause_of_isIndented hclause c.isIndented_toLine
    · exact opensClause_of_head? hclause (by decide)

/-! ### The clauses of the statement -/

/-- The lines of the statement around those of one clause. -/
lemma toLines_of_clauses_eq {pre post : List ClauseBlock} {b : ClauseBlock}
    (h : s.clauses = pre ++ b :: post) :
    ∃ before, s.toLines = before ++ (b.toLines ++ post.flatMap ClauseBlock.toLines) := by
  refine ⟨s.headerLine false :: (s.columnLines ColumnLine.toLine ++
    pre.flatMap ClauseBlock.toLines), ?_⟩
  unfold TableParts.toLines TableParts.body
  rw [h]
  simp only [List.flatMap_append, List.flatMap_cons, List.append_assoc, List.cons_append]

/-- A line in front of other lines is not the last one. -/
lemma mem_dropLast_append_left {l : Text} {xs ys : List Text} (hl : l ∈ xs) (hys : ys ≠ []) :
    l ∈ (xs ++ ys).dropLast := by
  rw [List.dropLast_append_of_ne_nil hys]
  exact List.mem_append_left _ hl

/-- A line that is not the last one is not so behind other lines. -/
lemma mem_dropLast_append_right {l : Text} {xs ys : List Text} (hl : l ∈ ys.dropLast) :
    l ∈ (xs ++ ys).dropLast := by
  have hys : ys ≠ [] := List.ne_nil_of_mem (List.dropLast_subset ys hl)
  rw [List.dropLast_append_of_ne_nil hys]
  exact List.mem_append_right xs hl

/-- The clauses are within the statement. -/
lemma isWithin_of_mem_clauses {b : ClauseBlock} (hb : b ∈ s.clauses) : b.IsWithin where
  opening := by
    intro l hl
    have hmem : l ∈ s.body := List.mem_append_right _ (List.mem_flatMap.2 ⟨b, hb, hl⟩)
    simp [opening_of_mem_body hmem]
  unfinished := by
    intro l hl
    obtain ⟨pre, post, hclauses⟩ := List.append_of_mem hb
    obtain ⟨before, hlines⟩ := toLines_of_clauses_eq hclauses
    refine s.unfinished l ?_
    rw [hlines]
    refine mem_dropLast_append_right ?_
    rcases eq_or_ne (post.flatMap ClauseBlock.toLines) [] with hnil | hne
    · rwa [hnil, List.append_nil]
    · exact mem_dropLast_append_left (List.dropLast_subset _ hl) hne

/-- The statement ends in no clause but the last. -/
lemma ends_of_mem_dropLast {b : ClauseBlock} (hb : b ∈ s.clauses.dropLast) : b.ends = false := by
  obtain ⟨pre, post, hinit⟩ := List.append_of_mem hb
  have hne : s.clauses ≠ [] := List.ne_nil_of_mem (List.dropLast_subset _ hb)
  obtain ⟨last, hlast⟩ : ∃ last, s.clauses.dropLast ++ [last] = s.clauses :=
    ⟨s.clauses.getLast hne, List.dropLast_append_getLast hne⟩
  have hclauses : s.clauses = pre ++ b :: (post ++ [last]) := by
    rw [← hlast, hinit, List.append_assoc, List.cons_append]
  obtain ⟨before, hlines⟩ := toLines_of_clauses_eq hclauses
  unfold ClauseBlock.ends
  rw [List.any_eq_false]
  intro l hl
  rw [s.unfinished l, Bool.false_eq_true]
  · exact not_false
  · rw [hlines]
    refine mem_dropLast_append_right (mem_dropLast_append_left hl ?_)
    simp [ClauseBlock.toLines]

/-- The statement ends in the last clause. -/
lemma ends_of_mem_getLast? {b : ClauseBlock} (hb : b ∈ s.clauses.getLast?) : b.ends = true := by
  obtain ⟨init, hinit⟩ := List.getLast?_eq_some_iff.1 (Option.mem_def.1 hb)
  obtain ⟨before, hlines⟩ := toLines_of_clauses_eq hinit
  obtain ⟨last, hlast, hends⟩ := s.finished
  have hne : b.toLines ≠ [] := List.cons_ne_nil _ _
  rw [hlines, List.flatMap_nil, List.append_nil, List.getLast?_append_of_ne_nil _ hne] at hlast
  unfold ClauseBlock.ends
  rw [List.any_eq_true]
  exact ⟨last, List.mem_of_mem_getLast? hlast, hends⟩

/-! ### Quoting the columns -/

/-- The lines that drop the table are left as they are. -/
lemma emit_quoting_dropLines :
    Column.quoting.emit .start s.dropLines = s.dropLines ∧
      Column.quoting.after .start s.dropLines = .start := by
  have hopening : Line.opening ("DROP TABLE ".toList ++ (s.name ++ [';'])) = .inner :=
    Line.opening_eq_inner_iff.2 rfl
  obtain ⟨r, hvisit⟩ := Column.visit_quoting_of_not_isIndented (r := .passing)
    (l := "DROP TABLE ".toList ++ (s.name ++ [';'])) (by rw [hopening]; decide) rfl
  unfold TableParts.dropLines
  rw [Cursor.start, Pass.emit_cons, Pass.after_cons, hvisit, Pass.emit_cons, Pass.after_cons,
    Column.visit_quoting_blank]
  exact ⟨rfl, rfl⟩

/-- A line behind which columns are listed is left as it is. -/
lemma visit_quoting_of_opensList {r : Region} {l : Text} (hopening : Line.opening l ≠ .unrecognised)
    (hl : Column.opensList l = true) :
    Column.quoting.visit ⟨r, false⟩ l = ⟨l, some l, ⟨.columns, false⟩⟩ := by
  rw [Pass.visit_of_opening hopening, Column.quoting_of_opensList hl]

/-- Every column is quoted. -/
lemma emit_quoting_columnLines :
    Column.quoting.emit ⟨.columns, false⟩ (s.columnLines ColumnLine.toLine) =
      s.columnLines ColumnLine.quoted ∧
    Column.quoting.after ⟨.columns, false⟩ (s.columnLines ColumnLine.toLine) =
      ⟨.columns, false⟩ := by
  have hopening : ∀ l ∈ s.columnLines ColumnLine.toLine, Line.opening l ≠ .unrecognised := by
    intro l hl
    simp [opening_of_mem_body (s := s) (List.mem_append_left _ hl)]
  unfold TableParts.columnLines at hopening ⊢
  rw [List.forall_mem_append] at hopening
  obtain ⟨hemit, hafter⟩ := emit_quoting_columns
    (fun c hc => hopening.1 _ (List.mem_map_of_mem hc))
    fun c hc => s.columns_list c (List.mem_append_left _ hc)
  rw [Pass.emit_append, Pass.after_append, hemit, hafter]
  cases hpartitions : s.partitions.isEmpty with
  | true => exact ⟨rfl, rfl⟩
  | false =>
    rw [hpartitions, if_neg (by decide), List.forall_mem_cons] at hopening
    obtain ⟨hemit, hafter⟩ := emit_quoting_columns
      (fun c hc => hopening.2.2 _ (List.mem_map_of_mem hc))
      fun c hc => s.columns_list c (List.mem_append_right _ hc)
    have hline : Column.opensList TableParts.partitionLine = true :=
      Column.opensList_append (k := Statement.partitionKeyword) (by decide) " (".toList
    simp only [Bool.false_eq_true, if_false]
    rw [Pass.emit_cons, Pass.after_cons, visit_quoting_of_opensList hopening.2.1 hline, hafter,
      hemit]
    exact ⟨rfl, rfl⟩

/-- In front of the clauses every column is quoted, and the clauses are left as they are. -/
lemma quotedLines_front_append (flags : Flags) {bs : List ClauseBlock}
    (hbs : ∀ b ∈ bs, b.IsWithin)
    (hlist : ∀ b ∈ bs, ∀ l ∈ b.toLines, Column.opensList l = false) :
    quotedLines (s.front flags ++ bs.flatMap ClauseBlock.toLines) =
      (if flags.isOn .dropTable then s.dropLines else []) ++
        s.headerLine (flags.isOn .ifNotExists) ::
          (s.columnLines ColumnLine.quoted ++ bs.flatMap ClauseBlock.toLines) := by
  have hdrop : Column.quoting.emit .start (if flags.isOn .dropTable then s.dropLines else []) =
        (if flags.isOn .dropTable then s.dropLines else []) ∧
      Column.quoting.after .start (if flags.isOn .dropTable then s.dropLines else []) =
        .start := by
    split
    · exact emit_quoting_dropLines
    · exact ⟨rfl, rfl⟩
  have hheader : Column.quoting.visit .start (s.headerLine (flags.isOn .ifNotExists)) =
      ⟨s.headerLine (flags.isOn .ifNotExists), some (s.headerLine (flags.isOn .ifNotExists)),
        ⟨.columns, false⟩⟩ :=
    visit_quoting_of_opensList (by simp [s.opening_headerLine]) (s.opensList_headerLine _)
  obtain ⟨hcolumns, hafter⟩ := emit_quoting_columnLines (s := s)
  unfold quotedLines front
  rw [List.append_assoc, Pass.emit_append, hdrop.1, hdrop.2, List.cons_append, Pass.emit_cons,
    hheader, Pass.emit_append, hcolumns, hafter, emit_quoting_blocks hbs hlist]
  rfl

/-- The lines that become of the lines of the statement. -/
theorem replayableLines_toLines (s : TableStatement) (flags : Flags) :
    DdlDump.replayableLines flags s.toLines = s.replayableLines flags := by
  have hclauses := struckClauses_subset flags
  have hkept : keptByAll flags.struckClauses (s.front flags ++
      s.clauses.flatMap ClauseBlock.toLines) = s.front flags ++
        (s.clauses.flatMap (ClauseBlock.strike (opensAny flags.struckClauses))).flatMap
          ClauseBlock.toLines :=
    keptByAll_blocks hclauses (fun l hl => opening_of_mem_front hl)
      (fun clause hclause l hl => opensClause_of_mem_front (hclauses hclause) hl)
      fun b hb => isWithin_of_mem_clauses hb
  have hwithin : ∀ b ∈ s.clauses.flatMap (ClauseBlock.strike (opensAny flags.struckClauses)),
      b.IsWithin :=
    fun _ hb => ClauseBlock.isWithin_of_mem_flatMap_strike
      (fun _ hc => isWithin_of_mem_clauses hc) hb
  have hlist : ∀ b ∈ s.clauses.flatMap (ClauseBlock.strike (opensAny flags.struckClauses)),
      ∀ l ∈ b.toLines, Column.opensList l = false := by
    intro b hb l hl
    obtain ⟨c, hc, hbc⟩ := List.mem_flatMap.1 hb
    rcases ClauseBlock.eq_or_eq_of_mem_strike hbc with rfl | rfl
    · exact s.clauses_list _ hc l hl
    · rw [List.mem_singleton.1 hl]
      exact Column.opensList_semicolon
  have hstruck : s.clauses.flatMap (ClauseBlock.strike (opensAny flags.struckClauses)) =
      (s.clauses.filter fun b => !opensAny flags.struckClauses b.first) ++
        (if s.clauses.getLast?.any fun b => opensAny flags.struckClauses b.first then
          [ClauseBlock.separator] else []) :=
    ClauseBlock.flatMap_strike (fun _ hb => ends_of_mem_dropLast hb)
      fun _ hb => ends_of_mem_getLast? hb
  have hend : (if s.clauses.getLast?.any fun b => opensAny flags.struckClauses b.first then
      [ClauseBlock.separator] else []).flatMap ClauseBlock.toLines =
        if s.clauses.getLast?.any fun b => opensAny flags.struckClauses b.first then [[';']]
          else [] := by
    split <;> rfl
  unfold DdlDump.replayableLines TableParts.replayableLines
  rw [headerLines_toLines, hkept, quotedLines_front_append flags hwithin hlist, hstruck,
    List.flatMap_append, hend]

end TableStatement

/-- A table in the layout of a warehouse becomes what the flags make of its parts. -/
theorem replayable_tableStatement (s : TableStatement) {flags : Flags}
    (hstrict : flags.isOn .strict = false) :
    replayable flags (ofLines s.toLines) = .ok (ofLines (s.replayableLines flags)) := by
  unfold replayable
  rw [hstrict, (lineByLine_prepare flags _ fun l hl => TableStatement.isLine_of_mem_toLines hl).1,
    s.replayableLines_toLines]
  rfl

/-- A partitioned table whose last clauses are struck. -/
def partitionedTable : TableStatement where
  external := true
  name := "d.t".toList
  columns :=
    [⟨"  ".toList, "a".toList, "int,".toList, ⟨by decide, List.all_eq_true.1 (by decide)⟩,
        ⟨by decide, List.all_eq_true.1 (by decide)⟩, by decide, by decide⟩,
      ⟨"\t".toList, "key".toList, "string)".toList, ⟨by decide, List.all_eq_true.1 (by decide)⟩,
        ⟨by decide, List.all_eq_true.1 (by decide)⟩, by decide, by decide⟩]
  partitions :=
    [⟨"  ".toList, "dt".toList, "string)".toList, ⟨by decide, List.all_eq_true.1 (by decide)⟩,
        ⟨by decide, List.all_eq_true.1 (by decide)⟩, by decide, by decide⟩]
  clauses :=
    [⟨"ROW FORMAT SERDE".toList, ["  'x'".toList], by decide, by decide⟩,
      ⟨"LOCATION".toList, ["  '/t'".toList], by decide, by decide⟩,
      ⟨"TBLPROPERTIES (".toList, ["  'k'='v')  ;".toList], by decide, by decide⟩]
  isName := ⟨by decide, List.all_eq_true.1 (by decide)⟩
  isLine := by decide
  inner := by decide
  columns_list := by decide +kernel
  clauses_list := by decide +kernel
  unfinished := by decide
  finished := by decide

/-- Such a table, when two of its clauses are struck and it is dropped before it is created. -/
theorem replayable_partitionedTable :
    let flags := Flags.ofList [.dropTable, .ifNotExists, .suppressRowFormat, .suppressTblproperties]
    flags.isOn .strict = false ∧
    replayable flags (ofLines partitionedTable.toLines) =
      .ok (ofLines (["DROP TABLE d.t;", "", "CREATE EXTERNAL TABLE IF NOT EXISTS d.t(",
        "  \x60a\x60 int,", "\t\x60key\x60 string)", "PARTITIONED BY (", "  \x60dt\x60 string)",
        "LOCATION", "  '/t'", ";"].map String.toList)) := by
  intro flags
  have hstrict : flags.isOn .strict = false := by decide
  have hlines : partitionedTable.replayableLines flags =
      ["DROP TABLE d.t;", "", "CREATE EXTERNAL TABLE IF NOT EXISTS d.t(",
        "  \x60a\x60 int,", "\t\x60key\x60 string)", "PARTITIONED BY (", "  \x60dt\x60 string)",
        "LOCATION", "  '/t'", ";"].map String.toList := by decide +kernel
  have hreplayable := replayable_tableStatement partitionedTable hstrict
  rw [hlines] at hreplayable
  exact ⟨hstrict, hreplayable⟩

end DdlDump
