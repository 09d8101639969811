import DdlDump.Proofs.Ddl.StatementHeader
import DdlDump.Proofs.Ddl.TableStatement
import DdlDump.Proofs.Partition.Parts

/-!
# Tables with comments on their columns

The comment of a column is written in single quotes behind its type and may hold any words and any
separators. A script is cut and searched without regard to the quotes: it is cut at a semicolon in a
comment as at any other, and the words that open the columns of partitions count in a comment as
they do on a line of their own.

The table is thus found or missed by what stands in front of the first semicolon of its statement
(`partitionedNames_commentedTable`): it is found when it has partitions and no comment of its own
columns has a semicolon, and also when the words that open the columns of partitions stand in a
comment in front of all semicolons. A semicolon in the comment of a column hides the partitions
behind it (`partitionedNames_commentedTable_semicolon`).
-/

namespace DdlDump

open Text

/-! ### Cutting at the first semicolon -/

section Cut

variable {a b front back : Text}

/-- Where a text is cut at a semicolon, a part in front of it without semicolons is not cut. -/
lemma exists_append_of_cut (ha : ';' ∉ a) (hcut : front ++ ';' :: back = a ++ b) :
    ∃ r, front = a ++ r ∧ b = r ++ ';' :: back := by
  rcases List.append_eq_append_iff.1 hcut with ⟨d, rfl, hd⟩ | hbehind
  · cases d with
    | nil => exact ⟨[], by simp, hd.symm⟩
    | cons c d =>
      obtain ⟨rfl, -⟩ := List.cons.inj hd
      exact absurd (List.mem_append_right front List.mem_cons_self) ha
  · exact hbehind

/-- A text with a semicolon is cut at the first one. -/
lemma exists_dropWhile_eq (ha : ';' ∈ a) : ∃ r, a.dropWhile (· != ';') = ';' :: r := by
  induction a with
  | nil => exact absurd ha List.not_mem_nil
  | cons c a ih =>
    rcases eq_or_ne c ';' with rfl | hc
    · exact ⟨a, rfl⟩
    · obtain ⟨r, hr⟩ := ih ((List.mem_cons.1 ha).resolve_left hc.symm)
      exact ⟨r, by rw [List.dropWhile_cons_of_pos (by simpa using hc), hr]⟩

/-- Where a text is cut at its first semicolon, this is in the part that has one. -/
lemma isPrefix_of_cut (hfront : ';' ∉ front) (ha : ';' ∈ a)
    (hcut : front ++ ';' :: back = a ++ b) : front <+: a := by
  rcases List.append_eq_append_iff.1 hcut with ⟨d, rfl, -⟩ | ⟨d, rfl, -⟩
  · exact List.prefix_append front d
  · exact absurd (List.mem_append_left d ha) hfront

end Cut

/-! ### Columns -/

/-- A line that lists a column, possibly with a comment. -/
structure CommentedColumn where
  indent : Text
  name : Text
  type : Text
  /-- The characters between the quotes of the comment. -/
  comment : Option Text
  /-- What follows the column: a comma, or the parenthesis behind the last one. -/
  mark : Char
  isIndent : ∀ c ∈ indent, DdlDump.isIndent c = true
  isWord : name ≠ [] ∧ ∀ c ∈ name, isWordChar c = true
  isType : IsLine type ∧ ';' ∉ type
  /-- The words that open the columns of partitions can stand in the comment only. -/
  plain : ¬ Statement.partitionKeyword <:+: name ++ ' ' :: type
  isLiteral : ∀ l ∈ comment, IsLine l ∧ '\'' ∉ l ∧ '\\' ∉ l
  isMark : mark = ',' ∨ mark = ')'

namespace CommentedColumn

/-- The line without its comment and its mark. -/
def definition (c : CommentedColumn) : Text :=
  c.indent ++ (c.name ++ ' ' :: c.type)

/-- The comment, as it is written behind the type. -/
def commentText (c : CommentedColumn) : Text :=
  match c.comment with
  | none => []
  | some l => " COMMENT ".toList ++ '\'' :: (l ++ ['\''])

/-- The line, as it is written. -/
def toLine (c : CommentedColumn) : Text :=
  c.definition ++ c.commentText ++ [c.mark]

/-- The comments of columns. -/
def comments (cs : List CommentedColumn) : List Text :=
  cs.filterMap comment

section Line

variable {c : CommentedColumn}

/-- The definition of a column does not hold the words that open the columns of partitions. -/
lemma not_isInfix_definition (c : CommentedColumn) :
    ¬ Statement.partitionKeyword <:+: c.definition := by
  intro h
  exact c.plain (isInfix_of_run_append (p := DdlDump.isIndent) (by decide) c.isIndent h)

/-- Nor does it go on with them in front of a comment. -/
lemma not_isInfix_definition_comment (c : CommentedColumn) :
    ¬ Statement.partitionKeyword <:+: c.definition ++ " COMMENT ".toList := by
  intro h
  -- the words hold no `C`
  have hsplit : c.definition ++ " COMMENT ".toList =
      (c.definition ++ [' ']) ++ 'C' :: "OMMENT ".toList := by simp
  rw [hsplit] at h
  rcases isInfix_append_cons (by decide) h with hfront | hbehind
  · rcases List.infix_concat_iff.1 hfront with ⟨r, hr⟩ | hdefinition
    · have hlast := congrArg List.getLast? hr
      rw [List.getLast?_concat, List.getLast?_append_of_ne_nil _ (by decide)] at hlast
      exact absurd hlast (by decide)
    · exact c.not_isInfix_definition hdefinition
  · exact absurd hbehind (by decide +kernel)

/-- Nor does its mark stand in them. -/
lemma mark_not_mem (c : CommentedColumn) : c.mark ∉ Statement.partitionKeyword := by
  rcases c.isMark with hmark | hmark <;> rw [hmark] <;> decide

/-- These words stand on the line of a column only where its comment holds them. -/
lemma exists_comment_of_isInfix_toLine (h : Statement.partitionKeyword <:+: c.toLine) :
    ∃ l ∈ c.comment, Statement.partitionKeyword <:+: l := by
  unfold toLine at h
  replace h : Statement.partitionKeyword <:+: c.definition ++ c.commentText := by
    rcases isInfix_append_cons c.mark_not_mem h with h | h
    · exact h
    · exact absurd h (by decide)
  unfold commentText at h
  cases hcomment : c.comment with
  | none =>
    rw [hcomment, List.append_nil] at h
    exact absurd h c.not_isInfix_definition
  | some l =>
    rw [hcomment, ← List.append_assoc] at h
    refine ⟨l, rfl, ?_⟩
    rcases isInfix_append_cons (by decide) h with hfront | hbehind
    · exact absurd hfront c.not_isInfix_definition_comment
    · rcases isInfix_append_cons (by decide) hbehind with hl | hnil
      · exact hl
      · exact absurd hnil (by decide)

/-- The line of a column holds a semicolon only where its comment does. -/
lemma mem_toLine_iff : ';' ∈ c.toLine ↔ ∃ l ∈ c.comment, ';' ∈ l := by
  have hindent : ';' ∉ c.indent := fun h => absurd (c.isIndent _ h) (by decide)
  have hname : ';' ∉ c.name := fun h => absurd (c.isWord.2 _ h) (by decide)
  have hmark : c.mark ≠ ';' := by
    rcases c.isMark with hmark | hmark <;> rw [hmark] <;> decide
  unfold toLine definition commentText
  cases c.comment with
  | none => simp [hindent, hname, hmark.symm, c.isType.2]
  | some l => simp [hindent, hname, hmark.symm, c.isType.2]

/-- It is a line. -/
lemma isLine_toLine (c : CommentedColumn) : IsLine c.toLine := by
  have hindent : '\n' ∉ c.indent := fun h => absurd (c.isIndent _ h) (by decide)
  have hname : '\n' ∉ c.name := fun h => absurd (c.isWord.2 _ h) (by decide)
  have htype : '\n' ∉ c.type := c.isType.1
  have hmark : c.mark ≠ '\n' := by
    rcases c.isMark with hmark | hmark <;> rw [hmark] <;> decide
  have hcomment : ∀ l ∈ c.comment, '\n' ∉ l := fun l hl => (c.isLiteral l hl).1
  unfold IsLine toLine definition commentText
  cases hc : c.comment with
  | none => simp [hindent, hname, hmark.symm, htype]
  | some l => simp [hindent, hname, hmark.symm, htype, hcomment l hc]

/-- Columns hold a semicolon on their lines only where a comment does. -/
lemma mem_flatten_iff {cs : List CommentedColumn} :
    ';' ∈ (cs.map toLine).flatten ↔ ∃ l ∈ comments cs, ';' ∈ l := by
  unfold comments
  simp only [List.mem_flatten, List.mem_map, List.mem_filterMap, ← Option.mem_def]
  constructor
  · rintro ⟨line, ⟨c, hc, rfl⟩, hmem⟩
    obtain ⟨l, hl, hsemicolon⟩ := mem_toLine_iff.1 hmem
    exact ⟨l, ⟨c, hc, hl⟩, hsemicolon⟩
  · rintro ⟨l, ⟨c, hc, hl⟩, hsemicolon⟩
    exact ⟨c.toLine, ⟨c, hc, rfl⟩, mem_toLine_iff.2 ⟨l, hl, hsemicolon⟩⟩

/-- The column with its comment cut off at the first semicolon. -/
def cutShort (c : CommentedColumn) : CommentedColumn where
  indent := c.indent
  name := c.name
  type := c.type
  comment := c.comment.map (List.takeWhile (· != ';'))
  mark := c.mark
  isIndent := c.isIndent
  isWord := c.isWord
  isType := c.isType
  plain := c.plain
  isLiteral := by
    intro k hk
    obtain ⟨l, hl, rfl⟩ := Option.map_eq_some_iff.1 hk
    obtain ⟨hline, hquote, hescape⟩ := c.isLiteral l hl
    have hsub : ∀ d ∈ l.takeWhile (· != ';'), d ∈ l := fun d hd => List.takeWhile_subset _ hd
    exact ⟨fun h => hline (hsub _ h), fun h => hquote (hsub _ h), fun h => hescape (hsub _ h)⟩
  isMark := c.isMark

/-- Up to the first semicolon of its comment, a line does not depend on what follows there. -/
lemma exists_toLine_eq {l : Text} (hl : c.comment = some l) :
    ∃ start, ';' ∉ start ++ l.takeWhile (· != ';') ∧
      c.toLine = start ++ l.takeWhile (· != ';') ++ (l.dropWhile (· != ';') ++ ['\'', c.mark]) ∧
      c.cutShort.toLine = start ++ l.takeWhile (· != ';') ++ ['\'', c.mark] := by
  refine ⟨c.definition ++ " COMMENT '".toList, ?_, ?_, ?_⟩
  · have hindent : ';' ∉ c.indent := fun h => absurd (c.isIndent _ h) (by decide)
    have hname : ';' ∉ c.name := fun h => absurd (c.isWord.2 _ h) (by decide)
    have htaken : ';' ∉ l.takeWhile (· != ';') := fun h => by
      simpa using List.mem_takeWhile_imp h
    unfold definition
    simp [hindent, hname, c.isType.2, htaken]
  · unfold toLine commentText
    rw [hl, List.append_assoc _ (l.takeWhile _), ← List.append_assoc (l.takeWhile _),
      List.takeWhile_append_dropWhile]
    simp
  · have hshort : c.cutShort.comment = some (l.takeWhile (· != ';')) :=
      congrArg (Option.map _) hl
    have hdefinition : c.cutShort.definition = c.definition := rfl
    have hmark : c.cutShort.mark = c.mark := rfl
    unfold toLine commentText
    rw [hshort, hdefinition, hmark]
    simp

end Line

/-- The words that open the columns of partitions stand in the comment of one of these columns, and
no semicolon stands in front of them in this comment or in those above. -/
def OpensInComment (cs : List CommentedColumn) : Prop :=
  ∃ above c below, cs = above ++ c :: below ∧ (∀ l ∈ comments above, ';' ∉ l) ∧
    ∃ l ∈ c.comment, Statement.partitionKeyword <:+: l.takeWhile (· != ';')

section Comments

variable {cs : List CommentedColumn}

/-- There is a first column with a semicolon in its comment, if there is one. -/
lemma exists_first (h : ∃ l ∈ comments cs, ';' ∈ l) :
    ∃ above c below, cs = above ++ c :: below ∧ (∀ l ∈ comments above, ';' ∉ l) ∧
      ∃ l, c.comment = some l ∧ ';' ∈ l := by
  induction cs with
  | nil =>
    obtain ⟨l, hl, -⟩ := h
    exact absurd hl List.not_mem_nil
  | cons c cs ih =>
    by_cases hc : ∃ l, c.comment = some l ∧ ';' ∈ l
    · exact ⟨[], c, cs, rfl, fun l hl => absurd hl List.not_mem_nil, hc⟩
    · have hbelow : ∃ l ∈ comments cs, ';' ∈ l := by
        obtain ⟨l, hl, hmem⟩ := h
        obtain ⟨d, hd, hdl⟩ := List.mem_filterMap.1 hl
        rcases List.mem_cons.1 hd with rfl | hd
        · exact absurd ⟨l, hdl, hmem⟩ hc
        · exact ⟨l, List.mem_filterMap.2 ⟨d, hd, hdl⟩, hmem⟩
      obtain ⟨above, d, below, rfl, hplain, hd⟩ := ih hbelow
      refine ⟨c :: above, d, below, rfl, fun l hl hmem => ?_, hd⟩
      obtain ⟨e, he, hel⟩ := List.mem_filterMap.1 hl
      rcases List.mem_cons.1 he with rfl | he
      · exact hc ⟨l, hel, hmem⟩
      · exact hplain l (List.mem_filterMap.2 ⟨e, he, hel⟩) hmem

/-- A comment opens the columns of partitions when none has a semicolon and it holds the words. -/
lemma opensInComment_of_forall {l : Text} (hl : l ∈ comments cs)
    (hwords : Statement.partitionKeyword <:+: l) (hplain : ∀ k ∈ comments cs, ';' ∉ k) :
    OpensInComment cs := by
  obtain ⟨c, hc, hcl⟩ := List.mem_filterMap.1 hl
  obtain ⟨above, below, rfl⟩ := List.append_of_mem hc
  refine ⟨above, c, below, rfl, fun k hk => hplain k ?_, l, hcl, ?_⟩
  · unfold comments
    rw [List.filterMap_append]
    exact List.mem_append_left _ hk
  · have hwhole : l.takeWhile (· != ';') = l := by
      rw [List.takeWhile_eq_self_iff]
      intro d hd
      rw [bne_iff_ne]
      rintro rfl
      exact hplain l hl hd
    rwa [hwhole]

/-- No comment has a semicolon once the first that has one is cut off there. -/
lemma plain_cutShort {c : CommentedColumn} (hplain : ∀ l ∈ comments cs, ';' ∉ l) :
    ∀ l ∈ comments (cs ++ [c.cutShort]), ';' ∉ l := by
  intro l hl
  unfold comments at hl
  rw [List.filterMap_append, List.mem_append] at hl
  rcases hl with hl | hl
  · exact hplain l hl
  · obtain ⟨d, hd, hdl⟩ := List.mem_filterMap.1 hl
    obtain rfl := List.mem_singleton.1 hd
    obtain ⟨k, -, rfl⟩ := Option.map_eq_some_iff.1 hdl
    exact fun h => by simpa using List.mem_takeWhile_imp h

/-- What a comment opens that is cut off, it also opens as a whole. -/
lemma opensInComment_cutShort {c : CommentedColumn} (h : OpensInComment (cs ++ [c.cutShort])) :
    OpensInComment (cs ++ [c]) := by
  obtain ⟨above, d, below, hcs, hplain, k, hk, hwords⟩ := h
  rcases List.eq_nil_or_concat below with rfl | ⟨init, last, rfl⟩
  · obtain ⟨rfl, hd⟩ := List.append_inj' hcs rfl
    obtain rfl := List.singleton_inj.1 hd
    obtain ⟨l, hl, rfl⟩ := Option.map_eq_some_iff.1 hk
    refine ⟨cs, c, [], rfl, hplain, l, hl, ?_⟩
    exact hwords.trans (List.takeWhile_prefix _).isInfix
  · rw [List.concat_eq_append, ← List.cons_append, ← List.append_assoc] at hcs
    obtain ⟨rfl, -⟩ := List.append_inj' hcs rfl
    exact ⟨above, d, init ++ [c], by simp, hplain, k, hk, hwords⟩

/-- It still does when there are more columns below. -/
lemma OpensInComment.append (h : OpensInComment cs) (ds : List CommentedColumn) :
    OpensInComment (cs ++ ds) := by
  obtain ⟨above, c, below, rfl, hopens⟩ := h
  exact ⟨above, c, below ++ ds, by simp, hopens⟩

end Comments

end CommentedColumn

/-! ### Tables -/

/-- A statement that creates a table with comments on its columns. -/
structure CommentedTable where
  external : Bool
  name : Text
  columns : List CommentedColumn
  /-- The columns by which the table is partitioned; none when it is not. -/
  partitions : List CommentedColumn
  isName : Header.IsName name
  endless : ';' ∉ name

namespace CommentedTable

/-- The line with the header. -/
def headerLine (t : CommentedTable) : Text :=
  "CREATE ".toList ++ ((if t.external then "EXTERNAL ".toList else []) ++
    ("TABLE ".toList ++ (t.name ++ ['('])))

/-- The lines down to the last column of the table itself. -/
def columnLines (t : CommentedTable) : List Text :=
  t.headerLine :: t.columns.map CommentedColumn.toLine

/-- The lines that list the columns of partitions. -/
def partitionLines (t : CommentedTable) : List Text :=
  if t.partitions.isEmpty then []
  else TableParts.partitionLine :: t.partitions.map CommentedColumn.toLine

/-- The statement, with a semicolon at its end. -/
def script (t : CommentedTable) : Text :=
  ofLines (t.columnLines ++ t.partitionLines) ++ [';']

/-- The header of the statement. -/
def header (t : CommentedTable) : Header :=
  ⟨[], t.external, .table, false, t.name⟩

section Table

variable {t : CommentedTable}

/-- The line with the header is the printed header and a parenthesis. -/
lemma headerLine_eq_render (t : CommentedTable) : t.headerLine = t.header.render ++ ['('] := by
  obtain ⟨external, name, columns, partitions, -, -⟩ := t
  cases external <;> rfl

/-- The header is read from every text that starts with this line. -/
lemma header?_headerLine_append (t : CommentedTable) (r : Text) :
    (Statement.parse (t.headerLine ++ r)).header? = some t.header := by
  have hends := Header.endsName_parenthesis r
  have hfree := Header.guardFree_append t.isName.2 hends (by simp)
  have hparse : Header.parse? (t.headerLine ++ r) = some (t.header, '(' :: r) := by
    refine Header.parse?_eq_some_iff.2 ⟨?_, by simp [header], t.isName, hends, fun _ => hfree⟩
    rw [t.headerLine_eq_render, List.append_assoc]
    rfl
  unfold Statement.parse
  rw [hparse]
  rfl

/-- The line with the header does not hold the words that open the columns of partitions. -/
lemma not_isInfix_headerLine (t : CommentedTable) :
    ¬ Statement.partitionKeyword <:+: t.headerLine := by
  intro h
  -- the words hold no `L`, and a name holds no space
  have hsplit : t.headerLine =
      ("CREATE ".toList ++ ((if t.external then "EXTERNAL ".toList else []) ++ "TAB".toList)) ++
        'L' :: ("E ".toList ++ (t.name ++ ['('])) := by
    unfold headerLine
    cases t.external <;> simp
  rw [hsplit] at h
  rcases isInfix_append_cons (by decide) h with hfront | hbehind
  · cases hexternal : t.external <;> rw [hexternal] at hfront <;> revert hfront <;> decide +kernel
  · have hname : Statement.partitionKeyword <:+: t.name ++ ['('] :=
      isInfix_of_run_append (p := fun c => c != 'P') (by decide)
        (List.all_eq_true.1 (by decide)) hbehind
    rcases isInfix_append_cons (by decide) hname with hname | hnil
    · have hspace : ' ' ∈ t.name := hname.subset (by decide)
      exact absurd (t.isName.2 _ hspace) (by decide)
    · exact absurd hnil (by decide)

/-- Nor do the lines down to the last column, where no comment holds them. -/
lemma not_isInfix_columnLines
    (h : ∀ l ∈ CommentedColumn.comments t.columns, ¬ Statement.partitionKeyword <:+: l) :
    ¬ Statement.partitionKeyword <:+: t.columnLines.flatten := by
  have hends : ∀ l ∈ t.columnLines, ∃ front c, l = front ++ [c] ∧
      c ∉ Statement.partitionKeyword := by
    unfold columnLines
    rw [List.forall_mem_cons, List.forall_mem_map]
    refine ⟨⟨t.header.render, '(', t.headerLine_eq_render, by decide⟩, fun c _ => ?_⟩
    exact ⟨c.definition ++ c.commentText, c.mark, rfl, c.mark_not_mem⟩
  intro hin
  obtain ⟨line, hline, hin⟩ := exists_isInfix_of_flatten (by decide) hends hin
  rcases List.mem_cons.1 hline with rfl | hline
  · exact t.not_isInfix_headerLine hin
  · obtain ⟨c, hc, rfl⟩ := List.mem_map.1 hline
    obtain ⟨l, hl, hin⟩ := CommentedColumn.exists_comment_of_isInfix_toLine hin
    exact h l (List.mem_filterMap.2 ⟨c, hc, hl⟩) hin

/-- The line with the header has neither a line feed nor a semicolon. -/
lemma not_mem_headerLine (t : CommentedTable) : '\n' ∉ t.headerLine ∧ ';' ∉ t.headerLine := by
  have hname : '\n' ∉ t.name := fun h => absurd (t.isName.2 _ h) (by decide)
  unfold headerLine
  cases t.external <;> simp [hname, t.endless]

/-- The statement consists of lines. -/
lemma isLine_of_mem {l : Text} (hl : l ∈ t.columnLines ++ t.partitionLines) : IsLine l := by
  unfold columnLines partitionLines at hl
  rcases List.mem_append.1 hl with hl | hl
  · rcases List.mem_cons.1 hl with rfl | hl
    · exact t.not_mem_headerLine.1
    · obtain ⟨c, -, rfl⟩ := List.mem_map.1 hl
      exact c.isLine_toLine
  · split at hl
    · exact absurd hl List.not_mem_nil
    · rcases List.mem_cons.1 hl with rfl | hl
      · decide
      · obtain ⟨c, -, rfl⟩ := List.mem_map.1 hl
        exact c.isLine_toLine

/-- The statement without its line feeds. -/
lemma without_script (t : CommentedTable) :
    without t.script '\n' = t.columnLines.flatten ++ (t.partitionLines.flatten ++ [';']) := by
  have hne : t.columnLines ++ t.partitionLines ≠ [] := List.cons_ne_nil _ _
  have hend : without [';'] '\n' = [';'] := rfl
  unfold script
  rw [without_append, hend, without_newline, lines_ofLines hne fun l hl => isLine_of_mem hl,
    List.flatten_append, List.append_assoc]

/-- Down to the last column a semicolon stands in a comment or not at all. -/
lemma mem_columnLines_iff :
    ';' ∈ t.columnLines.flatten ↔ ∃ l ∈ CommentedColumn.comments t.columns, ';' ∈ l := by
  unfold columnLines
  rw [List.flatten_cons, List.mem_append, or_iff_right t.not_mem_headerLine.2,
    CommentedColumn.mem_flatten_iff]

/-- So it does among the columns of partitions. -/
lemma not_mem_partitionLines (h : ∀ l ∈ CommentedColumn.comments t.partitions, ';' ∉ l) :
    ';' ∉ t.partitionLines.flatten := by
  unfold partitionLines
  split
  · exact List.not_mem_nil
  · rw [List.flatten_cons, List.mem_append, CommentedColumn.mem_flatten_iff]
    rintro (hline | ⟨l, hl, hmem⟩)
    · exact absurd hline (by decide)
    · exact h l hl hmem

/-- What stands in front of the first semicolon creates the table, with partitions where the words
that open their columns stand in it. -/
lemma partitionedNames_front {front r : Text} (hfront : ';' ∉ front)
    (hflat : without front '\n' = t.headerLine ++ r) :
    partitionedNames front =
      if occursIn Statement.partitionKeyword (without front '\n') = true then [unquote t.name]
      else [] := by
  have hnone : ';' ∉ without front '\n' := fun h => hfront (List.mem_of_mem_filter h)
  have htexts : statementTexts front = without front '\n' :: [] := List.splitOn_eq_singleton hnone
  have hheader : (Statement.parse (without front '\n')).header? = some t.header := by
    rw [hflat, t.header?_headerLine_append r]
  rw [partitionedNames_of_header (Or.inl rfl) htexts hheader]
  simp [header]

end Table

section Cut

variable {t : CommentedTable} {front back : Text}

/-- The table down to one of its columns, whose comment is cut off at the first semicolon. -/
def cutShort (t : CommentedTable) (above : List CommentedColumn) (c : CommentedColumn) :
    CommentedTable :=
  { t with columns := above ++ [c.cutShort] }

/-- Up to the first semicolon, the lines do not depend on what follows there. -/
lemma exists_columnLines_eq {above below : List CommentedColumn} {c : CommentedColumn}
    (hcolumns : t.columns = above ++ c :: below)
    (hplain : ∀ l ∈ CommentedColumn.comments above, ';' ∉ l) {l : Text} (hl : c.comment = some l) :
    ∃ start, ';' ∉ start ++ l.takeWhile (· != ';') ∧
      t.columnLines.flatten = start ++ l.takeWhile (· != ';') ++
        (l.dropWhile (· != ';') ++ ['\'', c.mark] ++
          (below.map CommentedColumn.toLine).flatten) ∧
      (t.cutShort above c).columnLines.flatten =
        start ++ l.takeWhile (· != ';') ++ ['\'', c.mark] := by
  obtain ⟨start, hstart, hline, hshort⟩ := CommentedColumn.exists_toLine_eq hl
  refine ⟨t.headerLine ++ ((above.map CommentedColumn.toLine).flatten ++ start), ?_, ?_, ?_⟩
  · rw [List.append_assoc, List.append_assoc, List.mem_append, List.mem_append, not_or, not_or,
      CommentedColumn.mem_flatten_iff]
    exact ⟨t.not_mem_headerLine.2, fun ⟨k, hk, hmem⟩ => hplain k hk hmem, hstart⟩
  · unfold columnLines
    rw [hcolumns, List.flatten_cons, List.map_append, List.map_cons, List.flatten_append,
      List.flatten_cons, hline]
    simp only [List.append_assoc]
  · have hheader : (t.cutShort above c).headerLine = t.headerLine := rfl
    unfold columnLines
    rw [hheader, List.flatten_cons]
    unfold cutShort
    rw [List.map_append, List.flatten_append, List.map_singleton, List.flatten_singleton, hshort]
    simp only [List.append_assoc]

/-- The words that open the columns of partitions stand in front of the cut, when they stand in the
statement and no semicolon does above them. -/
lemma isInfix_front (hcut : front ++ ';' :: back =
      t.columnLines.flatten ++ (t.partitionLines.flatten ++ [';']))
    (hpartitions : t.partitions ≠ []) (hcolumns : ';' ∉ t.columnLines.flatten) :
    Statement.partitionKeyword <:+: front := by
  have hlines : t.partitionLines.flatten = TableParts.partitionLine ++
      (t.partitions.map CommentedColumn.toLine).flatten := by
    unfold partitionLines
    rw [if_neg (by simpa using hpartitions), List.flatten_cons]
  have hopened : ';' ∉ t.columnLines.flatten ++ TableParts.partitionLine := by
    rw [List.mem_append, not_or]
    exact ⟨hcolumns, by decide⟩
  rw [hlines, List.append_assoc, ← List.append_assoc t.columnLines.flatten] at hcut
  obtain ⟨r, rfl, -⟩ := exists_append_of_cut hopened hcut
  have hline : Statement.partitionKeyword <:+: TableParts.partitionLine := ⟨[], " (".toList, rfl⟩
  exact hline.trans ((List.suffix_append _ _).isInfix.trans (List.prefix_append _ r).isInfix)

/-- They also do when a comment opens them. -/
lemma isInfix_front_of_comment (hcut : front ++ ';' :: back =
      t.columnLines.flatten ++ (t.partitionLines.flatten ++ [';']))
    (hopens : CommentedColumn.OpensInComment t.columns) :
    Statement.partitionKeyword <:+: front := by
  obtain ⟨above, c, below, hcolumns, hplain, l, hl, hwords⟩ := hopens
  obtain ⟨start, hfree, hline, -⟩ := exists_columnLines_eq hcolumns hplain hl
  rw [hline, List.append_assoc] at hcut
  obtain ⟨r, rfl, -⟩ := exists_append_of_cut hfree hcut
  exact hwords.trans ⟨start, r, rfl⟩

/-- Where they stand in front of a cut that is made in a comment, a comment opens them. -/
lemma opensInComment_of_mem (hfront : ';' ∉ front) (hcut : front ++ ';' :: back =
      t.columnLines.flatten ++ (t.partitionLines.flatten ++ [';']))
    (hmem : ∃ l ∈ CommentedColumn.comments t.columns, ';' ∈ l)
    (hwords : Statement.partitionKeyword <:+: front) :
    CommentedColumn.OpensInComment t.columns := by
  obtain ⟨above, c, below, hcolumns, hplain, l, hl, hsemicolon⟩ :=
    CommentedColumn.exists_first hmem
  obtain ⟨start, -, hline, hshort⟩ := exists_columnLines_eq hcolumns hplain hl
  -- what is in front of the cut is still there when the comment ends at the cut
  have hprefix : front <+: (t.cutShort above c).columnLines.flatten := by
    obtain ⟨r, hr⟩ : ∃ r, l.dropWhile (· != ';') = ';' :: r := exists_dropWhile_eq hsemicolon
    have hmark : ';' ∈ start ++ l.takeWhile (· != ';') ++ [';'] :=
      List.mem_append_right _ List.mem_cons_self
    have hwhole : front ++ ';' :: back = start ++ l.takeWhile (· != ';') ++ [';'] ++
        (r ++ ['\'', c.mark] ++ (below.map CommentedColumn.toLine).flatten ++
          (t.partitionLines.flatten ++ [';'])) := by
      rw [hcut, hline, hr]
      simp only [List.append_assoc, List.cons_append, List.nil_append]
    rw [hshort]
    rcases List.prefix_concat_iff.1 (isPrefix_of_cut hfront hmark hwhole) with rfl | h
    · exact absurd hmark hfront
    · exact h.trans (List.prefix_append _ _)
  have hopens : CommentedColumn.OpensInComment (above ++ [c.cutShort]) := by
    by_contra hnot
    refine (t.cutShort above c).not_isInfix_columnLines (fun k hk hkwords => hnot ?_)
      (hwords.trans hprefix.isInfix)
    exact CommentedColumn.opensInComment_of_forall hk hkwords
      (CommentedColumn.plain_cutShort hplain)
  rw [hcolumns, List.append_cons]
  exact (CommentedColumn.opensInComment_cutShort hopens).append below

/-- Otherwise they do not stand there. -/
lemma opens_of_isInfix_front (hfront : ';' ∉ front) (hcut : front ++ ';' :: back =
      t.columnLines.flatten ++ (t.partitionLines.flatten ++ [';']))
    (hwords : Statement.partitionKeyword <:+: front) :
    (t.partitions ≠ [] ∧ ∀ l ∈ CommentedColumn.comments t.columns, ';' ∉ l) ∨
      CommentedColumn.OpensInComment t.columns := by
  by_cases hmem : ∃ l ∈ CommentedColumn.comments t.columns, ';' ∈ l
  · exact Or.inr (opensInComment_of_mem hfront hcut hmem hwords)
  have hplain : ∀ l ∈ CommentedColumn.comments t.columns, ';' ∉ l :=
    fun l hl hsemicolon => hmem ⟨l, hl, hsemicolon⟩
  by_cases hpartitions : t.partitions = []
  · -- the cut is made at the end of the statement
    have hlines : t.partitionLines.flatten = [] := by
      unfold partitionLines
      rw [hpartitions]
      rfl
    rw [hlines, List.nil_append, ← List.append_nil (t.columnLines.flatten ++ [';'])] at hcut
    have hprefix := isPrefix_of_cut hfront (List.mem_append_right _ List.mem_cons_self) hcut
    have hcolumns : Statement.partitionKeyword <:+: t.columnLines.flatten := by
      rcases isInfix_append_cons (by decide) (hwords.trans hprefix.isInfix) with h | h
      · exact h
      · exact absurd h (by decide)
    by_contra hnot
    exact t.not_isInfix_columnLines (fun k hk hkwords => hnot
      (Or.inr (CommentedColumn.opensInComment_of_forall hk hkwords hplain))) hcolumns
  · exact Or.inl ⟨hpartitions, hplain⟩

/-- Nothing stands behind the cut, when the only semicolon is the one at the end. -/
lemma back_eq_nil (hcut : front ++ ';' :: back =
      t.columnLines.flatten ++ (t.partitionLines.flatten ++ [';']))
    (hlines : ';' ∉ t.columnLines.flatten ++ t.partitionLines.flatten) : back = [] := by
  rw [← List.append_assoc] at hcut
  obtain ⟨r, -, hr⟩ := exists_append_of_cut hlines hcut
  cases r with
  | nil => exact (List.cons.inj hr).2.symm
  | cons c r => simp at hr

end Cut

end CommentedTable

/-- What is found of a table with comments on its columns. The script is cut at the first semicolon,
in a comment or not. The part in front of it creates the table; this is found as one with partitions
just where these are opened and no semicolon stands in a comment above them, or where the words that
open them stand in a comment in front of all semicolons. Where no comment holds a semicolon, nothing
else is found. -/
theorem partitionedNames_commentedTable (t : CommentedTable) :
    ∃ front back, t.script = front ++ ';' :: back ∧ ';' ∉ front ∧
      partitionedNames t.script = partitionedNames front ++ partitionedNames back ∧
      (partitionedNames front = [] ∨ partitionedNames front = [unquote t.name]) ∧
      (partitionedNames front = [unquote t.name] ↔
        (t.partitions ≠ [] ∧ ∀ l ∈ CommentedColumn.comments t.columns, ';' ∉ l) ∨
          CommentedColumn.OpensInComment t.columns) ∧
      ((∀ l ∈ CommentedColumn.comments (t.columns ++ t.partitions), ';' ∉ l) →
        partitionedNames t.script = partitionedNames front) := by
  have hmem : ';' ∈ t.script := List.mem_append_right _ List.mem_cons_self
  obtain ⟨front, back, hcut, hfront⟩ := List.eq_append_cons_of_mem hmem
  have hnone : ';' ∉ without front '\n' := fun h => hfront (List.mem_of_mem_filter h)
  have hflat : without front '\n' ++ ';' :: without back '\n' =
      t.columnLines.flatten ++ (t.partitionLines.flatten ++ [';']) := by
    rw [← t.without_script, hcut, without_append]
    rfl
  have hheader : without front '\n' ++ ';' :: without back '\n' = t.headerLine ++
      ((t.columns.map CommentedColumn.toLine).flatten ++ (t.partitionLines.flatten ++ [';'])) := by
    rw [hflat]
    exact List.append_assoc _ _ _
  obtain ⟨r, hr, -⟩ := exists_append_of_cut t.not_mem_headerLine.2 hheader
  have hnames := CommentedTable.partitionedNames_front hfront hr
  have hboth := partitionedNames_append_cons front back
  refine ⟨front, back, hcut, hfront, hcut ▸ hboth, ?_, ?_, ?_⟩
  · rw [hnames]
    split_ifs
    · exact Or.inr rfl
    · exact Or.inl rfl
  · have hfound : partitionedNames front = [unquote t.name] ↔
        Statement.partitionKeyword <:+: without front '\n' := by
      rw [hnames, ← occursIn_iff, ite_eq_left_iff]
      simp
    rw [hfound]
    refine ⟨CommentedTable.opens_of_isInfix_front hnone hflat, ?_⟩
    rintro (⟨hpartitions, hcomments⟩ | hopens)
    · refine CommentedTable.isInfix_front hflat hpartitions ?_
      rw [CommentedTable.mem_columnLines_iff]
      rintro ⟨l, hl, hsemicolon⟩
      exact hcomments l hl hsemicolon
    · exact CommentedTable.isInfix_front_of_comment hflat hopens
  · intro hcomments
    unfold CommentedColumn.comments at hcomments
    rw [List.filterMap_append, List.forall_mem_append] at hcomments
    have hlines : ';' ∉ t.columnLines.flatten ++ t.partitionLines.flatten := by
      rw [List.mem_append, not_or, CommentedTable.mem_columnLines_iff]
      refine ⟨?_, CommentedTable.not_mem_partitionLines hcomments.2⟩
      rintro ⟨l, hl, hsemicolon⟩
      exact hcomments.1 l hl hsemicolon
    have hback : partitionedNames back = [] := by
      unfold partitionedNames statementTexts
      rw [CommentedTable.back_eq_nil hflat hlines]
      rfl
    rw [hcut, hboth, hback, List.append_nil]

/-- The column `note` with a comment, at the end of a list. -/
def commentedColumn (comment : Text)
    (isLiteral : ∀ l ∈ some comment, IsLine l ∧ '\'' ∉ l ∧ '\\' ∉ l) : CommentedColumn where
  indent := "    ".toList
  name := "note".toList
  type := "string".toList
  comment := some comment
  mark := ')'
  isIndent := List.all_eq_true.1 (by decide)
  isWord := ⟨by decide, List.all_eq_true.1 (by decide)⟩
  isType := by decide
  plain := by rw [← occursIn_iff]; decide
  isLiteral := isLiteral
  isMark := Or.inr rfl

/-- The column `day`, at the end of a list. -/
def plainColumn : CommentedColumn where
  indent := "    ".toList
  name := "day".toList
  type := "date".toList
  comment := none
  mark := ')'
  isIndent := List.all_eq_true.1 (by decide)
  isWord := ⟨by decide, List.all_eq_true.1 (by decide)⟩
  isType := by decide
  plain := by rw [← occursIn_iff]; decide
  isLiteral := by simp
  isMark := Or.inr rfl

/-- A table whose comment speaks of tables and partitions is found under its own name. -/
theorem partitionedNames_commentedTable_keywords :
    let column := commentedColumn "CREATE TABLE u( PARTITIONED BY".toList (by simp; decide)
    let t : CommentedTable := ⟨true, "\x60d\x60.\x60t\x60".toList, [column], [plainColumn],
      ⟨by decide, List.all_eq_true.1 (by decide)⟩, by decide⟩
    (t.partitions ≠ [] ∧ ∀ l ∈ CommentedColumn.comments (t.columns ++ t.partitions), ';' ∉ l) ∧
    partitionedNames t.script = ["d.t".toList] := by
  intro column t
  have hcomments : ∀ l ∈ CommentedColumn.comments (t.columns ++ t.partitions), ';' ∉ l := by
    decide
  have hpartitions : t.partitions ≠ [] := List.cons_ne_nil _ _
  obtain ⟨front, back, -, -, -, -, hfound, hwhole⟩ := partitionedNames_commentedTable t
  refine ⟨⟨hpartitions, hcomments⟩, (hwhole hcomments).trans ?_⟩
  rw [hfound.2 (Or.inl ⟨hpartitions, by decide⟩)]
  rfl

/-- A semicolon in a comment hides the partitions of a table, and the words that open the columns of
partitions give some to a table without any. -/
theorem partitionedNames_commentedTable_semicolon :
    let column := commentedColumn "x;y".toList (by simp; decide)
    let t : CommentedTable := ⟨false, "t".toList, [column], [plainColumn],
      ⟨by decide, List.all_eq_true.1 (by decide)⟩, by decide⟩
    let keywords := commentedColumn "PARTITIONED BY".toList (by simp; decide)
    let u : CommentedTable := ⟨false, "u".toList, [keywords], [],
      ⟨by decide, List.all_eq_true.1 (by decide)⟩, by decide⟩
    (t.script =
        "CREATE TABLE t(\n    note string COMMENT 'x;y')\nPARTITIONED BY (\n    day date);".toList ∧
      t.partitions ≠ [] ∧ partitionedNames t.script = []) ∧
    u.partitions = [] ∧ partitionedNames u.script = ["u".toList] := by
  intro column t keywords u
  refine ⟨⟨?_, List.cons_ne_nil _ _, ?_⟩, rfl, ?_⟩
  · decide +kernel
  · decide +kernel
  · decide +kernel

end DdlDump
