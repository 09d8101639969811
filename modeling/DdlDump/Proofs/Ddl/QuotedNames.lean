import DdlDump.Proofs.Ddl.ClauseLines
import DdlDump.Proofs.Ddl.Stable

/-!
# Which names are put in quotes

What quoting column names does to a line can be told from the lines of the script alone. A line
stands in a list of columns when a line in front of it opens the list, all lines behind that one are
indented, and none of them is copied (`IsListedAt`); ends of statements do not matter. If it does
not open a list itself and names a column, the name is put in quotes, and this is all that is
changed (`lines_quoteColumns`).

As for clauses, what is kept from line to line is whether the list is left open in front of a line
(`IsListLeft`), and this is what the pass remembers.

A line with its name in quotes is not read like the line itself, since it is neither a header nor an
unrecognised line any longer. Even so a second pass remembers the same at every line and finds no
name without quotes (`quoteColumns_quoteColumns`).
-/

namespace DdlDump

open Text

/-! ### Lists of columns, by positions -/

/-- A line stands in a list of columns: a line in front of it opens the list, all lines behind that
one are indented, and none of these lines is copied. -/
def IsListedAt (ls : List Text) (i : Nat) : Prop :=
  ∃ j < i, Column.opensList (lineAt ls j) = true ∧
    (∀ k ≤ i, j < k → Line.isIndented (lineAt ls k) = true) ∧ ∀ k ≤ i, j ≤ k → ¬ IsCopiedAt ls k

instance (ls : List Text) : DecidablePred (IsListedAt ls) := fun i =>
  inferInstanceAs (Decidable (∃ j < i, Column.opensList (lineAt ls j) = true ∧
    (∀ k ≤ i, j < k → Line.isIndented (lineAt ls k) = true) ∧ ∀ k ≤ i, j ≤ k → ¬ IsCopiedAt ls k))

/-- A list of columns is left open in front of a position: the line there stands in the list, or it
opens one and is not copied. -/
def IsListLeft (ls : List Text) (i : Nat) : Prop :=
  ∃ k, i = k + 1 ∧
    (IsListedAt ls k ∨ Column.opensList (lineAt ls k) = true ∧ ¬ IsCopiedAt ls k)

/-- A column of a list: the line does not open a list itself, and behind its indent it goes on with
a name. -/
structure IsColumnAt (ls : List Text) (i : Nat) (indent name rest : Text) : Prop where
  listed : IsListedAt ls i
  noList : Column.opensList (lineAt ls i) = false
  names : Column.NamesColumn (lineAt ls i) indent name rest

/-- What becomes of the line at a position when column names are put in quotes. -/
def quotedLine (ls : List Text) (i : Nat) : Text :=
  if IsListedAt ls i ∧ Column.opensList (lineAt ls i) = false then Column.quoteName (lineAt ls i)
  else lineAt ls i

section Lists

variable {ls : List Text} {i : Nat}

/-- A line stands in a list when it is indented, is not copied, and the list is left open in front
of it. -/
lemma isListedAt_iff :
    IsListedAt ls i ↔
      Line.isIndented (lineAt ls i) = true ∧ ¬ IsCopiedAt ls i ∧ IsListLeft ls i := by
  constructor
  · rintro ⟨j, hji, hopens, hindented, hcopied⟩
    obtain ⟨k, rfl⟩ : ∃ k, i = k + 1 := ⟨i - 1, by omega⟩
    refine ⟨hindented _ (le_refl _) hji, hcopied _ (le_refl _) (by omega), k, rfl, ?_⟩
    rcases Nat.eq_or_lt_of_le (Nat.le_of_lt_succ hji) with rfl | hlt
    · exact Or.inr ⟨hopens, hcopied j (by omega) (le_refl _)⟩
    · exact Or.inl ⟨j, hlt, hopens, fun m hm => hindented m (by omega),
        fun m hm => hcopied m (by omega)⟩
  · rintro ⟨hindent, hnot, k, rfl, ⟨j, hjk, hopens, hindented, hcopied⟩ | ⟨hopens, hcopied⟩⟩
    · refine ⟨j, by omega, hopens, fun m hm hjm => ?_, fun m hm hjm => ?_⟩
      · rcases Nat.eq_or_lt_of_le hm with rfl | hlt
        · exact hindent
        · exact hindented m (by omega) hjm
      · rcases Nat.eq_or_lt_of_le hm with rfl | hlt
        · exact hnot
        · exact hcopied m (by omega) hjm
    · refine ⟨k, by omega, hopens, fun m hm hkm => ?_, fun m hm hkm => ?_⟩
      · obtain rfl : m = k + 1 := by omega
        exact hindent
      · rcases Nat.eq_or_lt_of_le hkm with rfl | hlt
        · exact hcopied
        · obtain rfl : m = k + 1 := by omega
          exact hnot

/-- What is put out for the line at a position, and whether the list goes on behind it. -/
lemma visit_quoting_lineAt {c : Cursor} (hc : c.Coherent)
    (hcopies : (c.enter (lineAt ls i)).skipping = true ↔ IsCopiedAt ls i)
    (hlist : c.region = .columns ↔ IsListLeft ls i) :
    (Column.quoting.visit c (lineAt ls i)).output? = some (quotedLine ls i) ∧
      ((Column.quoting.visit c (lineAt ls i)).cursor.region = .columns ↔
        IsListedAt ls i ∨ Column.opensList (lineAt ls i) = true ∧ ¬ IsCopiedAt ls i) := by
  unfold quotedLine
  by_cases hcopied : IsCopiedAt ls i
  · have hlisted : ¬ IsListedAt ls i := fun h => (isListedAt_iff.1 h).2.1 hcopied
    rw [Pass.visit_of_copied hc (hcopies.2 hcopied)]
    simp [hlisted, hcopied]
  · have hskip : (c.enter (lineAt ls i)).skipping = false := by
      rw [← Bool.not_eq_true, hcopies]
      exact hcopied
    have hlisted : IsListedAt ls i ↔
        c.region = .columns ∧ Line.isIndented (lineAt ls i) = true := by
      rw [isListedAt_iff, hlist, and_iff_right hcopied, and_comm]
    rw [Pass.visit_of_not_skipping hskip]
    cases hopens : Column.opensList (lineAt ls i) with
    | true => simp [Column.quoting_of_opensList hopens, hcopied]
    | false =>
      by_cases hin : IsListedAt ls i
      · obtain ⟨hregion, hindented⟩ := hlisted.1 hin
        simp [hregion, Column.quoting_of_isIndented hopens hindented, hin]
      · have hout := Column.quoting_of_outside hopens fun h => hin (hlisted.2 h)
        simp [hout, hin]

/-- The lines in front of a position, and whether a list is left open there. -/
lemma emit_quoting_take (hi : i ≤ ls.length) :
    Column.quoting.emit .start (ls.take i) = (List.range i).map (quotedLine ls) ∧
      ((Column.quoting.after .start (ls.take i)).region = .columns ↔ IsListLeft ls i) := by
  induction i with
  | zero => simp [IsListLeft, Cursor.start]
  | succ i ih =>
    obtain ⟨hemit, hlist⟩ := ih (by omega)
    have hcoherent : (Column.quoting.after .start (ls.take i)).Coherent :=
      Pass.coherent_after Cursor.coherent_start (ls.take i)
    obtain ⟨hout, hlist'⟩ := visit_quoting_lineAt hcoherent (Pass.copies_take_iff hi) hlist
    rw [take_succ_eq_concat hi, Pass.emit_append, Pass.after_append, Pass.after_cons,
      Pass.after_nil, Pass.emit_cons, Pass.emit_nil, List.append_nil, hemit, hout,
      List.range_succ, List.map_append]
    refine ⟨rfl, hlist'.trans ?_⟩
    constructor
    · intro hleft
      exact ⟨i, rfl, hleft⟩
    · rintro ⟨k, hk, hleft⟩
      obtain rfl : i = k := by omega
      exact hleft

end Lists

/-! ### The lines of the result -/

/-- Lines with column names in quotes, position by position. -/
lemma quotedLines_eq_map (ls : List Text) :
    quotedLines ls = (List.range ls.length).map (quotedLine ls) := by
  have hemit := (emit_quoting_take (le_refl ls.length)).1
  rwa [List.take_length] at hemit

/-- There are as many lines as before. -/
@[simp]
lemma length_quotedLines (ls : List Text) : (quotedLines ls).length = ls.length := by
  rw [quotedLines_eq_map, List.length_map, List.length_range]

/-- The line at a position is what becomes of the line there. -/
lemma lineAt_quotedLines {ls : List Text} {i : Nat} (hi : i < ls.length) :
    lineAt (quotedLines ls) i = quotedLine ls i := by
  rw [quotedLines_eq_map]
  simp [lineAt, hi]

/-- The lines of a script with column names in quotes. -/
lemma lines_quoteColumns_eq (script : Text) :
    lines (quoteColumns script) = quotedLines (lines script) := by
  have hne : quotedLines (lines script) ≠ [] := by
    rw [← List.length_pos_iff, length_quotedLines, List.length_pos_iff]
    exact lines_ne_nil script
  exact lines_ofLines hne fun _ =>
    Column.quoting_regular.isLine_of_mem_emit fun _ => isLine_of_mem_lines

/-- In the place of a column stands the column with its name in quotes. -/
lemma IsColumnAt.quotedLine_eq {ls : List Text} {i : Nat} {indent name rest : Text}
    (h : IsColumnAt ls i indent name rest) :
    quotedLine ls i = indent ++ Column.quote :: (name ++ Column.quote :: rest) := by
  unfold quotedLine
  rw [if_pos ⟨h.listed, h.noList⟩, h.names.quoteName_eq]

/-- Only columns are changed, and every column is. -/
lemma quotedLine_ne_iff {ls : List Text} {i : Nat} :
    quotedLine ls i ≠ lineAt ls i ↔ ∃ indent name rest, IsColumnAt ls i indent name rest := by
  constructor
  · intro hne
    unfold quotedLine at hne
    split at hne
    · next hin =>
      obtain ⟨indent, name, rest, hnames⟩ := Column.exists_namesColumn hne
      exact ⟨indent, name, rest, hin.1, hin.2, hnames⟩
    · exact absurd rfl hne
  · rintro ⟨indent, name, rest, h⟩
    rw [h.quotedLine_eq, ← h.names.quoteName_eq]
    exact h.names.quoteName_ne

/-- Without quotes, a line is what it was. -/
lemma unquote_quotedLine (ls : List Text) (i : Nat) :
    unquote (quotedLine ls i) = unquote (lineAt ls i) := by
  unfold quotedLine
  split
  · rcases Column.quoteName_cases (lineAt ls i) with h | ⟨indent, name, rest, hnames, h⟩
    · rw [h]
    · have hquote : ∀ t, without (Column.quote :: t) '\x60' = without t '\x60' := fun t => rfl
      unfold unquote
      rw [h, hnames.cut]
      simp only [without_append, hquote]
  · rfl

/-- Without quotes, a script is what it was. -/
lemma unquote_quoteColumns (script : Text) : unquote (quoteColumns script) = unquote script := by
  have hline : (quotedLines (lines script)).map unquote = (lines script).map unquote := by
    conv_rhs => rw [← map_lineAt_range (lines script)]
    rw [quotedLines_eq_map, List.map_map, List.map_map]
    exact List.map_congr_left fun i _ => unquote_quotedLine (lines script) i
  have hquote : '\x60' ≠ '\n' := by decide
  calc unquote (quoteColumns script)
      = ofLines ((quotedLines (lines script)).map unquote) := without_ofLines hquote _
    _ = ofLines ((lines script).map unquote) := by rw [hline]
    _ = unquote (ofLines (lines script)) := (without_ofLines hquote _).symm
    _ = unquote script := by rw [ofLines_lines]

/-- What quoting column names makes of a script: as many lines, of which exactly the columns of its
lists are changed. A column is the same line with its name in quotes, so that the script is the same
without quotes. -/
theorem lines_quoteColumns (script : Text) :
    (lines (quoteColumns script)).length = (lines script).length ∧
    (∀ i < (lines script).length,
      lineAt (lines (quoteColumns script)) i ≠ lineAt (lines script) i ↔
        ∃ indent name rest, IsColumnAt (lines script) i indent name rest) ∧
    (∀ i < (lines script).length, ∀ indent name rest,
      IsColumnAt (lines script) i indent name rest →
        lineAt (lines (quoteColumns script)) i =
          indent ++ '\x60' :: (name ++ '\x60' :: rest)) ∧
    unquote (quoteColumns script) = unquote script := by
  rw [lines_quoteColumns_eq]
  refine ⟨length_quotedLines _, fun i hi => ?_, fun i hi indent name rest hcolumn => ?_,
    unquote_quoteColumns script⟩
  · rw [lineAt_quotedLines hi, quotedLine_ne_iff]
  · rw [lineAt_quotedLines hi, hcolumn.quotedLine_eq]
    rfl

/-- A copied statement, a table with a constraint among its columns, a list that is opened by an
indented line, and an indented line that stands in no list. -/
def listsOfColumns : Text :=
  ofLines (["create table u(", "  x int);", "CREATE TABLE t(", "  a int,", "  PRIMARY KEY (a),",
    "  primary_key int)", "  PARTITIONED BY (", "\tds string);", "COMMENT 'z'",
    "  b int"].map String.toList)

/-- The line `  a int,` is a column, and its name is put in quotes. The line `  x int);` is copied,
and so it is none. -/
theorem lines_quoteColumns_listsOfColumns :
    let ls := lines listsOfColumns
    let out := lines (quoteColumns listsOfColumns)
    (3 < ls.length ∧ IsColumnAt ls 3 "  ".toList "a".toList " int,".toList) ∧
    lineAt out 3 = "  \x60a\x60 int,".toList ∧ lineAt out 3 ≠ lineAt ls 3 ∧
    (1 < ls.length ∧ IsCopiedAt ls 1) ∧ lineAt out 1 = lineAt ls 1 ∧
    out.length = 10 ∧ unquote (quoteColumns listsOfColumns) = listsOfColumns := by
  intro ls out
  obtain ⟨hlength, hchanged, hcolumns, hunquote⟩ := lines_quoteColumns listsOfColumns
  have hin : 3 < ls.length ∧ 1 < ls.length ∧ ls.length = 10 := by decide +kernel
  have hcolumn : IsColumnAt ls 3 "  ".toList "a".toList " int,".toList := {
    listed := by decide +kernel
    noList := by decide +kernel
    names := {
      cut := by decide +kernel
      isIndent := ⟨by decide, List.all_eq_true.1 (by decide)⟩
      isWord := ⟨by decide, List.all_eq_true.1 (by decide)⟩
      ends := Column.endsName_iff.1 (by decide)
      noConstraint := Column.opensConstraint_eq_false_iff.1 (by decide) } }
  have hcopied : IsCopiedAt ls 1 := by decide +kernel
  have hnone : ¬ ∃ indent name rest, IsColumnAt ls 1 indent name rest := by
    rintro ⟨indent, name, rest, h⟩
    exact (isListedAt_iff.1 h.listed).2.1 hcopied
  have hsame : lineAt out 1 = lineAt ls 1 := by
    by_contra hne
    exact hnone ((hchanged 1 hin.2.1).1 hne)
  exact ⟨⟨hin.1, hcolumn⟩, hcolumns 3 hin.1 _ _ _ hcolumn,
    (hchanged 3 hin.1).2 ⟨_, _, _, hcolumn⟩, ⟨hin.2.1, hcopied⟩, hsame, hlength.trans hin.2.2,
    hunquote.trans (by decide +kernel)⟩

/-! ### Quoting once more -/

/-- The first lines of the result are what becomes of the first lines. -/
lemma take_quotedLines (ls : List Text) (n : Nat) :
    (quotedLines ls).take n = quotedLines (ls.take n) := by
  rcases le_total ls.length n with h | h
  · rw [List.take_of_length_le h, List.take_of_length_le (by rwa [length_quotedLines])]
  · have hfront : (quotedLines (ls.take n)).length = n := by
      rw [length_quotedLines, List.length_take, Nat.min_eq_left h]
    have hcut : quotedLines ls = quotedLines (ls.take n) ++
        Column.quoting.emit (Column.quoting.after .start (ls.take n)) (ls.drop n) := by
      conv_lhs => rw [← List.take_append_drop n ls]
      exact Pass.emit_append _ _
    rw [hcut, List.take_left' hfront]

/-- Quoting column names once more changes nothing. In front of every line the second pass remembers
what the first one did, although the lines are not the same, and it finds no column whose name is
not in quotes. -/
theorem quoteColumns_quoteColumns (script : Text) :
    quoteColumns (quoteColumns script) = quoteColumns script ∧
    (∀ n, Column.quoting.after .start ((lines (quoteColumns script)).take n) =
      Column.quoting.after .start ((lines script).take n)) ∧
    ∀ i < (lines (quoteColumns script)).length,
      ¬ ∃ indent name rest, IsColumnAt (lines (quoteColumns script)) i indent name rest := by
  have hagain : quotedLines (quotedLines (lines script)) = quotedLines (lines script) :=
    (emit_quoting_emit_quoting Cursor.coherent_start (lines script)).1
  rw [lines_quoteColumns_eq]
  refine ⟨?_, fun n => ?_, fun i hi => ?_⟩
  · calc quoteColumns (quoteColumns script)
        = ofLines (quotedLines (lines (quoteColumns script))) := rfl
      _ = ofLines (quotedLines (lines script)) := by rw [lines_quoteColumns_eq, hagain]
      _ = quoteColumns script := rfl
  · rw [take_quotedLines]
    exact (emit_quoting_emit_quoting Cursor.coherent_start ((lines script).take n)).2
  · rw [← quotedLine_ne_iff, not_not, ← lineAt_quotedLines hi, hagain]

/-- A list of columns that goes on with a header, a name that is in quotes already, a column named
CREATE, which begins a copied statement, and a list behind that statement. -/
def headerAmongNames : Text :=
  ofLines (["CREATE TABLE t(", "  CREATE VIEW v,", "  \x60b\x60 int,", "  CREATE int,", "  c int;",
    "PARTITIONED BY (", "\td string"].map String.toList)

/-- The second line is a header the first time and none the second time, and both times it stands in
the same list of columns. -/
theorem quoteColumns_quoteColumns_headerAmongNames :
    let out := ofLines (["CREATE TABLE t(", "  \x60CREATE\x60 VIEW v,", "  \x60b\x60 int,",
      "  CREATE int,", "  c int;", "PARTITIONED BY (", "\t\x60d\x60 string"].map String.toList)
    quoteColumns headerAmongNames = out ∧ quoteColumns out = out ∧
    Line.opening (lineAt (lines headerAmongNames) 1) = .recognised ∧
    Line.opening (lineAt (lines out) 1) = .inner ∧
    Column.quoting.after .start ((lines out).take 2) =
      Column.quoting.after .start ((lines headerAmongNames).take 2) ∧
    1 < (lines out).length ∧ ¬ ∃ indent name rest, IsColumnAt (lines out) 1 indent name rest := by
  intro out
  have hout : quoteColumns headerAmongNames = out := by decide +kernel
  obtain ⟨hagain, hsame, hnone⟩ := quoteColumns_quoteColumns headerAmongNames
  rw [hout] at hagain hsame hnone
  have hlength : 1 < (lines out).length := by decide +kernel
  exact ⟨hout, hagain, by decide +kernel, by decide +kernel, hsame 2, hlength, hnone 1 hlength⟩

end DdlDump
