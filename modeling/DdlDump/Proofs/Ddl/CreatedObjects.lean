import DdlDump.Proofs.Ddl.ClauseBlock
import DdlDump.Proofs.Ddl.ColumnLine
import DdlDump.Proofs.Ddl.Separation
import DdlDump.Proofs.Ddl.StatementLines
import Mathlib.Data.List.Induction

/-!
# The objects that a script creates

No stage adds a line that creates an object, so that a replayable script creates some of the objects
of the given one, in the same order (`createdObjects_replayableLines_sublist`). Which of them is
settled line by line: what becomes of a line depends on the lines in front of it only through the
regions in which the passes are (`linesBehind`).

In a script made of statements no header is struck, because no clause goes on behind the end of a
statement. A list of columns does go on there, so that the indented header of a view behind it is
taken for a column and its first word is put in quotes; that is the only way in which an object is
lost (`createdObjects_replayable`).
-/

namespace DdlDump

open Text

/-- What a line creates: the kind of object, whether its data is external, and its name. -/
def createdObject? (l : Text) : Option (ObjectKind × Bool × Text) :=
  (Statement.parse l).header?.map fun h => (h.kind, h.external, h.name)

/-- What the lines of a script create, line by line. -/
def createdObjects (ls : List Text) : List (ObjectKind × Bool × Text) :=
  ls.filterMap createdObject?

section Objects

variable {l rest : Text} {h : Header}

/-- A line with a header creates the object of the header. -/
lemma createdObject?_of_parse? (hp : Header.parse? l = some (h, rest)) :
    createdObject? l = some (h.kind, h.external, h.name) := by
  unfold createdObject? Statement.parse
  rw [hp]
  rfl

/-- Any other line creates nothing. -/
lemma createdObject?_of_opening (hl : Line.opening l ≠ .recognised) : createdObject? l = none := by
  unfold createdObject? Statement.parse
  rw [Line.parse?_eq_none_of_opening hl]
  rfl

/-- What the first line creates, and what the others create. -/
lemma createdObjects_cons (l : Text) (ls : List Text) :
    createdObjects (l :: ls) = (createdObject? l).toList ++ createdObjects ls := by
  unfold createdObjects
  rw [List.filterMap_cons]
  cases createdObject? l <;> rfl

/-- What two groups of lines create. -/
lemma createdObjects_append (ls ms : List Text) :
    createdObjects (ls ++ ms) = createdObjects ls ++ createdObjects ms :=
  List.filterMap_append

/-- One line. -/
lemma createdObjects_singleton (l : Text) : createdObjects [l] = (createdObject? l).toList := by
  rw [createdObjects_cons]
  exact List.append_nil _

/-- No lines, put together, create nothing either. -/
lemma createdObjects_lines_ofLines {ls : List Text} (hls : ∀ l ∈ ls, IsLine l) :
    createdObjects (lines (ofLines ls)) = createdObjects ls := by
  rcases eq_or_ne ls [] with rfl | hne
  · decide
  · rw [lines_ofLines hne hls]

end Objects

/-! ### Stage by stage -/

section Stages

variable {flags : Flags} {drop guard : Bool} {l rest : Text} {h : Header}

/-- The lines in the place of a line create what the line creates. -/
lemma createdObjects_preparedLines (l : Text) :
    createdObjects (preparedLines drop guard l) = (createdObject? l).toList := by
  unfold preparedLines
  cases hp : Header.parse? l with
  | none => exact createdObjects_singleton l
  | some p =>
    have hguarded : createdObject? ((p.1.guardedIf guard).render ++ p.2) = createdObject? l := by
      rw [createdObject?_of_parse? (parse?_guardedIf hp), createdObject?_of_parse? hp]
      rfl
    have hdropped : createdObject? p.1.dropStatement = none :=
      createdObject?_of_opening (by rw [opening_dropStatement]; decide)
    have hempty : createdObject? [] = none := by decide
    cases drop with
    | false => exact (createdObjects_singleton _).trans (congrArg Option.toList hguarded)
    | true =>
      simp only [if_true, List.cons_append, List.nil_append, createdObjects_cons, hdropped, hempty,
        hguarded]
      exact List.append_nil _

/-- Preparing headers keeps what is created. -/
lemma createdObjects_headerLines (flags : Flags) (ls : List Text) :
    createdObjects (headerLines flags ls) = createdObjects ls := by
  induction ls with
  | nil => rfl
  | cons l ls ih =>
    have hcons : headerLines flags (l :: ls) =
        preparedLines (flags.isOn .dropTable) (flags.isOn .ifNotExists) l ++
          headerLines flags ls := List.flatMap_cons
    rw [hcons, createdObjects_append, createdObjects_preparedLines, ih, createdObjects_cons]

/-- A pass that puts out lines as they are, or others that create nothing, adds no object. -/
lemma createdObjects_emit_sublist {pass : Pass}
    (hpass : ∀ r l m, (pass r l).1 = some m → m = l ∨ createdObject? m = none) (c : Cursor)
    (ls : List Text) : (createdObjects (pass.emit c ls)).Sublist (createdObjects ls) := by
  induction ls generalizing c with
  | nil => exact List.Sublist.refl []
  | cons l ls ih =>
    have hout : ∀ m ∈ (pass.visit c l).output?, m = l ∨ createdObject? m = none := by
      intro m hm
      cases hskip : (c.enter l).skipping with
      | true =>
        rw [Pass.visit_of_skipping hskip, Option.mem_some_iff] at hm
        exact Or.inl hm.symm
      | false =>
        rw [Pass.visit_of_not_skipping hskip] at hm
        exact hpass _ l m hm
    have hfirst : (createdObjects (pass.visit c l).output?.toList).Sublist
        (createdObject? l).toList := by
      cases hvisit : (pass.visit c l).output? with
      | none => exact List.nil_sublist _
      | some m =>
        rw [Option.toList_some, createdObjects_singleton]
        rcases hout m hvisit with rfl | hnone
        · exact List.Sublist.refl _
        · rw [hnone]
          exact List.nil_sublist _
    rw [Pass.emit_cons, createdObjects_append, createdObjects_cons]
    exact hfirst.append (ih _)

/-- Striking adds no object. -/
lemma createdObjects_striking_sublist (opens : Text → Bool) (c : Cursor) (ls : List Text) :
    (createdObjects ((striking opens).emit c ls)).Sublist (createdObjects ls) := by
  refine createdObjects_emit_sublist (fun r l m hm => ?_) c ls
  rcases striking_cases opens r l with h | ⟨-, h⟩ | ⟨-, h⟩
  · rw [h, Option.some.injEq] at hm
    exact Or.inl hm.symm
  · rw [h, Option.some.injEq] at hm
    exact Or.inr (hm ▸ by decide)
  · rw [h] at hm
    exact absurd hm.symm (Option.some_ne_none m)

/-- Neither does quoting. -/
lemma createdObjects_quoting_sublist (c : Cursor) (ls : List Text) :
    (createdObjects (Column.quoting.emit c ls)).Sublist (createdObjects ls) := by
  refine createdObjects_emit_sublist (fun r l m hm => ?_) c ls
  rcases Column.quoting_cases r l with h | ⟨-, -, -, h⟩
  · rw [h, Option.some.injEq] at hm
    exact Or.inl hm.symm
  · rw [h, Option.some.injEq] at hm
    by_cases hsame : Column.quoteName l = l
    · exact Or.inl (hm.symm.trans hsame)
    · right
      apply createdObject?_of_opening
      rw [← hm, Column.opening_quoteName hsame]
      decide

/-- A replayable script creates some of the objects of the given one, in the same order. -/
theorem createdObjects_replayableLines_sublist (flags : Flags) (ls : List Text) :
    (createdObjects (replayableLines flags ls)).Sublist (createdObjects ls) := by
  refine replayableLines_induction (P := fun F => ∀ ls, (createdObjects (F ls)).Sublist
    (createdObjects ls)) flags ?_ ?_ ?_ ?_ ls
  · exact fun hF hG ms => (hG _).trans (hF ms)
  · exact fun ms => (createdObjects_headerLines flags ms).symm ▸ List.Sublist.refl _
  · exact fun clause _ ms => createdObjects_striking_sublist (opensClause clause) .start ms
  · exact fun ms => createdObjects_quoting_sublist .start ms

end Stages

/-! ### Line by line -/

section LineByLine

variable {flags : Flags}

/-- The pass that strikes all clauses that flags strike. -/
def strikingAll (flags : Flags) : Pass :=
  striking (opensAny flags.struckClauses)

/-- What quoting remembers behind lines. -/
def quotingBehind (flags : Flags) (front : List Text) : Cursor :=
  Column.quoting.after .start (keptByAll flags.struckClauses (headerLines flags front))

/-- The lines that become of lines behind others. -/
def linesBehind (flags : Flags) (front ls : List Text) : List Text :=
  Column.quoting.emit (quotingBehind flags front)
    ((strikingAll flags).emit ((strikingAll flags).after .start (headerLines flags front))
      (headerLines flags ls))

/-- What becomes of two groups of lines. -/
lemma replayableLines_append (flags : Flags) (ls ms : List Text) :
    replayableLines flags (ls ++ ms) = replayableLines flags ls ++ linesBehind flags ls ms := by
  unfold replayableLines linesBehind quotingBehind quotedLines
  rw [keptByAll_eq_keptLines (struckClauses_subset flags),
    keptByAll_eq_keptLines (struckClauses_subset flags), headerLines_append]
  unfold keptLines strikingAll
  rw [Pass.emit_append, Pass.emit_append]

/-- The lines that become of lines behind others create nothing else than these. -/
lemma createdObjects_linesBehind_sublist (flags : Flags) (front ls : List Text) :
    (createdObjects (linesBehind flags front ls)).Sublist (createdObjects ls) := by
  have hquoted := createdObjects_quoting_sublist (quotingBehind flags front)
    ((strikingAll flags).emit ((strikingAll flags).after .start (headerLines flags front))
      (headerLines flags ls))
  have hstruck := createdObjects_striking_sublist (opensAny flags.struckClauses)
    ((strikingAll flags).after .start (headerLines flags front)) (headerLines flags ls)
  rw [createdObjects_headerLines] at hstruck
  exact hquoted.trans hstruck

/-- Sublists that are put together make up the whole exactly when each of them does. -/
lemma append_eq_append_iff_of_sublist {α : Type*} {xs ys xs' ys' : List α} (hx : xs.Sublist xs')
    (hy : ys.Sublist ys') : xs ++ ys = xs' ++ ys' ↔ xs = xs' ∧ ys = ys' := by
  constructor
  · intro h
    have hlength := congrArg List.length h
    rw [List.length_append, List.length_append] at hlength
    have hxlength := hx.length_le
    have hylength := hy.length_le
    exact ⟨hx.eq_of_length (by omega), hy.eq_of_length (by omega)⟩
  · rintro ⟨rfl, rfl⟩
    rfl

/-- Everything is created again exactly when this holds of what becomes of every line. -/
lemma createdObjects_replayableLines_eq_iff (flags : Flags) (ls : List Text) :
    createdObjects (replayableLines flags ls) = createdObjects ls ↔
      ∀ front l back, ls = front ++ l :: back →
        createdObjects (linesBehind flags front [l]) = createdObjects [l] := by
  induction ls using List.reverseRecOn with
  | nil => simp
  | append_singleton init last ih =>
    rw [replayableLines_append, createdObjects_append, createdObjects_append,
      append_eq_append_iff_of_sublist (createdObjects_replayableLines_sublist flags init)
        (createdObjects_linesBehind_sublist flags init [last]), ih]
    constructor
    · rintro ⟨hinit, hlast⟩ front l back hsplit
      rcases List.eq_nil_or_concat' back with rfl | ⟨middle, end_, rfl⟩
      · obtain ⟨rfl, hl⟩ := List.append_inj' hsplit rfl
        rwa [← List.singleton_inj.1 hl]
      · rw [← List.cons_append, ← List.append_assoc] at hsplit
        exact hinit front l middle (List.append_inj' hsplit rfl).1
    · intro hall
      constructor
      · rintro front l back rfl
        exact hall front l (back ++ [last]) (by simp)
      · exact hall init last [] rfl

end LineByLine

/-! ### Headers as lines among columns -/

section HeaderLine

variable {l rest : Text} {h : Header}

/-- Guarding a header does not change whether its line is indented. -/
lemma isIndented_guardedIf (guard : Bool) (hp : Header.parse? l = some (h, rest)) :
    Line.isIndented ((h.guardedIf guard).render ++ rest) = Line.isIndented l := by
  rw [← (Header.render_append_of_parse? hp).1]
  unfold Header.render Header.opening Header.guardedIf
  cases h.indent <;> rfl

/-- A character that stands in no word behind which columns are listed parts these words. -/
lemma opensList_append_cons {c : Char} (hc : ∀ k ∈ Column.listKeywords, c ∉ k) (a b : Text) :
    Column.opensList (a ++ c :: b) = (Column.opensList a || Column.opensList b) := by
  unfold Column.opensList
  rw [Bool.eq_iff_iff, Bool.or_eq_true, List.any_eq_true, List.any_eq_true, List.any_eq_true]
  simp only [occursIn_iff]
  constructor
  · rintro ⟨k, hk, hin⟩
    rcases isInfix_append_cons (hc k hk) hin with ha | hb
    · exact Or.inl ⟨k, hk, ha⟩
    · exact Or.inr ⟨k, hk, hb⟩
  · rintro (⟨k, hk, ha⟩ | ⟨k, hk, hb⟩)
    · exact ⟨k, hk, ha.trans (List.prefix_append a (c :: b)).isInfix⟩
    · exact ⟨k, hk, (hb.trans (List.suffix_cons c b).isInfix).trans
        (List.suffix_append a (c :: b)).isInfix⟩

/-- Columns are listed behind the header of a table. -/
lemma opensList_of_table (hkind : h.kind = .table) (rest : Text) :
    Column.opensList (h.render ++ rest) = true := by
  have hkeyword : ∃ k ∈ Column.listKeywords, Header.createKeyword ++
      (Header.optional h.external Header.externalKeyword ++ (h.kind.keyword ++ [' '])) =
        k ++ [' '] := by
    rw [hkind]
    cases h.external with
    | false => exact ⟨"CREATE TABLE".toList, by decide, rfl⟩
    | true => exact ⟨"CREATE EXTERNAL TABLE".toList, by decide, rfl⟩
  obtain ⟨k, hk, hsplit⟩ := hkeyword
  unfold Column.opensList Header.render Header.opening
  rw [hsplit, List.any_eq_true]
  refine ⟨k, hk, occursIn_iff.2 ⟨h.indent,
    ' ' :: (Header.optional h.guarded Header.guardKeyword ++ (h.name ++ rest)), ?_⟩⟩
  simp only [List.append_assoc, List.cons_append, List.nil_append]

/-- The guard in the header of a view is no word behind which columns are listed. -/
lemma opensList_view (indent : Text) (external guarded : Bool) (name rest : Text) :
    Column.opensList (Header.render ⟨indent, external, .view, guarded, name⟩ ++ rest) =
      (Column.opensList (indent ++ (Header.createKeyword ++
        (Header.optional external Header.externalKeyword ++ "VIE".toList))) ||
        Column.opensList (' ' :: (name ++ rest))) := by
  have hview : ∀ k ∈ Column.listKeywords, 'W' ∉ k := by decide
  have hguard : ∀ k ∈ Column.listKeywords, 'S' ∉ k := by decide
  have hkeyword : ObjectKind.view.keyword ++ [' '] = "VIE".toList ++ ['W', ' '] := rfl
  have hsplit : Header.render ⟨indent, external, .view, guarded, name⟩ ++ rest =
      (indent ++ (Header.createKeyword ++
        (Header.optional external Header.externalKeyword ++ "VIE".toList))) ++
        'W' :: ' ' :: (Header.optional guarded Header.guardKeyword ++ (name ++ rest)) := by
    unfold Header.render Header.opening
    rw [hkeyword]
    simp only [List.append_assoc, List.cons_append, List.nil_append]
  rw [hsplit, opensList_append_cons hview]
  cases guarded with
  | false => rfl
  | true =>
    have hbehind : ' ' :: (Header.optional true Header.guardKeyword ++ (name ++ rest)) =
        " IF NOT EXIST".toList ++ 'S' :: ' ' :: (name ++ rest) := rfl
    have hnone : Column.opensList " IF NOT EXIST".toList = false := by decide
    rw [hbehind, opensList_append_cons hguard, hnone, Bool.false_or]

/-- Guarding a header does not change whether columns are listed behind its line. -/
lemma opensList_guardedIf (guard : Bool) (hp : Header.parse? l = some (h, rest)) :
    Column.opensList ((h.guardedIf guard).render ++ rest) = Column.opensList l := by
  rw [← (Header.render_append_of_parse? hp).1]
  obtain ⟨indent, external, kind, guarded, name⟩ := h
  cases kind with
  | table => rw [opensList_of_table rfl, opensList_of_table rfl]
  | view =>
    unfold Header.guardedIf
    rw [opensList_view, opensList_view]

/-- The line of a header goes on with CREATE behind its indent. -/
lemma exists_createKeyword_append (hp : Header.parse? l = some (h, rest)) :
    ∃ r, l = h.indent ++ ("CREATE".toList ++ ' ' :: r) := by
  rw [← (Header.render_append_of_parse? hp).1]
  unfold Header.render Header.opening
  refine ⟨Header.optional h.external Header.externalKeyword ++ (h.kind.keyword ++ [' ']) ++
    (Header.optional h.guarded Header.guardKeyword ++ h.name) ++ rest, ?_⟩
  simp only [List.append_assoc]
  rfl

/-- An indented header reads like a column with the name `CREATE`, and is no header any longer when
this name is put in quotes. -/
lemma createdObject?_quoteName (hl : IsLine l) (hp : Header.parse? l = some (h, rest))
    (hindented : Line.isIndented l = true) : createdObject? (Column.quoteName l) = none := by
  obtain ⟨-, hindent, -⟩ := Header.parse?_eq_some_iff.1 hp
  obtain ⟨r, hsplit⟩ := exists_createKeyword_append hp
  have hne : h.indent ≠ [] := by
    intro hnil
    rw [hsplit, hnil] at hindented
    exact absurd hindented (by simp [Line.isIndented, isIndent])
  have hr : IsLine r := by
    unfold IsLine at hl ⊢
    rw [hsplit] at hl
    simp only [List.mem_append, List.mem_cons, not_or] at hl
    exact hl.2.2.2
  let column : ColumnLine := ⟨h.indent, "CREATE".toList, r, ⟨hne, hindent⟩,
    ⟨by decide, List.all_eq_true.1 (by decide)⟩, by decide, hr⟩
  have hcolumn : column.toLine = l := hsplit.symm
  have hchanged : Column.quoteName l ≠ l := by
    intro hsame
    rw [← hcolumn, column.quoteName_toLine] at hsame
    have hheads := (List.cons.inj (List.append_cancel_left hsame)).1
    exact absurd hheads (by decide)
  apply createdObject?_of_opening
  rw [Column.opening_quoteName hchanged]
  decide

end HeaderLine

/-! ### Which headers are lost -/

/-- A header that is taken for a column: it is indented and stands behind a list of columns that
goes on, since nothing is dropped in front of it and no columns are listed behind it. -/
structure IsTakenForColumn (flags : Flags) (front : List Text) (l : Text) : Prop where
  isHeader : (Statement.parse l).header?.isSome = true
  undropped : flags.isOn .dropTable = false
  indented : Line.isIndented l = true
  noList : Column.opensList l = false
  columns : (quotingBehind flags front).region = .columns

section Header

variable {flags : Flags} {front : List Text} {l rest : Text} {h : Header}

/-- Where no clause goes on, a header is put out when clauses are struck. -/
lemma visit_strikingAll_of_header (hp : Header.parse? l = some (h, rest)) :
    (strikingAll flags).visit .start l = ⟨l, some l, .start⟩ := by
  have hopening : Line.opening l = .recognised := by
    rw [Line.opening_eq_recognised_iff, hp]
    rfl
  have hopens : opensAny flags.struckClauses l = false :=
    (isClauseTest_opensAny (struckClauses_subset flags)).header hopening
  unfold strikingAll
  rw [Cursor.start, Pass.visit_of_opening (by rw [hopening]; decide),
    striking_of_passing (clauseRegion_passing hopens)]

/-- A header is treated by the pass, whatever is in front of it. -/
lemma visit_of_header {pass : Pass} {c : Cursor} (hp : Header.parse? l = some (h, rest)) :
    pass.visit c l = ⟨l, (pass c.region l).1, ⟨(pass c.region l).2, false⟩⟩ := by
  apply Pass.visit_of_not_skipping
  unfold Cursor.enter Line.opening
  rw [hp]
  rfl

/-- The line in the place of a header is put out when the object is dropped in front of it. -/
lemma mem_linesBehind_of_drop (hdrop : flags.isOn .dropTable = true)
    (hp : Header.parse? l = some (h, rest))
    (hstart : (strikingAll flags).after .start (headerLines flags front) = .start) :
    (h.guardedIf (flags.isOn .ifNotExists)).render ++ rest ∈ linesBehind flags front [l] := by
  have hguarded : Header.parse? ((h.guardedIf (flags.isOn .ifNotExists)).render ++ rest) =
      some (h.guardedIf (flags.isOn .ifNotExists), rest) := parse?_guardedIf hp
  generalize hline : (h.guardedIf (flags.isOn .ifNotExists)).render ++ rest = line at hguarded ⊢
  have hlines : headerLines flags [l] = [h.dropStatement, [], line] := by
    unfold headerLines preparedLines
    rw [List.flatMap_singleton, hp, hdrop, ← hline]
    rfl
  -- Whatever is left of the statement that drops the object, it is an end of a statement.
  obtain ⟨m, hm, hends⟩ : ∃ m, (strikingAll flags).visit .start h.dropStatement =
      ⟨h.dropStatement, some m, .start⟩ ∧ Line.isTerminated m = true :=
    visit_striking_of_terminated Cursor.coherent_start (isTerminated_dropStatement h)
  have hempty : (strikingAll flags).visit .start [] = ⟨[], some [], .start⟩ :=
    visit_striking_blank (isClauseTest_opensAny (struckClauses_subset flags)).blank
  have hstruck : (strikingAll flags).emit .start [h.dropStatement, [], line] = [m, [], line] := by
    rw [Pass.emit_cons, hm, Pass.emit_cons, hempty, Pass.emit_cons,
      visit_strikingAll_of_header hguarded]
    rfl
  obtain ⟨k, r, hk, -⟩ := Column.visit_quoting_of_terminated (c := quotingBehind flags front) hends
  have hout : (Column.quoting Cursor.start.region line).1 = some line := by
    rcases Column.quoting_cases .passing line with hsame | ⟨hcolumns, -⟩
    · exact hsame
    · exact absurd hcolumns (by decide)
  unfold linesBehind
  rw [hstart, hlines, hstruck, Pass.emit_cons, hk, Pass.emit_cons, Column.visit_quoting_blank,
    Pass.emit_cons, visit_of_header hguarded, hout]
  simp

/-- Where nothing is dropped, the line in the place of a header is left to quoting. -/
lemma linesBehind_of_not_drop (hdrop : flags.isOn .dropTable = false)
    (hp : Header.parse? l = some (h, rest))
    (hstart : (strikingAll flags).after .start (headerLines flags front) = .start) :
    linesBehind flags front [l] =
      (Column.quoting (quotingBehind flags front).region
        ((h.guardedIf (flags.isOn .ifNotExists)).render ++ rest)).1.toList := by
  have hguarded : Header.parse? ((h.guardedIf (flags.isOn .ifNotExists)).render ++ rest) =
      some (h.guardedIf (flags.isOn .ifNotExists), rest) := parse?_guardedIf hp
  have hlines : headerLines flags [l] =
      [(h.guardedIf (flags.isOn .ifNotExists)).render ++ rest] := by
    unfold headerLines preparedLines
    rw [List.flatMap_singleton, hp, hdrop]
    rfl
  unfold linesBehind
  rw [hstart, hlines, Pass.emit_cons, Pass.emit_nil, visit_strikingAll_of_header hguarded]
  simp only [Option.toList_some, List.append_nil, Pass.emit_cons, Pass.emit_nil,
    visit_of_header hguarded]

/-- Some of one object is this object when there is any. -/
lemma eq_singleton_of_sublist {α : Type*} {xs : List α} {x y : α} (hsub : xs.Sublist [x])
    (hy : y ∈ xs) : xs = [x] :=
  hsub.eq_of_length_le (List.length_pos_of_mem hy)

/-- A header that is taken for a column creates nothing any longer. -/
lemma createdObjects_linesBehind_of_taken (hl : IsLine l) (hp : Header.parse? l = some (h, rest))
    (hstart : (strikingAll flags).after .start (headerLines flags front) = .start)
    (htaken : IsTakenForColumn flags front l) :
    createdObjects (linesBehind flags front [l]) = [] := by
  have hguarded : Header.parse? ((h.guardedIf (flags.isOn .ifNotExists)).render ++ rest) =
      some (h.guardedIf (flags.isOn .ifNotExists), rest) := parse?_guardedIf hp
  have hindented := isIndented_guardedIf (flags.isOn .ifNotExists) hp
  have hlist := opensList_guardedIf (flags.isOn .ifNotExists) hp
  have hmem : (h.guardedIf (flags.isOn .ifNotExists)).render ++ rest ∈
      preparedLines false (flags.isOn .ifNotExists) l := by
    unfold preparedLines
    rw [hp]
    exact List.mem_singleton_self _
  have hline := isLine_of_mem_preparedLines hl hmem
  rw [htaken.indented] at hindented
  rw [htaken.noList] at hlist
  rw [linesBehind_of_not_drop htaken.undropped hp hstart, htaken.columns,
    Column.quoting_of_isIndented hlist hindented, Option.toList_some, createdObjects_singleton,
    createdObject?_quoteName hline hguarded hindented]
  rfl

/-- Where nothing is dropped and a header is not taken for a column, the line in its place is put
out. -/
lemma mem_linesBehind_of_not_taken (hdrop : flags.isOn .dropTable = false)
    (hp : Header.parse? l = some (h, rest))
    (hstart : (strikingAll flags).after .start (headerLines flags front) = .start)
    (htaken : ¬ IsTakenForColumn flags front l) :
    (h.guardedIf (flags.isOn .ifNotExists)).render ++ rest ∈ linesBehind flags front [l] := by
  rw [linesBehind_of_not_drop hdrop hp hstart, Option.mem_toList]
  rcases Column.quoting_cases (quotingBehind flags front).region
    ((h.guardedIf (flags.isOn .ifNotExists)).render ++ rest) with hsame | ⟨hr, hlist, hi, -⟩
  · exact hsame
  · rw [opensList_guardedIf _ hp] at hlist
    rw [isIndented_guardedIf _ hp] at hi
    have hheader : (Statement.parse l).header?.isSome = true := by
      unfold Statement.parse
      rw [hp]
      rfl
    exact absurd ⟨hheader, hdrop, hi, hlist, hr⟩ htaken

/-- Where no clause goes on, a header is lost when it is taken for a column, and only then. -/
lemma createdObjects_linesBehind_header (hl : IsLine l) (hp : Header.parse? l = some (h, rest))
    (hstart : (strikingAll flags).after .start (headerLines flags front) = .start) :
    createdObjects (linesBehind flags front [l]) = createdObjects [l] ↔
      ¬ IsTakenForColumn flags front l := by
  have hobject : createdObjects [l] = [(h.kind, h.external, h.name)] := by
    rw [createdObjects_singleton, createdObject?_of_parse? hp]
    rfl
  have hsub := createdObjects_linesBehind_sublist flags front [l]
  rw [hobject] at hsub ⊢
  constructor
  · intro hcreated htaken
    rw [createdObjects_linesBehind_of_taken hl hp hstart htaken] at hcreated
    exact absurd hcreated.symm (List.cons_ne_nil _ _)
  · intro htaken
    have hmem : (h.guardedIf (flags.isOn .ifNotExists)).render ++ rest ∈
        linesBehind flags front [l] := by
      cases hdrop : flags.isOn .dropTable with
      | true => exact mem_linesBehind_of_drop hdrop hp hstart
      | false => exact mem_linesBehind_of_not_taken hdrop hp hstart htaken
    have hguarded : Header.parse? ((h.guardedIf (flags.isOn .ifNotExists)).render ++ rest) =
        some (h.guardedIf (flags.isOn .ifNotExists), rest) := parse?_guardedIf hp
    have hcreated := createdObject?_of_parse? hguarded
    exact eq_singleton_of_sublist hsub (List.mem_filterMap.2 ⟨_, hmem, hcreated⟩)

end Header

/-! ### Scripts of statements -/

section Script

variable {flags : Flags} {blocks : List (List Text)} {l : Text}

/-- A blank line opens no clause. -/
lemma opensAny_of_blank {clauses : List Text} (hclauses : clauses ⊆ allClauses)
    (hl : l.all isBlank = true) : opensAny clauses l = false := by
  have hvisible : ∀ k ∈ allClauses, k.head?.any isBlank = false := by decide
  have htest := isClauseTest_opensAny hclauses
  cases l with
  | nil => exact htest.blank
  | cons c l =>
    rw [List.all_cons, Bool.and_eq_true] at hl
    unfold opensAny
    rw [List.any_eq_false]
    intro clause hclause
    rw [Bool.not_eq_true]
    refine opensClause_of_head? (hclauses hclause) fun k hk hhead => ?_
    have hfirst := hvisible k hk
    rw [hhead, List.head?_cons, Option.any_some, hl.1] at hfirst
    exact absurd hfirst (by decide)

/-- Behind statements and blank lines no clause goes on. -/
lemma after_strikingAll_of_blocks (hblocks : ∀ b ∈ blocks, IsStatement b ∨ IsGap b) :
    (strikingAll flags).after .start (headerLines flags blocks.flatten) = .start := by
  induction blocks with
  | nil => rfl
  | cons b blocks ih =>
    rw [List.forall_mem_cons] at hblocks
    have hfirst : (strikingAll flags).after .start (headerLines flags b) = .start := by
      rcases hblocks.1 with hstatement | hgap
      · obtain ⟨init, last, hlines, hends⟩ :=
          ((splitsAtBlank_headerLines flags).ends hstatement.finished).exists_concat
        have hcoherent : ((strikingAll flags).after .start init).Coherent :=
          Pass.coherent_after Cursor.coherent_start init
        obtain ⟨m, hvisit, -⟩ : ∃ m, (strikingAll flags).visit
            ((strikingAll flags).after .start init) last = ⟨last, some m, .start⟩ ∧
              Line.isTerminated m = true := visit_striking_of_terminated hcoherent hends
        rw [hlines, Pass.after_append, Pass.after_cons, Pass.after_nil, hvisit]
      · have hopening : ∀ l ∈ b, Line.opening l = .inner := fun l hl =>
          opening_of_blank (hgap l hl)
        have hsame : headerLines flags b = b :=
          headerLines_of_parse?_eq_none flags fun l hl =>
            Line.parse?_eq_none_of_opening (by rw [hopening l hl]; decide)
        rw [hsame]
        exact (emit_striking_passing (fun l hl => by rw [hopening l hl]; decide) fun l hl =>
          opensAny_of_blank (struckClauses_subset flags) (hgap l hl)).2
    rw [List.flatten_cons, headerLines_append, Pass.after_append, hfirst]
    exact ih hblocks.2

/-- In front of a header there are whole statements and blank lines. -/
lemma exists_blocks_of_header (hblocks : ∀ b ∈ blocks, IsStatement b ∨ IsGap b)
    {front back : List Text} (hsplit : blocks.flatten = front ++ l :: back)
    (hl : Line.opening l = .recognised) : ∃ before ⊆ blocks, front = before.flatten := by
  induction blocks generalizing front with
  | nil => exact absurd hsplit.symm (by simp)
  | cons b blocks ih =>
    rw [List.forall_mem_cons] at hblocks
    rw [List.flatten_cons] at hsplit
    rcases List.append_eq_append_iff.1 hsplit with ⟨rest, rfl, hrest⟩ | ⟨rest, rfl, hrest⟩
    · obtain ⟨before, hsub, rfl⟩ := ih hblocks.2 hrest
      exact ⟨b :: before, List.cons_subset_cons b hsub, rfl⟩
    · cases rest with
      | nil => exact ⟨[front], by simp, by simp⟩
      | cons k rest =>
        obtain ⟨rfl, -⟩ := List.cons.inj hrest
        cases front with
        | nil => exact ⟨[], by simp, rfl⟩
        | cons first front =>
          have hmem : l ∈ front ++ l :: rest := List.mem_append_right _ List.mem_cons_self
          rcases hblocks.1 with hstatement | hgap
          · exact absurd hl (hstatement.opening_ne_recognised_of_mem_tail hmem)
          · have hinner := opening_of_blank (hgap l (List.mem_cons_of_mem first hmem))
            rw [hinner] at hl
            exact absurd hl (by decide)

/-- In a script of statements a line creates the same as before unless it is a header that is taken
for a column. -/
lemma createdObjects_linesBehind_of_blocks (hblocks : ∀ b ∈ blocks, IsStatement b ∨ IsGap b)
    {front back : List Text} (hsplit : blocks.flatten = front ++ l :: back) (hl : IsLine l) :
    createdObjects (linesBehind flags front [l]) = createdObjects [l] ↔
      ¬ IsTakenForColumn flags front l := by
  cases hp : Header.parse? l with
  | none =>
    have hnothing : createdObjects [l] = [] := by
      rw [createdObjects_singleton]
      unfold createdObject? Statement.parse
      rw [hp]
      rfl
    have hsub := createdObjects_linesBehind_sublist flags front [l]
    rw [hnothing] at hsub ⊢
    refine iff_of_true (List.sublist_nil.1 hsub) fun htaken => ?_
    have hheader := htaken.isHeader
    unfold Statement.parse at hheader
    rw [hp] at hheader
    exact Bool.false_ne_true hheader
  | some p =>
    have hopening : Line.opening l = .recognised := by
      rw [Line.opening_eq_recognised_iff, hp]
      rfl
    obtain ⟨before, hsub, rfl⟩ := exists_blocks_of_header hblocks hsplit hopening
    exact createdObjects_linesBehind_header hl hp
      (after_strikingAll_of_blocks fun b hb => hblocks b (hsub hb))

/-- The header of a table is not taken for a column. -/
lemma IsTakenForColumn.kind_ne_table {front : List Text} (htaken : IsTakenForColumn flags front l)
    {h : Header} (hh : h ∈ (Statement.parse l).header?) : h.kind ≠ .table := by
  intro htable
  obtain ⟨p, hp, rfl⟩ := Option.map_eq_some_iff.1 (Option.mem_def.1 hh)
  have hlist := opensList_of_table htable p.2
  rw [(Header.render_append_of_parse? hp).1, htaken.noList] at hlist
  exact absurd hlist (by decide)

/-- A script of statements that flags let pass becomes a script that creates objects of the given
one in the same order. It creates all of them exactly when no header is taken for a column, and so
whenever objects are dropped first or only tables have indented headers. -/
theorem createdObjects_replayable (hstrict : flags.isOn .strict = false)
    (hblocks : ∀ b ∈ blocks, IsStatement b ∨ IsGap b) {script : Text}
    (hscript : lines script = blocks.flatten) :
    ∃ out, replayable flags script = .ok out ∧
      (createdObjects (lines out)).Sublist (createdObjects (lines script)) ∧
      (createdObjects (lines out) = createdObjects (lines script) ↔
        ∀ front l back, lines script = front ++ l :: back → ¬ IsTakenForColumn flags front l) ∧
      (flags.isOn .dropTable = true ∨ (∀ l ∈ lines script, ∀ h ∈ (Statement.parse l).header?,
          Line.isIndented l = true → h.kind = .table) →
        createdObjects (lines out) = createdObjects (lines script)) := by
  have hisLine : ∀ l ∈ lines script, IsLine l := fun _ => isLine_of_mem_lines
  have hobjects : createdObjects (lines (ofLines (replayableLines flags (lines script)))) =
      createdObjects (replayableLines flags (lines script)) :=
    createdObjects_lines_ofLines (lineByLine_prepare flags (lines script) hisLine).2
  have hiff : createdObjects (replayableLines flags (lines script)) =
      createdObjects (lines script) ↔
        ∀ front l back, lines script = front ++ l :: back → ¬ IsTakenForColumn flags front l := by
    rw [createdObjects_replayableLines_eq_iff]
    refine forall_congr' fun front => forall_congr' fun l => forall_congr' fun back =>
      forall_congr' fun hsplit => ?_
    have hl : IsLine l := hisLine l (hsplit ▸ List.mem_append_right _ List.mem_cons_self)
    exact createdObjects_linesBehind_of_blocks hblocks (hscript ▸ hsplit) hl
  refine ⟨_, (replayable_of_lenient hstrict script).trans
    (congrArg Except.ok (prepare_eq_ofLines flags script)), ?_⟩
  rw [hobjects]
  refine ⟨createdObjects_replayableLines_sublist flags _, hiff, fun hkept => ?_⟩
  rw [hiff]
  intro front l back hsplit htaken
  rcases hkept with hdrop | htables
  · rw [htaken.undropped] at hdrop
    exact absurd hdrop (by decide)
  · obtain ⟨h, hh⟩ := Option.isSome_iff_exists.1 htaken.isHeader
    have hl : l ∈ lines script := hsplit ▸ List.mem_append_right _ List.mem_cons_self
    exact htaken.kind_ne_table hh (htables l hl h hh htaken.indented)

end Script

/-- An indented view behind a table, where both are dropped first. -/
theorem createdObjects_replayable_indentedView :
    let flags := Flags.ofList [.dropTable, .suppressLocation]
    let blocks := [["CREATE TABLE t(", "  a int)", "LOCATION", "  '/t';"], [""],
      ["  CREATE VIEW v AS SELECT 1;"]].map (List.map String.toList)
    flags.isOn .strict = false ∧ (∀ b ∈ blocks, IsStatement b ∨ IsGap b) ∧
    ∃ out, replayable flags (ofLines blocks.flatten) = .ok out ∧
      createdObjects (lines out) =
        [(.table, false, "t".toList), (.view, false, "v".toList)] := by
  intro flags blocks
  have hstrict : flags.isOn .strict = false := by decide
  have hblocks : ∀ b ∈ blocks, IsStatement b ∨ IsGap b := by
    intro b hb
    rcases List.mem_cons.1 hb with rfl | hb
    · exact Or.inl ⟨by decide, ⟨_, rfl, by decide⟩, by decide⟩
    · rcases List.mem_cons.1 hb with rfl | hb
      · exact Or.inr (by unfold IsGap; decide)
      · rw [List.mem_singleton.1 hb]
        exact Or.inl ⟨by decide, ⟨_, rfl, by decide⟩, by decide⟩
  have hlines : lines (ofLines blocks.flatten) = blocks.flatten := by decide
  obtain ⟨out, hout, -, -, hkept⟩ := createdObjects_replayable hstrict hblocks hlines
  refine ⟨hstrict, hblocks, out, hout, (hkept (Or.inl (by decide))).trans ?_⟩
  rw [hlines]
  decide

/-- The view behind a table on one line is indented, and is created no longer: the list of columns
goes on behind the end of the table, so that CREATE is put in quotes. -/
theorem createdObjects_lost_indentedView :
    let flags := Flags.ofList []
    let script := "CREATE TABLE t(a int);\n  CREATE VIEW v AS SELECT 1;".toList
    IsStatement ((lines script).take 1) ∧ IsStatement ((lines script).drop 1) ∧
    flags.isOn .strict = false ∧
    replayable flags script =
      .ok "CREATE TABLE t(a int);\n  \x60CREATE\x60 VIEW v AS SELECT 1;".toList ∧
    createdObjects (lines script) = [(.table, false, "t".toList), (.view, false, "v".toList)] ∧
    createdObjects (lines
      "CREATE TABLE t(a int);\n  \x60CREATE\x60 VIEW v AS SELECT 1;".toList) =
        [(.table, false, "t".toList)] := by
  intro flags script
  have hstrict : flags.isOn .strict = false := by decide
  refine ⟨⟨by decide, ⟨_, rfl, by decide⟩, by decide⟩, ⟨by decide, ⟨_, rfl, by decide⟩, by decide⟩,
    hstrict, ?_, by decide, by decide⟩
  rw [replayable_of_lenient hstrict, prepare_eq_ofLines]
  decide +kernel

end DdlDump
