import DdlDump.Proofs.Ddl.StatementTexts
import DdlDump.Proofs.Dump.PartitionListing
import DdlDump.Proofs.Partition.Row

/-!
# The statements of a dump

Where the texts that a catalog answers hold no semicolons of their own, the script of a database has
as many statements as there is to do (`Session.dump_statementTexts`): one that enters the database,
one for each table with a definition, one for each object that is dropped first, and one for each
row of a partition listing with a pair in it. Whatever clauses are struck and whatever statements
are copied, none of them is lost, doubled or put together with another one. The catalog is taken to
answer in the same way all the time.
-/

namespace DdlDump

open Text Dumping

/-- The tables whose partitions were asked for, in order. -/
def partitionListings (made : List LookUp) : List Text :=
  made.filterMap fun
    | .partitions _ table => some table
    | _ => none

namespace Session

variable (s : Session) (db : Text)

/-! ### What there is to do -/

/-- The tables of a database, as far as they are known. -/
def tableNames : List Text :=
  answered ((s.catalog []).tables db)

/-- The definition of a table that the catalog answers. -/
def answeredDdl (table : Text) : Text :=
  answered ((s.catalog []).ddl db table)

/-- The statements of a database that are not empty, in the order in which they are dumped. -/
def allStatements : List Text :=
  s.statements db ((s.tableNames db).map (s.fetched db []))

/-- The number of tables with a definition. -/
def definedCount : Nat :=
  (s.tableNames db).countP fun table => !(s.answeredDdl db table).all isBlank

/-- The number of headers in the definitions of a database. -/
def definedHeaders : Nat :=
  ((s.tableNames db).map fun table => headerCount (lines (s.answeredDdl db table))).sum

/-- The rows with an equals sign in the partition listings of tables, each with its table. -/
def pairRows (tables : List Text) : List (Text × Text) :=
  tables.flatMap fun table =>
    ((answered ((s.catalog []).partitions db table)).filter fun row => decide ('=' ∈ row)).map
      fun row => (table, row)

/-- The texts that go into the script of a database hold no semicolons of their own, the names and
the rows no line feeds, and no definition ends directly behind the name of a header, where its
semicolon would become part of the name. -/
structure HasPlainTexts : Prop where
  name : ';' ∉ db ∧ '\n' ∉ db
  ddl : ∀ table ∈ s.tableNames db, ';' ∉ s.answeredDdl db table
  bare : ∀ table ∈ s.tableNames db, ∀ last ∈ (lines (s.answeredDdl db table).trimRight).getLast?,
    ∀ h, Header.parse? last ≠ some (h, [])
  rows : ∀ table, ∀ row ∈ answered ((s.catalog []).partitions db table), ';' ∉ row ∧ '\n' ∉ row

/-! ### The statements of the tables -/

section Statements

variable {s db}

/-- What is counted over the statements of a dump can be counted over the tables as they are
listed. -/
lemma sum_statements (hlevels : Dependent.IsTopological s.levelling)
    (htables : (s.tableNames db).Nodup) {f : Text → Nat} (hf : f [] = 0) :
    ((s.allStatements db).map f).sum =
      ((s.tableNames db).map fun table => f (terminate (s.answeredDdl db table))).sum := by
  have hperm : (s.inDumpOrder db ((s.tableNames db).map (s.fetched db []))).Perm
      ((s.tableNames db).map (s.fetched db [])) := by
    have hnames : (((s.tableNames db).map (s.fetched db [])).map Definition.name).Nodup := by
      rw [List.map_map]
      exact (List.map_id _).symm ▸ htables
    unfold inDumpOrder
    split
    · exact perm_arrangeBy hlevels hnames
    · exact .refl _
  have hfilter : ∀ ts : List Text,
      ((ts.filter fun t => !t.isEmpty).map f).sum = (ts.map f).sum := by
    intro ts
    induction ts with
    | nil => rfl
    | cons t ts ih =>
      cases t with
      | nil => simp [ih, hf]
      | cons c t => simp [ih]
  have hsum := (((hperm.map Definition.ddl).map f)).sum_nat
  unfold allStatements statements
  rw [hfilter]
  exact hsum.trans (by rw [List.map_map, List.map_map]; rfl)

/-- Counting what does not have a property by ones and zeros. -/
lemma sum_ite_eq_countP {α : Type*} (p : α → Bool) (xs : List α) :
    (xs.map fun x => if p x then 0 else 1).sum = xs.countP fun x => !p x := by
  induction xs with
  | nil => rfl
  | cons x xs ih =>
    rw [List.map_cons, List.sum_cons, ih, List.countP_cons]
    cases p x with
    | true => simp
    | false => simp [Nat.add_comm]

/-- The statements have one semicolon for each table with a definition. -/
lemma count_joinParts_statements (hlevels : Dependent.IsTopological s.levelling)
    (htables : (s.tableNames db).Nodup) (hplain : s.HasPlainTexts db) :
    (joinParts (s.allStatements db)).count ';' = s.definedCount db := by
  have hone : ∀ table ∈ s.tableNames db, (terminate (s.answeredDdl db table)).count ';' =
      if (s.answeredDdl db table).all isBlank then 0 else 1 := fun table htable =>
    count_terminate (hplain.ddl table htable)
  rw [count_joinParts, sum_statements hlevels htables rfl, List.map_congr_left hone]
  exact sum_ite_eq_countP (fun table => (s.answeredDdl db table).all isBlank) (s.tableNames db)

/-- The headers of the statements are those of the definitions. -/
lemma headerCount_joinParts_statements (hlevels : Dependent.IsTopological s.levelling)
    (htables : (s.tableNames db).Nodup) (hplain : s.HasPlainTexts db) :
    headerCount (lines (joinParts (s.allStatements db))) = s.definedHeaders db := by
  rw [headerCount_joinParts, sum_statements hlevels htables (by decide)]
  unfold definedHeaders
  exact congrArg List.sum (List.map_congr_left fun table htable =>
    headerCount_terminate (hplain.ddl table htable))

/-- A statement of a dump is a definition with its semicolon. -/
lemma exists_table_of_mem_statements {t : Text} (ht : t ∈ s.allStatements db) :
    ∃ table ∈ s.tableNames db, t = terminate (s.answeredDdl db table) := by
  obtain ⟨-, d, hd, rfl⟩ := exists_of_mem_statements ht
  obtain ⟨table, htable, rfl⟩ := List.mem_map.1 hd
  exact ⟨table, htable, rfl⟩

/-- The replayable statements have one semicolon for each definition and for each object that is
dropped first. -/
lemma count_prepare_statements (hlevels : Dependent.IsTopological s.levelling)
    (htables : (s.tableNames db).Nodup) (hplain : s.HasPlainTexts db) :
    (prepare s.flags (joinParts (s.allStatements db))).count ';' =
      s.definedCount db + if s.flags.isOn .dropTable then s.definedHeaders db else 0 := by
  have hlines : ∀ l ∈ lines (joinParts (s.allStatements db)), l = [] ∨
      ∃ table ∈ s.tableNames db, l ∈ lines (terminate (s.answeredDdl db table)) := by
    intro l hl
    rcases mem_lines_joinParts hl with rfl | ⟨t, ht, hlt⟩
    · exact Or.inl rfl
    · obtain ⟨table, htable, rfl⟩ := exists_table_of_mem_statements ht
      exact Or.inr ⟨table, htable, hlt⟩
  rw [count_prepare s.flags, count_joinParts_statements hlevels htables hplain,
    headerCount_joinParts_statements hlevels htables hplain]
  · intro l hl
    rcases hlines l hl with rfl | ⟨table, htable, hlt⟩
    · rfl
    · exact endsOnly_of_mem_lines_terminate (hplain.ddl table htable) hlt
  · intro l hl h rest hp
    rcases hlines l hl with rfl | ⟨table, htable, hlt⟩
    · have hnone : Header.parse? [] = none := by decide
      rw [hnone] at hp
      exact absurd hp.symm (Option.some_ne_none _)
    · exact not_mem_name_of_mem_lines_terminate (hplain.ddl table htable)
        (hplain.bare table htable) hlt hp

/-- The replayable statements end in a semicolon, if there are any. -/
lemma endsInSemicolon_prepare_statements (s : Session) (db : Text) :
    prepare s.flags (joinParts (s.allStatements db)) = [] ∨
      EndsInSemicolon (prepare s.flags (joinParts (s.allStatements db))) := by
  rcases eq_or_ne (s.allStatements db) [] with hnone | hne
  · left
    rw [hnone]
    exact eq_prepare_of_replayable (replayable_nil s.flags) |>.symm
  · right
    refine endsInSemicolon_prepare s.flags (endsInSemicolon_joinParts hne fun t ht => ?_)
    obtain ⟨hne, d, hd, rfl⟩ := exists_of_mem_statements ht
    obtain ⟨table, -, rfl⟩ := List.mem_map.1 hd
    exact endsInSemicolon_of_terminate hne rfl

end Statements

/-! ### The statements that put back partitions -/

section Partitions

variable {s db}

/-- The partition part, without its line feeds, is made of the statements that put back
partitions. -/
lemma without_partitionScript {names : List Text}
    (hline : ∀ name ∈ names, ∀ t ∈ Partition.addStatements name
      (answered ((s.catalog []).partitions db name)), '\n' ∉ t) :
    without (partitionScript (names.map (s.listed db []))) '\n' =
      (names.flatMap fun name =>
        Partition.addStatements name (answered ((s.catalog []).partitions db name))).flatten := by
  have hgroups : listedGroups (names.map (s.listed db [])) =
      (names.map fun name =>
        Partition.addStatements name (answered ((s.catalog []).partitions db name))).filter
          fun g => !g.isEmpty := by
    rw [listedGroups_eq, List.map_map]
    rfl
  have hgroup : ∀ g ∈ listedGroups (names.map (s.listed db [])),
      without (ofLines g) '\n' = g.flatten := by
    intro g hg
    rw [hgroups] at hg
    obtain ⟨name, hname, rfl⟩ := List.mem_map.1 (List.mem_filter.1 hg).1
    unfold ofLines
    rw [without_intercalate (by decide), List.map_congr_left fun t ht =>
      without_of_not_mem (hline name hname t ht), List.map_id']
  have hflat : ((listedGroups (names.map (s.listed db []))).map ofLines).map (without · '\n') =
      (listedGroups (names.map (s.listed db []))).map List.flatten := by
    rw [List.map_map]
    exact List.map_congr_left hgroup
  rw [partitionScript_eq_joinParts]
  unfold joinParts
  rw [without_intercalate (by decide), hflat, ← List.flatten_flatten, hgroups,
    List.flatten_filter_not_isEmpty, List.flatMap_def]

/-- The rows with a pair are put back one by one. -/
lemma flatMap_addStatements (names : List Text) :
    (names.flatMap fun name =>
      Partition.addStatements name (answered ((s.catalog []).partitions db name))) =
      (s.pairRows db names).map fun p => Partition.addStatement p.1 (Partition.parse p.2) := by
  unfold pairRows
  rw [List.map_flatMap]
  refine List.flatMap_congr fun name _ => ?_
  rw [Partition.addStatements_eq_map, List.map_map]
  rfl

/-- A statement that puts back a partition ends in a semicolon and holds no other, where names and
rows hold none. -/
lemma exists_of_mem_pairRows {names : List Text} (hnames : ∀ n ∈ names, ';' ∉ n ∧ '\n' ∉ n)
    (hplain : s.HasPlainTexts db) {p : Text × Text} (hp : p ∈ s.pairRows db names) :
    ∃ front, Partition.addStatement p.1 (Partition.parse p.2) = front ++ [';'] ∧ ';' ∉ front ∧
      '\n' ∉ front := by
  obtain ⟨name, hname, hlisted⟩ := List.mem_flatMap.1 hp
  obtain ⟨row, hrow, rfl⟩ := List.mem_map.1 hlisted
  obtain ⟨front, hfront, hchars⟩ := Partition.exists_addStatement_eq name row
  have hrowPlain := hplain.rows name row (List.mem_filter.1 hrow).1
  refine ⟨front, hfront, fun hmem => ?_, fun hmem => ?_⟩
  · rcases hchars _ hmem with h | h | h
    · exact (hnames name hname).1 h
    · exact hrowPlain.1 h
    · exact absurd h (by decide)
  · rcases hchars _ hmem with h | h | h
    · exact (hnames name hname).2 h
    · exact hrowPlain.2 h
    · exact absurd h (by decide)

/-- The partition part consists of one statement for each row with a pair in the listings that were
asked for. -/
lemma exists_adds_partitionPart (hsteady : s.IsSteady) (hplain : s.HasPlainTexts db)
    {before made : List LookUp} {script part : Text}
    (hpart : (s.partitionPart db script).Comes before made part) :
    ∃ adds : List Text, (∀ x ∈ adds, ';' ∉ x) ∧
      adds.map (· ++ [';']) = (s.pairRows db (partitionListings made)).map
        (fun p => Partition.addStatement p.1 (Partition.parse p.2)) ∧
      without part '\n' = (adds.map (· ++ [';'])).flatten := by
  cases hsuppressed : s.flags.isOn .suppressPartitionInfo with
  | true =>
    obtain ⟨rfl, rfl⟩ := comes_partitionPart_suppressed hsuppressed hpart
    exact ⟨[], by simp, rfl, rfl⟩
  | false =>
    obtain ⟨rfl, rfl⟩ := comes_partitionPart hsuppressed hpart
    have hlistings : partitionListings ((partitionedNames script).map (LookUp.partitions db)) =
        partitionedNames script := by
      unfold partitionListings
      rw [List.filterMap_map]
      exact List.filterMap_some
    have hlisted : inTurn (LookUp.partitions db) (s.listed db) before (partitionedNames script) =
        (partitionedNames script).map (s.listed db []) := by
      refine inTurn_of_steady (fun b name => ?_) before _
      unfold listed
      rw [hsteady b]
    have hnames : ∀ n ∈ partitionedNames script, ';' ∉ n ∧ '\n' ∉ n := fun n hn =>
      not_mem_of_mem_partitionedNames hn
    have hended : ∀ x ∈ (s.pairRows db (partitionedNames script)).map
        (fun p => Partition.addStatement p.1 (Partition.parse p.2)),
        ∃ front, x = front ++ [';'] ∧ ';' ∉ front := by
      intro x hx
      obtain ⟨p, hp, rfl⟩ := List.mem_map.1 hx
      obtain ⟨front, hfront, hsemicolon, -⟩ := exists_of_mem_pairRows hnames hplain hp
      exact ⟨front, hfront, hsemicolon⟩
    have hlines : ∀ name ∈ partitionedNames script, ∀ t ∈ Partition.addStatements name
        (answered ((s.catalog []).partitions db name)), '\n' ∉ t := by
      intro name hname t ht
      rw [Partition.addStatements_eq_map] at ht
      obtain ⟨row, hrow, rfl⟩ := List.mem_map.1 ht
      have hp : (name, row) ∈ s.pairRows db (partitionedNames script) :=
        List.mem_flatMap.2 ⟨name, hname, List.mem_map_of_mem hrow⟩
      obtain ⟨front, hfront, -, hnewline⟩ := exists_of_mem_pairRows hnames hplain hp
      rw [hfront]
      simp [hnewline]
    obtain ⟨adds, hadds, hwhole⟩ := exists_ended hended
    refine ⟨adds, hadds, ?_, ?_⟩
    · rw [hlistings, hwhole]
    · rw [hlisted, without_partitionScript hlines, flatMap_addStatements, hwhole]

end Partitions

/-! ### The whole script -/

/-- Without its line feeds, the script of a database is what enters the database, with a semicolon,
then the statements of the tables, and then those that put back partitions. -/
lemma without_databaseScript {db : Text} (hdb : '\n' ∉ db) (statements partitions : Text) :
    without (databaseScript db statements partitions) '\n' =
      ("use ".toList ++ db) ++ ';' :: (without statements '\n' ++ without partitions '\n') := by
  have huse : without "use ".toList '\n' = "use ".toList := by decide
  have hbehind : without ";\n\n".toList '\n' = [';'] := by decide
  have hblank : without "\n\n".toList '\n' = [] := by decide
  have hend : without ['\n'] '\n' = [] := by decide
  have hpartitions : without (if partitions.isEmpty then [] else "\n\n".toList ++ partitions) '\n' =
      without partitions '\n' := by
    cases partitions with
    | nil => rfl
    | cons c partitions =>
      simp only [List.isEmpty_cons, Bool.false_eq_true, if_false]
      rw [without_append, hblank, List.nil_append]
  unfold databaseScript
  rw [without_append, without_append, without_append, without_append, without_append, huse,
    without_of_not_mem hdb, hbehind, hpartitions, hend]
  simp only [List.append_assoc, List.append_nil, List.cons_append, List.nil_append]

/-- Cut at its semicolons, the script of a database has a piece that enters the database, one for
each definition and for each object that is dropped, one for each row with a pair in the listings
that were asked for, in their order, and an empty one at the end. -/
theorem dump_statementTexts {s : Session} {db : Text} (hsteady : s.IsSteady) (honly : s.OnlyFails)
    (hlevels : Dependent.IsTopological s.levelling) (hworkers : s.workers ≤ 1)
    (hstrict : s.flags.isOn .strict = false) (htables : (s.tableNames db).Nodup)
    (hplain : s.HasPlainTexts db) :
    ∃ script made middle adds, ((s.dump (.given db)).after []).value = .ok script ∧
      ((s.dump (.given db)).after []).lookUps = made ∧
      statementTexts script = ("use ".toList ++ db) :: (middle ++ adds ++ [[]]) ∧
      middle.length =
        s.definedCount db + (if s.flags.isOn .dropTable then s.definedHeaders db else 0) ∧
      adds.map (· ++ [';']) = (s.pairRows db (partitionListings made)).map
        (fun p => Partition.addStatement p.1 (Partition.parse p.2)) ∧
      (statementTexts script).length =
        2 + s.definedCount db + (if s.flags.isOn .dropTable then s.definedHeaders db else 0) +
          (s.pairRows db (partitionListings made)).length := by
  obtain ⟨script, hscript⟩ := exists_dump_eq_ok honly hstrict db []
  obtain ⟨tables, asked, ddls, part, made, htableNames, hasked, hddls, hpart, hlookUps, hdump⟩ :=
    exists_statements_of_dump hworkers hscript
  obtain rfl : tables = s.tableNames db := htableNames
  replace hdump : script = databaseScript db ddls part := hdump
  have hfetched : inTurn (LookUp.ddl db) (s.fetched db) ([] ++ [.tables db]) (s.tableNames db) =
      (s.tableNames db).map (s.fetched db []) := by
    refine inTurn_of_steady (fun b table => ?_) _ _
    unfold fetched
    rw [hsteady b]
  have hprepared : ddls = prepare s.flags (joinParts (s.allStatements db)) := by
    refine eq_prepare_of_replayable ?_
    unfold allStatements
    rw [← hfetched]
    exact hddls
  -- only the look-ups of the partition part are of partitions
  have hlistings : partitionListings (asked ++ made) = partitionListings made := by
    unfold partitionListings
    rw [hasked, List.cons_append, List.filterMap_cons, List.filterMap_append, List.filterMap_map]
    have hddl : (s.tableNames db).filterMap (fun table : Text => (none : Option Text)) = [] :=
      List.filterMap_none _
    exact congrArg (· ++ _) hddl
  obtain ⟨adds, hended, hadds, hwithout⟩ := exists_adds_partitionPart hsteady hplain hpart
  rw [← hlistings] at hadds
  have hends : without ddls '\n' = [] ∨ EndsInSemicolon (without ddls '\n') := by
    rw [hprepared]
    rcases endsInSemicolon_prepare_statements s db with hnone | hends
    · rw [hnone]
      exact Or.inl rfl
    · exact Or.inr (endsInSemicolon_without hends)
  obtain ⟨middle, hmiddle, hcut⟩ := exists_splitOn_append hends
  have hcount : middle.length =
      s.definedCount db + if s.flags.isOn .dropTable then s.definedHeaders db else 0 := by
    rw [hmiddle, count_without (by decide), hprepared,
      count_prepare_statements hlevels htables hplain]
  have huse : ';' ∉ "use ".toList ++ db := by
    rw [List.mem_append, not_or]
    exact ⟨by decide, hplain.name.1⟩
  have htexts : statementTexts script = ("use ".toList ++ db) :: (middle ++ adds ++ [[]]) := by
    unfold statementTexts
    rw [hdump, without_databaseScript hplain.name.2, List.splitOn_append_cons_self,
      List.splitOn_eq_singleton huse, hwithout, hcut, splitOn_flatten_ended hended,
      List.append_assoc]
    rfl
  refine ⟨script, _, middle, adds, hscript, hlookUps, htexts, hcount, hadds, ?_⟩
  have hlength := congrArg List.length hadds
  rw [List.length_map, List.length_map] at hlength
  rw [htexts, List.length_cons, List.length_append, List.length_append, List.length_singleton,
    hcount, hlength]
  omega

/-- A catalog with a partitioned table that has a clause at its end, a view, a statement in small
letters, and a table without a definition. -/
def countedCatalog : Catalog (Except Fault) where
  databases := .ok []
  tables _ := .ok (["t", "v", "u", "w"].map String.toList)
  ddl _ table :=
    if table = "t".toList then
      .ok "CREATE TABLE t(\n  a int)\nPARTITIONED BY (\n  b int)\nLOCATION\n  '/t' \n".toList
    else if table = "v".toList then .ok "CREATE VIEW v AS\nSELECT 1".toList
    else if table = "u".toList then .ok "create table u(\n  c int)".toList
    else .ok " \n".toList
  partitions _ _ := .ok (["b=1", "none", "b=2/c=3 4"].map String.toList)

/-- Three definitions, two headers and two rows with pairs make nine pieces. -/
theorem dump_statementTexts_countedCatalog :
    let s := answering countedCatalog (Flags.ofList [.dropTable, .suppressLocation])
    let db := "d".toList
    s.IsSteady ∧ s.OnlyFails ∧ Dependent.IsTopological s.levelling ∧ s.workers ≤ 1 ∧
    s.flags.isOn .strict = false ∧ (s.tableNames db).Nodup ∧ s.HasPlainTexts db ∧
    ∃ script middle adds, ((s.dump (.given db)).after []).value = .ok script ∧
      statementTexts script = "use d".toList :: (middle ++ adds ++ [[]]) ∧ middle.length = 5 ∧
      adds = ["ALTER TABLE t ADD PARTITION (b='1')",
        "ALTER TABLE t ADD PARTITION (b='2', c='3 4')"].map String.toList ∧
      (statementTexts script).length = 9 := by
  intro s db
  have hrows : ∀ row ∈ ["b=1", "none", "b=2/c=3 4"].map String.toList, ';' ∉ row ∧ '\n' ∉ row := by
    decide
  have hbare : ∀ table ∈ s.tableNames db,
      ∀ last ∈ (lines (s.answeredDdl db table).trimRight).getLast?,
        ∀ p ∈ Header.parse? last, p.2 ≠ [] := by
    decide +kernel
  have hplain : s.HasPlainTexts db :=
    ⟨by decide, by decide,
      fun table htable last hlast h hp => hbare table htable last hlast _ hp rfl, fun _ => hrows⟩
  have hsteady : s.IsSteady := isSteady_answering _ _
  have honly : s.OnlyFails :=
    onlyFails_of_answers (fun _ => nofun) (fun _ _ => nofun)
      (fun _ _ _ => ite_ne_nullCharacter nofun
        (ite_ne_nullCharacter nofun (ite_ne_nullCharacter nofun nofun)))
      fun _ _ _ => nofun
  have hlevels : Dependent.IsTopological s.levelling := Dependent.isTopological_levels
  have hworkers : s.workers ≤ 1 := by decide
  have hstrict : s.flags.isOn .strict = false := by decide
  have htables : (s.tableNames db).Nodup := by decide
  obtain ⟨script, made, middle, adds, hscript, rfl, htexts, hmiddle, hadds, hlength⟩ :=
    dump_statementTexts hsteady honly hlevels hworkers hstrict htables hplain
  have hlistings :
      partitionListings ((s.dump (.given db)).after []).lookUps = ["t".toList] := by
    decide +kernel
  have hdefined : s.definedCount db = 3 ∧ s.definedHeaders db = 2 := by decide +kernel
  rw [hlistings] at hadds hlength
  refine ⟨hsteady, honly, hlevels, hworkers, hstrict, htables, hplain, script, middle, adds,
    hscript, htexts, ?_, ?_, ?_⟩
  · rw [hmiddle, hdefined.1, hdefined.2]
    decide
  · have hended : Function.Injective fun t : Text => t ++ [';'] := List.append_left_injective [';']
    apply List.map_injective_iff.2 hended
    exact hadds.trans (by decide +kernel)
  · rw [hlength, hdefined.1, hdefined.2]
    decide +kernel

end Session

end DdlDump
