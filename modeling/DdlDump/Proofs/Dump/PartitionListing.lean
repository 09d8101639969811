import DdlDump.Proofs.Dump.PartitionGroups
import DdlDump.Proofs.Dump.SideBySide
import DdlDump.Proofs.View.Arrangement

/-!
# The partitions of a dump

Whose partitions a dump asks for is found out from its replayable script as a whole. It is settled
table by table all the same (`Session.dump_partitionListing`): the script is made of the replayable
statements of the tables, each of which ends in a semicolon, and so the partitioned tables of the
script are those of these statements, one after the other. What the catalog answers may depend on
all that was asked before, so that a table that is created twice may have two listings.
-/

namespace DdlDump

open Text Dumping

/-- A part that ends in a semicolon still does when it is let pass. -/
lemma endsInSemicolon_of_replayable {flags : Flags} {t out : Text} (ht : EndsInSemicolon t)
    (hout : replayable flags t = .ok out) : EndsInSemicolon out := by
  rw [eq_prepare_of_replayable hout]
  exact endsInSemicolon_prepare flags ht

namespace Session

/-! ### The statements of a dump -/

/-- The statements of definitions, without the empty ones, in the order in which they are dumped. -/
def statements (s : Session) (db : Text) (ds : List Definition) : List Text :=
  ((s.inDumpOrder db ds).map Definition.ddl).filter fun t => !t.isEmpty

section Statements

variable {s : Session} {db : Text}

/-- Nothing is dumped but what was fetched. -/
lemma exists_of_mem_statements {ds : List Definition} {t : Text} (ht : t ∈ s.statements db ds) :
    t ≠ [] ∧ ∃ d ∈ ds, d.ddl = t := by
  unfold statements at ht
  obtain ⟨hmem, hne⟩ := List.mem_filter.1 ht
  obtain ⟨d, hd, rfl⟩ := List.mem_map.1 hmem
  refine ⟨by simpa using hne, d, ?_, rfl⟩
  unfold inDumpOrder at hd
  split at hd
  · exact mem_of_mem_arrangeBy hd
  · exact hd

variable {before : List LookUp} {tables : List Text}

/-- Every statement that is fetched ends in its semicolon. -/
lemma endsInSemicolon_of_mem_statements {t : Text}
    (ht : t ∈ s.statements db (inTurn (LookUp.ddl db) (s.fetched db) before tables)) :
    EndsInSemicolon t := by
  obtain ⟨hne, d, hd, rfl⟩ := exists_of_mem_statements ht
  obtain ⟨table, -, b, rfl⟩ := exists_of_mem_inTurn hd
  exact endsInSemicolon_of_terminate hne rfl

/-- A script that is let pass is made of statements that are let pass one by one, and its
partitioned tables are those of these statements. -/
lemma exists_parts_of_replayable {ts : List Text} (hends : ∀ t ∈ ts, EndsInSemicolon t)
    {script : Text} (h : replayable s.flags (joinParts ts) = .ok script) :
    ∃ parts, ts.mapM (replayable s.flags) = .ok parts ∧ script = joinParts parts ∧
      partitionedNames script = parts.flatMap partitionedNames := by
  rw [replayable_joinParts_eq_mapM s.flags hends] at h
  cases hparts : ts.mapM (replayable s.flags) with
  | error e =>
    rw [hparts] at h
    exact absurd h (by simp [Except.map])
  | ok parts =>
    rw [hparts] at h
    have hscript : joinParts parts = script := Except.ok.inj h
    refine ⟨parts, rfl, hscript.symm, ?_⟩
    rw [← hscript]
    refine partitionedNames_joinParts fun out hout => ?_
    obtain ⟨t, ht, hreplayable⟩ := exists_mem_of_mem_mapM hparts hout
    exact endsInSemicolon_of_replayable (hends t ht) hreplayable

/-- A dump by one worker that has a script asks for the tables and for the statement of each, and
then makes the partition part of what becomes of the statements. -/
lemma exists_statements_of_dump {name : DatabaseName} {script : Text} (hworkers : s.workers ≤ 1)
    (hscript : ((s.dump name).after before).value = .ok script) :
    ∃ tables asked statements part made,
      tables = answered ((s.catalog before).tables name.text) ∧
      asked = .tables name.text :: tables.map (LookUp.ddl name.text) ∧
      replayable s.flags (joinParts (s.statements name.text (inTurn (LookUp.ddl name.text)
        (s.fetched name.text) (before ++ [.tables name.text]) tables))) = .ok statements ∧
      (s.partitionPart name.text statements).Comes (before ++ asked) made part ∧
      ((s.dump name).after before).lookUps = asked ++ made ∧
      script = databaseScript name.text statements part := by
  obtain ⟨asked, ds, made, harranged, hbehind, hmade⟩ := comes_dump (comes_of_value hscript)
  obtain ⟨tables, htables, rfl, rfl⟩ := comes_arranged hworkers harranged
  obtain ⟨statements, part, hstatements, hpart, rfl⟩ := comes_script hbehind
  exact ⟨tables, _, statements, part, made, htables, rfl, hstatements, hpart, hmade, rfl⟩

end Statements

/-! ### The groups of a dump -/

/-- The groups stand at the end of the script, where there are any. -/
lemma databaseScript_partitionScript (db statements : Text) (listed : List (Text × List Text)) :
    databaseScript db statements (partitionScript listed) =
      "use ".toList ++ db ++ ";\n\n".toList ++ statements ++
        (if (listedGroups listed).isEmpty then []
          else "\n\n".toList ++ joinParts ((listedGroups listed).map ofLines)) ++ ['\n'] := by
  have hempty : (partitionScript listed).isEmpty = (listedGroups listed).isEmpty := by
    rw [Bool.eq_iff_iff, List.isEmpty_iff, List.isEmpty_iff, partitionScript_eq_nil_iff]
  unfold databaseScript
  rw [hempty, partitionScript_eq_joinParts]

/-! ### Table by table -/

/-- A dump by one worker asks for the tables of a database, for the statement of each, and for the
partitions of each partitioned table that one of these statements creates when it is made replayable
alone. Its script is made of the replayable statements and, where there are any, of the groups that
put back these partitions. Every answer is the one that the catalog has behind all look-ups in front
of it. Partitions that are left out are not asked for at all. -/
theorem dump_partitionListing (s : Session) (name : DatabaseName) (before : List LookUp) :
    (s.workers ≤ 1 → s.flags.isOn .suppressPartitionInfo = false →
      ∀ script, ((s.dump name).after before).value = .ok script →
        ∃ tables asked ds parts names groups,
          tables = answered ((s.catalog before).tables name.text) ∧
          asked = .tables name.text :: tables.map (LookUp.ddl name.text) ∧
          ds = inTurn (LookUp.ddl name.text) (s.fetched name.text)
            (before ++ [.tables name.text]) tables ∧
          (s.statements name.text ds).mapM (replayable s.flags) = .ok parts ∧
          names = parts.flatMap partitionedNames ∧
          groups = listedGroups (inTurn (LookUp.partitions name.text) (s.listed name.text)
            (before ++ asked) names) ∧
          ((s.dump name).after before).lookUps =
            asked ++ names.map (LookUp.partitions name.text) ∧
          script = "use ".toList ++ name.text ++ ";\n\n".toList ++ joinParts parts ++
            (if groups.isEmpty then [] else "\n\n".toList ++ joinParts (groups.map ofLines)) ++
              ['\n']) ∧
    (s.flags.isOn .suppressPartitionInfo = true →
      ∀ l ∈ ((s.dump name).after before).lookUps, ∀ db table, l ≠ .partitions db table) := by
  refine ⟨fun hworkers hlisted script hscript => ?_, fun hsuppressed => ?_⟩
  · obtain ⟨tables, asked, statements, part, made, htables, hasked, hstatements, hpart, hmade,
      rfl⟩ := exists_statements_of_dump hworkers hscript
    obtain ⟨parts, hparts, rfl, hnames⟩ :=
      exists_parts_of_replayable (fun t => endsInSemicolon_of_mem_statements) hstatements
    obtain ⟨rfl, rfl⟩ := comes_partitionPart hlisted hpart
    rw [hnames] at hmade ⊢
    exact ⟨tables, asked, _, parts, _, _, htables, hasked, rfl, hparts, rfl, rfl, hmade,
      databaseScript_partitionScript _ _ _⟩
  · have hasks : Alike (.asking fun l => ∀ db table, l ≠ .partitions db table) s s :=
      s.alike_asking nofun (fun _ => nofun) (fun _ _ => nofun)
        (fun hlisted => absurd hlisted (by rw [hsuppressed]; decide))
    exact (hasks.dump name (b := before) rfl).events.2

/-- A catalog that lists a view, a partitioned table twice, and one without any partition. When it
is asked for the partitions of a table again, it has another answer. -/
def repeatingCatalog (before : List LookUp) : Catalog (Except Fault) where
  databases := .ok []
  tables _ := .ok (["v", "t", "u", "t"].map String.toList)
  ddl _ table :=
    if table = "v".toList then .ok "CREATE VIEW v AS SELECT 'PARTITIONED BY'".toList
    else .ok ("CREATE TABLE ".toList ++ table ++ "(\n  a int)\nPARTITIONED BY (\n  b int)".toList)
  partitions db table :=
    if .partitions db table ∈ before then .ok ["b=3".toList]
    else if table = "t".toList then .ok ["b=1".toList, "b=2".toList]
    else .error (.failed (.refused table))

/-- Partitions are asked for as often as their table is listed, and put back as they are answered
each time. -/
theorem dump_partitionListing_repeatingCatalog :
    let s : Session :=
      { catalog := repeatingCatalog
        flags := Flags.ofList []
        levelling := Dependent.levels }
    let suppressed : Session := { s with flags := Flags.ofList [.suppressPartitionInfo] }
    let table := fun name : Text => "CREATE TABLE ".toList ++ name ++
      "(\n  \x60a\x60 int)\nPARTITIONED BY (\n  \x60b\x60 int);".toList
    (∃ script, ((s.dump (.given "d".toList)).after []).value = .ok script ∧
      script = joinParts ["use d;".toList, "CREATE VIEW v AS SELECT 'PARTITIONED BY';".toList,
        table "t".toList, table "u".toList, table "t".toList,
        "ALTER TABLE t ADD PARTITION (b='1');\nALTER TABLE t ADD PARTITION (b='2');".toList,
        "ALTER TABLE t ADD PARTITION (b='3');\n".toList]) ∧
    ((s.dump (.given "d".toList)).after []).lookUps =
      .tables "d".toList :: (["v", "t", "u", "t"].map fun n => .ddl "d".toList n.toList) ++
        (["t", "u", "t"].map fun n => .partitions "d".toList n.toList) ∧
    ∀ l ∈ ((suppressed.dump (.given "d".toList)).after []).lookUps,
      ∀ db t, l ≠ .partitions db t := by
  intro s suppressed table
  have honly : s.OnlyFails :=
    onlyFails_of_answers (fun _ => nofun) (fun _ _ => nofun)
      (fun _ _ _ => ite_ne_nullCharacter nofun nofun)
      fun _ _ _ => ite_ne_nullCharacter nofun (ite_ne_nullCharacter nofun nofun)
  obtain ⟨script, hscript⟩ := exists_dump_eq_ok honly (by decide) "d".toList []
  obtain ⟨tables, asked, ds, parts, names, groups, rfl, rfl, rfl, hparts, hnames, hgroups, hlookUps,
    htext⟩ :=
      (dump_partitionListing s (.given "d".toList) []).1 (by decide) (by decide) script hscript
  have hsuppressed : suppressed.flags.isOn .suppressPartitionInfo = true := by decide
  have hprepared : parts = ["CREATE VIEW v AS SELECT 'PARTITIONED BY';".toList,
      table "t".toList, table "u".toList, table "t".toList] := by
    refine Except.ok.inj (hparts.symm.trans ?_)
    decide +kernel
  have hthree : names = ["t", "u", "t"].map String.toList := by
    rw [hnames, hprepared]
    decide +kernel
  have htwo : groups = [["ALTER TABLE t ADD PARTITION (b='1');".toList,
      "ALTER TABLE t ADD PARTITION (b='2');".toList],
      ["ALTER TABLE t ADD PARTITION (b='3');".toList]] := by
    rw [hgroups, hthree]
    decide +kernel
  refine ⟨⟨script, hscript, ?_⟩, ?_, (dump_partitionListing suppressed _ []).2 hsuppressed⟩
  · rw [htext, hprepared, htwo]
    decide +kernel
  · rw [hlookUps, hthree]
    decide +kernel

end Session

end DdlDump
