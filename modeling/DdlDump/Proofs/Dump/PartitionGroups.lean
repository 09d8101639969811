import DdlDump.Proofs.Dump.Answers
import DdlDump.Proofs.Partition.Parts
import DdlDump.Proofs.Partition.Row

/-!
# The groups of the partition part

The partition part of a script is one text, in which the statements of one table stand on lines of
their own and tables are set apart by empty lines. Nothing gets lost in it
(`partitionPart_groups`): cut at its empty lines it is, table by table and row by row, what
the listings say. Rows without a pair add nothing, tables without such a row leave no trace, and a
table that is created twice is asked for twice.

The text can be cut again because no statement is empty or goes over the end of a line: names are
taken from a text without line feeds (`not_mem_of_mem_partitionedNames`), and where rows have none
the statements made of them have none (`isLine_addStatement`).
-/

namespace DdlDump

open Text Dumping

/-! ### Cutting at empty lines -/

namespace Text

/-- The parts of a text between its empty lines: it is cut at every two line feeds in a row, from
left to right. -/
def parts : Text → List Text
  | [] => [[]]
  | [c] => [[c]]
  | c :: d :: t =>
    if c = '\n' ∧ d = '\n' then [] :: parts t else (parts (d :: t)).modifyHead (c :: ·)

section Parts

variable {c : Char} {l : Text} {ls : List Text}

/-- An empty line ends a part. -/
lemma parts_emptyLine (t : Text) : parts ('\n' :: '\n' :: t) = [] :: parts t := by
  rw [parts, if_pos ⟨rfl, rfl⟩]

/-- Any other character goes on with a part. -/
lemma parts_cons (hc : c ≠ '\n') (t : Text) : parts (c :: t) = (parts t).modifyHead (c :: ·) := by
  cases t with
  | nil => rfl
  | cons d t => rw [parts, if_neg fun h => hc h.1]

/-- So does a line feed in front of one. -/
lemma parts_newline (hc : c ≠ '\n') (t : Text) :
    parts ('\n' :: c :: t) = (parts (c :: t)).modifyHead ('\n' :: ·) := by
  rw [parts, if_neg fun h => hc h.2]

/-- A line goes on with a part. -/
lemma parts_line_append (hl : IsLine l) (t : Text) :
    parts (l ++ t) = (parts t).modifyHead (l ++ ·) := by
  induction l with
  | nil => exact (congrFun List.modifyHead_id (parts t)).symm
  | cons c l ih =>
    unfold IsLine at hl ih
    rw [List.mem_cons, not_or] at hl
    rw [List.cons_append, parts_cons (Ne.symm hl.1), ih hl.2, List.modifyHead_modifyHead]
    rfl

/-- Lines that are not empty go on with a part. -/
lemma parts_ofLines_append (hls : ∀ l ∈ ls, l ≠ [] ∧ IsLine l) (t : Text) :
    parts (ofLines ls ++ t) = (parts t).modifyHead (ofLines ls ++ ·) := by
  induction ls with
  | nil => exact parts_line_append isLine_nil t
  | cons l ls ih =>
    rw [List.forall_mem_cons] at hls
    rcases eq_or_ne ls [] with rfl | hne
    · rw [ofLines_singleton]
      exact parts_line_append hls.1.2 t
    · -- the line feed is not followed by another one, since the next line is not empty
      have hnext : parts ('\n' :: (ofLines ls ++ t)) =
          (parts (ofLines ls ++ t)).modifyHead ('\n' :: ·) := by
        obtain ⟨m, ms, rfl⟩ := List.exists_cons_of_ne_nil hne
        obtain ⟨hm, hline⟩ := hls.2 m List.mem_cons_self
        obtain ⟨c, m, rfl⟩ := List.exists_cons_of_ne_nil hm
        have hc : c ≠ '\n' := ne_of_mem_of_not_mem List.mem_cons_self hline
        unfold ofLines
        rw [intercalate_cons_eq_flatMap, List.cons_append, List.cons_append, parts_newline hc]
      rw [ofLines_cons hne, List.append_assoc, parts_line_append hls.1.2, List.cons_append, hnext,
        ih hls.2, List.modifyHead_modifyHead, List.modifyHead_modifyHead]
      congr 1
      funext u
      simp

/-- Groups of lines that are not empty are told apart again by the empty lines between them. -/
lemma parts_joinParts {groups : List (List Text)} (hne : groups ≠ [])
    (hgroups : ∀ g ∈ groups, ∀ l ∈ g, l ≠ [] ∧ IsLine l) :
    parts (joinParts (groups.map ofLines)) = groups.map ofLines := by
  induction groups with
  | nil => exact absurd rfl hne
  | cons g groups ih =>
    rw [List.forall_mem_cons] at hgroups
    rcases eq_or_ne groups [] with rfl | hrest
    · have hone := parts_ofLines_append hgroups.1 []
      rw [List.append_nil] at hone
      rw [List.map_singleton, joinParts_singleton, hone]
      simp [parts]
    · rw [List.map_cons, joinParts_cons (by simpa using hrest), parts_ofLines_append hgroups.1,
        parts_emptyLine, List.modifyHead_cons, List.append_nil, ih hrest hgroups.2]

end Parts

end Text

/-! ### The groups -/

namespace Partition

/-- The statement that adds a partition is never empty. -/
lemma addStatement_ne_nil (table : Text) (p : Partition) : addStatement table p ≠ [] :=
  List.append_ne_nil_of_left_ne_nil (by decide) _

/-- It stands on one line, where the name of the table and the row do. -/
lemma isLine_addStatement {table row : Text} (htable : IsLine table) (hrow : IsLine row) :
    IsLine (addStatement table (parse row)) := by
  obtain ⟨front, hsplit, hchars⟩ := exists_addStatement_eq table row
  intro hmem
  rw [hsplit, List.mem_append, List.mem_singleton] at hmem
  rcases hchars '\n' (hmem.resolve_right (by decide)) with h | h | h
  · exact htable h
  · exact hrow h
  · exact absurd h (by decide)

end Partition

/-- For each of these listings, the statements that put back the listed partitions, one for each row
with an equals sign. Listings without such a row are left out. -/
def listedGroups (listed : List (Text × List Text)) : List (List Text) :=
  (listed.map fun (table, rows) =>
    (rows.filter fun row => decide ('=' ∈ row)).map fun row =>
      Partition.addStatement table (Partition.parse row)).filter fun g => !g.isEmpty

section Groups

variable {listed : List (Text × List Text)}

/-- Rows with an equals sign are rows with a pair. -/
lemma listedGroups_eq (listed : List (Text × List Text)) :
    listedGroups listed =
      (listed.map fun (table, rows) => Partition.addStatements table rows).filter
        fun g => !g.isEmpty := by
  unfold listedGroups
  simp only [Partition.addStatements_eq_map]

/-- The partition part is made of these groups. -/
lemma partitionScript_eq_joinParts (listed : List (Text × List Text)) :
    partitionScript listed = joinParts ((listedGroups listed).map ofLines) := by
  rw [listedGroups_eq]
  rfl

/-- Every group has statements, and none of them is empty. -/
lemma ne_nil_of_mem_listedGroups {g : List Text} (hg : g ∈ listedGroups listed) :
    g ≠ [] ∧ ∀ t ∈ g, t ≠ [] := by
  obtain ⟨hmem, hne⟩ := List.mem_filter.1 hg
  obtain ⟨l, -, rfl⟩ := List.mem_map.1 hmem
  refine ⟨by simpa using hne, fun t ht => ?_⟩
  obtain ⟨row, -, rfl⟩ := List.mem_map.1 ht
  exact Partition.addStatement_ne_nil _ _

/-- The partition part is empty only when there are no groups. -/
lemma partitionScript_eq_nil_iff : partitionScript listed = [] ↔ listedGroups listed = [] := by
  rw [partitionScript_eq_joinParts]
  refine ⟨fun hnil => ?_, fun hnil => by rw [hnil]; rfl⟩
  by_contra hne
  refine intercalate_ne_nil "\n\n".toList (by simpa using hne) (fun t ht => ?_) hnil
  obtain ⟨g, hg, rfl⟩ := List.mem_map.1 ht
  obtain ⟨hgne, hlines⟩ := ne_nil_of_mem_listedGroups hg
  exact intercalate_ne_nil ['\n'] hgne hlines

/-- Cut at its empty lines, the partition part is the groups again. -/
lemma map_lines_parts_partitionScript (htables : ∀ l ∈ listed, IsLine l.1)
    (hrows : ∀ l ∈ listed, ∀ row ∈ l.2, IsLine row) (hne : partitionScript listed ≠ []) :
    (parts (partitionScript listed)).map lines = listedGroups listed := by
  have hlines : ∀ g ∈ listedGroups listed, ∀ t ∈ g, IsLine t := by
    intro g hg t ht
    obtain ⟨l, hl, rfl⟩ := List.mem_map.1 (List.mem_filter.1 hg).1
    obtain ⟨row, hrow, rfl⟩ := List.mem_map.1 ht
    exact Partition.isLine_addStatement (htables l hl) (hrows l hl row (List.mem_filter.1 hrow).1)
  have hgroups : ∀ g ∈ listedGroups listed, ∀ t ∈ g, t ≠ [] ∧ IsLine t :=
    fun g hg t ht => ⟨(ne_nil_of_mem_listedGroups hg).2 t ht, hlines g hg t ht⟩
  rw [ne_eq, partitionScript_eq_nil_iff] at hne
  rw [partitionScript_eq_joinParts, parts_joinParts hne hgroups, List.map_map]
  conv_rhs => rw [← List.map_id (listedGroups listed)]
  exact List.map_congr_left fun g hg =>
    lines_ofLines (ne_nil_of_mem_listedGroups hg).1 (hlines g hg)

end Groups

/-! ### What is asked, and what becomes of the answers -/

/-- The partition part asks once for each statement of the script that creates a partitioned table,
in their order, and is made of what is answered each time, as long as every look-up can be made.
Whatever the answers are, as long as no row goes over the end of a line: cut at its empty lines, the
text is the groups of those answers that have a row with an equals sign, in the order of asking, and
each group has one line for each such row, in the order of the rows. -/
theorem partitionPart_groups (s : Session) (db script : Text)
    (hlisted : s.flags.isOn .suppressPartitionInfo = false) :
    ∃ names,
      names = (statementTexts script).filterMap (fun t => (Statement.parse t).header?.bind fun h =>
        if h.kind = .table ∧ occursIn Statement.partitionKeyword t = true then
          some (unquote h.name)
        else none) ∧
      (∀ before part, ((s.partitionPart db script).after before).value = .ok part →
        ((s.partitionPart db script).after before).lookUps = names.map (LookUp.partitions db) ∧
        part = partitionScript
          (inTurn (LookUp.partitions db) (s.listed db) before names)) ∧
      (s.OnlyFails → ∀ before, ∃ part,
        ((s.partitionPart db script).after before).value = .ok part) ∧
      (∀ rows, partitionPart s.flags rows script =
        partitionScript (names.map fun name => (name, rows name))) ∧
      ∀ listed : List (Text × List Text), listed.map Prod.fst = names →
        (∀ l ∈ listed, ∀ row ∈ l.2, IsLine row) →
        (partitionScript listed = [] ↔ listedGroups listed = []) ∧
        (partitionScript listed ≠ [] →
          (parts (partitionScript listed)).map lines = listedGroups listed) := by
  have hnames : partitionedNames script =
      (statementTexts script).filterMap fun t => (Statement.parse t).header?.bind fun h =>
        if h.kind = .table ∧ occursIn Statement.partitionKeyword t = true then
          some (unquote h.name)
        else none := by
    refine List.filterMap_congr fun t _ => ?_
    unfold Statement.isPartitioned
    have htext : (Statement.parse t).text = t := rfl
    cases hheader : (Statement.parse t).header? with
    | none => simp [hheader]
    | some h => simp [hheader, htext]
  refine ⟨partitionedNames script, hnames, fun before part hpart => ?_, fun honly before => ?_,
    fun rows => ?_, fun listed htables hrows => ?_⟩
  · have h := Session.comes_partitionPart hlisted (comes_of_value hpart)
    exact h
  · exact (Session.endsOnly_partitionPart (absurd honly) script).exists_eq_ok before
  · unfold partitionPart askedTables
    rw [hlisted]
    rfl
  · have hline : ∀ l ∈ listed, IsLine l.1 := by
      intro l hl
      have hname : l.1 ∈ partitionedNames script := htables ▸ List.mem_map_of_mem hl
      exact (not_mem_of_mem_partitionedNames hname).2
    exact ⟨partitionScript_eq_nil_iff, map_lines_parts_partitionScript hline hrows⟩

/-- A catalog with a listing for one table only, and another one when it is asked for again. -/
def onlyListedCatalog (before : List LookUp) : Catalog (Except Fault) where
  databases := .ok []
  tables _ := .ok []
  ddl _ _ := .ok []
  partitions db table :=
    if table ≠ "t".toList then .error (.failed (.refused []))
    else if .partitions db table ∈ before then .ok ["/b=3/".toList]
    else .ok ["b=1/c=x y".toList, "OK".toList, "b='2'".toList]

/-- A table that is created twice, and one without a listing in between. -/
theorem partitionPart_groups_createdTwice :
    let s : Session :=
      { catalog := onlyListedCatalog
        flags := Flags.ofList []
        levelling := Dependent.levels }
    let script := ofLines (["CREATE TABLE t(a int) PARTITIONED BY (b int);", "",
      "  CREATE EXTERNAL TABLE \x60d\x60.u(a int)", "PARTITIONED BY (b int);",
      "CREATE VIEW v AS SELECT 'PARTITIONED BY'; CREATE TABLE \x60t\x60(a int)",
      "PARTITIONED BY", " (b int)"].map String.toList)
    let names := ["t", "d.u", "t"].map String.toList
    s.flags.isOn .suppressPartitionInfo = false ∧ s.OnlyFails ∧
    ∃ part, ((s.partitionPart "d".toList script).after []).value = .ok part ∧
      ((s.partitionPart "d".toList script).after []).lookUps =
        names.map (LookUp.partitions "d".toList) ∧
      (parts part).map lines =
        [["ALTER TABLE t ADD PARTITION (b='1', c='x y');",
            "ALTER TABLE t ADD PARTITION (b=''2'');"],
          ["ALTER TABLE t ADD PARTITION (b='3');"]].map (List.map String.toList) := by
  intro s script names
  have hlisted : s.flags.isOn .suppressPartitionInfo = false := by decide
  have honly : s.OnlyFails :=
    Session.onlyFails_of_answers (fun _ => nofun) (fun _ _ => nofun) (fun _ _ _ => nofun)
      fun _ _ _ =>
        Session.ite_ne_nullCharacter nofun (Session.ite_ne_nullCharacter nofun nofun)
  obtain ⟨asked, hasked, hanswered, hends, -, hgroups⟩ :=
    partitionPart_groups s "d".toList script hlisted
  have hnames : asked = names := by
    rw [hasked]
    decide +kernel
  subst hnames
  obtain ⟨part, hpart⟩ := hends honly []
  obtain ⟨hlookUps, htext⟩ := hanswered [] part hpart
  have htwice := hgroups (inTurn (LookUp.partitions "d".toList) (s.listed "d".toList) [] names)
    (by decide +kernel) (by decide +kernel)
  refine ⟨hlisted, honly, part, hpart, hlookUps, ?_⟩
  rw [htext]
  refine (htwice.2 ?_).trans (by decide +kernel)
  decide +kernel

end DdlDump
