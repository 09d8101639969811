import DdlDump.Proofs.Dump.Answers

/-!
# Two dumps side by side

Where two sessions go by the same flags and levels, and whatever they take from the catalog is
alike, their dumps are alike (`Session.Alike`). How far answers may differ, and what may have been
asked before, is left to the comparison. The definitions of tables are kept apart from the rest,
since the two sessions need not fetch them in the same way.

A session of which the answers do not depend on what was asked before is compared with itself: its
dumps are the same at any time (`Session.IsSteady.after_dump`).
-/

namespace DdlDump

open Dumping

namespace Session

/-- Two sessions that go by the same flags and levels, and take alike answers. -/
structure Alike (c : Comparison) (s t : Session) : Prop where
  flags : s.flags = t.flags
  levelling : s.levelling = t.levelling
  note : ∀ n, (s.note n).Alike c (t.note n)
  told : ∀ n, (Recorded.note n).Alike c (Recorded.note n)
  databases : ∀ asked, Dumping.Alike c (s.databases asked) (t.databases asked)
  tables : ∀ db, Dumping.Alike c (s.tables db) (t.tables db)
  definitions : ∀ db tables, Dumping.Alike c (s.definitions db tables) (t.definitions db tables)
  partitionRows : s.flags.isOn .suppressPartitionInfo = false →
    ∀ db table, Dumping.Alike c (s.partitionRows db table) (t.partitionRows db table)

namespace Alike

variable {c : Comparison} {s t : Session} (h : Alike c s t)

include h

/-- Levels are the same. -/
lemma arrange (db : Text) (ds : List Definition) :
    (s.arrange db ds).Alike c (t.arrange db ds) := by
  unfold Session.arrange arrangeBy
  rw [← h.levelling]
  cases Definition.arrangeBy s.levelling db ds with
  | ok arranged => exact ⟨rfl, c.nil⟩
  | error reason => exact ⟨rfl, c.append (h.told _).events c.nil⟩

/-- Definitions are put in order alike. -/
lemma putInOrder (db : DatabaseName) (ds : List Definition) :
    Dumping.Alike c (s.putInOrder db ds) (t.putInOrder db ds) := by
  unfold Session.putInOrder
  rw [← h.flags]
  split
  · exact alike_pure c ds
  · split
    · exact alike_throw c _
    · exact alike_lift (h.arrange _ _)

lemma arranged (db : DatabaseName) : Dumping.Alike c (s.arranged db) (t.arranged db) :=
  (h.tables _).bind fun tables => (h.definitions _ tables).bind fun ds => h.putInOrder db ds

lemma partitionPart (db script : Text) :
    Dumping.Alike c (s.partitionPart db script) (t.partitionPart db script) := by
  unfold Session.partitionPart
  rw [← h.flags]
  cases hsuppressed : s.flags.isOn .suppressPartitionInfo with
  | true => exact (alike_lift (h.note _)).bind fun _ => alike_pure c _
  | false =>
    refine (alike_lift (h.note _)).bind fun _ => (alike_mapM (fun table => ?_) _).bind fun _ =>
      alike_pure c _
    exact (h.partitionRows hsuppressed db table).bind fun _ => alike_pure c _

lemma script (db : Text) (ds : List Definition) :
    Dumping.Alike c (s.script db ds) (t.script db ds) := by
  unfold Session.script
  rw [← h.flags]
  cases replayable s.flags (joinStatements ds) with
  | error e => exact alike_throw c _
  | ok statements => exact (h.partitionPart db statements).bind fun _ => alike_pure c _

/-- Dumps of one database are alike. -/
lemma dump (db : DatabaseName) : Dumping.Alike c (s.dump db) (t.dump db) :=
  (alike_lift (h.note _)).bind fun _ => (h.arranged db).bind fun ds => h.script _ ds

/-- So are dumps of several. -/
lemma dumpAll (asked : List DatabaseName) : Dumping.Alike c (s.dumpAll asked) (t.dumpAll asked) :=
  (h.databases asked).bind fun dbs => (alike_mapM h.dump dbs).bind fun _ => alike_pure c _

end Alike

/-! ### From single look-ups -/

section LookUps

variable {c : Comparison} {s t : Session}

/-- Where the same workers fetch alike definitions, the lists of them are alike. -/
lemma alike_definitions (hworkers : s.workers = t.workers) (horder : s.order = t.order) {db : Text}
    (h : ∀ table, Dumping.Alike c (s.definition db table) (t.definition db table))
    (tables : List Text) :
    Dumping.Alike c (s.definitions db tables) (t.definitions db tables) := by
  unfold definitions
  rw [← hworkers, ← horder]
  split
  · exact (Asking.alike_poolRun h _ tables).bind fun _ => Asking.alike_pure c _
  · exact alike_mapM h tables

/-- Fetching a definition is alike when the look-up for it is. -/
lemma alike_definition (hnote : ∀ n, (s.note n).Alike c (t.note n)) {db table : Text}
    (h : Dumping.Alike c
      (s.lookUp (.ddl db table) (fun c => c.ddl db table) (.ddlUnavailable db table))
      (t.lookUp (.ddl db table) (fun c => c.ddl db table) (.ddlUnavailable db table))) :
    Dumping.Alike c (s.definition db table) (t.definition db table) := by
  unfold definition statement
  exact ((alike_lift (hnote _)).bind fun _ => h.bind fun _ => alike_pure c _).bind fun _ =>
    alike_pure c _

/-- Sessions with the same workers are alike when their notices and their single look-ups are. -/
lemma alike_of_lookUps (hflags : s.flags = t.flags) (hlevelling : s.levelling = t.levelling)
    (hworkers : s.workers = t.workers) (horder : s.order = t.order)
    (hnote : ∀ n, (s.note n).Alike c (t.note n))
    (htold : ∀ n, (Recorded.note n).Alike c (Recorded.note n))
    (hdatabases : Dumping.Alike c (s.lookUp .databases (fun c => c.databases) .databasesUnlisted)
      (t.lookUp .databases (fun c => c.databases) .databasesUnlisted))
    (htables : ∀ db, Dumping.Alike c (s.tables db) (t.tables db))
    (hddl : ∀ db table, Dumping.Alike c
      (s.lookUp (.ddl db table) (fun c => c.ddl db table) (.ddlUnavailable db table))
      (t.lookUp (.ddl db table) (fun c => c.ddl db table) (.ddlUnavailable db table)))
    (hrows : s.flags.isOn .suppressPartitionInfo = false →
      ∀ db table, Dumping.Alike c (s.partitionRows db table) (t.partitionRows db table)) :
    Alike c s t where
  flags := hflags
  levelling := hlevelling
  note := hnote
  told := htold
  databases asked := by
    unfold databases
    split
    · exact hdatabases.bind fun _ => alike_pure c _
    · exact alike_pure c _
  tables := htables
  definitions db := alike_definitions hworkers horder fun table =>
    alike_definition hnote (hddl db table)
  partitionRows := hrows

end LookUps

/-! ### Kinds of look-ups -/

section Asking

variable {P : LookUp → Prop}

/-- A record without look-ups keeps to any kind of them. -/
lemma recorded_asking {α : Type} {x : Recorded α} (hx : x.lookUps = []) :
    x.Alike (.asking P) x := by
  refine ⟨rfl, rfl, fun l hl => ?_⟩
  have hmade : l ∈ x.lookUps := hl
  rw [hx] at hmade
  exact absurd hmade List.not_mem_nil

variable (s : Session)

lemma alike_lookUp_asking {α : Type} {l : LookUp} (hl : P l)
    (answer : Catalog (Except Fault) → Except Fault (List α)) (report : Failure → Notice) :
    Dumping.Alike (.asking P) (s.lookUp l answer report) (s.lookUp l answer report) := by
  rintro before _ rfl
  refine ⟨rfl, rfl, fun l' hl' => ?_⟩
  have hmade : l' ∈ ((s.lookUp l answer report).after before).lookUps := hl'
  rw [lookUps_lookUp, List.mem_singleton] at hmade
  exact hmade ▸ hl

/-- A session keeps to kinds of look-ups: those of partitions count only where they are not left
out. -/
lemma alike_asking (hdatabases : P .databases) (htables : ∀ db, P (.tables db))
    (hddl : ∀ db table, P (.ddl db table))
    (hpartitions : s.flags.isOn .suppressPartitionInfo = false →
      ∀ db table, P (.partitions db table)) :
    Alike (.asking P) s s :=
  alike_of_lookUps rfl rfl rfl rfl (fun n => recorded_asking (s.lookUps_note n))
    (fun _ => recorded_asking rfl) (s.alike_lookUp_asking hdatabases _ _)
    (fun db => s.alike_lookUp_asking (htables db) _ _)
    (fun db table => s.alike_lookUp_asking (hddl db table) _ _)
    fun hlisted db table => s.alike_lookUp_asking (hpartitions hlisted db table) _ _

end Asking

/-! ### Steady sessions -/

/-- A quiet session that answers from one catalog, whatever was asked before. -/
def answering (catalog : Catalog (Except Fault)) (flags : Flags) : Session where
  catalog _ := catalog
  flags := flags
  levelling := Dependent.levels
  quiet := true

lemma isSteady_answering (catalog : Catalog (Except Fault)) (flags : Flags) :
    (answering catalog flags).IsSteady :=
  fun _ => rfl

section Steady

variable {s : Session} (hsteady : s.IsSteady)

include hsteady

/-- A steady session makes the same of a look-up at any time. -/
lemma IsSteady.alike_lookUp {α : Type} (l : LookUp)
    (answer : Catalog (Except Fault) → Except Fault (List α)) (report : Failure → Notice) :
    Dumping.Alike .exactly (s.lookUp l answer report) (s.lookUp l answer report) := by
  intro b b' _
  have hsame : (s.lookUp l answer report).after b = (s.lookUp l answer report).after b' := by
    rw [after_lookUp, after_lookUp, hsteady b, hsteady b']
  exact ⟨congrArg Recorded.value hsame, congrArg Recorded.events hsame⟩

/-- A steady session is like itself, whatever was asked before. -/
lemma IsSteady.alike : Alike .exactly s s :=
  alike_of_lookUps rfl rfl rfl rfl (fun _ => ⟨rfl, rfl⟩) (fun _ => ⟨rfl, rfl⟩)
    (hsteady.alike_lookUp _ _ _) (fun _ => hsteady.alike_lookUp _ _ _)
    (fun _ _ => hsteady.alike_lookUp _ _ _) fun _ _ _ => hsteady.alike_lookUp _ _ _

/-- A steady session dumps a database in the same way at any time. -/
lemma IsSteady.after_dump (db : DatabaseName) (before : List LookUp) :
    (s.dump db).after before = (s.dump db).after [] := by
  have h := @Alike.dump _ _ _ hsteady.alike db before [] trivial
  exact congrArg₂ Recorded.mk h.value h.events

/-- It fetches definitions in the same way at any time. -/
lemma IsSteady.after_definitions (db : Text) (tables : List Text) (before : List LookUp) :
    (s.definitions db tables).after before = (s.definitions db tables).after [] := by
  have h := @Alike.definitions _ _ _ hsteady.alike db tables before [] trivial
  exact congrArg₂ Recorded.mk h.value h.events

/-- So it does with a single definition. -/
lemma IsSteady.after_definition (db table : Text) (before : List LookUp) :
    (s.definition db table).after before = (s.definition db table).after [] := by
  have h : (s.definition db table).Alike .exactly (s.definition db table) :=
    alike_definition (fun _ => ⟨rfl, rfl⟩) (hsteady.alike_lookUp _ _ _)
  have hsame := @h before [] trivial
  exact congrArg₂ Recorded.mk hsame.value hsame.events

end Steady

end Session

end DdlDump
