import DdlDump.Dump.Session
import DdlDump.Proofs.Ddl.Replay
import DdlDump.Proofs.Dump.Recorded
import DdlDump.Proofs.Lists

/-!
# What a dump asks, and what it makes of the answers

For each step of a dump it is said what it comes to in terms of what the catalog answers, where a
failure counts as an empty answer (`answered`), together with the look-ups that it makes. The
catalog may answer the same look-up in another way each time, so that every answer is the one behind
all look-ups before it. Tables are followed in the order of listing here, as a single worker fetches
them.

What may end a dump is said once for all of its steps (`Session.MayEnd`).
-/

namespace DdlDump

/-- What an answer counts as: a failure counts as an empty one. -/
def answered {α : Type} : Except Fault (List α) → List α
  | .ok a => a
  | .error _ => []

/-- The fault of an answer, if it is one. -/
def fault? {α : Type} : Except Fault α → Option Fault
  | .ok _ => none
  | .error fault => some fault

lemma fault?_eq_some_iff {α : Type} {answer : Except Fault α} {fault : Fault} :
    fault? answer = some fault ↔ answer = .error fault := by
  cases answer <;> simp [fault?]

lemma fault?_eq_none_iff {α : Type} {answer : Except Fault α} :
    fault? answer = none ↔ ∃ a, answer = .ok a := by
  cases answer <;> simp [fault?]

/-- The fault of a look-up, if it comes to one. -/
def Catalog.fault? (c : Catalog (Except Fault)) : LookUp → Option Fault
  | .databases => DdlDump.fault? c.databases
  | .tables db => DdlDump.fault? (c.tables db)
  | .ddl db table => DdlDump.fault? (c.ddl db table)
  | .partitions db table => DdlDump.fault? (c.partitions db table)

open Dumping

namespace Session

variable (s : Session) (db : Text)

/-- Every look-up can be made: it has an answer or fails. -/
def OnlyFails : Prop :=
  ∀ before l, (s.catalog before).fault? l ≠ some .nullCharacter

/-- Of two answers that can be had, either one can be. -/
lemma ite_ne_nullCharacter {α : Type} {p : Prop} [Decidable p] {a b : Except Fault α}
    (ha : a ≠ .error .nullCharacter) (hb : b ≠ .error .nullCharacter) :
    (if p then a else b) ≠ .error .nullCharacter := by
  split
  · exact ha
  · exact hb

/-- Every look-up can be made where every single answer says so. -/
lemma onlyFails_of_answers {catalog : List LookUp → Catalog (Except Fault)}
    (hdatabases : ∀ before, (catalog before).databases ≠ .error .nullCharacter)
    (htables : ∀ before db, (catalog before).tables db ≠ .error .nullCharacter)
    (hddl : ∀ before db table, (catalog before).ddl db table ≠ .error .nullCharacter)
    (hpartitions : ∀ before db table,
      (catalog before).partitions db table ≠ .error .nullCharacter) :
    ∀ before l, (catalog before).fault? l ≠ some .nullCharacter := by
  intro before l
  cases l with
  | databases => exact mt fault?_eq_some_iff.1 (hdatabases before)
  | tables db => exact mt fault?_eq_some_iff.1 (htables before db)
  | ddl db table => exact mt fault?_eq_some_iff.1 (hddl before db table)
  | partitions db table => exact mt fault?_eq_some_iff.1 (hpartitions before db table)

/-- Answers do not depend on what was asked before. -/
def IsSteady : Prop :=
  ∀ before, s.catalog before = s.catalog []

/-! ### Single look-ups -/

/-- Giving a notice asks nothing. -/
@[simp]
lemma lookUps_note (n : Notice) : (s.note n).lookUps = [] := by
  unfold note
  split <;> rfl

section LookUp

variable {α : Type} {l : LookUp} {answer : Catalog (Except Fault) → Except Fault (List α)}
  {report : Failure → Notice}

/-- Whatever the answer, a look-up asks once. It comes to the answer, or to nothing after a report,
or it ends the dump. -/
lemma after_lookUp (before : List LookUp) :
    (s.lookUp l answer report).after before =
      match answer (s.catalog before) with
      | .ok a => ⟨.ok a, [.asked l]⟩
      | .error (.failed cause) => ⟨.ok [], .asked l :: (s.note (report cause)).events⟩
      | .error .nullCharacter => ⟨.error .nullCharacter, [.asked l]⟩ := by
  have hask : Comes
      (ExceptT.lift (Asking.ask l fun before => answer (s.catalog before)) : Dumping _)
      before [l] (answer (s.catalog before)) := ⟨rfl, rfl⟩
  unfold lookUp
  rw [after_bind_of_comes hask]
  cases answer (s.catalog before) with
  | ok a => rfl
  | error fault =>
    cases fault with
    | nullCharacter => rfl
    | failed cause =>
      simp only
      rw [after_lift_bind]
      exact congrArg (Recorded.mk _) (congrArg _ (List.append_nil _))

/-- A look-up makes itself known and nothing else. -/
lemma lookUps_lookUp (before : List LookUp) :
    ((s.lookUp l answer report).after before).lookUps = [l] := by
  rw [after_lookUp]
  rcases answer (s.catalog before) with (cause | -) | a
  · exact congrArg (l :: ·) (s.lookUps_note (report cause))
  · rfl
  · rfl

/-- What a look-up comes to is what its answer counts as. -/
lemma comes_lookUp {before made : List LookUp} {a : List α}
    (h : (s.lookUp l answer report).Comes before made a) :
    made = [l] ∧ a = answered (answer (s.catalog before)) := by
  have hvalue := h.value
  rw [after_lookUp] at hvalue
  refine ⟨h.lookUps.symm.trans (s.lookUps_lookUp before), ?_⟩
  rcases hanswer : answer (s.catalog before) with (cause | -) | b
  · rw [hanswer] at hvalue
    exact (Except.ok.inj hvalue).symm
  · rw [hanswer] at hvalue
    exact nomatch hvalue
  · rw [hanswer] at hvalue
    exact (Except.ok.inj hvalue).symm

end LookUp

/-- The definition of a table that the catalog answers behind certain look-ups. -/
def fetched (before : List LookUp) (table : Text) : Definition :=
  ⟨table, terminate (answered ((s.catalog before).ddl db table))⟩

/-- A table with the rows of its partition listing behind certain look-ups. -/
def listed (before : List LookUp) (table : Text) : Text × List Text :=
  (table, answered ((s.catalog before).partitions db table))

section Comes

variable {s db} {before made : List LookUp}

lemma comes_tables {tables : List Text} (h : (s.tables db).Comes before made tables) :
    made = [.tables db] ∧ tables = answered ((s.catalog before).tables db) :=
  s.comes_lookUp h

lemma comes_partitionRows {table : Text} {rows : List Text}
    (h : (s.partitionRows db table).Comes before made rows) :
    made = [.partitions db table] ∧ rows = answered ((s.catalog before).partitions db table) :=
  s.comes_lookUp h

/-- Fetching a definition asks for its statement. -/
lemma comes_definition {table : Text} {d : Definition}
    (h : (s.definition db table).Comes before made d) :
    made = [.ddl db table] ∧ d = s.fetched db before table := by
  unfold definition at h
  obtain ⟨ddl, hstatement, rfl⟩ := comes_bind_pure_iff.1 h
  unfold statement at hstatement
  rw [comes_lift_bind_iff (s.lookUps_note _)] at hstatement
  obtain ⟨text, htext, rfl⟩ := comes_bind_pure_iff.1 hstatement
  obtain ⟨rfl, rfl⟩ := s.comes_lookUp htext
  exact ⟨rfl, rfl⟩

/-! ### Definitions -/

/-- One worker fetches one table after another. -/
lemma definitions_of_oneWorker (hworkers : s.workers ≤ 1) (tables : List Text) :
    s.definitions db tables = tables.mapM (s.definition db) := by
  unfold definitions
  rw [if_neg fun h => absurd h.1 (by omega)]

lemma comes_definitions (hworkers : s.workers ≤ 1) {tables : List Text} {ds : List Definition}
    (h : (s.definitions db tables).Comes before made ds) :
    made = tables.map (LookUp.ddl db) ∧
      ds = inTurn (LookUp.ddl db) (s.fetched db) before tables := by
  rw [definitions_of_oneWorker hworkers] at h
  exact h.of_mapM fun _ _ _ _ => comes_definition

/-- Definitions in the order in which they are dumped: the order of listing, or views behind what
they read from. -/
def inDumpOrder (s : Session) (db : Text) (ds : List Definition) : List Definition :=
  if s.flags.isOn .orderByDependency then (s.arrange db ds).value else ds

/-- Putting definitions in levels asks nothing. -/
lemma lookUps_arrange (s : Session) (db : Text) (ds : List Definition) :
    (s.arrange db ds).lookUps = [] := by
  unfold arrange arrangeBy
  cases Definition.arrangeBy s.levelling db ds <;> rfl

/-- Unless a database without a name is refused, its definitions are put in the order in which they
are dumped. -/
lemma comes_putInOrder {name : DatabaseName} {ds arranged : List Definition}
    (h : (s.putInOrder name ds).Comes before made arranged) :
    made = [] ∧ arranged = s.inDumpOrder name.text ds := by
  unfold putInOrder at h
  unfold inDumpOrder
  cases horder : s.flags.isOn .orderByDependency with
  | false =>
    rw [horder, if_pos (by decide)] at h
    rw [if_neg Bool.false_ne_true]
    exact comes_pure_iff.1 h
  | true =>
    rw [horder, if_neg (by decide)] at h
    rw [if_pos rfl]
    split at h
    · exact absurd h not_comes_throw
    · rw [comes_lift_iff, lookUps_arrange] at h
      exact h

/-- Nothing is asked but tables and their definitions. -/
lemma comes_arranged (hworkers : s.workers ≤ 1) {name : DatabaseName} {ds : List Definition}
    (h : (s.arranged name).Comes before made ds) :
    ∃ tables, tables = answered ((s.catalog before).tables name.text) ∧
      made = .tables name.text :: tables.map (LookUp.ddl name.text) ∧
      ds = s.inDumpOrder name.text (inTurn (LookUp.ddl name.text) (s.fetched name.text)
        (before ++ [.tables name.text]) tables) := by
  unfold arranged at h
  obtain ⟨first, tables, second, htables, hbehind, rfl⟩ := h.of_bind
  obtain ⟨rfl, rfl⟩ := comes_tables htables
  obtain ⟨third, listed, fourth, hlisted, horder, rfl⟩ := hbehind.of_bind
  obtain ⟨rfl, rfl⟩ := comes_definitions hworkers hlisted
  obtain ⟨rfl, rfl⟩ := comes_putInOrder horder
  exact ⟨_, rfl, by rw [List.append_nil]; rfl, rfl⟩

/-! ### The script -/

/-- The partition part is made of the listings of the tables that the script creates, which are
asked for in their order. -/
lemma comes_partitionPart (hlisted : s.flags.isOn .suppressPartitionInfo = false)
    {script part : Text} (h : (s.partitionPart db script).Comes before made part) :
    made = (partitionedNames script).map (LookUp.partitions db) ∧
      part = partitionScript (inTurn (LookUp.partitions db) (s.listed db) before
        (partitionedNames script)) := by
  unfold partitionPart askedTables at h
  rw [hlisted, if_neg Bool.false_ne_true, if_neg Bool.false_ne_true,
    comes_lift_bind_iff (s.lookUps_note _)] at h
  obtain ⟨tables, htables, rfl⟩ := comes_bind_pure_iff.1 h
  have hone : ∀ (table : Text) (before made : List LookUp) (a : Text × List Text),
      Comes (do return (table, ← s.partitionRows db table)) before made a →
        made = [.partitions db table] ∧ a = s.listed db before table := by
    intro table before made a ha
    obtain ⟨rows, hrows, rfl⟩ := comes_bind_pure_iff.1 ha
    obtain ⟨rfl, rfl⟩ := comes_partitionRows hrows
    exact ⟨rfl, rfl⟩
  obtain ⟨rfl, rfl⟩ := htables.of_mapM hone
  exact ⟨rfl, rfl⟩

/-- Where partitions are left out, there is no partition part, and nothing is asked for it. -/
lemma comes_partitionPart_suppressed (hsuppressed : s.flags.isOn .suppressPartitionInfo = true)
    {script part : Text} (h : (s.partitionPart db script).Comes before made part) :
    made = [] ∧ part = [] := by
  unfold partitionPart at h
  rw [hsuppressed, if_pos rfl, comes_lift_bind_iff (s.lookUps_note _)] at h
  exact comes_pure_iff.1 h

/-- A script that is let pass is completed by its partition part, and any other ends the dump. -/
lemma comes_script {ds : List Definition} {text : Text}
    (h : (s.script db ds).Comes before made text) :
    ∃ statements part, replayable s.flags (joinStatements ds) = .ok statements ∧
      (s.partitionPart db statements).Comes before made part ∧
      text = databaseScript db statements part := by
  unfold script at h
  cases hstatements : replayable s.flags (joinStatements ds) with
  | error e =>
    rw [hstatements] at h
    exact absurd h not_comes_throw
  | ok statements =>
    rw [hstatements] at h
    obtain ⟨part, hpart, rfl⟩ := comes_bind_pure_iff.1 h
    exact ⟨statements, part, rfl, hpart, rfl⟩

/-- A dump comes down to the script of definitions in their order. -/
lemma comes_dump {name : DatabaseName} {text : Text} (h : (s.dump name).Comes before made text) :
    ∃ first ds second, (s.arranged name).Comes before first ds ∧
      (s.script name.text ds).Comes (before ++ first) second text ∧ made = first ++ second := by
  unfold dump at h
  rw [comes_lift_bind_iff (s.lookUps_note _)] at h
  exact h.of_bind

end Comes

/-! ### What may end a dump -/

/-- The reasons for which a dump of databases may end: under strict flags a script may not be let
pass, a database without a name may not be put in order, and a look-up may be one that cannot be
made. -/
def MayEnd (names : List DatabaseName) : DumpError → Prop
  | .script _ => s.flags.isOn .strict = true
  | .nameless => .leftOut ∈ names ∧ s.flags.isOn .orderByDependency = true
  | .nullCharacter => ¬ s.OnlyFails

section EndsOnly

variable {s db} {names : List DatabaseName} {P : DumpError → Prop}

/-- A look-up ends a dump only when it cannot be made. -/
lemma endsOnly_lookUp (hP : ¬ s.OnlyFails → P .nullCharacter) {α : Type} {l : LookUp}
    {answer : Catalog (Except Fault) → Except Fault (List α)} {report : Failure → Notice}
    (hanswer : ∀ c, DdlDump.fault? (answer c) = c.fault? l) :
    (s.lookUp l answer report).EndsOnly P := by
  intro before e he
  rw [after_lookUp] at he
  rcases hfault : answer (s.catalog before) with (cause | -) | a
  · rw [hfault] at he
    exact nomatch he
  · rw [hfault] at he
    obtain rfl : DumpError.nullCharacter = e := Except.error.inj he
    exact hP fun honly => honly before l (by rw [← hanswer, hfault]; rfl)
  · rw [hfault] at he
    exact nomatch he

lemma endsOnly_definition (hP : ¬ s.OnlyFails → P .nullCharacter) (table : Text) :
    (s.definition db table).EndsOnly P :=
  ((endsOnly_lift _).bind fun _ => (endsOnly_lookUp hP fun _ => rfl).bind fun _ =>
    endsOnly_pure _).bind fun _ => endsOnly_pure _

/-- A pool ends a dump for the reason of one of its tasks. -/
lemma endsOnly_definitions (tables : List Text) :
    (s.definitions db tables).EndsOnly (s.MayEnd names) := by
  unfold definitions
  split
  · intro before e he
    replace he : (((Pool.run (s.order.positions tables.length)
      (tables.map fun table => (s.definition db table).run)).after before).value.mapM id) =
        .error e := he
    obtain ⟨front, result, behind, hresults, -, hresult⟩ := mapM_eq_error_iff.1 he
    obtain ⟨task, htask, b, hvalue⟩ := Asking.exists_of_mem_poolRun
      (hresults ▸ List.mem_append_right front List.mem_cons_self)
    obtain ⟨table, -, rfl⟩ := List.mem_map.1 htask
    exact endsOnly_definition id table b e (hvalue.symm.trans hresult)
  · exact endsOnly_mapM fun table _ => endsOnly_definition id table

lemma endsOnly_arranged {name : DatabaseName} (hname : name = .leftOut → .leftOut ∈ names) :
    (s.arranged name).EndsOnly (s.MayEnd names) := by
  refine (endsOnly_lookUp id fun _ => rfl).bind fun tables =>
    (endsOnly_definitions tables).bind fun ds => ?_
  unfold putInOrder
  cases horder : s.flags.isOn .orderByDependency with
  | false => exact endsOnly_pure ds
  | true =>
    rw [if_neg (by decide)]
    split
    · next hnameless => exact endsOnly_throw ⟨hname hnameless.1, horder⟩
    · exact endsOnly_lift _

/-- Whatever the flags are, the partition part ends a dump only when a look-up cannot be made. -/
lemma endsOnly_partitionPart (hP : ¬ s.OnlyFails → P .nullCharacter) (script : Text) :
    (s.partitionPart db script).EndsOnly P := by
  unfold partitionPart
  split
  · exact (endsOnly_lift _).bind fun _ => endsOnly_pure _
  · refine (endsOnly_lift _).bind fun _ => (endsOnly_mapM fun table _ => ?_).bind fun _ =>
      endsOnly_pure _
    exact (endsOnly_lookUp hP fun _ => rfl).bind fun _ => endsOnly_pure _

lemma endsOnly_script (ds : List Definition) : (s.script db ds).EndsOnly (s.MayEnd names) := by
  unfold script
  cases hscript : replayable s.flags (joinStatements ds) with
  | ok statements => exact (endsOnly_partitionPart id statements).bind fun _ => endsOnly_pure _
  | error e =>
    refine endsOnly_throw ?_
    by_contra hstrict
    rw [replayable_of_lenient (Bool.eq_false_iff.2 hstrict)] at hscript
    exact nomatch hscript

/-- A dump ends early for one of these reasons only. -/
lemma endsOnly_dump {name : DatabaseName} (hname : name = .leftOut → .leftOut ∈ names) :
    (s.dump name).EndsOnly (s.MayEnd names) :=
  (endsOnly_lift _).bind fun _ => (endsOnly_arranged hname).bind fun ds => endsOnly_script ds

/-- So does a dump of several databases. -/
lemma endsOnly_dumpAll (asked : List DatabaseName) :
    (s.dumpAll asked).EndsOnly (s.MayEnd asked) := by
  unfold dumpAll databases
  split
  · rw [bind_assoc]
    refine (endsOnly_lookUp id fun _ => rfl).bind fun listed => ?_
    rw [pure_bind]
    refine (endsOnly_mapM fun name hname => endsOnly_dump fun hnone => ?_).bind fun _ =>
      endsOnly_pure _
    obtain ⟨db, -, rfl⟩ := List.mem_map.1 hname
    exact nomatch hnone
  · rw [pure_bind]
    exact (endsOnly_mapM fun name hname => endsOnly_dump fun hnone => hnone ▸ hname).bind fun _ =>
      endsOnly_pure _

end EndsOnly

/-! ### Dumps that have a script -/

section Lenient

variable {s} (honly : s.OnlyFails) (hstrict : s.flags.isOn .strict = false)

include honly hstrict

/-- Where every look-up can be made and the flags are not strict, only a database without a name can
end a dump. -/
lemma eq_nameless_of_mayEnd {names : List DatabaseName} {e : DumpError} (he : s.MayEnd names e) :
    e = .nameless ∧ .leftOut ∈ names ∧ s.flags.isOn .orderByDependency = true := by
  cases e with
  | script e =>
    rw [MayEnd, hstrict] at he
    exact absurd he Bool.false_ne_true
  | nameless => exact ⟨rfl, he⟩
  | nullCharacter => exact absurd honly he

/-- So every database with a name has a script. -/
lemma exists_dump_eq_ok (db : Text) (before : List LookUp) :
    ∃ script, ((s.dump (.given db)).after before).value = .ok script := by
  have hends : (s.dump (.given db)).EndsOnly (s.MayEnd []) := endsOnly_dump nofun
  refine (hends.mono fun e he => ?_).exists_eq_ok before
  exact absurd (eq_nameless_of_mayEnd honly hstrict he).2.1 List.not_mem_nil

/-- So have several of them. -/
lemma exists_dumpAll_eq_ok (asked : List Text) (before : List LookUp) :
    ∃ script, ((s.dumpAll (asked.map .given)).after before).value = .ok script := by
  refine ((endsOnly_dumpAll _).mono fun e he => ?_).exists_eq_ok before
  obtain ⟨name, -, hname⟩ := List.mem_map.1 (eq_nameless_of_mayEnd honly hstrict he).2.1
  exact nomatch hname

end Lenient

end Session

end DdlDump
