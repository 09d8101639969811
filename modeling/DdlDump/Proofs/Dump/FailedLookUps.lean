import DdlDump.Proofs.Dump.SideBySide
import DdlDump.Warehouse.Tool

/-!
# Failed look-ups

A look-up that fails does to a dump what an empty answer does, and nothing more: where every failure
is replaced by an empty answer, the dump has the same result, for whatever flags, and makes the same
look-ups in the same order (`Session.dump_emptied`). What differs is what the user is told. The
answers may depend on all that was asked before.

Through a tool a look-up fails when the tool does not start or ends with a code other than zero
(`Connection.ask_eq_failed_iff`). There is one more way in which it may come to nothing: a name in
it may hold the null character, and no system starts a command with that. This is not taken for a
failure, and ends the dump (`Session.dump_ended_uncaught`).
-/

namespace DdlDump

open Dumping

/-- An answer with nothing in the place of a failure. A look-up that cannot be made stays one. -/
def withoutFailure {α : Type} : Except Fault (List α) → Except Fault (List α)
  | .ok a => .ok a
  | .error (.failed _) => .ok []
  | .error .nullCharacter => .error .nullCharacter

/-- The catalog that has an empty answer wherever the given one fails, and the same answers
everywhere else. -/
def Catalog.emptied (c : Catalog (Except Fault)) : Catalog (Except Fault) where
  databases := withoutFailure c.databases
  tables db := withoutFailure (c.tables db)
  ddl db table := withoutFailure (c.ddl db table)
  partitions db table := withoutFailure (c.partitions db table)

/-! ### Tools -/

namespace Connection

section Ask

variable {c : Connection} {replies : Replies} {query : Text}

/-- A query has an answer when the tool ends with the code zero: what it put out. -/
lemma ask_eq_ok_iff {answer : Text} :
    c.ask replies query = .ok answer ↔
      ∃ stdout stderr, replies (c.command query) = some (.finished 0 stdout stderr) ∧
        answer = toolText stdout := by
  unfold ask
  rcases replies (c.command query) with - | (⟨code, stdout, stderr⟩ | reason)
  · simp
  · by_cases hcode : code = 0
    · simp [hcode, eq_comm]
    · simp [hcode]
  · simp

/-- It fails when the tool ends with another code or does not start. -/
lemma ask_eq_failed_iff {cause : Failure} :
    c.ask replies query = .error (.failed cause) ↔
      (∃ code stdout stderr, replies (c.command query) = some (.finished code stdout stderr) ∧
        code ≠ 0 ∧
        cause = .exited query code (Text.outputLines (toolText stderr).trim).getLast?) ∨
      ∃ reason, replies (c.command query) = some (.notStarted reason) ∧
        cause = .notStarted c.executable reason := by
  unfold ask
  rcases replies (c.command query) with - | (⟨code, stdout, stderr⟩ | reason)
  · simp
  · by_cases hcode : code = 0
    · simp [hcode]
    · simp [hcode, eq_comm]
  · simp [eq_comm]

/-- It cannot be made when the command is not handed over. -/
lemma ask_eq_nullCharacter_iff :
    c.ask replies query = .error .nullCharacter ↔ replies (c.command query) = none := by
  unfold ask
  rcases replies (c.command query) with - | (⟨code, stdout, stderr⟩ | reason)
  · simp
  · by_cases hcode : code = 0 <;> simp [hcode]
  · simp

end Ask

/-- What is made of an answer comes to a fault when the answer does. -/
lemma fault?_map {α β : Type} (f : α → β) (answer : Except Fault α) :
    DdlDump.fault? (answer.map f) = DdlDump.fault? answer := by
  cases answer <;> rfl

/-- A look-up comes to a fault as its query does. -/
lemma fault?_catalog (c : Connection) (replies : Replies) (l : LookUp) :
    (c.catalog replies).fault? l = DdlDump.fault? (c.ask replies l.query) := by
  cases l <;> exact fault?_map _ _

/-- Through a program that a system runs, a look-up cannot be made when there is the null character
in its command. Otherwise it has an answer or fails as the reply of the program says. -/
lemma fault?_catalog_ofProgram (c : Connection)
    (program : List (List Text) → List Text → Reply) (before : List (List Text)) (l : LookUp) :
    let replies := Tool.ofProgram program before
    ((c.catalog replies).fault? l = some .nullCharacter ↔
      ∃ part ∈ c.command l.query, '\x00' ∈ part) ∧
    ((∀ part ∈ c.command l.query, '\x00' ∉ part) →
      ((c.catalog replies).fault? l = none ↔
        ∃ stdout stderr, program before (c.command l.query) = .finished 0 stdout stderr) ∧
      ∀ cause, (c.catalog replies).fault? l = some (.failed cause) ↔
        (∃ code stdout stderr, program before (c.command l.query) = .finished code stdout stderr ∧
          code ≠ 0 ∧
          cause = .exited l.query code (Text.outputLines (toolText stderr).trim).getLast?) ∨
        ∃ reason, program before (c.command l.query) = .notStarted reason ∧
          cause = .notStarted c.executable reason) := by
  intro replies
  have hreplies : replies (c.command l.query) =
      if (c.command l.query).any fun part => part.contains '\x00' then none
      else some (program before (c.command l.query)) := rfl
  rw [fault?_catalog]
  refine ⟨?_, fun hplain => ?_⟩
  · rw [fault?_eq_some_iff, ask_eq_nullCharacter_iff, hreplies]
    simp only [ite_eq_left_iff, reduceCtorEq, imp_false, not_not, List.any_eq_true,
      List.contains_iff_mem]
  · have hhanded : replies (c.command l.query) = some (program before (c.command l.query)) := by
      rw [hreplies, if_neg]
      simpa only [List.any_eq_true, List.contains_iff_mem, not_exists, not_and] using hplain
    refine ⟨?_, fun cause => ?_⟩
    · rw [fault?_eq_none_iff]
      simp only [ask_eq_ok_iff, hhanded, Option.some.injEq]
      exact ⟨fun ⟨_, stdout, stderr, h, _⟩ => ⟨stdout, stderr, h⟩,
        fun ⟨stdout, stderr, h⟩ => ⟨_, stdout, stderr, h, rfl⟩⟩
    · rw [fault?_eq_some_iff, ask_eq_failed_iff]
      simp only [hhanded, Option.some.injEq]

end Connection

/-! ### Dumps with and without failures -/

namespace Session

/-- The session with empty answers in the place of failures. -/
def emptied (s : Session) : Session :=
  { s with catalog := fun before => (s.catalog before).emptied }

section Emptied

variable (s : Session)

/-- A look-up makes itself known, and comes to the same, when it has an empty answer where it
fails. -/
lemma alike_lookUp_emptied {α : Type} (l : LookUp)
    (answer : Catalog (Except Fault) → Except Fault (List α)) (report : Failure → Notice)
    (hanswer : ∀ c : Catalog (Except Fault), answer c.emptied = withoutFailure (answer c)) :
    Dumping.Alike .byLookUps (s.emptied.lookUp l answer report) (s.lookUp l answer report) := by
  rintro before _ rfl
  refine ⟨?_, (lookUps_lookUp _ _).trans (lookUps_lookUp _ _).symm⟩
  have hemptied : answer (s.emptied.catalog before) = withoutFailure (answer (s.catalog before)) :=
    hanswer _
  change ((s.emptied.lookUp l answer report).after before).value =
    ((s.lookUp l answer report).after before).value
  rw [after_lookUp, after_lookUp, hemptied]
  rcases answer (s.catalog before) with (cause | -) | a
  · rfl
  · rfl
  · rfl

/-- The two sessions make the same look-ups and take the same from them. -/
lemma alike_emptied : Alike .byLookUps s.emptied s :=
  alike_of_lookUps rfl rfl rfl rfl (fun _ => ⟨rfl, rfl⟩) (fun _ => ⟨rfl, rfl⟩)
    (s.alike_lookUp_emptied _ _ _ fun _ => rfl) (fun _ => s.alike_lookUp_emptied _ _ _ fun _ => rfl)
    (fun _ _ => s.alike_lookUp_emptied _ _ _ fun _ => rfl)
    fun _ _ _ => s.alike_lookUp_emptied _ _ _ fun _ => rfl

end Emptied

/-- A failed look-up counts as an empty answer: a dump of one database or of several has the same
result and makes the same look-ups when every failure is replaced by an empty answer. Where every
look-up has an answer or fails and the flags are not strict, databases with names always have a
script, and only one without a name may end the dump. Through a program that a system runs, a
look-up has an answer or fails as long as there is no null character in its command; if there is
one, the look-up cannot be made. -/
theorem dump_emptied (s : Session) :
    (∀ db before,
      ((s.emptied.dump db).after before).value = ((s.dump db).after before).value ∧
      ((s.emptied.dump db).after before).lookUps = ((s.dump db).after before).lookUps) ∧
    (∀ asked before,
      ((s.emptied.dumpAll asked).after before).value = ((s.dumpAll asked).after before).value ∧
      ((s.emptied.dumpAll asked).after before).lookUps =
        ((s.dumpAll asked).after before).lookUps) ∧
    (s.OnlyFails → s.flags.isOn .strict = false →
      (∀ (db : Text) before, ∃ script,
        ((s.dump (.given db)).after before).value = .ok script) ∧
      (∀ (asked : List Text) before, ∃ script,
        ((s.dumpAll (asked.map .given)).after before).value = .ok script) ∧
      ∀ asked before e, ((s.dumpAll asked).after before).value = .error e →
        e = .nameless ∧ .leftOut ∈ asked ∧ s.flags.isOn .orderByDependency = true) ∧
    ∀ (c : Connection) (program : List (List Text) → List Text → Reply)
      (before : List (List Text)) (l : LookUp),
      let replies := Tool.ofProgram program before
      ((c.catalog replies).fault? l = some .nullCharacter ↔
        ∃ part ∈ c.command l.query, '\x00' ∈ part) ∧
      ((∀ part ∈ c.command l.query, '\x00' ∉ part) →
        ((c.catalog replies).fault? l = none ↔
          ∃ stdout stderr, program before (c.command l.query) = .finished 0 stdout stderr) ∧
        ∀ cause, (c.catalog replies).fault? l = some (.failed cause) ↔
          (∃ code stdout stderr,
            program before (c.command l.query) = .finished code stdout stderr ∧ code ≠ 0 ∧
            cause = .exited l.query code (Text.outputLines (toolText stderr).trim).getLast?) ∨
          ∃ reason, program before (c.command l.query) = .notStarted reason ∧
            cause = .notStarted c.executable reason) := by
  refine ⟨fun db before => ?_, fun asked before => ?_, fun honly hstrict => ?_,
    Connection.fault?_catalog_ofProgram⟩
  · have h := s.alike_emptied.dump db (b := before) rfl
    exact ⟨h.value, h.events⟩
  · have h := s.alike_emptied.dumpAll asked (b := before) rfl
    exact ⟨h.value, h.events⟩
  · exact ⟨exists_dump_eq_ok honly hstrict, exists_dumpAll_eq_ok honly hstrict,
      fun asked before e he => eq_nameless_of_mayEnd honly hstrict (endsOnly_dumpAll asked _ e he)⟩

/-- A catalog with a partitioned table and failures of every kind. Whatever has been asked for once
is gone. -/
def failingCatalog (before : List LookUp) : Catalog (Except Fault) where
  databases := .error (.failed (.refused "down".toList))
  tables db :=
    if .tables db ∈ before then .error (.failed (.refused db)) else .ok ["t".toList, "u".toList]
  ddl db table :=
    if table = "t".toList ∧ .ddl db table ∉ before then
      .ok "CREATE TABLE t(\n  a int)\nPARTITIONED BY (\n  b int)".toList
    else .error (.failed (.notStarted "hive".toList "gone".toList))
  partitions db table :=
    .error (.failed (.exited (LookUp.query (.partitions db table)) (-9) none))

/-- Every look-up in it can be made. -/
lemma onlyFails_failingCatalog {s : Session} (hcatalog : s.catalog = failingCatalog) :
    s.OnlyFails := by
  unfold OnlyFails
  rw [hcatalog]
  exact onlyFails_of_answers (fun _ => nofun) (fun _ _ => ite_ne_nullCharacter nofun nofun)
    (fun _ _ _ => ite_ne_nullCharacter nofun nofun) fun _ _ _ => nofun

/-- A program that lists a table with the null character in its name, and answers nothing else. -/
def namingProgram : List (List Text) → List Text → Reply := fun _ command =>
  if command.getLast? = some "show tables in d;".toList then
    .finished 0 [0x74, 0x00, 0x75, 0x0a] []
  else .finished 1 [] []

/-- The session of a connection to this program. -/
def throughProgram (c : Connection) : Session where
  catalog before := c.catalog (Tool.ofProgram namingProgram (before.map fun l => c.command l.query))
  flags := Flags.ofList []
  levelling := Dependent.levels
  quiet := true

/-- A database is dumped twice. The first time all look-ups fail but two, and the second time they
fail as well; both times the dump is the one in which they are empty. Through a program, a look-up
of a table has a failure, and there is none for a table of which the name cannot be handed over. -/
theorem dump_emptied_failingCatalog :
    let s : Session :=
      { catalog := failingCatalog
        flags := Flags.ofList [.orderByDependency]
        levelling := Dependent.levels }
    let twice := [DatabaseName.given "d".toList, .given "d".toList]
    let c : Connection := .hive "hive://".toList "hive".toList .empty
    let catalog := c.catalog (Tool.ofProgram namingProgram [])
    s.OnlyFails ∧ s.flags.isOn .strict = false ∧
    (∃ script, ((s.dumpAll twice).after []).value = .ok script ∧
      ((s.emptied.dumpAll twice).after []).value = .ok script) ∧
    ((s.emptied.dumpAll twice).after []).lookUps =
      [.tables "d".toList, .ddl "d".toList "t".toList, .ddl "d".toList "u".toList,
        .partitions "d".toList "t".toList, .tables "d".toList] ∧
    catalog.fault? (.tables "d".toList) = none ∧
    catalog.fault? (.ddl "d".toList "t".toList) =
      some (.failed (.exited "show create table d.t;".toList 1 none)) ∧
    catalog.fault? (.ddl "d".toList ['t', '\x00', 'u']) = some .nullCharacter := by
  intro s twice c catalog
  have honly : s.OnlyFails := onlyFails_failingCatalog rfl
  have hstrict : s.flags.isOn .strict = false := by decide
  obtain ⟨-, hseveral, hlenient, hprogram⟩ := dump_emptied s
  obtain ⟨script, hscript⟩ := (hlenient honly hstrict).2.1 ["d".toList, "d".toList] []
  have hlookUps : ((s.dumpAll twice).after []).lookUps =
      [.tables "d".toList, .ddl "d".toList "t".toList, .ddl "d".toList "u".toList,
        .partitions "d".toList "t".toList, .tables "d".toList] := by
    decide +kernel
  refine ⟨honly, hstrict, ⟨script, hscript, (hseveral twice []).1.trans hscript⟩,
    (hseveral twice []).2.trans hlookUps, ?_, ?_, ?_⟩
  · exact ((hprogram c namingProgram [] _).2 (by decide)).1.2 ⟨_, _, rfl⟩
  · exact (((hprogram c namingProgram [] _).2 (by decide)).2 _).2
      (Or.inl ⟨1, [], [], rfl, by decide, rfl⟩)
  · exact (hprogram c namingProgram [] _).1.2 (by decide)

/-- A catalog with a view that reads from a database by name. -/
def readingCatalog : Catalog (Except Fault) where
  databases := .ok []
  tables _ := .ok ["v".toList]
  ddl _ _ := .ok "CREATE VIEW v AS SELECT * FROM shop.t".toList
  partitions _ _ := .ok []

/-- Two dumps without strict flags that have no script. A program lists a table whose name holds the
null character, so that its definition cannot be asked for. And a view reads from a database by
name, where the database that is dumped has none. -/
theorem dump_ended_uncaught :
    let c : Connection := .hive "hive://".toList "hive".toList .empty
    let s := throughProgram c
    let t := answering readingCatalog (Flags.ofList [.orderByDependency])
    let named := ['t', '\x00', 'u']
    (Connection.parse "hive://".toList = .ok c ∧ s.flags.isOn .strict = false ∧
      (s.catalog []).tables "d".toList = .ok [named] ∧
      (s.catalog [.tables "d".toList]).ddl "d".toList named = .error .nullCharacter ∧
      ((s.dump (.given "d".toList)).after []).value = .error .nullCharacter) ∧
    t.flags.isOn .strict = false ∧ t.OnlyFails ∧
    ((t.dumpAll [.leftOut]).after []).value = .error .nameless := by
  intro c s t named
  have honly : t.OnlyFails := by
    intro before l
    cases l <;> exact nofun
  refine ⟨⟨rfl, by decide, by decide +kernel, by decide +kernel, by decide +kernel⟩,
    by decide, honly, ?_⟩
  decide +kernel

end Session

end DdlDump
