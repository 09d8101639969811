import DdlDump.Dump.Recorded
import DdlDump.Partition

/-!
# Dumping databases

A session has a catalog to ask, flags, a way of putting views in order, a number of workers, and may
be quiet. It makes one script for each database: the statement that enters the database, the
statements of its tables made replayable, and the statements that put back partitions.

A look-up that fails does not end a dump. It is reported, and counts as an empty answer
(`Session.lookUp` is the one place where answers are taken). What ends a dump is a script that the
flags do not let pass, a look-up that cannot be made, and a view that reads from a database by name
where the database that is dumped has none to compare with.
-/

namespace DdlDump

/-- What a dump goes by. -/
structure Session where
  /-- What the warehouse answers behind the look-ups that were made before. -/
  catalog : List LookUp → Catalog (Except Fault)
  flags : Flags
  /-- The levels that views are put in. -/
  levelling : Levelling
  /-- With at least two workers, tables are fetched in whatever order the workers get to them. -/
  workers : Int := 1
  /-- Whether progress is kept to itself. -/
  quiet : Bool := false
  /-- The order in which workers get tasks done. -/
  order : Pool.Order := .listed

namespace Session

/-- Gives a notice, unless the session is quiet. -/
def note (s : Session) (n : Notice) : Recorded Unit :=
  if s.quiet then pure () else Recorded.note n

/-- Makes a look-up. One that fails is reported and counts as an empty answer; one that cannot be
made ends the dump. -/
def lookUp {α : Type} (s : Session) (l : LookUp)
    (answer : Catalog (Except Fault) → Except Fault (List α)) (report : Failure → Notice) :
    Dumping (List α) := do
  match ← ExceptT.lift (Asking.ask l fun before => answer (s.catalog before)) with
  | .ok a => return a
  | .error (.failed cause) => do
    s.note (report cause)
    return []
  | .error .nullCharacter => throw .nullCharacter

/-- The tables of a database. -/
def tables (s : Session) (db : Text) : Dumping (List Text) :=
  s.lookUp (.tables db) (fun c => c.tables db) (.tablesUnlisted db)

/-- The database as a whole. -/
def database (s : Session) (db : Text) : Dumping Database := do
  return ⟨db, ← s.tables db⟩

/-- The statement that creates a table, with its semicolon; empty when there is none. -/
def statement (s : Session) (db table : Text) : Dumping Text := do
  s.note (.tableBegun db table)
  let ddl ← s.lookUp (.ddl db table) (fun c => c.ddl db table) (.ddlUnavailable db table)
  return terminate ddl

/-- The rows of a table's partition listing. -/
def partitionRows (s : Session) (db table : Text) : Dumping (List Text) :=
  s.lookUp (.partitions db table) (fun c => c.partitions db table) (.partitionsUnlisted db table)

/-- The definition of a table. -/
def definition (s : Session) (db table : Text) : Dumping Definition := do
  return ⟨table, ← s.statement db table⟩

/-- The definitions of tables, in the order of the tables. Workers that share the tables get all of
them done before one that could not be fetched ends the dump. -/
def definitions (s : Session) (db : Text) (tables : List Text) : Dumping (List Definition) :=
  if 1 < s.workers ∧ 1 < tables.length then
    ExceptT.mk do
      let results ← Pool.run (s.order.positions tables.length)
        (tables.map fun table => (s.definition db table).run)
      return results.mapM id
  else
    tables.mapM (s.definition db)

/-- Puts views behind what they read from, in levels. A circle is reported even by a quiet session,
and leaves the order of listing. -/
def arrangeBy (levels : Levelling) (db : Text) (ds : List Definition) :
    Recorded (List Definition) :=
  match Definition.arrangeBy levels db ds with
  | .ok arranged => return arranged
  | .error reason => do
    Recorded.note (.viewsCircular db reason)
    return ds

/-- Puts views behind what they read from. -/
def arrange (s : Session) (db : Text) (ds : List Definition) : Recorded (List Definition) :=
  arrangeBy s.levelling db ds

/-- What is made of the definitions of a database before they are dumped. -/
def putInOrder (s : Session) (db : DatabaseName) (ds : List Definition) :
    Dumping (List Definition) :=
  if !s.flags.isOn .orderByDependency then return ds
  else if db = .leftOut ∧ ds.any Definition.readsByDatabase then throw .nameless
  else s.arrange db.text ds

/-- The definitions of a database in the order in which they are dumped. -/
def arranged (s : Session) (db : DatabaseName) : Dumping (List Definition) := do
  s.putInOrder db (← s.definitions db.text (← s.tables db.text))

/-- The statements of definitions, with empty lines in between. -/
def joinStatements (ds : List Definition) : Text :=
  "\n\n".toList.intercalate ((ds.map Definition.ddl).filter fun t => !t.isEmpty)

/-- The partition part that belongs to a script. -/
def partitionPart (s : Session) (db script : Text) : Dumping Text := do
  if s.flags.isOn .suppressPartitionInfo then
    s.note .partitionsSkipped
    return []
  else
    s.note (.partitionsBegun db)
    let listed ← (askedTables s.flags script).mapM fun table => do
      return (table, ← s.partitionRows db table)
    return partitionScript listed

/-- The script of a database: entering it, its statements, and its partitions, if any. -/
def databaseScript (db statements partitions : Text) : Text :=
  "use ".toList ++ db ++ ";\n\n".toList ++ statements ++
    (if partitions.isEmpty then [] else "\n\n".toList ++ partitions) ++ ['\n']

/-- The script that definitions of a database make. -/
def script (s : Session) (db : Text) (ds : List Definition) : Dumping Text :=
  match replayable s.flags (joinStatements ds) with
  | .error e => throw (.script e)
  | .ok statements => do
    let partitions ← s.partitionPart db statements
    return databaseScript db statements partitions

/-- Dumps one database. -/
def dump (s : Session) (db : DatabaseName) : Dumping Text := do
  s.note (.tablesBegun db.text)
  s.script db.text (← s.arranged db)

/-- The databases that are dumped: those asked for, or all of them when none is. -/
def databases (s : Session) (asked : List DatabaseName) : Dumping (List DatabaseName) :=
  if asked.isEmpty then do
    let names ← s.lookUp .databases (fun c => c.databases) .databasesUnlisted
    return names.map .given
  else return asked

/-- Dumps databases one after another into one script. -/
def dumpAll (s : Session) (asked : List DatabaseName) : Dumping Text := do
  let scripts ← (← s.databases asked).mapM s.dump
  return Text.ofLines scripts

end Session

end DdlDump
