import DdlDump.Text.Blank
import DdlDump.Text.Utf8
import DdlDump.Warehouse.Catalog
import DdlDump.Warehouse.Connection

/-!
# Asking a warehouse through a tool

A tool is run once for every look-up, with the query as its last argument. It may not start, or end
with a code other than zero; otherwise its standard output is the answer. What the tool does is not
decided here: it is a function from commands to replies, and what it replies to a command may depend
on the commands before it.

A system starts no command that holds the null character (`Tool.ofProgram`). That is no failure of
the tool, and a look-up that comes to it has neither an answer nor a failure.

Databases, tables and partitions are listed by a tool that puts one entry on a line, and mixes in
remarks of its own. An entry is a line that has something on it and does not start like a remark.
-/

namespace DdlDump

namespace Listing

/-- How the remarks of a tool start. -/
def remarks : List Text :=
  ["WARN".toList, "SLF4J".toList, "OK".toList, "Time taken".toList]

/-- Whether a trimmed line is an entry. -/
def isEntry (line : Text) : Bool :=
  !line.isEmpty && !remarks.any fun r => decide (r <+: line)

/-- The entries of a listing, in order and trimmed. -/
def entries (output : Text) : List Text :=
  (output.outputLines.map Text.trim).filter isEntry

end Listing

/-- What came of running a tool. -/
inductive Reply
  /-- It ran and ended; the code is negative when a signal ended it. -/
  | finished (code : Int) (stdout stderr : List UInt8)
  /-- It could not be started. -/
  | notStarted (reason : Text)

/-- The replies to commands at some time. There is none to a command that cannot be handed over,
since there is the null character in it. -/
abbrev Replies := List Text → Option Reply

/-- A tool, as far as it matters: its replies behind the commands that were run before. -/
abbrev Tool := List (List Text) → Replies

/-- A tool as a system runs it: commands with the null character in them are not handed over. -/
def Tool.ofProgram (program : List (List Text) → List Text → Reply) : Tool := fun before command =>
  if command.any fun part => part.contains '\x00' then none else some (program before command)

/-- The text that a tool put out. -/
def toolText (bytes : List UInt8) : Text :=
  (Text.decodeUtf8 bytes).unifyBreaks

namespace Connection

/-- Runs a query and gives what the tool put out. -/
def ask (c : Connection) (replies : Replies) (query : Text) : Except Fault Text :=
  match replies (c.command query) with
  | some (.finished code stdout stderr) =>
    if code = 0 then .ok (toolText stdout)
    else .error (.failed
      (.exited query code (Text.outputLines (toolText stderr).trim).getLast?))
  | some (.notStarted reason) => .error (.failed (.notStarted c.executable reason))
  | none => .error .nullCharacter

/-- The answer to a look-up that lists something. -/
def list (c : Connection) (replies : Replies) (l : LookUp) : Except Fault (List Text) :=
  (c.ask replies l.query).map Listing.entries

/-- The catalog of the warehouse behind a connection, at some time. -/
def catalog (c : Connection) (replies : Replies) : Catalog (Except Fault) where
  databases := c.list replies .databases
  tables db := c.list replies (.tables db)
  ddl db table := (c.ask replies (LookUp.ddl db table).query).map (Text.dropRightWhile (· == '\n'))
  partitions db table := c.list replies (.partitions db table)

end Connection

end DdlDump
