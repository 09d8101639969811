import DdlDump.CommandLine.Arguments
import DdlDump.Dump.Files
import DdlDump.Warehouse.Tool

/-!
# Running a command line

A run is a function of its arguments, of the home directories, of what the tool replies, of the way
in which views are put in levels, and of the files that are there. It gives back how it ended, what
it put out, what it told the user, which commands it ran, and the files that it left.
-/

namespace DdlDump

/-- Faults that a run does not catch. -/
inductive Crash
  | file (e : FileError)
  /-- A view of a nameless database reads from a database by name. -/
  | namelessDatabase
  /-- There is the null character in a command. -/
  | nullCharacter
  /-- The value of an option is left out, and there is no dump without it. -/
  | leftOut (o : ValuedOption)

/-- How a run ends. -/
inductive Ending
  | done
  /-- The connection or a script was refused. -/
  | refused
  /-- The command line is wrong. -/
  | misused (e : UsageError)
  | crashed (c : Crash)

/-- The code that a run ends with, unless it crashes. -/
def Ending.exitCode? : Ending → Option Nat
  | done => some 0
  | refused => some 1
  | misused _ => some 2
  | crashed _ => none

/-- Why a session cannot start: how the run ends, and a message if there is one. -/
structure Refusal where
  ending : Ending
  message? : Option Text

/-- What a dump leaves: how it ended, what was put out, a last message if there is one, and the
files. -/
structure Result where
  ending : Ending
  stdout : Text
  message? : Option Text
  tree : FileTree

/-- What a run leaves. -/
structure Outcome where
  ending : Ending
  stdout : Text
  /-- What the user was told, line by line. -/
  log : List Text
  /-- The commands that the look-ups came to. -/
  commands : List (List Text)
  tree : FileTree

/-- What is left when a dump ends early. -/
def Result.ofDumpError (tree : FileTree) : DumpError → Result
  | .script e => ⟨.refused, [], some e.message, tree⟩
  | .nameless => ⟨.crashed .namelessDatabase, [], none, tree⟩
  | .nullCharacter => ⟨.crashed .nullCharacter, [], none, tree⟩

/-- What is left when an operation on files fails. -/
def Result.ofFileError (tree : FileTree) (e : FileError) : Result :=
  ⟨.crashed (.file e), [], none, tree⟩

namespace Session

/-- Dumps into the files of a directory. -/
def runIntoDirectory (s : Session) (homes : Path.Homes) (a : Arguments) (tree : FileTree) :
    Asking Result :=
  match Path.full homes a.outputDir with
  | .error e => return .ofFileError tree e
  | .ok dir => do
    let written ← s.writeAll dir a.databases a.clean tree
    match written.result with
    | .ok _ => return ⟨.done, [], none, written.tree⟩
    | .error (.dump e) => return .ofDumpError written.tree e
    | .error (.file e) => return .ofFileError written.tree e

/-- Dumps into one file, which is not touched before the script is complete. -/
def runIntoFile (s : Session) (homes : Path.Homes) (a : Arguments) (tree : FileTree) :
    Asking Result := do
  match ← (s.dumpAll a.databases).run with
  | .error e => return .ofDumpError tree e
  | .ok script =>
    match Path.full homes a.outputFile with
    | .error e => return .ofFileError tree e
    | .ok file =>
      match tree.write file script with
      | .ok tree => return ⟨.done, [], none, tree⟩
      | .error e => return .ofFileError tree e

/-- Dumps to the standard output. -/
def runToOutput (s : Session) (a : Arguments) (tree : FileTree) : Asking Result := do
  match ← (s.dumpAll a.databases).run with
  | .error e => return .ofDumpError tree e
  | .ok script => return ⟨.done, script, none, tree⟩

/-- Dumps to where the arguments say. A directory goes before a file, and a file before the standard
output. -/
def run (s : Session) (homes : Path.Homes) (a : Arguments) (tree : FileTree) : Asking Result :=
  if !a.outputDir.isEmpty then s.runIntoDirectory homes a tree
  else if !a.outputFile.isEmpty then s.runIntoFile homes a tree
  else s.runToOutput a tree

end Session

namespace Arguments

/-- The flags that arguments ask for, by settings or directly. -/
def allFlags (a : Arguments) (options : Text) : Flags :=
  Flags.ofSettings (Settings.parse options) (Flags.ofList a.flags)

/-- A value that has to be there. -/
def required {α : Type} (o : ValuedOption) (value? : Option α) : Except Refusal α :=
  value?.elim (.error ⟨.crashed (.leftOut o), none⟩) .ok

/-- The connection and the session that arguments ask for. The settings are looked at first, then
the connection, and the number of workers last. -/
def session (a : Arguments) (tool : Tool) (levelling : Levelling) :
    Except Refusal (Connection × Session) := do
  let options ← required .options a.options?
  let connection ← required .connection a.connection?
  let c ← (Connection.parse connection).mapError fun e => ⟨.refused, some e.message⟩
  let workers ← required .workers a.workers?
  return (c, {
    catalog := fun before => c.catalog (tool (before.map fun l => c.command l.query))
    flags := a.allFlags options
    levelling := levelling
    workers := workers
    quiet := a.quiet })

/-- Runs what arguments ask for. -/
def run (a : Arguments) (homes : Path.Homes) (tool : Tool) (levelling : Levelling)
    (tree : FileTree) : Outcome :=
  match a.session tool levelling with
  | .error r => ⟨r.ending, [], r.message?.toList, [], tree⟩
  | .ok (c, s) =>
    let recorded := (s.run homes a tree).after []
    let result := recorded.value
    { ending := result.ending
      stdout := result.stdout
      log := recorded.notices.map Notice.text ++ result.message?.toList
      commands := recorded.lookUps.map fun l => c.command l.query
      tree := result.tree }

end Arguments

/-- Runs a command line. -/
def runCommandLine (homes : Path.Homes) (tool : Tool) (levelling : Levelling) (tree : FileTree)
    (args : List Text) : Outcome :=
  match Arguments.parse args with
  | .ok a => a.run homes tool levelling tree
  | .error .help => ⟨.done, [], [], [], tree⟩
  | .error (.wrong e) => ⟨.misused e, [], [], [], tree⟩

end DdlDump
