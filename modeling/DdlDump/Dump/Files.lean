import DdlDump.Dump.Session
import DdlDump.Files.Tree

/-!
# One file for each database

Instead of one script, a dump can leave one file for each database in a directory. A file is opened,
and thereby emptied, before its database is dumped; the first dump that is refused, like the first
file that cannot be opened, ends the run.
-/

namespace DdlDump

/-- Why a run that writes files ends early. -/
inductive WriteError
  | dump (e : DumpError)
  | file (e : FileError)
  deriving DecidableEq

/-- What a run that writes files leaves: the files that it finished, or why it ended early, and the
tree of files in either case. -/
structure Written where
  result : Except WriteError (List Text)
  tree : FileTree

namespace Session

/-- The file of a database in a directory. -/
def databaseFile (dir db : Text) : Text :=
  Path.join dir (db ++ ".sql".toList)

/-- Dumps databases into files of a directory that is there. -/
def writeEach (s : Session) (dir : Text) (tree : FileTree) : List DatabaseName → Asking Written
  | [] => return ⟨.ok [], tree⟩
  | db :: dbs => do
    let file := databaseFile dir db.text
    match tree.write file [] with
    | .error e => return ⟨.error (.file e), tree⟩
    | .ok opened =>
      match ← (s.dump db).run with
      | .error e => return ⟨.error (.dump e), opened⟩
      | .ok script =>
        match opened.write file script with
        | .error e => return ⟨.error (.file e), opened⟩
        | .ok tree =>
          s.note (.fileWritten file)
          let written ← s.writeEach dir tree dbs
          return { written with result := written.result.map (file :: ·) }

/-- Dumps databases into files of a directory, which is made or, with `clean`, emptied first. -/
def writeAll (s : Session) (dir : Text) (asked : List DatabaseName) (clean : Bool)
    (tree : FileTree) : Asking Written :=
  let prepared := tree.prepareDirectory dir clean
  match prepared.error? with
  | some e => return ⟨.error (.file e), prepared.tree⟩
  | none => do
    match ← (s.databases asked).run with
    | .error e => return ⟨.error (.dump e), prepared.tree⟩
    | .ok dbs => s.writeEach dir prepared.tree dbs

end Session

end DdlDump
