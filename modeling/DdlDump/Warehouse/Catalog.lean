import DdlDump.Text.Basic

/-!
# What a warehouse can be asked

A warehouse answers four kinds of look-ups: which databases there are, which tables a database has,
by which statement a table was created, and which partitions it has. A catalog gives the answers; in
what they come wrapped is left open. The catalogs of a dump answer in `Except Fault`: a look-up may
fail, and there are look-ups that cannot even be made.
-/

namespace DdlDump

/-- One question to a warehouse. -/
inductive LookUp
  | databases
  | tables (db : Text)
  | ddl (db table : Text)
  | partitions (db table : Text)
  deriving DecidableEq, Repr

/-- Why a look-up has no answer. -/
inductive Failure
  /-- The tool ended with a code other than zero; the last line of its complaints, if any. -/
  | exited (query : Text) (code : Int) (complaint? : Option Text)
  /-- The tool could not be started. -/
  | notStarted (executable reason : Text)
  /-- The warehouse gave a reason of its own. -/
  | refused (reason : Text)
  deriving DecidableEq

/-- Why a look-up comes to nothing. -/
inductive Fault
  /-- It failed. -/
  | failed (cause : Failure)
  /-- It could not be made, since there is the null character in it. -/
  | nullCharacter
  deriving DecidableEq

/-- The text of a failure. -/
def Failure.message : Failure → Text
  | exited query code complaint? =>
    query ++ " failed with exit code ".toList ++ Text.ofInt code ++
      (match complaint? with
      | some line => ": ".toList ++ line
      | none => [])
  | notStarted executable reason =>
    "Unable to run ".toList ++ executable ++ ": ".toList ++ reason
  | refused reason => reason

/-- The answers of a warehouse. -/
structure Catalog (m : Type → Type) where
  databases : m (List Text)
  tables : Text → m (List Text)
  ddl : Text → Text → m Text
  partitions : Text → Text → m (List Text)

/-- A catalog with nothing behind it answers nothing. -/
def Catalog.unanswered : Catalog Option where
  databases := none
  tables _ := none
  ddl _ _ := none
  partitions _ _ := none

/-- A database: its name and its tables, in the order of their listing. -/
structure Database where
  name : Text
  tables : List Text

/-- A database of which the tables may not be known; then it counts as empty. -/
def Database.ofListing (name : Text) (tables? : Option (List Text)) : Database :=
  ⟨name, tables?.getD []⟩

/-- A database as a dump is asked for it: by its name, or without one. -/
inductive DatabaseName
  | given (name : Text)
  | leftOut
  deriving DecidableEq, Repr

/-- What stands for the name of a database wherever it is written. -/
def DatabaseName.text : DatabaseName → Text
  | given name => name
  | leftOut => "[]".toList

/-- The name of a table together with its database. A name with a dot in it is taken to have one. -/
def qualifiedName (db table : Text) : Text :=
  if '.' ∈ table then table else db ++ '.' :: table

/-- The query that makes a look-up. -/
def LookUp.query : LookUp → Text
  | databases => "show databases;".toList
  | tables db => "show tables in ".toList ++ db ++ [';']
  | ddl db table => "show create table ".toList ++ qualifiedName db table ++ [';']
  | partitions db table => "show partitions ".toList ++ qualifiedName db table ++ [';']

end DdlDump
