import DdlDump.Ddl.Scan
import DdlDump.Flags
import DdlDump.Text.Word

/-!
# Making a script replayable

The statements that a warehouse answers can be run again only after some changes. Headers are
prepared first: an object may have to be dropped before it is created, and the guard against objects
that exist already may have to be put in. Then clauses are struck, one pass for each, and at last
column names are quoted. The order matters, since the later passes go by the prepared headers.

* Headers are changed in one pass over the characters of the script, wherever one stands at the
  start of a line, and everything else is copied (`substituteHeaders`).
* A clause is a line that starts in a given way, with the indented lines behind it. Striking takes
  these lines out of a script (`strikeClauses`). Where the statement ends inside a struck clause, a
  semicolon on a line of its own is left behind, so that statements stay apart.
* Columns are listed on indented lines behind a line that creates a table or opens the partition
  columns. Each such line starts with the name of a column, which is put in quotes, so that names
  which are keywords can be read back (`quoteColumns`). Lines that state a constraint name none.
-/

namespace DdlDump

/-! ### Headers -/

namespace Header

/-- A statement that drops the object of a header. -/
def dropStatement (h : Header) : Text :=
  "DROP ".toList ++ (h.kind.keyword ++ ' ' :: (h.name ++ [';']))

/-- The header with a guard, where one is asked for or there already. -/
def guardedIf (h : Header) (guard : Bool) : Header :=
  { h with guarded := h.guarded || guard }

/-- What stands in the place of a header: possibly a statement that drops the object, with an empty
line behind it, and the header itself, possibly guarded. -/
def prepared (drop guard : Bool) (h : Header) : Text :=
  (if drop then h.dropStatement ++ ['\n', '\n'] else []) ++ (h.guardedIf guard).render

end Header

/-- Puts `f h` in the place of every header `h` at the start of a line and copies everything else.
`fresh` says whether the text stands at the start of a line. -/
def substituteFrom (f : Header → Text) (fresh : Bool) (t : Text) : Text :=
  match _h : (if fresh then Header.parse? t else none) with
  | some (h, rest) => f h ++ substituteFrom f false rest
  | none =>
    match t with
    | [] => []
    | c :: rest => c :: substituteFrom f (c == '\n') rest
termination_by t.length
decreasing_by
  · cases fresh with
    | false => simp at _h
    | true => exact Header.length_lt_of_parse? (by simpa using _h)
  · exact Nat.lt_succ_self _

/-- Puts `f h` in the place of every header `h` that stands at the start of a line. -/
def substituteHeaders (f : Header → Text) (script : Text) : Text :=
  substituteFrom f true script

/-- Drops and guards the objects of a script as the flags say. -/
def prepareHeaders (flags : Flags) (script : Text) : Text :=
  substituteHeaders (Header.prepared (flags.isOn .dropTable) (flags.isOn .ifNotExists)) script

/-! ### Clauses -/

/-- The ways in which the first line of a clause may start. -/
structure ClausePattern where
  alternatives : List Text

namespace ClausePattern

/-- Reads a pattern: alternatives with bars between them. -/
def parse (t : Text) : ClausePattern :=
  ⟨t.splitOn '|'⟩

/-- Whether a line opens the clause. -/
def isOpenedBy (p : ClausePattern) (line : Text) : Bool :=
  p.alternatives.any fun a => decide (a <+: line)

end ClausePattern

/-- The region of a line: the clause when it opens one or continues one by its indentation. -/
def clauseRegion (opens : Text → Bool) (region : Region) (line : Text) : Region :=
  if opens line then .clause
  else if region == .clause && !Line.isIndented line then .passing
  else region

/-- The pass that strikes the clauses whose first line satisfies `opens`. -/
def striking (opens : Text → Bool) : Pass := fun region line =>
  let region := clauseRegion opens region line
  if region == .passing then (some line, .passing)
  else if Line.isTerminated line then (some [';'], .passing)
  else (none, region)

/-- Strikes the clauses whose first line satisfies `opens`. -/
def strikeClauses (opens : Text → Bool) (script : Text) : Text :=
  (striking opens).run script

/-- Strikes clauses one after another; a clause is known by the text that its first line starts
with. -/
def strikeEach (clauses : List Text) (script : Text) : Text :=
  clauses.foldl (fun t clause => strikeClauses (fun line => decide (clause <+: line)) t) script

/-! ### Columns -/

namespace Column

/-- The quote around names. -/
def quote : Char := '\x60'

/-- Words behind which columns are listed. -/
def listKeywords : List Text :=
  ["CREATE TABLE".toList, "CREATE EXTERNAL TABLE".toList, Statement.partitionKeyword]

/-- Whether columns may follow on the lines behind a line. -/
def opensList (line : Text) : Bool :=
  listKeywords.any fun k => Text.occursIn k line

/-- Words that start a line which names no column. -/
def constraintKeywords : List Text :=
  ["CONSTRAINT".toList, "PRIMARY KEY".toList, "FOREIGN KEY".toList]

/-- Whether a text starts with the words of a constraint. -/
def opensConstraint (t : Text) : Bool :=
  constraintKeywords.any fun k => (Text.after? t k).any Text.atWordEnd

/-- Whether a name may end here: at the end of the line, at a blank, at a comma, or at a closing
parenthesis. -/
def endsName : Text → Bool
  | [] => true
  | c :: _ => isBlank c || c == ',' || c == ')'

/-- Whether a text starts with the name of a column. -/
def startsWithName (t : Text) : Bool :=
  !opensConstraint t && !Text.atWordEnd t && endsName (Text.afterWord t)

/-- Puts the column name at the start of an indented line in quotes. -/
def quoteName (line : Text) : Text :=
  let indent := line.takeWhile isIndent
  let body : Text := line.dropWhile isIndent
  if !indent.isEmpty && startsWithName body then
    indent ++ quote :: (body.word ++ quote :: body.afterWord)
  else
    line

/-- The pass that quotes column names. -/
def quoting : Pass := fun region line =>
  if opensList line then (some line, .columns)
  else if region == .columns && Line.isIndented line then (some (quoteName line), .columns)
  else (some line, .passing)

end Column

/-- Puts the names of the columns that a script lists in quotes. -/
def quoteColumns (script : Text) : Text :=
  Column.quoting.run script

/-! ### Scripts -/

/-- Makes a script replayable: headers, then clauses, then columns. -/
def prepare (flags : Flags) (script : Text) : Text :=
  quoteColumns (strikeEach flags.struckClauses (prepareHeaders flags script))

/-- Why a script is refused. -/
inductive ScriptError
  /-- A statement sets out to create something but has no header. -/
  | unrecognisedCreate (statement : Text)
  deriving DecidableEq

/-- The text of a refusal shows the first eighty characters of the statement. -/
def ScriptError.message : ScriptError → Text
  | unrecognisedCreate statement =>
    "Unrecognised create statement: ".toList ++ statement.trim.take 80

/-- Refuses a script with an unrecognised CREATE statement, naming the first. -/
def requireRecognised (script : Text) : Except ScriptError Unit :=
  match (statementTexts script).find? fun t => (Statement.parse t).isUnrecognised with
  | some t => .error (.unrecognisedCreate t)
  | none => .ok ()

/-- Makes a script replayable, unless the flags are strict and it has to be refused. -/
def replayable (flags : Flags) (script : Text) : Except ScriptError Text := do
  if flags.isOn .strict then
    requireRecognised script
  return prepare flags script

end DdlDump
