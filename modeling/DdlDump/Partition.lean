import DdlDump.Ddl.Replay

/-!
# Partitions

A partition is listed on one row, as pairs `key=value` with slashes or blanks between them. Values
are not escaped: a piece of the row without an equals sign belongs to the value before it, together
with the separators in between, and is ignored where there is no value before it.
-/

namespace DdlDump

/-- A partition: its columns with their values, in order. -/
structure Partition where
  values : List (Text × Text)
  deriving DecidableEq

namespace Partition

/-- Slashes and blanks stand between the pairs of a row. -/
def isSeparator (c : Char) : Bool :=
  c == '/' || isBlank c

/-- A piece of a row: a run of other characters, and the separators in front of it. -/
structure Piece where
  separators : Text
  content : Text

/-- The pieces of a row. -/
def pieces (row : Text) : List Piece :=
  match row with
  | [] => []
  | c :: rest =>
    let separators := (c :: rest).takeWhile isSeparator
    let behind := (c :: rest).dropWhile isSeparator
    ⟨separators, behind.takeWhile (!isSeparator ·)⟩ :: pieces (behind.dropWhile (!isSeparator ·))
termination_by row.length
decreasing_by
  by_cases h : isSeparator c
  · have h1 := (List.dropWhile_sublist (l := rest) isSeparator).length_le
    have h2 := (List.dropWhile_sublist (l := (c :: rest).dropWhile isSeparator)
      (!isSeparator ·)).length_le
    rw [List.dropWhile_cons_of_pos h] at h2 ⊢
    rw [List.length_cons]
    omega
  · have h2 := (List.dropWhile_sublist (l := rest) (!isSeparator ·)).length_le
    rw [List.dropWhile_cons_of_neg h, List.dropWhile_cons_of_pos (by simp [h]), List.length_cons]
    omega

/-- What the pieces of a row amount to: text that continues a value begun before them, and the pairs
that they begin themselves. -/
def collect : List Piece → Text × List (Text × Text)
  | [] => ([], [])
  | p :: ps =>
    let (tail, pairs) := collect ps
    match p.content.dropWhile (· != '=') with
    | _ :: value => ([], (p.content.takeWhile (· != '='), value ++ tail) :: pairs)
    | [] =>
      if p.content.isEmpty then (tail, pairs) else (p.separators ++ p.content ++ tail, pairs)

/-- Reads a row of a listing. -/
def parse (row : Text) : Partition :=
  ⟨(collect (pieces row.trim)).2⟩

/-- One pair as it stands in a statement. -/
def renderPair (pair : Text × Text) : Text :=
  pair.1 ++ '=' :: '\'' :: (pair.2 ++ ['\''])

/-- The pairs of a partition as they stand in a statement. -/
def render (p : Partition) : Text :=
  ", ".toList.intercalate (p.values.map renderPair)

/-- The statement that adds a partition to a table. -/
def addStatement (table : Text) (p : Partition) : Text :=
  "ALTER TABLE ".toList ++ (table ++ (" ADD PARTITION (".toList ++ (p.render ++ ");".toList)))

/-- The statements that add the listed partitions to a table; rows without a pair add nothing. -/
def addStatements (table : Text) (rows : List Text) : List Text :=
  ((rows.map parse).filter fun p => !p.values.isEmpty).map (addStatement table)

end Partition

/-! ### The partition part of a script -/

/-- The tables with partitions that a script creates, in order, with the quotes taken off their
names. -/
def partitionedNames (script : Text) : List Text :=
  (statementTexts script).filterMap fun t =>
    let s := Statement.parse t
    if s.isPartitioned then s.header?.map fun h => unquote h.name else none

/-- The tables whose partitions are asked for. -/
def askedTables (flags : Flags) (script : Text) : List Text :=
  if flags.isOn .suppressPartitionInfo then [] else partitionedNames script

/-- The statements that put back listed partitions, given tables with the rows of their listings. A
table without any statement leaves no trace. -/
def partitionScript (listed : List (Text × List Text)) : Text :=
  let groups := listed.map fun (table, rows) => Partition.addStatements table rows
  "\n\n".toList.intercalate ((groups.filter fun g => !g.isEmpty).map Text.ofLines)

/-- The partition part of a script, where `rows` lists the partitions of a table. -/
def partitionPart (flags : Flags) (rows : Text → List Text) (script : Text) : Text :=
  partitionScript ((askedTables flags script).map fun table => (table, rows table))

end DdlDump
