import DdlDump.Text.Blank

/-!
# Statements and their headers

A header is the part of a statement that says what is created: an indent, `CREATE`, possibly
`EXTERNAL`, the kind of object, possibly the guard `IF NOT EXISTS`, and a name. Keywords are in
capitals with one space behind each. The name is the longest run without blanks and without an
opening parenthesis, so it may carry a database and quotes.

Reading takes a header off the front of a text; printing gives back exactly the characters that
were taken (`Header.render_append_of_parse?`), so that a header can be changed as data and put back.

A script is cut into statements at its semicolons. What is known of a statement is its text and the
header that it starts with, if it has one. A statement that starts with CREATE in some spelling but
has no header is unrecognised: it is copied rather than changed, or refused where nothing
unrecognised may pass.
-/

namespace DdlDump

/-! ### Headers -/

/-- The kinds of object that a header can create. -/
inductive ObjectKind
  | table
  | view
  deriving DecidableEq, Repr

/-- The keyword that names a kind of object. -/
def ObjectKind.keyword : ObjectKind → Text
  | .table => "TABLE".toList
  | .view => "VIEW".toList

/-- Takes the keyword of a kind, and the space behind it, off the front of a text. -/
def ObjectKind.parse? (t : Text) : Option (ObjectKind × Text) :=
  match t.after? (keyword .table ++ [' ']) with
  | some r => some (.table, r)
  | none => (t.after? (keyword .view ++ [' '])).map fun r => (.view, r)

/-- What a CREATE statement says about the object that it creates. -/
structure Header where
  /-- Spaces and tabs in front of the statement. -/
  indent : Text
  /-- Whether the table's data is kept outside the warehouse. -/
  external : Bool
  kind : ObjectKind
  /-- Whether an object that exists already is left alone. -/
  guarded : Bool
  name : Text
  deriving DecidableEq

namespace Header

/-- The keyword that opens a header. -/
def createKeyword : Text := "CREATE ".toList

/-- The keyword of a table whose data is kept outside the warehouse. -/
def externalKeyword : Text := "EXTERNAL ".toList

/-- The guard against objects that exist already. -/
def guardKeyword : Text := "IF NOT EXISTS ".toList

/-- A name goes on up to the next blank or opening parenthesis. -/
def isNameChar (c : Char) : Bool :=
  !isBlank c && c != '('

/-- A keyword that may be absent. -/
def optional (present : Bool) (keyword : Text) : Text :=
  if present then keyword else []

/-- The part of a header in front of its guard and name. -/
def opening (h : Header) : Text :=
  h.indent ++ (createKeyword ++ (optional h.external externalKeyword ++ (h.kind.keyword ++ [' '])))

/-- The characters of a header. -/
def render (h : Header) : Text :=
  h.opening ++ (optional h.guarded guardKeyword ++ h.name)

/-- Takes a keyword that may be absent off the front of a text. -/
def takeOptional (keyword t : Text) : Bool × Text :=
  match t.after? keyword with
  | some r => (true, r)
  | none => (false, t)

/-- Takes a name off the front of a text. A name has at least one character. -/
def parseName? (t : Text) : Option (Text × Text) :=
  match t.takeWhile isNameChar with
  | [] => none
  | c :: name => some (c :: name, t.dropWhile isNameChar)

/-- Takes the guard and the name off the front of a text. Where no name follows the guard, its
first word is itself the name. -/
def parseGuardedName? (t : Text) : Option (Bool × Text × Text) :=
  match (t.after? guardKeyword).bind parseName? with
  | some (name, rest) => some (true, name, rest)
  | none => (parseName? t).map fun (name, rest) => (false, name, rest)

/-- Takes a header off the front of a text; the second component is what follows its name. -/
def parse? (t : Text) : Option (Header × Text) := do
  let body ← Text.after? (t.dropWhile isIndent) createKeyword
  let (external, body) := takeOptional externalKeyword body
  let (kind, body) ← ObjectKind.parse? body
  let (guarded, name, rest) ← parseGuardedName? body
  return (⟨t.takeWhile isIndent, external, kind, guarded, name⟩, rest)

/-! ### Printing gives back what was read -/

theorem optional_append_takeOptional (keyword t : Text) :
    optional (takeOptional keyword t).1 keyword ++ (takeOptional keyword t).2 = t := by
  unfold takeOptional
  cases h : t.after? keyword with
  | some r => simpa [optional] using (Text.after?_eq_some_iff.1 h).symm
  | none => simp [optional]

theorem append_eq_of_parseName? {t name rest : Text} (h : parseName? t = some (name, rest)) :
    name ++ rest = t ∧ name ≠ [] := by
  unfold parseName? at h
  have hcut : t.takeWhile isNameChar ++ t.dropWhile isNameChar = t :=
    List.takeWhile_append_dropWhile
  cases hn : t.takeWhile isNameChar with
  | nil => simp [hn] at h
  | cons c n =>
    simp only [hn, Option.some.injEq, Prod.mk.injEq] at h
    obtain ⟨rfl, rfl⟩ := h
    exact ⟨hn ▸ hcut, by simp⟩

theorem append_eq_of_parseGuardedName? {t name rest : Text} {guarded : Bool}
    (h : parseGuardedName? t = some (guarded, name, rest)) :
    optional guarded guardKeyword ++ (name ++ rest) = t ∧ name ≠ [] := by
  unfold parseGuardedName? at h
  cases hg : (t.after? guardKeyword).bind parseName? with
  | some p =>
    obtain ⟨r, hr, hp⟩ := Option.bind_eq_some_iff.1 hg
    simp only [hg, Option.some.injEq, Prod.mk.injEq] at h
    obtain ⟨rfl, rfl, rfl⟩ := h
    obtain ⟨hr', hne⟩ := append_eq_of_parseName? hp
    exact ⟨by simp [optional, hr', Text.after?_eq_some_iff.1 hr], hne⟩
  | none =>
    rw [hg] at h
    obtain ⟨p, hp, he⟩ := Option.map_eq_some_iff.1 h
    simp only [Prod.mk.injEq] at he
    obtain ⟨rfl, rfl, rfl⟩ := he
    obtain ⟨hr', hne⟩ := append_eq_of_parseName? hp
    exact ⟨by simpa [optional] using hr', hne⟩

theorem keyword_append_of_parseKind? {t rest : Text} {kind : ObjectKind}
    (h : ObjectKind.parse? t = some (kind, rest)) : kind.keyword ++ ' ' :: rest = t := by
  unfold ObjectKind.parse? at h
  split at h
  · next r hr =>
    simp only [Option.some.injEq, Prod.mk.injEq] at h
    obtain ⟨rfl, rfl⟩ := h
    simpa using (Text.after?_eq_some_iff.1 hr).symm
  · obtain ⟨r, hr, he⟩ := Option.map_eq_some_iff.1 h
    simp only [Prod.mk.injEq] at he
    obtain ⟨rfl, rfl⟩ := he
    simpa using (Text.after?_eq_some_iff.1 hr).symm

/-- A text that starts with a header is that header, printed, and the rest; and the header has a
name. -/
theorem render_append_of_parse? {t rest : Text} {h : Header} (hp : parse? t = some (h, rest)) :
    h.render ++ rest = t ∧ h.name ≠ [] := by
  simp only [parse?, Option.pure_def, Option.bind_eq_bind, Option.bind_eq_some_iff,
    Option.some.injEq, Prod.mk.injEq] at hp
  obtain ⟨body, hbody, ⟨kind, body'⟩, hkind, ⟨guarded, name, rest'⟩, hname, rfl, rfl⟩ := hp
  have hk := keyword_append_of_parseKind? hkind
  obtain ⟨hn, hne⟩ := append_eq_of_parseGuardedName? hname
  replace hn : optional guarded guardKeyword ++ (name ++ rest') = body' := hn
  refine ⟨?_, hne⟩
  have ho := optional_append_takeOptional externalKeyword body
  have hi : t.takeWhile isIndent ++ t.dropWhile isIndent = t := List.takeWhile_append_dropWhile
  rw [Text.after?_eq_some_iff.1 hbody, ← ho, ← hk, ← hn] at hi
  simpa [render, opening, List.append_assoc] using hi

/-- Reading a header leaves a shorter text. -/
theorem length_lt_of_parse? {t rest : Text} {h : Header} (hp : parse? t = some (h, rest)) :
    rest.length < t.length := by
  obtain ⟨hr, hne⟩ := render_append_of_parse? hp
  have hpos : 0 < h.name.length := List.length_pos_iff.2 hne
  rw [← hr]
  simp only [render, List.length_append]
  omega

end Header

/-! ### Statements -/

/-- The statements of a script, as texts on one line. Line feeds are deleted and the rest is cut at
every semicolon, so that a piece can be empty, as the one behind the last semicolon usually is. -/
def statementTexts (script : Text) : List Text :=
  (script.without '\n').splitOn ';'

/-- Takes the quotes off a name. -/
def unquote (name : Text) : Text :=
  name.without '\x60'

/-- Ends a statement with a semicolon, unless it has one or there is no statement. -/
def terminate (statement : Text) : Text :=
  let t := statement.trimRight
  if t.isEmpty || t.getLast? == some ';' then t else t ++ [';']

/-- A statement together with its header. -/
structure Statement where
  text : Text
  header? : Option Header

namespace Statement

/-- Reads the header of a statement, when it starts with one. -/
def parse (text : Text) : Statement :=
  ⟨text, (Header.parse? text).map Prod.fst⟩

/-- The clause that makes a table partitioned. -/
def partitionKeyword : Text := "PARTITIONED BY".toList

/-- Whether a statement creates a table with partitions. -/
def isPartitioned (s : Statement) : Bool :=
  match s.header? with
  | some h => h.kind == .table && Text.occursIn partitionKeyword s.text
  | none => false

/-- Whether a text starts, behind its blanks, with CREATE in any mixture of capitals and small
letters. Only ASCII letters have capitals that occur in this word. -/
def startsWithCreate (text : Text) : Bool :=
  decide ("CREATE".toList <+: text.trimLeft.map Char.toUpper)

/-- Whether a statement sets out to create something without a header. -/
def isUnrecognised (s : Statement) : Bool :=
  s.header?.isNone && startsWithCreate s.text

/-- What a statement does, for a reader: the kind of object that it creates and its name. -/
def label (s : Statement) : Text :=
  match s.header? with
  | none => "Other".toList
  | some h =>
    (match h.kind with
    | .table => "CreateTable ".toList
    | .view => "CreateView ".toList) ++ h.name

end Statement

end DdlDump
