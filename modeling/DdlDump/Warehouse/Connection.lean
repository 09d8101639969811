import DdlDump.Settings

/-!
# Connections

A connection says by which tool a warehouse is asked. It is written as a text: `hive://`, possibly
with an executable and, behind a question mark, settings; or `beeline://` with the address that the
tool is to connect to. Both forms end with the line, and one line feed at the very end is passed
over where a line is asked for.
-/

namespace DdlDump

/-- A tool with what it needs to reach a warehouse, and the text that asked for it. -/
inductive Connection
  | hive (text executable : Text) (settings : Settings)
  | beeline (text url : Text)

/-- Why a text gives no connection. -/
inductive ConnectionError
  /-- No known tool is named. -/
  | unsupported (text : Text)
  /-- A known tool is named, but not in the way it is connected to. -/
  | malformed
  deriving DecidableEq

/-- The text of a connection error. -/
def ConnectionError.message : ConnectionError → Text
  | unsupported text => "Unsupported connection string ".toList ++ text
  | malformed => "Invalid connection string".toList

namespace Connection

/-- The one line of a text; a line feed at the very end does not count. -/
def oneLine? (t : Text) : Option Text :=
  match t.lines with
  | [line] => some line
  | [line, []] => some line
  | _ => none

/-- The executable that is run when none is named. -/
def defaultExecutable : Text := "hive".toList

/-- Reads what stands behind `hive://`. Only the settings have to be on one line. -/
def parseHive? (text rest : Text) : Option Connection :=
  match Text.splitFirst? '?' rest with
  | none => some (make rest .empty)
  | some (executable, settings) =>
    (oneLine? settings).map fun line => make executable (Settings.parse line)
where
  make (executable : Text) (settings : Settings) : Connection :=
    .hive text (if executable.isEmpty then defaultExecutable else executable) settings

/-- How the address starts that the second tool connects to. -/
def urlScheme : Text := "jdbc:hive2://".toList

/-- Reads what stands behind `beeline://`. The address is on one line. -/
def parseBeeline? (text rest : Text) : Option Connection :=
  match (rest.after? urlScheme).bind oneLine? with
  | some (c :: line) => some (.beeline text (urlScheme ++ c :: line))
  | _ => none

/-- Reads a connection. -/
def parse (text : Text) : Except ConnectionError Connection :=
  match text.after? "hive://".toList, text.after? "beeline://".toList with
  | some rest, _ => (parseHive? text rest).elim (.error .malformed) .ok
  | none, some rest => (parseBeeline? text rest).elim (.error .malformed) .ok
  | none, none => .error (.unsupported text)

/-- The text that asked for a connection. -/
def text : Connection → Text
  | hive text _ _ => text
  | beeline text _ => text

/-- What is run. -/
def executable : Connection → Text
  | hive _ executable _ => executable
  | beeline _ _ => "beeline".toList

/-- The settings of a connection. -/
def settings : Connection → Settings
  | hive _ _ settings => settings
  | beeline _ _ => .empty

/-- The address that a connection is made to, where the tool is told one. -/
def url? : Connection → Option Text
  | hive _ _ _ => none
  | beeline _ url => some url

/-- Whether the tool is asked to be silent: always, unless a setting says `false`. -/
def isSilent (settings : Settings) : Bool :=
  !(settings.get? "silent".toList).any fun v => v.lower == "false".toList

/-- The database in which queries are run, where one is set. -/
def database? (settings : Settings) : Option Text :=
  (settings.get? "database".toList).filter fun v => !v.isEmpty

/-- What has to be run for a query, executable first. -/
def command (c : Connection) (query : Text) : List Text :=
  match c with
  | hive _ executable settings =>
    executable ::
      ((if isSilent settings then ["-S".toList] else []) ++
        ((database? settings).elim [] fun db => ["--database".toList, db]) ++
        ["-e".toList, query])
  | beeline _ url =>
    [c.executable, "-u".toList, url, "--silent=true".toList, "--showHeader=false".toList,
      "--outputformat=tsv2".toList, "-e".toList, query]

end Connection

end DdlDump
