import DdlDump.Flags
import DdlDump.Text.Numeral
import DdlDump.Warehouse.Catalog

/-!
# Arguments of the command line

Arguments are read in two steps. First every argument is classified by itself: it is a value, or an
option, possibly with a value attached to it, or nothing known. An option may be shortened to a
start that it shares with no other. Then the classified arguments are taken from left to right.
Options that take a value take it from the argument behind them if that one is a value. Later values
take the place of earlier ones, except for databases, which add up. Two dashes that are attached to
an option stand for no value: its value is left out.

An argument that starts with a dash is a value only if it is a lone dash, a negative number, or has
a space in it and is no shortened option.
-/

namespace DdlDump

/-- What a command line asks for. The connection, the number of workers and the settings are `none`
when they are left out although their option is given. -/
structure Arguments where
  connection? : Option Text := some "hive://".toList
  databases : List DatabaseName := []
  outputFile : Text := []
  outputDir : Text := []
  clean : Bool := false
  workers? : Option Int := some 1
  options? : Option Text := some []
  quiet : Bool := false
  flags : List Flag := []

/-- Options that take a value. -/
inductive ValuedOption
  | connection
  | database
  | outputFile
  | outputDir
  | workers
  | options
  deriving DecidableEq, Repr

/-- Options without a value. -/
inductive Switch
  | help
  | clean
  | quiet
  | flag (f : Flag)
  deriving DecidableEq, Repr

/-- The options of the command line. -/
inductive CommandOption
  | valued (o : ValuedOption)
  | switch (s : Switch)
  deriving DecidableEq, Repr

/-- Why a command line is wrong. -/
inductive UsageError
  | ambiguous (argument : Text)
  | missingValue (o : ValuedOption)
  | unexpectedValue (s : Switch)
  | badNumber (value : Text)
  | unrecognised (arguments : List Text)

namespace CommandOption

/-- The option that asks for a flag: its key with dashes. -/
def flagName (f : Flag) : Text :=
  "--".toList ++ f.key.map fun c => if c = '_' then '-' else c

/-- All options by their names. -/
def names : List (Text × CommandOption) :=
  [("--help".toList, .switch .help),
    ("--connection-string".toList, .valued .connection),
    ("--database".toList, .valued .database),
    ("--output-file".toList, .valued .outputFile),
    ("--output-dir".toList, .valued .outputDir),
    ("--clean".toList, .switch .clean),
    ("--workers".toList, .valued .workers),
    ("--options".toList, .valued .options),
    ("--quiet".toList, .switch .quiet)] ++
  Flag.all.map fun f => (flagName f, .switch (.flag f))

/-- The options whose names start with a text. -/
def startingWith (t : Text) : List CommandOption :=
  (names.filter fun e => decide (t <+: e.1)).map Prod.snd

end CommandOption

/-- An argument, classified. -/
inductive Argument
  | value (t : Text)
  | option (o : CommandOption) (attached? : Option Text)
  | unknown (t : Text)

namespace Argument

/-- The argument behind which all others are values. -/
def separator : Text := "--".toList

/-- An argument and what is attached to it behind the first equals sign. -/
def splitAttached (t : Text) : Text × Option Text :=
  match Text.splitFirst? '=' t with
  | some (name, attached) => (name, some attached)
  | none => (t, none)

/-- Classifies an argument that starts with a dash and names no option. -/
def classifyOther (t : Text) : Argument :=
  if Text.isNegativeNumeral t || t.contains ' ' then .value t else .unknown t

/-- Classifies an argument that starts with two dashes. -/
def classifyLong (t : Text) : Except UsageError Argument :=
  let (name, attached?) := splitAttached t
  match CommandOption.names.lookup t, CommandOption.names.lookup name with
  | some o, _ => .ok (.option o none)
  | none, some o => .ok (.option o attached?)
  | none, none =>
    match CommandOption.startingWith name with
    | [] => .ok (classifyOther t)
    | [o] => .ok (.option o attached?)
    | _ => .error (.ambiguous t)

/-- Classifies an argument by what stands behind its `-h`. The letter may be repeated, also behind
an equals sign. All else counts as attached. -/
def classifyHelp (behind : Text) : Argument :=
  let attached := match behind with
    | '=' :: r => r
    | _ => behind
  if behind.isEmpty || !attached.isEmpty && attached.all (· == 'h') then
    .option (.switch .help) none
  else .option (.switch .help) (some attached)

/-- Classifies an argument. -/
def classify : Text → Except UsageError Argument
  | '-' :: '-' :: t => classifyLong ('-' :: '-' :: t)
  | '-' :: 'h' :: t => .ok (classifyHelp t)
  | '-' :: c :: t => .ok (classifyOther ('-' :: c :: t))
  | t => .ok (.value t)

/-- Classifies arguments; all of those behind the separator are values. -/
def classifyAll : List Text → Except UsageError (List Argument)
  | [] => .ok []
  | t :: ts =>
    if t = separator then .ok (.unknown t :: ts.map .value)
    else do
      let a ← classify t
      return a :: (← classifyAll ts)

end Argument

/-- Why arguments do not lead to a dump. -/
inductive Stop
  | help
  | wrong (e : UsageError)

namespace Arguments

/-- Takes the value of an option. -/
def setValue (a : Arguments) (o : ValuedOption) (value : Text) : Except Stop Arguments :=
  match o with
  | .connection => .ok { a with connection? := some value }
  | .database => .ok { a with databases := a.databases ++ [.given value] }
  | .outputFile => .ok { a with outputFile := value }
  | .outputDir => .ok { a with outputDir := value }
  | .options => .ok { a with options? := some value }
  | .workers =>
    match Text.readInt? value with
    | some n => .ok { a with workers? := some n }
    | none => .error (.wrong (.badNumber value))

/-- Takes an option whose value is left out. An output is then not asked for. -/
def leaveOut (a : Arguments) : ValuedOption → Arguments
  | .connection => { a with connection? := none }
  | .database => { a with databases := a.databases ++ [.leftOut] }
  | .outputFile => { a with outputFile := [] }
  | .outputDir => { a with outputDir := [] }
  | .workers => { a with workers? := none }
  | .options => { a with options? := none }

/-- Takes what is attached to an option. -/
def setAttached (a : Arguments) (o : ValuedOption) (attached : Text) : Except Stop Arguments :=
  if attached = Argument.separator then .ok (a.leaveOut o) else a.setValue o attached

/-- Takes an option without a value. -/
def setSwitch (a : Arguments) : Switch → Except Stop Arguments
  | .help => .error .help
  | .clean => .ok { a with clean := true }
  | .quiet => .ok { a with quiet := true }
  | .flag f => .ok { a with flags := a.flags ++ [f] }

/-- Takes classified arguments from left to right. Those that are not known are collected in `rest`;
they are a fault only at the end. -/
def take (a : Arguments) (rest : List Text) : List Argument → Except Stop Arguments
  | [] => if rest.isEmpty then .ok a else .error (.wrong (.unrecognised rest))
  | .value t :: args => take a (rest ++ [t]) args
  | .unknown t :: args => take a (rest ++ [t]) args
  | .option (.switch s) none :: args => do
    let a ← a.setSwitch s
    take a rest args
  | .option (.switch s) (some _) :: _ => .error (.wrong (.unexpectedValue s))
  | .option (.valued o) (some attached) :: args => do
    let a ← a.setAttached o attached
    take a rest args
  | .option (.valued o) none :: .value t :: args => do
    let a ← a.setValue o t
    take a rest args
  | .option (.valued o) none :: _ => .error (.wrong (.missingValue o))

/-- Reads a command line. -/
def parse (args : List Text) : Except Stop Arguments :=
  match Argument.classifyAll args with
  | .error e => .error (.wrong e)
  | .ok classified => take {} [] classified

end Arguments

end DdlDump
