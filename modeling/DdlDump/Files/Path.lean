import DdlDump.Text.Basic

/-!
# Paths

A path is a text of steps with slashes between them. Two ways of reading it are needed. A user's
path is tidied before it is used: empty steps and single dots go, and a tilde at the front stands
for a home directory. The file tree itself takes a path step by step as it is written.

Names and paths have a greatest length, in bytes, and no path contains the null character. These
are two of the reasons for which an operation on files may fail.
-/

namespace DdlDump

/-- Why an operation on files fails. -/
inductive FileError
  | notFound
  | alreadyExists
  | notADirectory
  | isADirectory
  /-- A path or a name in it is too long. -/
  | tooLong
  /-- A path contains the null character. -/
  | nullCharacter
  /-- A path starts at a home directory that does not exist. -/
  | unknownHome
  /-- More directories are missing than can be made for one path. -/
  | tooDeep
  /-- The operation makes no sense for the path. -/
  | invalid
  deriving DecidableEq, Repr

namespace Path

/-- The step that stays where it is. -/
def stay : Text := ['.']

/-- The step that leads to the directory above. -/
def up : Text := ['.', '.']

/-- The greatest number of bytes in a name. -/
def longestName : Nat := 255

/-- The greatest number of bytes in a path. -/
def longest : Nat := 4095

/-- Why nothing can be looked for under a path, wherever it may lead. -/
def fault? (path : Text) : Option FileError :=
  if path.isEmpty then some .notFound
  else if path.contains '\x00' then some .nullCharacter
  else if longest < path.byteLength then some .tooLong
  else none

/-- The file or directory `name` in the directory `dir`. A name that starts with a slash stands for
itself. -/
def join (dir name : Text) : Text :=
  if name.head? == some '/' then name
  else if dir.isEmpty || dir.getLast? == some '/' then dir ++ name
  else dir ++ '/' :: name

/-- The steps of a path, without the empty ones. -/
def steps (path : Text) : List Text :=
  (path.splitOn '/').filter fun step => !step.isEmpty

/-- The last step of a path, if it has one. -/
def last? (path : Text) : Option Text :=
  (steps path).getLast?

/-- Whether the last step of a path is a name, and no dots. -/
def endsInName (path : Text) : Bool :=
  (last? path).any fun step => step != stay && step != up

/-- The paths to the places that a path passes after its start, the nearest to its end first. They
are parts of the path as it is written. -/
def above (path : Text) : List Text :=
  let pieces := path.splitOn '/'
  let ends := (List.range pieces.length).filter fun n => pieces[n]?.any fun piece => !piece.isEmpty
  (ends.dropLast.map fun n => ['/'].intercalate (pieces.take (n + 1))).reverse

/-- Whether a path starts at the root. -/
def isAbsolute (path : Text) : Bool :=
  path.head? == some '/'

/-- The path of the given steps. -/
def ofSteps (absolute : Bool) (steps : List Text) : Text :=
  (if absolute then ['/'] else []) ++ ['/'].intercalate steps

/-- A path that leads to the same place and has neither empty steps nor single dots. -/
structure Tidy where
  /-- The slashes at the front: none, one or two. -/
  root : Text
  steps : List Text

/-- Exactly two slashes at the front stay two; more of them count as one. -/
def tidyRoot (path : Text) : Text :=
  match path.takeWhile (· == '/') with
  | [] => []
  | ['/', '/'] => ['/', '/']
  | _ => ['/']

/-- Tidies a path. -/
def tidy (path : Text) : Tidy :=
  ⟨tidyRoot path, (steps path).filter (· != stay)⟩

/-- The text of a tidied path; one without steps is written as a single dot. -/
def Tidy.render (p : Tidy) : Text :=
  if p.root.isEmpty && p.steps.isEmpty then stay else p.root ++ ['/'].intercalate p.steps

/-- Home directories: the user's own, and those of users by name. -/
structure Homes where
  own : Text
  others : List (Text × Text)

/-- The home directory of a user, by name; an empty name stands for the user's own. -/
def Homes.home? (homes : Homes) (user : Text) : Option Text :=
  if user.isEmpty then some homes.own else homes.others.lookup user

/-- Puts a home directory in the place of a tilde at the front; `none` when there is no such
home. -/
def Tidy.expand? (homes : Homes) (p : Tidy) : Option Tidy :=
  match p.root, p.steps with
  | [], ('~' :: user) :: rest =>
    (homes.home? user).map fun home => ⟨(tidy home).root, (tidy home).steps ++ rest⟩
  | _, _ => some p

/-- The full form of a user's path. It has to be free of null characters, and must not start at a
home that does not exist. -/
def full (homes : Homes) (path : Text) : Except FileError Text :=
  if path.contains '\x00' then .error .nullCharacter
  else match (tidy path).expand? homes with
    | some p => .ok p.render
    | none => .error .unknownHome

end Path

end DdlDump
