import DdlDump.CommandLine.Transcript

/-!
# The program

The program rehearses a command line: it reads a transcript of the tool's replies from the standard
input, runs the command line on it with an empty home directory, and shows what came of it. The
script, or the files that were left, go to the standard output, and what the user is told goes to
the standard error.
-/

namespace DdlDump.Rehearsal

/-- The home directory of a rehearsal. -/
def home : Location :=
  ["home".toList, "user".toList]

/-- Reads lines up to the end of the input. -/
partial def readAll (input : IO.FS.Stream) (before : String) : IO String := do
  let line ← input.getLine
  if line.isEmpty then return before else readAll input (before ++ line)

/-- Shows the files below the home directory. -/
def showFiles (output : IO.FS.Stream) (tree : FileTree) : IO Unit := do
  for (location, node) in tree.contents do
    let path := String.ofList (['/'].intercalate location)
    match node with
    | .file text => output.putStr ("==> " ++ path ++ "\n" ++ String.ofList text)
    | .directory => output.putStr ("==> " ++ path ++ "/\n")

end DdlDump.Rehearsal

open DdlDump Rehearsal

/-- Rehearses the command line. -/
def main (args : List String) : IO UInt32 := do
  let transcript ← readAll (← IO.getStdin) ""
  let homes : Path.Homes := ⟨Path.ofSteps true Rehearsal.home, []⟩
  let outcome := runCommandLine homes (Transcript.tool transcript.toList) Dependent.levels
    (FileTree.ofHome Rehearsal.home) (args.map String.toList)
  for line in outcome.log do
    (← IO.getStderr).putStrLn (String.ofList line)
  (← IO.getStdout).putStr (String.ofList outcome.stdout)
  showFiles (← IO.getStdout) outcome.tree
  return (outcome.ending.exitCode?.getD 1).toUInt32
