import DdlDump.CommandLine.Run

/-!
# Recorded replies

A transcript holds what a tool replied to queries, so that a command line can be rehearsed where the
tool is not at hand. It is a text of lines, each with a mark, a space and a content:

* `? query` begins the reply to a query;
* `> line` and `! line` are lines of its standard output and of its complaints;
* `= code` is the code that the tool ended with, zero where none is given;
* `x reason` says that the tool could not be started.

Other lines are passed over.
-/

namespace DdlDump

/-- A recorded reply. -/
structure Recording where
  query : Text := []
  stdout : List Text := []
  stderr : List Text := []
  code? : Option Int := none
  reason? : Option Text := none

namespace Recording

/-- Puts a line of a transcript in front of the lines that follow it. -/
def addLine (r : Recording) (mark : Char) (content : Text) : Recording :=
  match mark with
  | '>' => { r with stdout := content :: r.stdout }
  | '!' => { r with stderr := content :: r.stderr }
  | '=' => { r with code? := Text.readInt? content }
  | 'x' => { r with reason? := some content }
  | _ => r

/-- The bytes of lines, each with a line feed. -/
def bytes (lines : List Text) : List UInt8 :=
  (String.ofList (lines.flatMap (· ++ ['\n']))).toUTF8.toList

/-- What the tool replied. -/
def reply (r : Recording) : Reply :=
  match r.reason? with
  | some reason => .notStarted reason
  | none => .finished (r.code?.getD 0) (bytes r.stdout) (bytes r.stderr)

end Recording

namespace Transcript

/-- Reads lines from the last to the first: the reply whose query is still to come, and those that
are complete. -/
def read : List Text → Recording × List Recording
  | [] => ({}, [])
  | line :: lines =>
    let (current, done) := read lines
    match line with
    | '?' :: ' ' :: query => ({}, { current with query := query } :: done)
    | mark :: ' ' :: content => (current.addLine mark content, done)
    | _ => (current, done)

/-- The tool that replies as recorded. A query of which there is no record fails. -/
def tool (transcript : Text) : Tool := Tool.ofProgram fun _ command =>
  let recordings := (read transcript.lines).2
  match recordings.find? fun r => some r.query == command.getLast? with
  | some r => r.reply
  | none => .finished 1 [] (Recording.bytes ["no reply is recorded".toList])

end Transcript

end DdlDump
