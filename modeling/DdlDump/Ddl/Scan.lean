import DdlDump.Ddl.Statement

/-!
# Passes over the lines of a script

Three things matter about a physical line: how it opens, whether it is indented, and whether a
statement ends in it.

A pass goes through the physical lines once. For every line it puts out one line or none, and it
remembers two things: in which region of a statement it is, and whether it is inside a statement
that it must not touch. The second is common to all passes and is decided here: an unrecognised
CREATE line begins such a statement and puts the pass back into its initial region, a header ends
it, and otherwise it lasts up to and including the line in which it is terminated. Lines of such a
statement are copied. What happens to all other lines is what a pass is given by.
-/

namespace DdlDump

/-! ### Physical lines -/

/-- How a line bears on the statement that it belongs to: it starts one with a header, it starts
one that sets out to create something without a header, or it does neither. -/
inductive LineOpening
  | recognised
  | unrecognised
  | inner
  deriving DecidableEq, Repr

namespace Line

/-- How a line opens. -/
def opening (line : Text) : LineOpening :=
  if (Header.parse? line).isSome then .recognised
  else if Statement.startsWithCreate line then .unrecognised
  else .inner

/-- Whether a line starts with a space or a tab. -/
def isIndented (line : Text) : Bool :=
  line.head?.any isIndent

/-- Whether a statement ends in a line: the last character that is not blank is a semicolon. -/
def isTerminated (line : Text) : Bool :=
  line.trimRight.getLast? == some ';'

end Line

/-! ### Passes -/

/-- Regions of a statement that passes tell apart. -/
inductive Region
  | passing
  | clause
  | columns
  deriving DecidableEq, Repr

/-- What a pass remembers between two lines. -/
structure Cursor where
  region : Region
  /-- Whether the next line belongs to a statement that is copied. -/
  skipping : Bool
  deriving DecidableEq

namespace Cursor

/-- Before the first line. -/
def start : Cursor :=
  ⟨.passing, false⟩

/-- Takes notice of how a line opens. -/
def enter (c : Cursor) (line : Text) : Cursor :=
  match Line.opening line with
  | .recognised => { c with skipping := false }
  | .unrecognised => ⟨.passing, true⟩
  | .inner => c

end Cursor

/-- A pass: what it puts out for a line outside copied statements, and the region it is in
afterwards. -/
abbrev Pass := Region → Text → Option Text × Region

/-- One line met by a pass. -/
structure Visit where
  line : Text
  /-- The line put out, if any. -/
  output? : Option Text
  /-- What the pass remembers afterwards. -/
  cursor : Cursor

namespace Pass

/-- Meets one line. -/
def visit (pass : Pass) (c : Cursor) (line : Text) : Visit :=
  let c := c.enter line
  if c.skipping then
    ⟨line, some line, { c with skipping := !Line.isTerminated line }⟩
  else
    let (output?, region) := pass c.region line
    ⟨line, output?, { c with region := region }⟩

/-- Meets lines one after another. -/
def visits (pass : Pass) (c : Cursor) : List Text → List Visit
  | [] => []
  | line :: lines =>
    let v := pass.visit c line
    v :: visits pass v.cursor lines

/-- What a pass remembers after lines. -/
def after (pass : Pass) (c : Cursor) (lines : List Text) : Cursor :=
  lines.foldl (fun c line => (pass.visit c line).cursor) c

/-- Meeting more lines goes on from what is remembered after the first ones. -/
theorem visits_append (pass : Pass) (c : Cursor) (ls ms : List Text) :
    pass.visits c (ls ++ ms) = pass.visits c ls ++ pass.visits (pass.after c ls) ms := by
  induction ls generalizing c with
  | nil => rfl
  | cons l ls ih =>
    have hrest := ih (pass.visit c l).cursor
    simpa [visits, after] using hrest

/-- Every line is met once. -/
theorem map_line_visits (pass : Pass) (c : Cursor) (ls : List Text) :
    (pass.visits c ls).map Visit.line = ls := by
  induction ls generalizing c with
  | nil => rfl
  | cons l ls ih =>
    have hline : (pass.visit c l).line = l := by
      unfold visit
      simp only
      split <;> rfl
    rw [visits, List.map_cons, hline, ih]

/-- The lines that a pass puts out. -/
def outputs (vs : List Visit) : List Text :=
  vs.filterMap Visit.output?

/-- All visits of a pass over a script. -/
def trace (pass : Pass) (script : Text) : List Visit :=
  pass.visits .start script.lines

/-- What a pass makes of a script. -/
def run (pass : Pass) (script : Text) : Text :=
  Text.ofLines (outputs (pass.trace script))

/-- The pass that puts out every line as it is. -/
def copying : Pass := fun region line =>
  (some line, region)

end Pass

end DdlDump
