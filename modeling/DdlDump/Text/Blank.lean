import DdlDump.Text.Basic

/-!
# Blank characters and line breaks

Blanks are the space characters of Unicode together with the control characters that separate
lines, pages, files, groups, records and units. They are what trimming takes off the ends of a
text.

The output of a tool is read by lines in the wide sense: besides the line feed, the carriage
return, the vertical tab, the form feed, three of the information separators, and the next-line,
line-separator and paragraph-separator characters end a line, and a carriage return with a line
feed after it is one break. In contrast to `Text.lines`, a break at the very end opens no further
line.
-/

namespace DdlDump

/-- The code points of the blank characters. -/
def blankRanges : List (Nat × Nat) :=
  [(0x0009, 0x000d), (0x001c, 0x0020), (0x0085, 0x0085), (0x00a0, 0x00a0), (0x1680, 0x1680),
   (0x2000, 0x200a), (0x2028, 0x2029), (0x202f, 0x202f), (0x205f, 0x205f), (0x3000, 0x3000)]

/-- Spaces, tabs, line breaks and the other separators. -/
def isBlank (c : Char) : Bool :=
  inRanges blankRanges c

/-- Spaces and tabs, the characters that indent a line. -/
def isIndent (c : Char) : Bool :=
  c == ' ' || c == '\t'

/-- What indents a line is blank. -/
theorem isBlank_of_isIndent {c : Char} (h : isIndent c) : isBlank c := by
  simp only [isIndent, Bool.or_eq_true, beq_iff_eq] at h
  rcases h with rfl | rfl <;> decide

namespace Text

/-- The text without the blanks at its start. -/
def trimLeft (t : Text) : Text :=
  t.dropWhile isBlank

/-- The text without the blanks at its end. -/
def trimRight (t : Text) : Text :=
  t.dropRightWhile isBlank

/-- The text without the blanks at either end. -/
def trim (t : Text) : Text :=
  trimRight (trimLeft t)

end Text

/-! ### Line breaks -/

/-- Characters that end a line of output. -/
def isLineBreak (c : Char) : Bool :=
  inRanges [(0x000a, 0x000d), (0x001c, 0x001e), (0x0085, 0x0085), (0x2028, 0x2029)] c

namespace Text

/-- Puts a character in front of the first line. -/
def pushFirst (c : Char) : List Text → List Text
  | [] => [[c]]
  | l :: ls => (c :: l) :: ls

/-- The lines of a tool's output, without their breaks. -/
def outputLines : Text → List Text
  | [] => []
  | '\r' :: '\n' :: t => [] :: outputLines t
  | c :: t => if isLineBreak c then [] :: outputLines t else pushFirst c (outputLines t)

/-- Writes every carriage return, alone or before a line feed, as a line feed. -/
def unifyBreaks : Text → Text
  | [] => []
  | '\r' :: '\n' :: t => '\n' :: unifyBreaks t
  | c :: t => (if c = '\r' then '\n' else c) :: unifyBreaks t

end Text

end DdlDump
