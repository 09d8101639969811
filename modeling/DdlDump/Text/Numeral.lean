import DdlDump.Text.Blank

/-!
# Whole numbers

A whole number that a user types may be written with the decimal digits of any script, with a sign,
with blanks around it, and with single underscores between digits.
-/

namespace DdlDump

/-- The zeros of the scripts of Unicode 14. The nine other digits follow each of them. -/
def decimalZeros : List Nat :=
  [0x0030, 0x0660, 0x06f0, 0x07c0, 0x0966, 0x09e6, 0x0a66, 0x0ae6, 0x0b66, 0x0be6, 0x0c66,
   0x0ce6, 0x0d66, 0x0de6, 0x0e50, 0x0ed0, 0x0f20, 0x1040, 0x1090, 0x17e0, 0x1810, 0x1946,
   0x19d0, 0x1a80, 0x1a90, 0x1b50, 0x1bb0, 0x1c40, 0x1c50, 0xa620, 0xa8d0, 0xa900, 0xa9d0,
   0xa9f0, 0xaa50, 0xabf0, 0xff10, 0x104a0, 0x10d30, 0x11066, 0x110f0, 0x11136, 0x111d0, 0x112f0,
   0x11450, 0x114d0, 0x11650, 0x116c0, 0x11730, 0x118e0, 0x11950, 0x11c50, 0x11d50, 0x11da0,
   0x16a60, 0x16ac0, 0x16b50, 0x1d7ce, 0x1d7d8, 0x1d7e2, 0x1d7ec, 0x1d7f6, 0x1e140, 0x1e2f0,
   0x1e950, 0x1fbf0]

/-- The value of a decimal digit. -/
def digitValue? (c : Char) : Option Nat :=
  (decimalZeros.find? fun z => z ≤ c.toNat && c.toNat ≤ z + 9).map (c.toNat - ·)

/-- The blanks that may stand around a number: the four separators of ASCII are not among them. -/
def isNumeralBlank (c : Char) : Bool :=
  isBlank c && !inRanges [(0x001c, 0x001f)] c

namespace Text

/-- The digits of a text of digits with single underscores between them; `inside` says whether a
digit stands in front. -/
def digits? (inside : Bool) : Text → Option (List Nat)
  | [] => if inside then some [] else none
  | c :: t =>
    match digitValue? c with
    | some d => (digits? true t).map (d :: ·)
    | none => if c = '_' && inside then digits? false t else none

/-- The largest count of digits that is read. -/
def maxDigits : Nat := 4300

/-- The number that digits write, most significant digit first. -/
def ofDigits (ds : List Nat) : Nat :=
  ds.foldl (fun n d => 10 * n + d) 0

/-- Reads a number without a sign. -/
def readNat? (t : Text) : Option Nat :=
  ((digits? false t).filter fun ds => ds.length ≤ maxDigits).map ofDigits

/-- Reads a whole number. -/
def readInt? (t : Text) : Option Int :=
  match Text.dropRightWhile isNumeralBlank (t.dropWhile isNumeralBlank) with
  | '-' :: r => (readNat? r).map fun n => -(n : Int)
  | '+' :: r => (readNat? r).map Int.ofNat
  | r => (readNat? r).map Int.ofNat

/-- Whether a text is not empty and has only digits. -/
def isDigits (t : Text) : Bool :=
  !t.isEmpty && t.all fun c => (digitValue? c).isSome

/-- Whether a text is a negative number, whole or with a decimal point, without underscores. A line
feed at the end does not matter. -/
def isNegativeNumeral (t : Text) : Bool :=
  match t.splitOn '\n' with
  | ['-' :: r] => isMagnitude r
  | ['-' :: r, []] => isMagnitude r
  | _ => false
where
  isMagnitude (r : Text) : Bool :=
    match splitFirst? '.' r with
    | none => isDigits r
    | some (whole, fraction) => (whole.isEmpty || isDigits whole) && isDigits fraction

end Text

end DdlDump
