/-!
# Text

A text is the list of its characters, so that every function of this library can be followed by
recursion on the data. `String` appears only where texts enter and leave the program.

This module holds the operations that need no knowledge of particular characters: physical lines,
taking a keyword off the front of a text, looking for one inside it, and cutting a text in two.
Whether one text stands at the start of another is written `p <+: t` as for any lists.
-/

namespace DdlDump

/-- A text, character by character. -/
abbrev Text := List Char

namespace Text

/-- The physical lines of a text: what stands between its line feeds. There is always at least
one line, and a final line feed is followed by an empty one. -/
def lines (t : Text) : List Text :=
  t.splitOn '\n'

/-- The text of which `ls` are the physical lines. -/
def ofLines (ls : List Text) : Text :=
  ['\n'].intercalate ls

/-- Every text is made of its lines. -/
@[simp]
theorem ofLines_lines (t : Text) : ofLines (lines t) = t :=
  List.intercalate_splitOn '\n'

/-- The rest of `t` behind `p`, for a text that starts with `p`. -/
def after? (t p : Text) : Option Text :=
  match p, t with
  | [], t => some t
  | _ :: _, [] => none
  | c :: p, d :: t => if c = d then after? t p else none
termination_by structural p

/-- A text has a rest behind `p` exactly when it is `p` and that rest. -/
theorem after?_eq_some_iff {t p r : Text} : after? t p = some r ↔ t = p ++ r := by
  induction p generalizing t with
  | nil => simp [after?]
  | cons c p ih =>
    cases t with
    | nil => simp [after?]
    | cons d t =>
      simp only [after?, List.cons_append, List.cons.injEq]
      by_cases h : c = d
      · simp [h, ih]
      · simp [h, Ne.symm h]

/-- Whether `p` stands somewhere in a text. -/
def occursIn (p : Text) : Text → Bool
  | [] => p.isEmpty
  | c :: t => decide (p <+: c :: t) || occursIn p t

/-- What stands somewhere in a text is an infix of it. -/
theorem occursIn_iff {p t : Text} : occursIn p t = true ↔ p <:+: t := by
  induction t with
  | nil => simp [occursIn]
  | cons c t ih => simp [occursIn, List.infix_cons_iff, ih]

/-- The two parts of a text around the first `c`; `none` when there is no `c`. -/
def splitFirst? (c : Char) (t : Text) : Option (Text × Text) :=
  match t.dropWhile (· != c) with
  | [] => none
  | _ :: r => some (t.takeWhile (· != c), r)

/-- The text without the longest run at its end of which all characters satisfy `p`. -/
def dropRightWhile (p : Char → Bool) (t : Text) : Text :=
  (t.reverse.dropWhile p).reverse

/-- The number of bytes that a text takes in UTF-8. -/
def byteLength (t : Text) : Nat :=
  t.foldl (fun n c => n + c.utf8Size) 0

/-- The text with every `c` deleted. -/
def without (t : Text) (c : Char) : Text :=
  t.filter (· != c)

/-- An integer in decimal notation. -/
def ofInt (n : Int) : Text :=
  (if n < 0 then ['-'] else []) ++ Nat.toDigits 10 n.natAbs

end Text

/-- Membership in a list of closed intervals of code points. -/
def inRanges (ranges : List (Nat × Nat)) (c : Char) : Bool :=
  ranges.any fun r => r.1 ≤ c.toNat && c.toNat ≤ r.2

end DdlDump
