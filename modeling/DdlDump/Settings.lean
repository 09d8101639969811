import DdlDump.Text.Blank
import DdlDump.Text.LowerCase
import DdlDump.Text.Word

/-!
# Settings

A bag of settings is written `key=value;key=value`, with `;` or `&` between the settings. Keys are
words; a value goes up to the next separator and is trimmed. Reading is generous: whatever does not
look like a setting is passed over. A key is held once, at the place where it first came up and with
the value that came last.
-/

namespace DdlDump

/-- Keys with their values, in the order in which the keys came up. -/
structure Settings where
  entries : List (Text × Text)
  deriving DecidableEq

namespace Settings

/-- No settings. -/
def empty : Settings :=
  ⟨[]⟩

/-- Replaces the value of a key, or puts a new key at the end. -/
def setEntry (key value : Text) : List (Text × Text) → List (Text × Text)
  | [] => [(key, value)]
  | (k, v) :: rest => if k = key then (k, value) :: rest else (k, v) :: setEntry key value rest

/-- Gives a key a value. -/
def set (s : Settings) (key value : Text) : Settings :=
  ⟨setEntry key value s.entries⟩

/-- The value of a key. -/
def get? (s : Settings) (key : Text) : Option Text :=
  s.entries.lookup key

/-- Whether a key is held. -/
def contains (s : Settings) (key : Text) : Bool :=
  (s.get? key).isSome

/-- Spellings that switch a flag on, in any mixture of capitals and small letters. -/
def affirmations : List Text :=
  ["true".toList, "1".toList, "yes".toList]

/-- Whether a key is held with an affirmative value. -/
def isAffirmed (s : Settings) (key : Text) : Bool :=
  (s.get? key).any fun v => affirmations.contains v.lower

/-- Values go up to the next separator. -/
def isValueChar (c : Char) : Bool :=
  c != ';' && c != '&'

/-- The settings written in a text, as they come up, with repeated keys. A word that is not followed
by an equals sign is no key, and no part of it is one. -/
def scan : Text → List (Text × Text)
  | [] => []
  | c :: rest =>
    if isWordChar c then
      match _h : Text.afterWord rest with
      | '=' :: tail =>
        (c :: Text.word rest, Text.trim (tail.takeWhile isValueChar)) ::
          scan (tail.dropWhile isValueChar)
      | tail => scan tail
    else scan rest
termination_by t => t.length
decreasing_by
  · have hword := Text.length_afterWord_le rest
    have hvalue := (List.dropWhile_sublist (l := tail) isValueChar).length_le
    rw [_h, List.length_cons] at hword
    rw [List.length_cons]
    omega
  · have hword := Text.length_afterWord_le rest
    rw [_h] at hword
    rw [List.length_cons]
    omega
  · exact Nat.lt_succ_self _

/-- Reads a bag of settings. -/
def parse (t : Text) : Settings :=
  (scan t).foldl (fun s e => s.set e.1 e.2) empty

end Settings

end DdlDump
