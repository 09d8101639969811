import DdlDump.Ddl.Scan
import DdlDump.Proofs.Text.Lines
import Mathlib.Data.List.TakeWhile

/-!
# How lines open and end

Whether a statement ends in a line depends on the last visible character alone, so that it can be
read off the last part of a line that is not blank (`isTerminated_append`). How a line opens comes
down to two tests that exclude each other, since a header starts with CREATE, too
(`startsWithCreate_of_parse?`).
-/

namespace DdlDump

namespace Line

open Text

/-! ### The end of a line -/

/-- A statement ends in a line when the last visible character is a semicolon. -/
lemma isTerminated_eq_find? (l : Text) :
    isTerminated l = (l.reverse.find? (fun c => !isBlank c) == some ';') := by
  unfold isTerminated trimRight dropRightWhile
  rw [List.getLast?_reverse, List.find?_not_eq_head?_dropWhile]

/-- A line in two parts ends in the second part, if something is visible there. -/
lemma isTerminated_append (x y : Text) :
    isTerminated (x ++ y) = if y.all isBlank then isTerminated x else isTerminated y := by
  simp only [isTerminated_eq_find?, List.reverse_append, List.find?_append]
  cases hy : y.reverse.find? (fun c => !isBlank c) with
  | none =>
    have hblank : y.all isBlank := by simpa using hy
    rw [if_pos hblank, Option.none_or]
  | some c =>
    have hvisible : ¬ y.all isBlank := by
      intro hall
      have hmem : c ∈ y := List.mem_reverse.1 (List.mem_of_find?_eq_some hy)
      have hc : isBlank c = false := by simpa using List.find?_some hy
      rw [List.all_eq_true.1 hall c hmem] at hc
      exact absurd hc (by decide)
    rw [if_neg hvisible, Option.some_or]

/-- A semicolon ends a statement. -/
@[simp]
lemma isTerminated_semicolon : isTerminated [';'] = true := by
  decide

/-- The last character of a line settles whether a statement ends there, if it is visible. -/
lemma isTerminated_concat (x : Text) {c : Char} (hc : isBlank c = false) :
    isTerminated (x ++ [c]) = (c == ';') := by
  rw [isTerminated_append, if_neg (by simp [hc]), isTerminated_eq_find?]
  simp [hc]

/-! ### The start of a line -/

/-- An indent is no visible part of a line. -/
lemma trimLeft_dropWhile_isIndent (t : Text) : trimLeft (t.dropWhile isIndent) = trimLeft t := by
  unfold trimLeft
  induction t with
  | nil => rfl
  | cons c t ih =>
    rw [List.dropWhile_cons]
    split
    · next hc => rw [ih, List.dropWhile_cons_of_pos (isBlank_of_isIndent hc)]
    · rfl

/-- A line that starts with a header starts with CREATE. -/
lemma startsWithCreate_of_parse? {l rest : Text} {h : Header}
    (hp : Header.parse? l = some (h, rest)) : Statement.startsWithCreate l = true := by
  unfold Header.parse? at hp
  obtain ⟨body, hbody, -⟩ := Option.bind_eq_some_iff.1 hp
  have hcut : l.dropWhile isIndent = Header.createKeyword ++ body :=
    after?_eq_some_iff.1 hbody
  unfold Statement.startsWithCreate
  rw [← trimLeft_dropWhile_isIndent, hcut]
  have hvisible : trimLeft (Header.createKeyword ++ body) = Header.createKeyword ++ body := by
    unfold trimLeft
    exact List.dropWhile_cons_of_neg (by decide)
  rw [hvisible, List.map_append, decide_eq_true_eq]
  exact ⟨' ' :: body.map Char.toUpper, rfl⟩

/-- A line opens with a header when one can be read. -/
lemma opening_eq_recognised_iff {l : Text} :
    opening l = .recognised ↔ (Header.parse? l).isSome = true := by
  unfold opening
  split
  · next h => simp [h]
  · next h => split <;> simp [h]

/-- A line sets out to create something without a header when, as a statement, it is
unrecognised. -/
lemma opening_eq_unrecognised_iff {l : Text} :
    opening l = .unrecognised ↔ (Statement.parse l).isUnrecognised = true := by
  unfold opening Statement.isUnrecognised Statement.parse
  cases hp : Header.parse? l with
  | some p => simp
  | none =>
    by_cases hc : Statement.startsWithCreate l = true
    · simp [hc]
    · simp [hc]

/-- A line that does not start with CREATE starts no statement. -/
lemma opening_eq_inner_iff {l : Text} :
    opening l = .inner ↔ Statement.startsWithCreate l = false := by
  unfold opening
  cases hp : Header.parse? l with
  | some p => simp [startsWithCreate_of_parse? hp]
  | none =>
    by_cases hc : Statement.startsWithCreate l = true
    · simp [hc]
    · simp [hc]

/-- There is no header on a line that does not start with CREATE. -/
lemma parse?_eq_none_of_opening {l : Text} (hl : opening l ≠ .recognised) :
    Header.parse? l = none := by
  rw [ne_eq, opening_eq_recognised_iff, Option.not_isSome_iff_eq_none] at hl
  exact hl

/-- An empty line starts no statement. -/
@[simp]
lemma opening_nil : opening [] = .inner := by
  decide

/-- An empty line is not indented. -/
@[simp]
lemma isIndented_nil : isIndented [] = false :=
  rfl

/-- Neither is a semicolon of its own. -/
@[simp]
lemma isIndented_semicolon : isIndented [';'] = false := by
  decide

end Line

end DdlDump
