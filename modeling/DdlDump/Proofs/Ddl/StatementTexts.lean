import DdlDump.Proofs.Ddl.TerminatedStatement
import Mathlib.Algebra.GroupWithZero.Nat

/-!
# Cutting a script into statements

Line feeds do not count when a script is cut. A script that ends in a semicolon is cut into as many
statements as it has semicolons and an empty piece behind the last of them, whatever stands behind
the script (`exists_splitOn_append`); and texts that are ended by one semicolon each are told apart
again (`splitOn_flatten_ended`).
-/

namespace DdlDump

open Text

section Without

variable {c d : Char}

/-- A text that does not hold a character stays as it is. -/
lemma without_of_not_mem {t : Text} (ht : c ∉ t) : without t c = t := by
  unfold without
  rw [List.filter_eq_self]
  intro d hd
  rw [bne_iff_ne]
  rintro rfl
  exact ht hd

/-- The other characters are not deleted. -/
lemma count_without (hcd : d ≠ c) (t : Text) : (without t c).count d = t.count d :=
  List.count_filter (by simpa using hcd)

/-- Where nothing is left of the separator, the texts that it parts stand together. -/
lemma without_intercalate {separator : Text} (hseparator : without separator c = [])
    (parts : List Text) :
    without (separator.intercalate parts) c = (parts.map (without · c)).flatten := by
  induction parts with
  | nil => rfl
  | cons s parts ih =>
    rcases eq_or_ne parts [] with rfl | hne
    · simp
    · rw [List.intercalate_cons_of_ne_nil hne, without_append, without_append, hseparator, ih,
        List.append_nil, List.map_cons, List.flatten_cons]

/-- A text that ends in a semicolon still does without its line feeds. -/
lemma endsInSemicolon_without {t : Text} (ht : EndsInSemicolon t) :
    EndsInSemicolon (without t '\n') := by
  obtain ⟨front, rfl⟩ := List.getLast?_eq_some_iff.1 ht
  rw [without_append]
  exact List.getLast?_concat

end Without

/-- A text that is empty or ends in a semicolon is cut apart from what stands behind it, into as
many pieces as it has semicolons. -/
lemma exists_splitOn_append {s : Text} (hs : s = [] ∨ EndsInSemicolon s) :
    ∃ pieces : List Text, pieces.length = s.count ';' ∧
      ∀ t, (s ++ t).splitOn ';' = pieces ++ t.splitOn ';' := by
  rcases hs with rfl | hends
  · exact ⟨[], rfl, fun t => rfl⟩
  · obtain ⟨front, rfl⟩ := List.getLast?_eq_some_iff.1 hends
    refine ⟨front.splitOn ';', ?_, fun t => ?_⟩
    · rw [length_splitOn, List.count_append]
      rfl
    · rw [List.append_assoc, List.singleton_append, List.splitOn_append_cons_self]

/-- Texts that end in a semicolon, and hold no other, are texts with a semicolon behind each. -/
lemma exists_ended {xs : List Text} (hxs : ∀ x ∈ xs, ∃ front, x = front ++ [';'] ∧ ';' ∉ front) :
    ∃ fronts : List Text, (∀ front ∈ fronts, ';' ∉ front) ∧ fronts.map (· ++ [';']) = xs := by
  induction xs with
  | nil => exact ⟨[], by simp, rfl⟩
  | cons x xs ih =>
    rw [List.forall_mem_cons] at hxs
    obtain ⟨front, rfl, hfront⟩ := hxs.1
    obtain ⟨fronts, hfronts, rfl⟩ := ih hxs.2
    exact ⟨front :: fronts, List.forall_mem_cons.2 ⟨hfront, hfronts⟩, rfl⟩

/-- Texts with a semicolon behind each are told apart by the semicolons. -/
lemma splitOn_flatten_ended {xs : List Text} (hxs : ∀ x ∈ xs, ';' ∉ x) :
    ((xs.map (· ++ [';'])).flatten).splitOn ';' = xs ++ [[]] := by
  induction xs with
  | nil => exact List.splitOn_nil ';'
  | cons x xs ih =>
    rw [List.forall_mem_cons] at hxs
    rw [List.map_cons, List.flatten_cons, List.append_assoc, List.singleton_append,
      List.splitOn_append_cons_self, ih hxs.2, List.splitOn_eq_singleton hxs.1]
    rfl

/-! ### Scripts of several parts -/

section Parts

variable {parts : List Text}

/-- The lines of parts, with an empty line between each two of them. -/
lemma lines_joinParts_cons {s : Text} (hparts : parts ≠ []) :
    lines (joinParts (s :: parts)) = lines s ++ [] :: lines (joinParts parts) := by
  rw [joinParts_cons hparts, lines_append_newline, lines_cons, if_pos rfl]

/-- Every line of a script of several parts is a line of a part or empty. -/
lemma mem_lines_joinParts {l : Text} (hl : l ∈ lines (joinParts parts)) :
    l = [] ∨ ∃ s ∈ parts, l ∈ lines s := by
  induction parts with
  | nil => exact Or.inl (List.mem_singleton.1 hl)
  | cons s parts ih =>
    rcases eq_or_ne parts [] with rfl | hne
    · rw [joinParts_singleton] at hl
      exact Or.inr ⟨s, List.mem_cons_self, hl⟩
    · rw [lines_joinParts_cons hne, List.mem_append, List.mem_cons] at hl
      rcases hl with hl | rfl | hl
      · exact Or.inr ⟨s, List.mem_cons_self, hl⟩
      · exact Or.inl rfl
      · rcases ih hl with hempty | ⟨t, ht, hlt⟩
        · exact Or.inl hempty
        · exact Or.inr ⟨t, List.mem_cons_of_mem s ht, hlt⟩

/-- The headers of several parts are those of each part. -/
lemma headerCount_joinParts (parts : List Text) :
    headerCount (lines (joinParts parts)) =
      (parts.map fun s => headerCount (lines s)).sum := by
  have hempty : ∀ ls, headerCount ([] :: ls) = headerCount ls := fun ls => by
    rw [headerCount_cons]
    exact Nat.zero_add _
  induction parts with
  | nil => rfl
  | cons s parts ih =>
    rcases eq_or_ne parts [] with rfl | hne
    · simp
    · rw [lines_joinParts_cons hne, headerCount_append, hempty, ih, List.map_cons, List.sum_cons]

/-- The semicolons of several parts are those of each part. -/
lemma count_joinParts (parts : List Text) :
    (joinParts parts).count ';' = (parts.map (List.count ';')).sum := by
  induction parts with
  | nil => rfl
  | cons s parts ih =>
    rcases eq_or_ne parts [] with rfl | hne
    · simp
    · rw [joinParts_cons hne, List.count_append, List.count_cons_of_ne (by decide),
        List.count_cons_of_ne (by decide), ih, List.map_cons, List.sum_cons]

end Parts

end DdlDump
