import DdlDump.Proofs.Text.Front
import DdlDump.Text.Blank
import Mathlib.Data.List.Basic

/-!
# Trimming

Trimming takes the blanks off the ends of a text and leaves what starts and ends visibly. What is
left is all that matters: blanks that are put around a text before it is trimmed change nothing.
-/

namespace DdlDump

open Text

/-! ### The end of a text -/

section TrimRight

variable {t : Text} {c : Char}

/-- What is trimmed off the end of a text is blank. -/
lemma exists_trimRight_append (t : Text) :
    ∃ blanks, (∀ c ∈ blanks, isBlank c = true) ∧ t = t.trimRight ++ blanks :=
  exists_dropRightWhile_append isBlank t

/-- What is left of a text consists of its characters. -/
lemma mem_of_mem_trimRight (hc : c ∈ t.trimRight) : c ∈ t := by
  obtain ⟨blanks, -, hsplit⟩ := exists_trimRight_append t
  rw [hsplit]
  exact List.mem_append_left blanks hc

/-- What is left ends visibly. -/
lemma exists_visible_of_trimRight (ht : t.trimRight ≠ []) :
    ∃ front c, t.trimRight = front ++ [c] ∧ isBlank c = false := by
  have hhead := head?_dropWhile_eq_false (p := isBlank) t.reverse
  obtain ⟨front, c, hsplit⟩ := (List.eq_nil_or_concat' t.trimRight).resolve_left ht
  refine ⟨front, c, hsplit, hhead c ?_⟩
  unfold trimRight dropRightWhile at hsplit
  rw [List.reverse_eq_append_iff] at hsplit
  rw [hsplit]
  rfl

/-- What is left has no blank at its end. -/
lemma isBlank_getLast?_trimRight (t : Text) : ∀ c ∈ t.trimRight.getLast?, isBlank c = false := by
  intro c hc
  rcases eq_or_ne t.trimRight [] with hnil | hne
  · rw [hnil] at hc
    exact absurd hc (by simp)
  · obtain ⟨front, d, hsplit, hd⟩ := exists_visible_of_trimRight hne
    rw [hsplit, List.getLast?_concat, Option.mem_some_iff] at hc
    rwa [← hc]

/-- Nothing is left of a text without visible characters, and of no other. -/
lemma trimRight_eq_nil_iff : t.trimRight = [] ↔ t.all isBlank = true := by
  unfold trimRight dropRightWhile
  rw [List.reverse_eq_nil_iff, List.dropWhile_eq_nil_iff, List.all_eq_true]
  simp only [List.mem_reverse]

/-- Something is left of a text with visible characters. -/
lemma trimRight_ne_nil (ht : t.all isBlank = false) : t.trimRight ≠ [] := by
  rw [ne_eq, trimRight_eq_nil_iff, ht]
  exact Bool.false_ne_true

end TrimRight

/-! ### Both ends -/

section Trim

variable {t : Text} {c : Char}

/-- A text is what is left of it when it is trimmed, with blanks around it. -/
lemma exists_trim_append (t : Text) :
    ∃ before after, (∀ c ∈ before, isBlank c = true) ∧ (∀ c ∈ after, isBlank c = true) ∧
      t = before ++ (t.trim ++ after) := by
  obtain ⟨after, hafter, hsplit⟩ := exists_trimRight_append t.trimLeft
  refine ⟨t.takeWhile isBlank, after, fun c hc => List.mem_takeWhile_imp hc, hafter, ?_⟩
  unfold trim
  rw [← hsplit]
  exact List.takeWhile_append_dropWhile.symm

/-- Nothing is put into a text when it is trimmed. -/
lemma mem_of_mem_trim (hc : c ∈ t.trim) : c ∈ t := by
  obtain ⟨before, after, -, -, hsplit⟩ := exists_trim_append t
  rw [hsplit]
  exact List.mem_append_right before (List.mem_append_left after hc)

/-- Visible characters are not trimmed off. -/
lemma mem_trim_of_visible (hvisible : isBlank c = false) (hc : c ∈ t) : c ∈ t.trim := by
  obtain ⟨before, after, hbefore, hafter, hsplit⟩ := exists_trim_append t
  have hnot : ∀ {blanks : Text}, (∀ d ∈ blanks, isBlank d = true) → c ∉ blanks := by
    intro blanks hblanks hmem
    rw [hblanks c hmem] at hvisible
    exact absurd hvisible (by decide)
  rw [hsplit, List.mem_append, List.mem_append] at hc
  exact (hc.resolve_left (hnot hbefore)).resolve_right (hnot hafter)

/-- A trimmed text starts visibly. -/
lemma isBlank_head?_trim (t : Text) : ∀ c ∈ t.trim.head?, isBlank c = false := by
  intro c hc
  obtain ⟨after, -, hsplit⟩ := exists_trimRight_append t.trimLeft
  apply head?_dropWhile_eq_false (p := isBlank) t c
  have hleft : t.dropWhile isBlank = t.trim ++ after := hsplit
  rw [hleft, List.head?_append, hc]
  rfl

/-- A trimmed text ends visibly. -/
lemma isBlank_getLast?_trim (t : Text) : ∀ c ∈ t.trim.getLast?, isBlank c = false :=
  isBlank_getLast?_trimRight t.trimLeft

/-- Blanks around a text that starts and ends visibly are trimmed off. -/
lemma trim_append_blanks {before after : Text} (hbefore : ∀ c ∈ before, isBlank c = true)
    (hafter : ∀ c ∈ after, isBlank c = true) (hhead : ∀ c ∈ t.head?, isBlank c = false)
    (hlast : ∀ c ∈ t.getLast?, isBlank c = false) : (before ++ (t ++ after)).trim = t := by
  have hleft : (before ++ (t ++ after)).trimLeft = t ++ if t = [] then [] else after := by
    unfold trimLeft
    rw [List.dropWhile_append_of_pos hbefore]
    cases t with
    | nil => simpa using hafter
    | cons c t => exact List.dropWhile_cons_of_neg (by simp [hhead c rfl])
  have hblank : ∀ c ∈ (if t = [] then [] else after).reverse, isBlank c = true := by
    intro c hc
    split at hc
    · exact absurd hc (by simp)
    · exact hafter c (List.mem_reverse.1 hc)
  unfold trim trimRight dropRightWhile
  rw [hleft, List.reverse_append, dropWhile_run_append hblank (by rwa [List.head?_reverse]),
    List.reverse_reverse]

/-- Blanks around a text make no difference to what is left of it. -/
lemma trim_blanks_append {before after : Text} (hbefore : ∀ c ∈ before, isBlank c = true)
    (hafter : ∀ c ∈ after, isBlank c = true) : (before ++ (t ++ after)).trim = t.trim := by
  obtain ⟨front, back, hfront, hback, hsplit⟩ := exists_trim_append t
  have houter : before ++ (t ++ after) = (before ++ front) ++ (t.trim ++ (back ++ after)) := by
    conv_lhs => rw [hsplit]
    simp only [List.append_assoc]
  rw [houter]
  exact trim_append_blanks (List.forall_mem_append.2 ⟨hbefore, hfront⟩)
    (List.forall_mem_append.2 ⟨hback, hafter⟩) (isBlank_head?_trim t) (isBlank_getLast?_trim t)

/-- A text that starts and ends visibly stays at the start of what it stands at the start of. -/
lemma trim_append_of_visible {s : Text} (hne : t ≠ []) (hhead : ∀ c ∈ t.head?, isBlank c = false)
    (hlast : ∀ c ∈ t.getLast?, isBlank c = false) : (t ++ s).trim = t ++ s.trimRight := by
  obtain ⟨after, hafter, hsplit⟩ := exists_trimRight_append s
  have hwhole : t ++ s = [] ++ ((t ++ s.trimRight) ++ after) := by
    conv_lhs => rw [hsplit]
    simp only [List.nil_append, List.append_assoc]
  rw [hwhole]
  refine trim_append_blanks (List.forall_mem_nil _) hafter ?_
    (forall_getLast?_append hlast (isBlank_getLast?_trimRight s))
  rwa [List.head?_append_of_ne_nil _ hne]

/-- A trimmed text is left as it is. -/
@[simp]
lemma trim_trim (t : Text) : t.trim.trim = t.trim := by
  have hframed : Text.trim ([] ++ (t.trim ++ [])) = t.trim :=
    trim_append_blanks (List.forall_mem_nil _) (List.forall_mem_nil _) (isBlank_head?_trim t)
      (isBlank_getLast?_trim t)
  rwa [List.nil_append, List.append_nil] at hframed

/-- Nothing is left of blanks. -/
lemma trim_of_blank (ht : ∀ c ∈ t, isBlank c = true) : t.trim = [] := by
  have hframed : Text.trim (t ++ ([] ++ [])) = [] :=
    trim_append_blanks ht (List.forall_mem_nil _) (by simp) (by simp)
  rwa [List.append_nil, List.append_nil] at hframed

end Trim

end DdlDump
