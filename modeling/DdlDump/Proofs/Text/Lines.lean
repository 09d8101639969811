import DdlDump.Text.Basic
import Mathlib.Tactic.Common

/-!
# Texts and their lines

Cutting a text into lines and putting lines together again are inverse to each other, as long as
there is a line at all and no line holds a line feed. A text can therefore be followed line by line,
and the lines of two texts with a line feed in between stand one after the other.
-/

namespace DdlDump

namespace Text

/-- A line is a text without line feeds. -/
def IsLine (l : Text) : Prop :=
  '\n' ∉ l

instance : DecidablePred IsLine := fun l =>
  inferInstanceAs (Decidable ('\n' ∉ l))

/-- Nothing is a line, too. -/
@[simp]
lemma isLine_nil : IsLine [] :=
  List.not_mem_nil

/-- Every text has at least one line. -/
@[simp]
lemma lines_ne_nil (t : Text) : lines t ≠ [] :=
  List.splitOn_ne_nil '\n' t

/-- A character in front of a text ends an empty line when it is a line feed, and goes in front of
the first line otherwise. -/
lemma lines_cons (c : Char) (t : Text) :
    lines (c :: t) = if c = '\n' then [] :: lines t else (lines t).modifyHead (c :: ·) := by
  unfold lines
  rw [List.splitOn_cons_eq_if_modifyHead]
  simp only [beq_iff_eq]

/-- The pieces into which a text is cut have no characters that it is cut at. -/
lemma eq_false_of_mem_splitOnP {p : Char → Bool} {t piece : Text} (h : piece ∈ t.splitOnP p) :
    ∀ c ∈ piece, p c = false := by
  induction t generalizing piece with
  | nil =>
    rw [List.splitOnP_nil, List.mem_singleton] at h
    rw [h]
    exact List.forall_mem_nil _
  | cons d t ih =>
    rw [List.splitOnP_cons_eq_if_modifyHead] at h
    obtain ⟨first, rest, hsplit⟩ := List.exists_cons_of_ne_nil (List.splitOnP_ne_nil p t)
    split at h
    · rcases List.mem_cons.1 h with rfl | h
      · exact List.forall_mem_nil _
      · exact ih h
    · next hd =>
      rw [hsplit, List.modifyHead_cons] at h
      rcases List.mem_cons.1 h with rfl | h
      · exact List.forall_mem_cons.2 ⟨by simpa using hd, ih (hsplit ▸ List.mem_cons_self)⟩
      · exact ih (hsplit ▸ List.mem_cons_of_mem _ h)

/-- The pieces into which a text is cut do not hold what it is cut at. -/
lemma not_mem_of_mem_splitOn {c : Char} {t piece : Text} (h : piece ∈ t.splitOn c) :
    c ∉ piece := fun hc =>
  absurd (eq_false_of_mem_splitOnP h c hc) (by simp)

/-- A text is cut into one piece more than it has places to cut. -/
lemma length_splitOn (c : Char) (t : Text) : (t.splitOn c).length = t.count c + 1 := by
  induction t with
  | nil => rfl
  | cons d t ih =>
    rw [List.splitOn_cons_eq_if_modifyHead, List.count_cons]
    split
    · rw [List.length_cons, ih]
    · rw [List.length_modifyHead, ih, Nat.add_zero]

/-- What is between line feeds holds none. -/
lemma isLine_of_mem_lines {l t : Text} (hl : l ∈ lines t) : IsLine l :=
  not_mem_of_mem_splitOn hl

/-- Lines that are put together can be told apart again. -/
lemma lines_ofLines {ls : List Text} (hne : ls ≠ []) (hls : ∀ l ∈ ls, IsLine l) :
    lines (ofLines ls) = ls :=
  List.splitOn_intercalate '\n' hls hne

/-- The lines of two texts with a line feed in between. -/
lemma lines_append_newline (s t : Text) : lines (s ++ '\n' :: t) = lines s ++ lines t :=
  List.splitOn_append_cons_self s t

/-- One line is a text. -/
@[simp]
lemma ofLines_singleton (l : Text) : ofLines [l] = l :=
  List.intercalate_singleton

/-- What is put together of texts that are not empty is not empty. -/
lemma intercalate_ne_nil (separator : Text) {parts : List Text} (hne : parts ≠ [])
    (hparts : ∀ s ∈ parts, s ≠ []) : separator.intercalate parts ≠ [] := by
  obtain ⟨s, rest, rfl⟩ := List.exists_cons_of_ne_nil hne
  have hs : s ≠ [] := hparts s List.mem_cons_self
  rcases eq_or_ne rest [] with rfl | hrest
  · rwa [List.intercalate_singleton]
  · rw [List.intercalate_cons_of_ne_nil hrest]
    exact List.append_ne_nil_of_left_ne_nil (List.append_ne_nil_of_left_ne_nil hs _) _

/-- What is put together of texts is the first one and each of the others behind a separator. -/
lemma intercalate_cons_eq_flatMap (separator s : Text) (parts : List Text) :
    separator.intercalate (s :: parts) = s ++ parts.flatMap (separator ++ ·) := by
  induction parts generalizing s with
  | nil => simp
  | cons t parts ih =>
    rw [List.intercalate_cons_of_ne_nil (List.cons_ne_nil t parts), ih, List.flatMap_cons]
    simp only [List.append_assoc]

/-- The characters of a text are characters of what it is put into. -/
lemma mem_intercalate_of_mem {separator : Text} {parts : List Text} {s : Text} {c : Char}
    (hs : s ∈ parts) (hc : c ∈ s) : c ∈ separator.intercalate parts := by
  induction parts with
  | nil => exact absurd hs List.not_mem_nil
  | cons t parts ih =>
    rcases eq_or_ne parts [] with rfl | hne
    · rwa [List.intercalate_singleton, ← List.mem_singleton.1 hs]
    · rw [List.intercalate_cons_of_ne_nil hne, List.mem_append, List.mem_append]
      rcases List.mem_cons.1 hs with rfl | hs
      · exact Or.inl (Or.inl hc)
      · exact Or.inr (ih hs)

/-- What is put together of texts has their characters and those of the separator. -/
lemma mem_intercalate {separator : Text} {parts : List Text} {c : Char}
    (hc : c ∈ separator.intercalate parts) : c ∈ separator ∨ ∃ s ∈ parts, c ∈ s := by
  induction parts with
  | nil => exact absurd hc List.not_mem_nil
  | cons s parts ih =>
    rcases eq_or_ne parts [] with rfl | hne
    · rw [List.intercalate_singleton] at hc
      exact Or.inr ⟨s, List.mem_cons_self, hc⟩
    · rw [List.intercalate_cons_of_ne_nil hne, List.mem_append, List.mem_append] at hc
      rcases hc with (hc | hc) | hc
      · exact Or.inr ⟨s, List.mem_cons_self, hc⟩
      · exact Or.inl hc
      · obtain hsep | ⟨t, ht, htc⟩ := ih hc
        · exact Or.inl hsep
        · exact Or.inr ⟨t, List.mem_cons_of_mem s ht, htc⟩

/-- A line feed separates the first line from the lines behind it. -/
lemma ofLines_cons {l : Text} {ls : List Text} (hls : ls ≠ []) :
    ofLines (l :: ls) = l ++ '\n' :: ofLines ls := by
  unfold ofLines
  rw [List.intercalate_cons_of_ne_nil hls]
  simp only [List.append_assoc, List.singleton_append]

/-- A line feed separates two groups of lines. -/
lemma ofLines_append {ls ms : List Text} (hls : ls ≠ []) (hms : ms ≠ []) :
    ofLines (ls ++ ms) = ofLines ls ++ '\n' :: ofLines ms := by
  induction ls with
  | nil => exact absurd rfl hls
  | cons l ls ih =>
    rcases eq_or_ne ls [] with rfl | hne
    · rw [List.singleton_append, ofLines_cons hms, ofLines_singleton]
    · have hrest : ls ++ ms ≠ [] := List.append_ne_nil_of_left_ne_nil hne ms
      rw [List.cons_append, ofLines_cons hrest, ih hne, ofLines_cons hne]
      simp only [List.append_assoc, List.cons_append]

/-- The pieces of a text consist of its characters. -/
lemma mem_of_mem_splitOn {c d : Char} {t piece : Text} (h : piece ∈ t.splitOn c) (hd : d ∈ piece) :
    d ∈ t := by
  have hwhole : [c].intercalate (t.splitOn c) = t := List.intercalate_splitOn c
  rw [← hwhole]
  exact mem_intercalate_of_mem h hd

/-- A text ends in a character other than a line feed when its last line does. -/
lemma getLast?_ofLines_concat {v : Char} (hv : v ≠ '\n') (init : List Text) (last : Text) :
    (ofLines (init ++ [last])).getLast? = some v ↔ last.getLast? = some v := by
  rcases eq_or_ne init [] with rfl | hne
  · rw [List.nil_append, ofLines_singleton]
  · rw [ofLines_append hne (List.cons_ne_nil last []), ofLines_singleton]
    rcases List.eq_nil_or_concat last with rfl | ⟨front, end_, rfl⟩
    · simp [Ne.symm hv]
    · rw [List.concat_eq_append, ← List.cons_append, ← List.append_assoc, List.getLast?_concat,
        List.getLast?_concat]

/-- Where every line is replaced by lines, the result is the lines that these make, put together. -/
lemma ofLines_flatMap {g : Text → List Text} (hg : ∀ l, g l ≠ []) (ls : List Text) :
    ofLines (ls.flatMap g) = ofLines (ls.map fun l => ofLines (g l)) := by
  induction ls with
  | nil => rfl
  | cons l ls ih =>
    rcases eq_or_ne ls [] with rfl | hne
    · simp
    · have hrest : ls.flatMap g ≠ [] := by
        obtain ⟨m, ms, rfl⟩ := List.exists_cons_of_ne_nil hne
        rw [List.flatMap_cons]
        exact List.append_ne_nil_of_left_ne_nil (hg m) _
      rw [List.flatMap_cons, ofLines_append (hg l) hrest, ih, List.map_cons,
        ofLines_cons (by simpa using hne)]

/-! ### Separators of different kinds -/

section JoinWith

variable (separator : Nat → Text)

/-- Texts with a separator of its own behind each but the last. -/
def joinWith (separator : Nat → Text) : List Text → Text
  | [] => []
  | [s] => s
  | s :: parts => s ++ (separator 0 ++ joinWith (fun i => separator (i + 1)) parts)

/-- The first separator stands between the first text and the others. -/
lemma joinWith_cons_of_ne_nil {s : Text} {parts : List Text} (hparts : parts ≠ []) :
    joinWith separator (s :: parts) =
      s ++ (separator 0 ++ joinWith (fun i => separator (i + 1)) parts) := by
  obtain ⟨t, rest, rfl⟩ := List.exists_cons_of_ne_nil hparts
  rfl

/-- With the same separator everywhere, texts are put together as usual. -/
lemma joinWith_const (s : Text) (parts : List Text) :
    joinWith (fun _ => s) parts = s.intercalate parts := by
  induction parts with
  | nil => rfl
  | cons t parts ih =>
    rcases eq_or_ne parts [] with rfl | hne
    · exact List.intercalate_singleton.symm
    · rw [joinWith_cons_of_ne_nil _ hne, ih, List.intercalate_cons_of_ne_nil hne,
        List.append_assoc]

end JoinWith

/-! ### Characters that are deleted -/

section Without

variable {c : Char}

/-- A character is deleted from two texts apart. -/
lemma without_append (s t : Text) : without (s ++ t) c = without s c ++ without t c :=
  List.filter_append _ _

/-- A character other than the line feed is deleted line by line. -/
lemma without_ofLines (hc : c ≠ '\n') (ls : List Text) :
    without (ofLines ls) c = ofLines (ls.map (without · c)) := by
  have hnewline : ∀ t, without ('\n' :: t) c = '\n' :: without t c := fun t =>
    List.filter_cons_of_pos (bne_iff_ne.2 hc.symm)
  induction ls with
  | nil => rfl
  | cons l ls ih =>
    rcases eq_or_ne ls [] with rfl | hne
    · simp
    · rw [ofLines_cons hne, without_append, hnewline, ih, List.map_cons,
        ofLines_cons (by simpa using hne)]

end Without

end Text

end DdlDump
