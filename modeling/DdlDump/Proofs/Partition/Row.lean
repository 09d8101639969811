import DdlDump.Partition
import DdlDump.Proofs.Text.Trim

/-!
# Rows of a partition listing

A row is cut into pieces and put together again as keys and values. It has a pair exactly when there
is an equals sign in it (`values_parse_ne_nil_iff`), and the statement that adds its partition has
no character, beside those of the statement itself and of the table's name, that the row does not
have (`exists_addStatement_eq`).
-/

namespace DdlDump

open Text

namespace Partition

/-! ### The pieces of a row -/

/-- The characters of a piece. -/
def Piece.text (p : Piece) : Text :=
  p.separators ++ p.content

/-- A row is made of its pieces. -/
lemma flatMap_pieces (row : Text) : (pieces row).flatMap Piece.text = row := by
  induction row using pieces.induct with
  | case1 =>
    rw [pieces]
    rfl
  | case2 c rest behind ih =>
    rw [pieces, List.flatMap_cons, ih]
    unfold Piece.text
    rw [List.append_assoc, List.takeWhile_append_dropWhile, List.takeWhile_append_dropWhile]

/-- What separates pieces is made of separators. -/
lemma isSeparator_of_mem_separators {row : Text} {p : Piece} (hp : p ∈ pieces row) {c : Char}
    (hc : c ∈ p.separators) : isSeparator c = true := by
  induction row using pieces.induct with
  | case1 =>
    rw [pieces] at hp
    exact absurd hp List.not_mem_nil
  | case2 d rest behind ih =>
    rw [pieces] at hp
    rcases List.mem_cons.1 hp with rfl | hp
    · exact List.mem_takeWhile_imp hc
    · exact ih hp

/-- The content of a piece has no separators. -/
lemma isSeparator_eq_false_of_mem_content {row : Text} {p : Piece} (hp : p ∈ pieces row) {c : Char}
    (hc : c ∈ p.content) : isSeparator c = false := by
  induction row using pieces.induct with
  | case1 =>
    rw [pieces] at hp
    exact absurd hp List.not_mem_nil
  | case2 d rest behind ih =>
    rw [pieces] at hp
    rcases List.mem_cons.1 hp with rfl | hp
    · simpa using List.mem_takeWhile_imp hc
    · exact ih hp

/-! ### Keys and values -/

section Collect

variable {ps : List Piece} {c : Char}

/-- A piece with an equals sign begins a pair. -/
lemma collect_of_mem (ps : List Piece) {p : Piece} (hp : '=' ∈ p.content) :
    ∃ value, p.content = p.content.takeWhile (· != '=') ++ '=' :: value ∧
      collect (p :: ps) =
        ([], (p.content.takeWhile (· != '='), value ++ (collect ps).1) :: (collect ps).2) := by
  have hcut := List.takeWhile_append_dropWhile (p := (· != '=')) (l := p.content)
  have hhead := head?_dropWhile_eq_false (p := (· != '=')) p.content
  cases hdrop : p.content.dropWhile (· != '=') with
  | nil =>
    rw [List.dropWhile_eq_nil_iff] at hdrop
    exact absurd (hdrop '=' hp) (by decide)
  | cons d value =>
    rw [hdrop] at hcut hhead
    obtain rfl : d = '=' := by simpa using hhead d rfl
    refine ⟨value, hcut.symm, ?_⟩
    rw [collect]
    simp only [hdrop]

/-- Any other piece goes on with what is in front of it. -/
lemma collect_of_not_mem {p : Piece} (hp : '=' ∉ p.content) :
    collect (p :: ps) = ((if p.content.isEmpty then [] else p.text) ++ (collect ps).1,
      (collect ps).2) := by
  have hdrop : p.content.dropWhile (· != '=') = [] := by
    rw [List.dropWhile_eq_nil_iff]
    intro d hd
    rw [bne_iff_ne]
    rintro rfl
    exact hp hd
  rw [collect]
  simp only [hdrop]
  unfold Piece.text
  split <;> rfl

/-- There is a pair when there is an equals sign. -/
lemma collect_ne_nil_iff : (collect ps).2 ≠ [] ↔ ∃ p ∈ ps, '=' ∈ p.content := by
  induction ps with
  | nil => simp [collect]
  | cons p ps ih =>
    by_cases hp : '=' ∈ p.content
    · obtain ⟨value, -, hcollect⟩ := collect_of_mem ps hp
      rw [hcollect]
      exact iff_of_true (List.cons_ne_nil _ _) ⟨p, List.mem_cons_self, hp⟩
    · rw [collect_of_not_mem hp, ih]
      simp [hp]

/-- What is collected of pieces has no characters but theirs. -/
lemma mem_of_mem_collect
    (hc : c ∈ (collect ps).1 ∨ ∃ pair ∈ (collect ps).2, c ∈ pair.1 ∨ c ∈ pair.2) :
    c ∈ ps.flatMap Piece.text := by
  induction ps with
  | nil => simp [collect] at hc
  | cons p ps ih =>
    rw [List.flatMap_cons, List.mem_append]
    by_cases hp : '=' ∈ p.content
    · obtain ⟨value, hcontent, hcollect⟩ := collect_of_mem ps hp
      have hpiece : ∀ d, d ∈ p.content.takeWhile (· != '=') ∨ d ∈ value → d ∈ p.text := by
        intro d hd
        unfold Piece.text
        rw [List.mem_append, hcontent, List.mem_append, List.mem_cons]
        tauto
      rw [hcollect] at hc
      simp only [List.not_mem_nil, false_or, List.mem_cons, exists_eq_or_imp, List.mem_append] at hc
      rcases hc with (hkey | hvalue | htail) | hpair
      · exact Or.inl (hpiece c (Or.inl hkey))
      · exact Or.inl (hpiece c (Or.inr hvalue))
      · exact Or.inr (ih (Or.inl htail))
      · exact Or.inr (ih (Or.inr hpair))
    · rw [collect_of_not_mem hp, List.mem_append] at hc
      rcases hc with (hpiece | htail) | hpair
      · left
        split at hpiece
        · exact absurd hpiece List.not_mem_nil
        · exact hpiece
      · exact Or.inr (ih (Or.inl htail))
      · exact Or.inr (ih (Or.inr hpair))

end Collect

/-! ### Whole rows -/

section Row

variable {row : Text} {c : Char}

/-- A row has a pair when there is an equals sign in it. -/
theorem values_parse_ne_nil_iff : (parse row).values ≠ [] ↔ '=' ∈ row := by
  have hseparator : isSeparator '=' = false := by decide
  have hvisible : isBlank '=' = false := by decide
  unfold parse
  rw [collect_ne_nil_iff]
  constructor
  · rintro ⟨p, hp, heq⟩
    apply mem_of_mem_trim
    rw [← flatMap_pieces row.trim, List.mem_flatMap]
    exact ⟨p, hp, List.mem_append_right _ heq⟩
  · intro heq
    have htrim : '=' ∈ row.trim := mem_trim_of_visible hvisible heq
    rw [← flatMap_pieces row.trim, List.mem_flatMap] at htrim
    obtain ⟨p, hp, hmem⟩ := htrim
    rcases List.mem_append.1 hmem with hsep | hcontent
    · rw [isSeparator_of_mem_separators hp hsep] at hseparator
      exact absurd hseparator (by decide)
    · exact ⟨p, hp, hcontent⟩

/-- The pairs of a partition are written with the characters of its row, with quotes and equals
signs, and with commas and spaces in between. -/
theorem mem_render_parse (hc : c ∈ (parse row).render) : c ∈ row ∨ c ∈ "'=, ".toList := by
  unfold render at hc
  rcases mem_intercalate hc with hsep | ⟨written, hwritten, hc⟩
  · right
    exact (List.suffix_append "'=".toList ", ".toList).subset hsep
  · obtain ⟨pair, hpair, rfl⟩ := List.mem_map.1 hwritten
    have hcollected : c ∈ pair.1 ∨ c ∈ pair.2 → c ∈ row := by
      intro hmem
      apply mem_of_mem_trim
      rw [← flatMap_pieces row.trim]
      exact mem_of_mem_collect (Or.inr ⟨pair, hpair, hmem⟩)
    unfold renderPair at hc
    simp only [List.mem_append, List.mem_cons, List.not_mem_nil, or_false] at hc
    rcases hc with hkey | rfl | rfl | hvalue | rfl
    · exact Or.inl (hcollected (Or.inl hkey))
    · exact Or.inr (by decide)
    · exact Or.inr (by decide)
    · exact Or.inl (hcollected (Or.inr hvalue))
    · exact Or.inr (by decide)

/-- The statement that adds a partition ends in a semicolon, and what is in front of it is written
with the characters of the row, of the table's name and of the statement itself. -/
theorem exists_addStatement_eq (table row : Text) :
    ∃ front, addStatement table (parse row) = front ++ [';'] ∧
      ∀ c ∈ front, c ∈ table ∨ c ∈ row ∨ c ∈ "ALTER TABLE ADD PARTITION ('=, )".toList := by
  refine ⟨"ALTER TABLE ".toList ++ (table ++ (" ADD PARTITION (".toList ++
    ((parse row).render ++ ")".toList))), ?_, fun c hc => ?_⟩
  · have hend : ");".toList = ")".toList ++ [';'] := rfl
    unfold addStatement
    rw [hend]
    simp only [List.append_assoc]
  · have hwords : ∀ s ∈ ["ALTER TABLE ", " ADD PARTITION (", "'=, ", ")"].map String.toList,
        s ⊆ "ALTER TABLE ADD PARTITION ('=, )".toList := by decide
    simp only [List.mem_append] at hc
    rcases hc with hc | hc | hc | hc | hc
    · exact Or.inr (Or.inr (hwords _ (by decide) hc))
    · exact Or.inl hc
    · exact Or.inr (Or.inr (hwords _ (by decide) hc))
    · rcases mem_render_parse hc with hrow | hmarks
      · exact Or.inr (Or.inl hrow)
      · exact Or.inr (Or.inr (hwords _ (by decide) hmarks))
    · exact Or.inr (Or.inr (hwords _ (by decide) hc))

/-- A partition is put back for every row with an equals sign. -/
theorem addStatements_eq_map (table : Text) (rows : List Text) :
    addStatements table rows =
      (rows.filter fun row => decide ('=' ∈ row)).map fun row =>
        addStatement table (parse row) := by
  have hpair : ∀ row ∈ rows, (!(parse row).values.isEmpty) = decide ('=' ∈ row) := by
    intro row _
    rw [Bool.eq_iff_iff, decide_eq_true_eq, ← values_parse_ne_nil_iff, Bool.not_eq_true',
      List.isEmpty_eq_false_iff]
  unfold addStatements
  rw [List.filter_map, List.map_map]
  exact congrArg (List.map _) (List.filter_congr hpair)

end Row

end Partition

end DdlDump
