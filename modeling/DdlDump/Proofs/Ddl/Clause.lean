import DdlDump.Ddl.Replay
import DdlDump.Proofs.Ddl.Scan

/-!
# What striking a clause does to a line

A line outside copied statements is either in the clause or not, and this depends on the line before
it and on its own first characters. Lines that are not in the clause are put out. Of those in the
clause only an end of a statement is left, as a semicolon, and behind it the pass is as it was in
the beginning: clauses do not reach beyond the end of their statement.
-/

namespace DdlDump

open Text

section Striking

variable {opens : Text → Bool} {r : Region} {l : Text}

/-- A line that opens the clause is in it. -/
lemma clauseRegion_of_opens (h : opens l = true) : clauseRegion opens r l = .clause := by
  unfold clauseRegion
  rw [if_pos h]

/-- An indented line that does not open the clause is in it when the line before is. -/
lemma clauseRegion_of_isIndented (h : opens l = false) (hl : Line.isIndented l = true) :
    clauseRegion opens r l = r := by
  unfold clauseRegion
  simp [h, hl]

/-- Any other line is not in the clause. -/
lemma clauseRegion_of_not_isIndented (h : opens l = false) (hl : Line.isIndented l = false) :
    clauseRegion opens .clause l = .passing := by
  unfold clauseRegion
  simp [h, hl]

/-- The clause does not begin by itself. -/
lemma clauseRegion_passing (h : opens l = false) : clauseRegion opens .passing l = .passing := by
  unfold clauseRegion
  simp [h]

/-- A line that is not indented ends the clause, if there is one. -/
lemma clauseRegion_ends (hr : r ≠ .columns) (h : opens l = false)
    (hl : Line.isIndented l = false) : clauseRegion opens r l = .passing := by
  cases r with
  | passing => exact clauseRegion_passing h
  | clause => exact clauseRegion_of_not_isIndented h hl
  | columns => exact absurd rfl hr

/-- A pass that strikes a clause lists no columns. -/
lemma clauseRegion_ne_columns (hr : r ≠ .columns) : clauseRegion opens r l ≠ .columns := by
  unfold clauseRegion
  split
  · decide
  · split
    · decide
    · exact hr

/-- A line that is not in the clause is put out. -/
lemma striking_of_passing (h : clauseRegion opens r l = .passing) :
    striking opens r l = (some l, .passing) := by
  unfold striking
  simp [h]

/-- Of a line in the clause in which a statement ends, the end is left. -/
lemma striking_of_terminated (h : clauseRegion opens r l = .clause)
    (hl : Line.isTerminated l = true) : striking opens r l = (some [';'], .passing) := by
  unfold striking
  simp [h, hl]

/-- Any other line in the clause is struck. -/
lemma striking_of_not_terminated (h : clauseRegion opens r l = .clause)
    (hl : Line.isTerminated l = false) : striking opens r l = (none, .clause) := by
  unfold striking
  simp [h, hl]

/-- A semicolon of its own is put out and ends the clause. -/
lemma striking_semicolon (hr : r ≠ .columns) (h : opens [';'] = false) :
    striking opens r [';'] = (some [';'], .passing) :=
  striking_of_passing (clauseRegion_ends hr h Line.isIndented_semicolon)

/-- Nor are columns listed behind a line. -/
lemma striking_ne_columns (hr : r ≠ .columns) : (striking opens r l).2 ≠ .columns := by
  have hregion : clauseRegion opens r l ≠ .columns := clauseRegion_ne_columns hr
  have hpassing : Region.passing ≠ .columns := by decide
  unfold striking
  simp only
  split
  · exact hpassing
  · split
    · exact hpassing
    · exact hregion

/-- A line is put out, ends a statement in the clause, or is struck. -/
lemma striking_cases (opens : Text → Bool) (r : Region) (l : Text) :
    striking opens r l = (some l, .passing) ∨
      (Line.isTerminated l = true ∧ striking opens r l = (some [';'], .passing)) ∨
      (Line.isTerminated l = false ∧ (striking opens r l).1 = none) := by
  by_cases hregion : clauseRegion opens r l = .passing
  · exact Or.inl (striking_of_passing hregion)
  · unfold striking
    cases hl : Line.isTerminated l with
    | true => simp [hregion]
    | false => simp [hregion]

/-- What is put out for a line is a line. -/
lemma isLine_of_striking {m : Text} (hl : IsLine l) (hm : (striking opens r l).1 = some m) :
    IsLine m := by
  rcases striking_cases opens r l with h | ⟨-, h⟩ | ⟨-, h⟩
  · rw [h, Option.some.injEq] at hm
    exact hm ▸ hl
  · rw [h, Option.some.injEq] at hm
    rw [← hm]
    decide
  · rw [h] at hm
    exact absurd hm.symm (Option.some_ne_none m)

/-- Striking clauses that an empty line does not open is a regular pass. -/
lemma striking_regular (hblank : opens [] = false) : (striking opens).Regular where
  blank := by rw [striking_of_passing (clauseRegion_passing hblank)]
  isLine := isLine_of_striking

/-- A line that is put out does not open the clause, unless it is a semicolon of its own. -/
lemma opens_of_striking {m : Text} (hm : (striking opens r l).1 = some m) :
    opens m = false ∨ m = [';'] := by
  cases hopens : opens l with
  | false =>
    rcases striking_cases opens r l with h | ⟨-, h⟩ | ⟨-, h⟩
    · rw [h, Option.some.injEq] at hm
      exact Or.inl (hm ▸ hopens)
    · rw [h, Option.some.injEq] at hm
      exact Or.inr hm.symm
    · rw [h] at hm
      exact absurd hm.symm (Option.some_ne_none m)
  | true =>
    have hclause : clauseRegion opens r l = .clause := clauseRegion_of_opens hopens
    cases hl : Line.isTerminated l with
    | true =>
      rw [striking_of_terminated hclause hl, Option.some.injEq] at hm
      exact Or.inr hm.symm
    | false =>
      rw [striking_of_not_terminated hclause hl] at hm
      exact absurd hm.symm (Option.some_ne_none m)

/-- Outside the clause such a line is put out as it is. -/
lemma striking_passing_of_opens (hl : opens l = false ∨ l = [';']) :
    striking opens .passing l = (some l, .passing) := by
  cases hopens : opens l with
  | false => exact striking_of_passing (clauseRegion_passing hopens)
  | true =>
    have hsemicolon : l = [';'] := hl.resolve_left (by simp [hopens])
    rw [striking_of_terminated (clauseRegion_of_opens hopens)
      (hsemicolon ▸ Line.isTerminated_semicolon), hsemicolon]

/-- Where a statement ends, its end is put out, and the pass is as it was in the beginning. -/
lemma visit_striking_of_terminated {c : Cursor} (hc : c.Coherent)
    (hl : Line.isTerminated l = true) :
    ∃ m, (striking opens).visit c l = ⟨l, some m, .start⟩ ∧ Line.isTerminated m = true := by
  cases hskip : (c.enter l).skipping with
  | true =>
    have hregion : (c.enter l).region = .passing := hc.enter l hskip
    refine ⟨l, ?_, hl⟩
    rw [Pass.visit_of_skipping hskip, hregion, hl]
    rfl
  | false =>
    rw [Pass.visit_of_not_skipping hskip]
    rcases striking_cases opens c.region l with h | ⟨-, h⟩ | ⟨hopen, -⟩
    · exact ⟨l, by rw [h]; rfl, hl⟩
    · exact ⟨[';'], by rw [h]; rfl, Line.isTerminated_semicolon⟩
    · rw [hl] at hopen
      exact absurd hopen (by decide)

/-- An empty line in no clause is put out and changes nothing. -/
lemma visit_striking_blank (hblank : opens [] = false) :
    (striking opens).visit .start [] = ⟨[], some [], .start⟩ := by
  rw [Cursor.start, Pass.visit_of_opening (by simp),
    striking_of_passing (clauseRegion_passing hblank)]

end Striking

end DdlDump
