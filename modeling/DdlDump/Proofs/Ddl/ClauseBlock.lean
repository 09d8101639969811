import DdlDump.Proofs.Ddl.JointStriking

/-!
# The clauses of one statement

Behind its columns a statement consists of clauses, each a line that is not indented and the
indented lines behind it. Striking takes whole clauses out of such a statement, whatever clauses
stand next to each other: nothing is left of a clause, unless the statement ends in it, and then a
semicolon of its own (`ClauseBlock.strike`). As many kinds of clauses are struck in one pass, this
holds for all that the flags name (`keptByAll_blocks`).
-/

namespace DdlDump

open Text

/-- A clause: a line that is not indented, and the indented lines behind it. -/
structure ClauseBlock where
  first : Text
  continuation : List Text
  first_not_indented : Line.isIndented first = false
  continuation_indented : ∀ l ∈ continuation, Line.isIndented l = true

namespace ClauseBlock

/-- The lines of a clause. -/
def toLines (b : ClauseBlock) : List Text :=
  b.first :: b.continuation

/-- A semicolon on a line of its own. -/
def separator : ClauseBlock where
  first := [';']
  continuation := []
  first_not_indented := Line.isIndented_semicolon
  continuation_indented := fun _ hl => absurd hl List.not_mem_nil

/-- Whether a statement ends in a clause. -/
def ends (b : ClauseBlock) : Bool :=
  b.toLines.any Line.isTerminated

/-- What is left of a clause when the clauses are struck whose first line satisfies `opens`. -/
def strike (opens : Text → Bool) (b : ClauseBlock) : List ClauseBlock :=
  if opens b.first then
    if b.ends then [separator] else []
  else
    [b]

/-- A clause within a statement: no line of it sets out to create something, and the statement does
not end before its last line. -/
structure IsWithin (b : ClauseBlock) : Prop where
  opening : ∀ l ∈ b.toLines, Line.opening l ≠ .unrecognised
  unfinished : ∀ l ∈ b.toLines.dropLast, Line.isTerminated l = false

/-- The semicolon is within the statement that it ends. -/
lemma isWithin_separator : separator.IsWithin where
  opening := by decide
  unfinished := by decide

/-- What is left of a clause is the clause or a semicolon. -/
lemma eq_or_eq_of_mem_strike {opens : Text → Bool} {b c : ClauseBlock} (hc : c ∈ b.strike opens) :
    c = b ∨ c = separator := by
  unfold strike at hc
  split at hc
  · split at hc
    · exact Or.inr (List.mem_singleton.1 hc)
    · exact absurd hc List.not_mem_nil
  · exact Or.inl (List.mem_singleton.1 hc)

/-- What is left of a clause within a statement is within it, too. -/
lemma IsWithin.of_mem_strike {opens : Text → Bool} {b c : ClauseBlock} (hb : b.IsWithin)
    (hc : c ∈ b.strike opens) : c.IsWithin := by
  rcases eq_or_eq_of_mem_strike hc with rfl | rfl
  · exact hb
  · exact isWithin_separator

/-- So is what is left of several such clauses. -/
lemma isWithin_of_mem_flatMap_strike {opens : Text → Bool} {bs : List ClauseBlock}
    (hbs : ∀ b ∈ bs, b.IsWithin) {c : ClauseBlock} (hc : c ∈ bs.flatMap (strike opens)) :
    c.IsWithin := by
  obtain ⟨b, hb, hcb⟩ := List.mem_flatMap.1 hc
  exact (hbs b hb).of_mem_strike hcb

section Strike

variable {opens : Text → Bool} {b : ClauseBlock}

/-- A clause of another kind is left. -/
lemma strike_of_not_opens (h : opens b.first = false) : b.strike opens = [b] := by
  unfold strike
  simp [h]

/-- Of a clause in which the statement ends, a semicolon is left. -/
lemma strike_of_ends (h : opens b.first = true) (hb : b.ends = true) :
    b.strike opens = [separator] := by
  unfold strike
  simp [h, hb]

/-- Of any other clause, nothing is left. -/
lemma strike_of_not_ends (h : opens b.first = true) (hb : b.ends = false) :
    b.strike opens = [] := by
  unfold strike
  simp [h, hb]

/-- Where a statement ends in the last of its clauses and in no other, striking leaves the clauses
of other kinds, and a semicolon where the last clause is struck. -/
lemma flatMap_strike {bs : List ClauseBlock} (hunfinished : ∀ b ∈ bs.dropLast, b.ends = false)
    (hfinished : ∀ b ∈ bs.getLast?, b.ends = true) :
    bs.flatMap (strike opens) =
      (bs.filter fun b => !opens b.first) ++
        (if bs.getLast?.any fun b => opens b.first then [separator] else []) := by
  induction bs with
  | nil => rfl
  | cons b bs ih =>
    rcases eq_or_ne bs [] with rfl | hne
    · have hb : b.ends = true := hfinished b rfl
      cases h : opens b.first with
      | false => simp [strike_of_not_opens h, h]
      | true => simp [strike_of_ends h hb, h]
    · rw [List.dropLast_cons_of_ne_nil hne] at hunfinished
      rw [List.getLast?_cons_of_ne_nil hne] at hfinished ⊢
      have hb : b.ends = false := hunfinished b List.mem_cons_self
      rw [List.flatMap_cons, ih (fun c hc => hunfinished c (List.mem_cons_of_mem b hc)) hfinished]
      cases h : opens b.first with
      | false => simp [strike_of_not_opens h, h]
      | true => simp [strike_of_not_ends h hb, h]

end Strike

end ClauseBlock

/-! ### Striking in one pass -/

section Striking

variable {opens : Text → Bool} {r : Region} {ls : List Text}

/-- Lines that open no clause are put out where no clause goes on. -/
lemma emit_striking_passing (hopening : ∀ l ∈ ls, Line.opening l ≠ .unrecognised)
    (hopens : ∀ l ∈ ls, opens l = false) :
    (striking opens).emit .start ls = ls ∧ (striking opens).after .start ls = .start :=
  Pass.emit_of_passing hopening fun l hl => striking_of_passing (clauseRegion_passing (hopens l hl))

/-- The lines of a clause are struck up to the end of the statement. -/
lemma emit_striking_clause (hopening : ∀ l ∈ ls, Line.opening l ≠ .unrecognised)
    (hregion : ∀ l ∈ ls, clauseRegion opens .clause l = .clause)
    (hunfinished : ∀ l ∈ ls.dropLast, Line.isTerminated l = false) :
    (striking opens).emit ⟨.clause, false⟩ ls = (if ls.any Line.isTerminated then [[';']] else []) ∧
    ∃ s ≠ .columns, (striking opens).after ⟨.clause, false⟩ ls = ⟨s, false⟩ := by
  induction ls with
  | nil => exact ⟨rfl, .clause, by decide, rfl⟩
  | cons l ls ih =>
    have hl := hregion l List.mem_cons_self
    rw [Pass.emit_cons, Pass.after_cons, Pass.visit_of_opening (hopening l List.mem_cons_self),
      List.any_cons]
    cases hend : Line.isTerminated l with
    | true =>
      rcases eq_or_ne ls [] with rfl | hne
      · rw [striking_of_terminated hl hend]
        exact ⟨rfl, .passing, by decide, rfl⟩
      · have hnot := hunfinished l (by
          rw [List.dropLast_cons_of_ne_nil hne]
          exact List.mem_cons_self)
        rw [hend] at hnot
        exact absurd hnot (by decide)
    | false =>
      rw [striking_of_not_terminated hl hend, Bool.false_or]
      refine ih (fun k hk => hopening k (List.mem_cons_of_mem l hk))
        (fun k hk => hregion k (List.mem_cons_of_mem l hk)) fun k hk => hunfinished k ?_
      have hne : ls ≠ [] := List.ne_nil_of_mem (List.dropLast_subset ls hk)
      rw [List.dropLast_cons_of_ne_nil hne]
      exact List.mem_cons_of_mem l hk

section Block

variable {b : ClauseBlock}

/-- A clause of another kind is put out. -/
lemma emit_striking_of_not_opens (hindent : ∀ l, Line.isIndented l = true → opens l = false)
    (hr : r ≠ .columns) (hb : b.IsWithin) (hopens : opens b.first = false) :
    (striking opens).emit ⟨r, false⟩ b.toLines = b.toLines ∧
      (striking opens).after ⟨r, false⟩ b.toLines = .start := by
  have hregion : clauseRegion opens r b.first = .passing := by
    cases r with
    | passing => exact clauseRegion_passing hopens
    | clause => exact clauseRegion_of_not_isIndented hopens b.first_not_indented
    | columns => exact absurd rfl hr
  obtain ⟨hemit, hafter⟩ := emit_striking_passing
    (fun l hl => hb.opening l (List.mem_cons_of_mem b.first hl))
    fun l hl => hindent l (b.continuation_indented l hl)
  unfold ClauseBlock.toLines
  rw [Pass.emit_cons, Pass.after_cons, Pass.visit_of_opening (hb.opening _ List.mem_cons_self),
    striking_of_passing hregion]
  exact ⟨congrArg (b.first :: ·) hemit, hafter⟩

/-- A clause that is struck leaves a semicolon where the statement ends in it. -/
lemma emit_striking_of_opens (hindent : ∀ l, Line.isIndented l = true → opens l = false)
    (hb : b.IsWithin) (hopens : opens b.first = true) :
    (striking opens).emit ⟨r, false⟩ b.toLines = (if b.ends then [[';']] else []) ∧
    ∃ s ≠ .columns, (striking opens).after ⟨r, false⟩ b.toLines = ⟨s, false⟩ := by
  -- The first line opens the clause, so that the region before it does not count.
  have hfirst : (striking opens).visit ⟨r, false⟩ b.first =
      (striking opens).visit ⟨.clause, false⟩ b.first := by
    have hsame : striking opens r b.first = striking opens .clause b.first := by
      unfold striking
      rw [clauseRegion_of_opens hopens, clauseRegion_of_opens hopens]
    have hopening := hb.opening b.first List.mem_cons_self
    rw [Pass.visit_of_opening hopening, Pass.visit_of_opening hopening, hsame]
  have hregion : ∀ l ∈ b.toLines, clauseRegion opens .clause l = .clause := by
    intro l hl
    rcases List.mem_cons.1 hl with rfl | hl
    · exact clauseRegion_of_opens hopens
    · have hindented := b.continuation_indented l hl
      exact clauseRegion_of_isIndented (hindent l hindented) hindented
  have hclause := emit_striking_clause hb.opening hregion hb.unfinished
  unfold ClauseBlock.toLines at hclause ⊢
  rw [Pass.emit_cons, Pass.after_cons] at hclause ⊢
  rw [hfirst]
  exact hclause

/-- A clause within a statement is met by one pass. -/
lemma emit_striking_block (hindent : ∀ l, Line.isIndented l = true → opens l = false)
    (hr : r ≠ .columns) (hb : b.IsWithin) :
    (striking opens).emit ⟨r, false⟩ b.toLines =
      (b.strike opens).flatMap ClauseBlock.toLines ∧
    ∃ s ≠ .columns, (striking opens).after ⟨r, false⟩ b.toLines = ⟨s, false⟩ := by
  cases hopens : opens b.first with
  | false =>
    obtain ⟨hemit, hafter⟩ := emit_striking_of_not_opens hindent hr hb hopens
    rw [ClauseBlock.strike_of_not_opens hopens, List.flatMap_singleton]
    exact ⟨hemit, .passing, by decide, hafter⟩
  | true =>
    obtain ⟨hemit, hafter⟩ := emit_striking_of_opens (r := r) hindent hb hopens
    refine ⟨hemit.trans ?_, hafter⟩
    cases hends : b.ends with
    | true =>
      rw [ClauseBlock.strike_of_ends hopens hends]
      rfl
    | false =>
      rw [ClauseBlock.strike_of_not_ends hopens hends]
      rfl

end Block

/-- So are all clauses of a statement, one after the other. -/
lemma emit_striking_blocks (hindent : ∀ l, Line.isIndented l = true → opens l = false)
    (hr : r ≠ .columns) {bs : List ClauseBlock} (hbs : ∀ b ∈ bs, b.IsWithin) :
    (striking opens).emit ⟨r, false⟩ (bs.flatMap ClauseBlock.toLines) =
      (bs.flatMap (ClauseBlock.strike opens)).flatMap ClauseBlock.toLines := by
  induction bs generalizing r with
  | nil => rfl
  | cons b bs ih =>
    obtain ⟨hemit, s, hs, hafter⟩ := emit_striking_block hindent hr (hbs b List.mem_cons_self)
    rw [List.flatMap_cons, Pass.emit_append, hemit, hafter,
      ih hs fun c hc => hbs c (List.mem_cons_of_mem b hc), List.flatMap_cons, List.flatMap_append]

end Striking

/-! ### Striking every clause that flags strike -/

/-- Striking clauses, one after another, strikes the clauses of a statement at once and leaves the
lines in front of them. -/
theorem keptByAll_blocks {clauses ls : List Text} {bs : List ClauseBlock}
    (hclauses : clauses ⊆ allClauses) (hopening : ∀ l ∈ ls, Line.opening l ≠ .unrecognised)
    (hopens : ∀ clause ∈ clauses, ∀ l ∈ ls, opensClause clause l = false)
    (hbs : ∀ b ∈ bs, b.IsWithin) :
    keptByAll clauses (ls ++ bs.flatMap ClauseBlock.toLines) =
      ls ++ (bs.flatMap (ClauseBlock.strike (opensAny clauses))).flatMap ClauseBlock.toLines := by
  have hnone : ∀ l ∈ ls, opensAny clauses l = false := by
    intro l hl
    unfold opensAny
    rw [List.any_eq_false]
    intro clause hclause
    simp [hopens clause hclause l hl]
  obtain ⟨hemit, hafter⟩ := emit_striking_passing hopening hnone
  have hindent : ∀ l, Line.isIndented l = true → opensAny clauses l = false :=
    fun _ hl => (isClauseTest_opensAny hclauses).indented hl
  rw [keptByAll_eq_keptLines hclauses]
  unfold keptLines
  rw [Pass.emit_append, hemit, hafter]
  exact congrArg (ls ++ ·) (emit_striking_blocks hindent (by decide) hbs)

/-! ### Quoting -/

/-- Clauses name no columns: the first line of the first one ends the list of columns. -/
lemma emit_quoting_blocks {r : Region} {bs : List ClauseBlock} (hbs : ∀ b ∈ bs, b.IsWithin)
    (hlist : ∀ b ∈ bs, ∀ l ∈ b.toLines, Column.opensList l = false) :
    Column.quoting.emit ⟨r, false⟩ (bs.flatMap ClauseBlock.toLines) =
      bs.flatMap ClauseBlock.toLines := by
  have hopening : ∀ l ∈ bs.flatMap ClauseBlock.toLines, Line.opening l ≠ .unrecognised := by
    intro l hl
    obtain ⟨b, hb, hlb⟩ := List.mem_flatMap.1 hl
    exact (hbs b hb).opening l hlb
  have hlines : ∀ l ∈ bs.flatMap ClauseBlock.toLines, Column.opensList l = false := by
    intro l hl
    obtain ⟨b, hb, hlb⟩ := List.mem_flatMap.1 hl
    exact hlist b hb l hlb
  cases bs with
  | nil => rfl
  | cons b bs =>
    have hcons : (b :: bs).flatMap ClauseBlock.toLines =
        b.first :: (b.continuation ++ bs.flatMap ClauseBlock.toLines) := rfl
    rw [hcons, List.forall_mem_cons] at hopening hlines
    have hrest := Pass.emit_of_passing hopening.2 fun l hl => Column.quoting_passing (hlines.2 l hl)
    rw [hcons, Pass.emit_cons, Pass.visit_of_opening hopening.1,
      Column.quoting_of_not_isIndented hlines.1 b.first_not_indented]
    exact congrArg (b.first :: ·) hrest.1

end DdlDump
