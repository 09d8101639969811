import DdlDump.Proofs.Ddl.StatementLines

/-!
# The lines of a clause, by their positions

What striking a clause does to a line can be told from the lines of the script alone, without
following the pass through them. A line is copied when an unrecognised line stands in front of it,
or it is one, with no header and no end of a statement on the way (`IsCopiedAt`). A line is in the
clause when a line opens the clause in front of it, or it does so itself, with nothing but indented
lines and no end of a statement on the way, none of them copied (`IsInClauseAt`).

Both say that a line is reached from an earlier one (`IsReached`), and what a pass remembers between
two lines is whether the first of them is reached and ends no statement (`IsLeft`). This is kept
from line to line, so that the result is known at every position (`strikeClauses_eq_ofLines`).
-/

namespace DdlDump

open Text

/-! ### Lines that are reached from others -/

/-- The line at a position. -/
def lineAt (ls : List Text) (i : Nat) : Text :=
  ls.getD i []

/-- A line is reached when it, or a line in front of it, starts something that all lines from there
on keep up, and no statement ends in between. -/
def IsReached (ls : List Text) (starts keeps : Nat → Prop) (i : Nat) : Prop :=
  ∃ j ≤ i, starts j ∧ (∀ k ≤ i, j < k → keeps k) ∧
    ∀ k < i, j ≤ k → Line.isTerminated (lineAt ls k) = false

/-- What holds of the line in front of a position is left there, unless a statement ends in that
line. -/
def IsLeft (ls : List Text) (holds : Nat → Prop) (i : Nat) : Prop :=
  ∃ k, i = k + 1 ∧ holds k ∧ Line.isTerminated (lineAt ls k) = false

/-- A line belongs to a copied statement: an unrecognised line has begun it, no header stands behind
that line, and no statement has ended since. -/
def IsCopiedAt (ls : List Text) : Nat → Prop :=
  IsReached ls (fun j => Line.opening (lineAt ls j) = .unrecognised)
    fun k => Line.opening (lineAt ls k) ≠ .recognised

/-- A line belongs to a clause: a line opens the clause, all lines behind that one are indented, no
statement has ended since, and none of these lines is copied. -/
def IsInClauseAt (opens : Text → Bool) (ls : List Text) : Nat → Prop :=
  IsReached ls (fun j => opens (lineAt ls j) = true ∧ ¬ IsCopiedAt ls j)
    fun k => Line.isIndented (lineAt ls k) = true ∧ ¬ IsCopiedAt ls k

section Decidable

variable (ls : List Text) (opens : Text → Bool)

instance {starts keeps : Nat → Prop} [DecidablePred starts] [DecidablePred keeps] :
    DecidablePred (IsReached ls starts keeps) := fun i =>
  inferInstanceAs (Decidable (∃ j ≤ i, starts j ∧ (∀ k ≤ i, j < k → keeps k) ∧
    ∀ k < i, j ≤ k → Line.isTerminated (lineAt ls k) = false))

instance : DecidablePred (IsCopiedAt ls) :=
  inferInstanceAs (DecidablePred (IsReached ls _ _))

instance : DecidablePred (IsInClauseAt opens ls) :=
  inferInstanceAs (DecidablePred (IsReached ls _ _))

end Decidable

/-- The lines at all positions are the lines. -/
lemma map_lineAt_range (ls : List Text) : (List.range ls.length).map (lineAt ls) = ls := by
  refine List.ext_getElem (by simp) fun i _ hi => ?_
  simp [lineAt, hi]

/-- What is left of the line at a position when a clause is struck: the line itself where it is not
in the clause, and otherwise the end of the statement, if it ends there. -/
def struckLine? (opens : Text → Bool) (ls : List Text) (i : Nat) : Option Text :=
  if IsInClauseAt opens ls i then
    if Line.isTerminated (lineAt ls i) then some [';'] else none
  else some (lineAt ls i)

/-- A line is reached when it starts something itself, or keeps up what the line in front of it
leaves. -/
lemma isReached_iff {ls : List Text} {starts keeps : Nat → Prop} {i : Nat} :
    IsReached ls starts keeps i ↔
      starts i ∨ keeps i ∧ IsLeft ls (IsReached ls starts keeps) i := by
  constructor
  · rintro ⟨j, hji, hstart, hkeeps, hopen⟩
    rcases Nat.eq_or_lt_of_le hji with rfl | hlt
    · exact Or.inl hstart
    · obtain ⟨k, rfl⟩ : ∃ k, i = k + 1 := ⟨i - 1, by omega⟩
      refine Or.inr ⟨hkeeps _ (le_refl _) hlt, k, rfl, ⟨j, by omega, hstart, ?_, ?_⟩, ?_⟩
      · exact fun m hm => hkeeps m (by omega)
      · exact fun m hm => hopen m (by omega)
      · exact hopen k (by omega) (by omega)
  · rintro (hstart | ⟨hkeep, k, rfl, ⟨j, hjk, hstart, hkeeps, hopen⟩, hend⟩)
    · exact ⟨i, le_refl _, hstart, fun k _ _ => by omega, fun k _ _ => by omega⟩
    · refine ⟨j, by omega, hstart, fun m hm hjm => ?_, fun m hm hjm => ?_⟩
      · rcases Nat.eq_or_lt_of_le hm with rfl | hlt
        · exact hkeep
        · exact hkeeps m (by omega) hjm
      · rcases Nat.eq_or_lt_of_le (Nat.le_of_lt_succ hm) with rfl | hlt
        · exact hend
        · exact hopen m hlt hjm

/-- A line is copied when it is unrecognised, or when it is no header and copying is left from the
line in front of it. -/
lemma isCopiedAt_iff {ls : List Text} {i : Nat} :
    IsCopiedAt ls i ↔ Line.opening (lineAt ls i) = .unrecognised ∨
      Line.opening (lineAt ls i) ≠ .recognised ∧ IsLeft ls (IsCopiedAt ls) i :=
  isReached_iff

/-- A line is in the clause when it is not copied and opens the clause, or is indented and the
clause is left from the line in front of it. -/
lemma isInClauseAt_iff {opens : Text → Bool} {ls : List Text} {i : Nat} :
    IsInClauseAt opens ls i ↔ ¬ IsCopiedAt ls i ∧ (opens (lineAt ls i) = true ∨
      Line.isIndented (lineAt ls i) = true ∧ IsLeft ls (IsInClauseAt opens ls) i) := by
  have hreached : IsInClauseAt opens ls i ↔ (opens (lineAt ls i) = true ∧ ¬ IsCopiedAt ls i) ∨
      (Line.isIndented (lineAt ls i) = true ∧ ¬ IsCopiedAt ls i) ∧
        IsLeft ls (IsInClauseAt opens ls) i := isReached_iff
  rw [hreached, and_right_comm, ← or_and_right, and_comm]

/-- No line of a clause is copied. -/
lemma IsInClauseAt.not_isCopiedAt {opens : Text → Bool} {ls : List Text} {i : Nat}
    (h : IsInClauseAt opens ls i) : ¬ IsCopiedAt ls i :=
  (isInClauseAt_iff.1 h).1

/-! ### What a pass remembers between two lines -/

section Positions

variable {ls : List Text} {i : Nat} (hi : i < ls.length)

include hi

/-- The line at a position stands behind those in front of it. -/
lemma take_succ_eq_concat : ls.take (i + 1) = ls.take i ++ [lineAt ls i] := by
  unfold lineAt
  rw [List.take_add_one, List.getD_eq_getElem?_getD, List.getElem?_eq_getElem hi]
  rfl

end Positions

namespace Pass

variable {pass : Pass} {ls : List Text}

/-- Copying goes on into a line unless it is a header, and begins in an unrecognised one. -/
lemma skipping_enter_iff {c : Cursor} {l : Text} :
    (c.enter l).skipping = true ↔
      Line.opening l = .unrecognised ∨ Line.opening l ≠ .recognised ∧ c.skipping = true := by
  unfold Cursor.enter
  cases Line.opening l <;> simp

/-- A pass copies the line at a position when the copying is left from the line before, or begins
there. -/
lemma copies_iff_of_left {i : Nat}
    (hleft : (pass.after .start (ls.take i)).skipping = true ↔ IsLeft ls (IsCopiedAt ls) i) :
    pass.copies (ls.take i) (lineAt ls i) = true ↔ IsCopiedAt ls i := by
  unfold copies
  rw [skipping_enter_iff, hleft, isCopiedAt_iff]

/-- Between two lines a pass is copying when the first of them is copied and ends no statement. -/
lemma skipping_after_take {i : Nat} (hi : i ≤ ls.length) :
    (pass.after .start (ls.take i)).skipping = true ↔ IsLeft ls (IsCopiedAt ls) i := by
  induction i with
  | zero => simp [IsLeft, Cursor.start]
  | succ i ih =>
    have hcopies := copies_iff_of_left (ih (by omega))
    unfold copies at hcopies
    rw [take_succ_eq_concat hi, after_append, after_cons, after_nil, skipping_visit,
      Bool.and_eq_true, hcopies, Bool.not_eq_true']
    constructor
    · rintro ⟨hcopied, hend⟩
      exact ⟨i, rfl, hcopied, hend⟩
    · rintro ⟨k, hk, hcopied, hend⟩
      obtain rfl : i = k := by omega
      exact ⟨hcopied, hend⟩

/-- Every pass copies the same lines. -/
theorem copies_take_iff {i : Nat} (hi : i < ls.length) :
    pass.copies (ls.take i) (lineAt ls i) = true ↔ IsCopiedAt ls i :=
  copies_iff_of_left (skipping_after_take (le_of_lt hi))

end Pass

section Striking

variable {opens : Text → Bool} {ls : List Text} {i : Nat}

/-- A line that is not copied is in the clause when it opens the clause, or goes on with it by its
indentation. -/
lemma clauseRegion_eq_clause_iff {r : Region} (hr : r ≠ .columns) {l : Text} :
    clauseRegion opens r l = .clause ↔
      opens l = true ∨ Line.isIndented l = true ∧ r = .clause := by
  constructor
  · intro h
    cases hopens : opens l with
    | true => exact Or.inl rfl
    | false =>
      right
      cases hindent : Line.isIndented l with
      | true => exact ⟨rfl, (clauseRegion_of_isIndented hopens hindent).symm.trans h⟩
      | false =>
        rw [clauseRegion_ends hr hopens hindent] at h
        exact absurd h (by decide)
  · rintro (hopens | ⟨hindent, rfl⟩)
    · exact clauseRegion_of_opens hopens
    · exact clauseRegion_eq_clause (Or.inr ⟨rfl, hindent⟩)

/-- A pass takes a line that is not copied for one of the clause when it is one, where the clause is
left from the line before as `hclause` says. -/
lemma clauseRegion_lineAt_iff {c : Cursor} (hr : c.region ≠ .columns)
    (hclause : c.region = .clause ↔ IsLeft ls (IsInClauseAt opens ls) i)
    (hcopied : ¬ IsCopiedAt ls i) :
    clauseRegion opens c.region (lineAt ls i) = .clause ↔ IsInClauseAt opens ls i := by
  rw [clauseRegion_eq_clause_iff hr, hclause, isInClauseAt_iff, and_iff_right hcopied]

/-- What is put out for the line at a position, and whether the clause goes on behind it. -/
lemma visit_striking_lineAt {c : Cursor} (hc : c.Coherent) (hr : c.region ≠ .columns)
    (hcopies : (c.enter (lineAt ls i)).skipping = true ↔ IsCopiedAt ls i)
    (hclause : c.region = .clause ↔ IsLeft ls (IsInClauseAt opens ls) i) :
    ((striking opens).visit c (lineAt ls i)).output? = struckLine? opens ls i ∧
      ((striking opens).visit c (lineAt ls i)).cursor.region ≠ .columns ∧
      (((striking opens).visit c (lineAt ls i)).cursor.region = .clause ↔
        IsInClauseAt opens ls i ∧ Line.isTerminated (lineAt ls i) = false) := by
  unfold struckLine?
  by_cases hcopied : IsCopiedAt ls i
  · have hout : ¬ IsInClauseAt opens ls i := fun h => h.not_isCopiedAt hcopied
    rw [Pass.visit_of_copied hc (hcopies.2 hcopied), if_neg hout]
    exact ⟨rfl, by simp, by simp [hout]⟩
  · have hregion := clauseRegion_lineAt_iff hr hclause hcopied
    have hskip : (c.enter (lineAt ls i)).skipping = false := by
      rw [← Bool.not_eq_true, hcopies]
      exact hcopied
    rw [Pass.visit_of_not_skipping hskip]
    by_cases hin : IsInClauseAt opens ls i
    · rw [if_pos hin]
      cases hend : Line.isTerminated (lineAt ls i) with
      | true => simp [striking_of_terminated (hregion.2 hin) hend]
      | false => simp [striking_of_not_terminated (hregion.2 hin) hend, hin]
    · have hpassing : clauseRegion opens c.region (lineAt ls i) = .passing := by
        cases hcase : clauseRegion opens c.region (lineAt ls i) with
        | passing => rfl
        | clause => exact absurd (hregion.1 hcase) hin
        | columns => exact absurd hcase (clauseRegion_ne_columns hr)
      rw [if_neg hin]
      simp [striking_of_passing hpassing, hin]

/-- The lines in front of a position, and whether the clause is left there. -/
lemma emit_striking_take (opens : Text → Bool) (hi : i ≤ ls.length) :
    (striking opens).emit .start (ls.take i) =
        (List.range i).filterMap (struckLine? opens ls) ∧
      ((striking opens).after .start (ls.take i)).region ≠ .columns ∧
      (((striking opens).after .start (ls.take i)).region = .clause ↔
        IsLeft ls (IsInClauseAt opens ls) i) := by
  induction i with
  | zero => simp [IsLeft, Cursor.start]
  | succ i ih =>
    obtain ⟨hemit, hcolumns, hclause⟩ := ih (by omega)
    have hcoherent : ((striking opens).after .start (ls.take i)).Coherent :=
      Pass.coherent_after Cursor.coherent_start (ls.take i)
    obtain ⟨hout, hcolumns', hclause'⟩ := visit_striking_lineAt hcoherent hcolumns
      (Pass.copies_take_iff hi) hclause
    rw [take_succ_eq_concat hi, Pass.emit_append, Pass.after_append, Pass.after_cons,
      Pass.after_nil, Pass.emit_cons, Pass.emit_nil, List.append_nil, hemit, hout,
      List.range_succ, List.filterMap_append]
    refine ⟨?_, hcolumns', hclause'.trans ?_⟩
    · cases hline : struckLine? opens ls i <;> simp [hline]
    · constructor
      · rintro ⟨hin, hend⟩
        exact ⟨i, rfl, hin, hend⟩
      · rintro ⟨k, hk, hin, hend⟩
        obtain rfl : i = k := by omega
        exact ⟨hin, hend⟩

end Striking

/-- What striking a clause makes of a script, whatever lines open the clause: the lines in their
order, where those that are not in the clause stay as they are, and of those in the clause only the
ends of statements are left. Copied are exactly the lines that belong to a copied statement, and of
the others those are taken for lines of the clause that belong to it. -/
theorem strikeClauses_eq_ofLines (opens : Text → Bool) (script : Text) :
    strikeClauses opens script = ofLines ((List.range (lines script).length).filterMap
        (struckLine? opens (lines script))) ∧
    ∀ i < (lines script).length,
      ((striking opens).copies ((lines script).take i) (lineAt (lines script) i) = true ↔
        IsCopiedAt (lines script) i) ∧
      (¬ IsCopiedAt (lines script) i →
        (clauseRegion opens ((striking opens).after .start ((lines script).take i)).region
          (lineAt (lines script) i) = .clause ↔ IsInClauseAt opens (lines script) i)) := by
  have hemit := (emit_striking_take opens (le_refl (lines script).length)).1
  rw [List.take_length] at hemit
  refine ⟨congrArg ofLines hemit, fun i hi => ⟨Pass.copies_take_iff hi, fun hcopied => ?_⟩⟩
  obtain ⟨-, hcolumns, hclause⟩ := emit_striking_take opens (le_of_lt hi)
  exact clauseRegion_lineAt_iff hcolumns hclause hcopied

/-- A clause that ends with its statement, a line like it in a copied statement, and a clause behind
that statement. -/
theorem strikeClauses_eq_ofLines_copiedBetween :
    let opens := opensClause "LOCATION".toList
    let script :=
      "LOCATION\n  '/t';\n  b\ncreate table u(\nLOCATION\n;\nLOCATION\n  '/v'\nc".toList
    let ls := lines script
    (1 < ls.length ∧ 4 < ls.length) ∧
    (IsCopiedAt ls 4 ∧ (striking opens).copies (ls.take 4) (lineAt ls 4) = true) ∧
    (¬ IsCopiedAt ls 1 ∧ IsInClauseAt opens ls 1 ∧
      clauseRegion opens ((striking opens).after .start (ls.take 1)).region (lineAt ls 1) =
        .clause) ∧
    strikeClauses opens script = ";\n  b\ncreate table u(\nLOCATION\n;\nc".toList := by
  intro opens script ls
  obtain ⟨hresult, hlines⟩ := strikeClauses_eq_ofLines opens script
  have hlength : 1 < ls.length ∧ 4 < ls.length := by decide +kernel
  have hcopied : IsCopiedAt ls 4 := by decide +kernel
  have hnot : ¬ IsCopiedAt ls 1 := by decide +kernel
  have hclause : IsInClauseAt opens ls 1 := by decide +kernel
  refine ⟨hlength, ⟨hcopied, (hlines 4 hlength.2).1.2 hcopied⟩,
    ⟨hnot, hclause, ((hlines 1 hlength.1).2 hnot).2 hclause⟩, hresult.trans ?_⟩
  decide +kernel

end DdlDump
