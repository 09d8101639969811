import DdlDump.Proofs.Ddl.ClauseLines
import DdlDump.Proofs.Ddl.Separation

/-!
# Laws of striking

Two laws of striking a clause hold whatever lines open it, be it an empty line, a semicolon or a
header.

Striking once more changes nothing (`strikeClauses_strikeClauses`): of clauses only semicolons are
left. The second pass meets other lines than the first and does not copy the same ones, since a
header that ends a copied statement may be struck. But it copies every line that the first one has
copied, and this is enough, because any other line that the first pass puts out is put out again,
copied or not.

A clause does not reach across the end of a statement (`strikeClauses_append_newline`). Whether the
line in which a statement ends is copied, struck or put out, the pass is as it was in the beginning
behind it, and this line leaves an end of a statement. So two texts of which the first ends a
statement are treated apart, and no statement is joined to the next one.
-/

namespace DdlDump

open Text

section Laws

variable {opens : Text → Bool} {ls : List Text}

/-! ### What is left of a script -/

/-- What is left of lines are lines. -/
lemma isLine_of_mem_keptLines (hls : ∀ l ∈ ls, IsLine l) : ∀ m ∈ keptLines opens ls, IsLine m :=
  Pass.forall_mem_emit isLine_of_striking hls

/-- What is left of the lines of a script are the lines of what is left of it, unless nothing is. -/
lemma lines_strikeClauses {script : Text} (hleft : keptLines opens (lines script) ≠ []) :
    lines (strikeClauses opens script) = keptLines opens (lines script) :=
  lines_ofLines hleft (isLine_of_mem_keptLines fun _ => isLine_of_mem_lines)

/-- Where no line is left, the script is empty. -/
lemma strikeClauses_eq_nil {script : Text} (hnothing : keptLines opens (lines script) = []) :
    strikeClauses opens script = [] :=
  congrArg ofLines hnothing

/-- Nothing is left of an empty script, whether or not an empty line opens the clause. -/
@[simp]
lemma strikeClauses_nil : strikeClauses opens [] = [] := by
  have hkept : keptLines opens [[]] = (striking opens .passing []).1.toList := by
    have hinner : Line.opening [] ≠ .unrecognised := by simp
    have hvisit : (striking opens).visit .start [] = _ := Pass.visit_of_opening hinner
    unfold keptLines
    rw [Pass.emit_cons, hvisit, Pass.emit_nil, List.append_nil]
  have hempty : ofLines (striking opens .passing []).1.toList = [] := by
    rcases striking_cases opens .passing [] with h | ⟨hends, -⟩ | ⟨-, h⟩
    · rw [h]
      rfl
    · exact absurd hends (by decide)
    · rw [h]
      rfl
  exact (congrArg ofLines hkept).trans hempty

/-! ### Scripts that striking leaves alone -/

/-- Lines are left as they are when those in the clause are semicolons. -/
lemma keptLines_eq_self_iff :
    keptLines opens ls = ls ↔
      ∀ i < ls.length, IsInClauseAt opens ls i → lineAt ls i = [';'] := by
  have hkept : keptLines opens ls = (List.range ls.length).filterMap (struckLine? opens ls) := by
    have hemit := (emit_striking_take opens (le_refl ls.length)).1
    rwa [List.take_length] at hemit
  have hline : ∀ i, struckLine? opens ls i = some (lineAt ls i) ↔
      (IsInClauseAt opens ls i → lineAt ls i = [';']) := by
    intro i
    unfold struckLine?
    by_cases hin : IsInClauseAt opens ls i
    · cases hend : Line.isTerminated (lineAt ls i) with
      | true => simp [hin, eq_comm]
      | false =>
        have hother : lineAt ls i ≠ [';'] := by
          intro hsemicolon
          rw [hsemicolon, Line.isTerminated_semicolon] at hend
          exact absurd hend (by decide)
        simp [hin, hother]
    · simp [hin]
  calc keptLines opens ls = ls
      ↔ (List.range ls.length).filterMap (struckLine? opens ls) =
          (List.range ls.length).map (lineAt ls) := by rw [hkept, map_lineAt_range]
    _ ↔ ∀ i ∈ List.range ls.length, struckLine? opens ls i = some (lineAt ls i) :=
        List.filterMap_eq_map_iff_forall_eq_some
    _ ↔ ∀ i < ls.length, IsInClauseAt opens ls i → lineAt ls i = [';'] := by
        simp only [List.mem_range, hline]

/-- A script is left as it is when it is empty, or when the lines of its clauses are semicolons. -/
theorem strikeClauses_eq_self_iff {script : Text} :
    strikeClauses opens script = script ↔
      script = [] ∨ ∀ i < (lines script).length, IsInClauseAt opens (lines script) i →
        lineAt (lines script) i = [';'] := by
  rw [← keptLines_eq_self_iff]
  constructor
  · intro hsame
    by_cases hleft : keptLines opens (lines script) = []
    · exact Or.inl (hsame.symm.trans (strikeClauses_eq_nil hleft))
    · exact Or.inr ((lines_strikeClauses hleft).symm.trans (congrArg lines hsame))
  · rintro (rfl | hkept)
    · exact strikeClauses_nil
    · exact (congrArg ofLines hkept).trans (ofLines_lines script)

/-! ### Striking once more -/

/-- A second pass over what a first one has put out is in no clause, and copies wherever the first
one copies. -/
structure FollowsStriking (first second : Cursor) : Prop where
  region : second.region = .passing
  copies : first.skipping = true → second.skipping = true

namespace FollowsStriking

variable {c d : Cursor} {l m : Text}

/-- A pass in no clause is coherent. -/
lemma coherent (h : FollowsStriking c d) : d.Coherent :=
  fun _ => h.region

/-- Behind a line that is not copied, the second pass copies as it likes. -/
lemma of_not_skipping (hc : c.skipping = false) (hd : d.region = .passing) :
    FollowsStriking c d where
  region := hd
  copies := by
    intro hcopies
    rw [hc] at hcopies
    exact absurd hcopies (by decide)

/-- A line that is struck was not copied, and the second pass does not meet it. -/
lemma of_struck (h : FollowsStriking c d) (hout : ((striking opens).visit c l).output? = none) :
    FollowsStriking ((striking opens).visit c l).cursor d := by
  cases hcopied : (c.enter l).skipping with
  | true =>
    rw [Pass.visit_of_skipping hcopied] at hout
    exact absurd hout (Option.some_ne_none l)
  | false =>
    rw [Pass.visit_of_not_skipping hcopied]
    exact of_not_skipping rfl h.region

/-- What is put out for a line is put out again. -/
lemma visit (h : FollowsStriking c d) (hout : ((striking opens).visit c l).output? = some m) :
    ((striking opens).visit d m).output? = some m ∧
      FollowsStriking ((striking opens).visit c l).cursor ((striking opens).visit d m).cursor := by
  cases hcopied : (c.enter l).skipping with
  | true =>
    rw [Pass.visit_of_skipping hcopied] at hout ⊢
    obtain rfl : l = m := Option.some.inj hout
    have hagain : (d.enter l).skipping = true := by
      rw [Pass.skipping_enter_iff] at hcopied ⊢
      exact hcopied.imp_right (And.imp_right h.copies)
    rw [Pass.visit_of_copied h.coherent hagain]
    exact ⟨rfl, rfl, id⟩
  | false =>
    rw [Pass.visit_of_not_skipping hcopied] at hout ⊢
    -- The line may be copied this time, but it is put out in any case.
    cases hagain : (d.enter m).skipping with
    | true =>
      rw [Pass.visit_of_copied h.coherent hagain]
      exact ⟨rfl, of_not_skipping rfl rfl⟩
    | false =>
      rw [Pass.visit_of_not_skipping hagain, h.region,
        striking_passing_of_opens (opens_of_striking hout)]
      exact ⟨rfl, of_not_skipping rfl rfl⟩

end FollowsStriking

/-- What is left of lines is left alone. -/
lemma keptLines_keptLines (opens : Text → Bool) (ls : List Text) :
    keptLines opens (keptLines opens ls) = keptLines opens ls :=
  (Pass.emit_emit_of_step (R := FollowsStriking) FollowsStriking.of_struck FollowsStriking.visit
    ⟨rfl, id⟩ ls).1

end Laws

/-- Striking once more changes nothing, whatever lines open the clause: of the clauses of a script
that has been struck, nothing but semicolons is left. -/
theorem strikeClauses_strikeClauses (opens : Text → Bool) (script : Text) :
    strikeClauses opens (strikeClauses opens script) = strikeClauses opens script ∧
    (strikeClauses opens script = [] ∨ ∀ i < (lines (strikeClauses opens script)).length,
      IsInClauseAt opens (lines (strikeClauses opens script)) i →
        lineAt (lines (strikeClauses opens script)) i = [';']) := by
  have hagain : strikeClauses opens (strikeClauses opens script) = strikeClauses opens script := by
    by_cases hleft : keptLines opens (lines script) = []
    · rw [strikeClauses_eq_nil hleft, strikeClauses_nil]
    · calc strikeClauses opens (strikeClauses opens script)
          = ofLines (keptLines opens (lines (strikeClauses opens script))) := rfl
        _ = ofLines (keptLines opens (lines script)) := by
            rw [lines_strikeClauses hleft, keptLines_keptLines]
        _ = strikeClauses opens script := rfl
  exact ⟨hagain, strikeClauses_eq_self_iff.1 hagain⟩

/-- Where headers and semicolons open the clause, the header that ends a copied statement is struck,
so that the line behind it is copied the second time. The first line that is left opens the clause
again, and is a semicolon. -/
theorem strikeClauses_strikeClauses_headers :
    let opens := (ClausePattern.parse "CREATE TABLE|;".toList).isOpenedBy
    let script := "CREATE TABLE t(\n  a int;\ncreate x(\nCREATE TABLE u(\n  b int\nc".toList
    let left := ";\ncreate x(\nc".toList
    strikeClauses opens script = left ∧ strikeClauses opens left = left ∧
    (0 < (lines left).length ∧ IsInClauseAt opens (lines left) 0) ∧
    lineAt (lines left) 0 = [';'] ∧
    ¬ IsCopiedAt (lines script) 5 ∧ IsCopiedAt (lines left) 2 := by
  intro opens script left
  have hleft : strikeClauses opens script = left := by decide +kernel
  obtain ⟨hagain, hsettled⟩ := strikeClauses_strikeClauses opens script
  rw [hleft] at hagain hsettled
  have hclause : 0 < (lines left).length ∧ IsInClauseAt opens (lines left) 0 := by decide +kernel
  have hsemicolon : lineAt (lines left) 0 = [';'] :=
    hsettled.resolve_left (by decide) 0 hclause.1 hclause.2
  exact ⟨hleft, hagain, hclause, hsemicolon, by decide +kernel, by decide +kernel⟩

/-! ### Where a statement ends -/

section Ends

variable {opens : Text → Bool} {ls : List Text}

/-- Behind the end of a statement a pass that strikes a clause is as it was in the beginning, and an
end of a statement is left. -/
lemma after_striking_of_endsStatement (hls : EndsStatement ls) :
    (striking opens).after .start ls = .start ∧ EndsStatement (keptLines opens ls) := by
  obtain ⟨init, last, rfl, hlast⟩ := hls.exists_concat
  have hcoherent : ((striking opens).after .start init).Coherent :=
    Pass.coherent_after Cursor.coherent_start init
  obtain ⟨m, hvisit, hm⟩ := visit_striking_of_terminated hcoherent hlast
  constructor
  · rw [Pass.after_append, Pass.after_cons, Pass.after_nil, hvisit]
  · unfold keptLines
    rw [Pass.emit_append, Pass.emit_cons, hvisit]
    exact endsStatement_concat _ hm

/-- Lines behind the end of a statement are struck apart. -/
lemma keptLines_append (hls : EndsStatement ls) (ms : List Text) :
    keptLines opens (ls ++ ms) = keptLines opens ls ++ keptLines opens ms := by
  unfold keptLines
  rw [Pass.emit_append, (after_striking_of_endsStatement hls).1]

/-- Where a statement ends, something is left. -/
lemma keptLines_ne_nil (hls : EndsStatement ls) : keptLines opens ls ≠ [] := by
  have hends : EndsStatement (keptLines opens ls) := (after_striking_of_endsStatement hls).2
  obtain ⟨init, last, hkept, -⟩ := hends.exists_concat
  rw [hkept]
  exact List.concat_ne_nil last init

/-- Nothing is left of a script when nothing is put out for any of its lines. -/
lemma keptLines_eq_nil_iff {script : Text} :
    keptLines opens (lines script) = [] ↔
      ∀ v ∈ (striking opens).trace script, v.output? = none :=
  List.filterMap_eq_nil_iff

/-- Striking keeps the number of lines in which a statement ends. -/
lemma countP_isTerminated_keptLines (opens : Text → Bool) (ls : List Text) :
    (keptLines opens ls).countP Line.isTerminated = ls.countP Line.isTerminated := by
  refine Pass.additive_emit (f := fun ls => ls.countP Line.isTerminated) (P := fun _ => True)
    (fun _ _ => List.countP_append) (fun r l _ => ?_) (fun _ _ => trivial) .start
  rcases striking_cases opens r l with h | ⟨hends, h⟩ | ⟨hopen, h⟩
  · rw [h]
    rfl
  · rw [h]
    simp [hends]
  · rw [h]
    simp [hopen]

end Ends

/-- Behind a text in whose last line a statement ends, any text is struck as if it stood alone.
Where none of its lines is left, the line feed in front of it is not left either. So striking keeps
the number of lines in which a statement ends. -/
theorem strikeClauses_append_newline (opens : Text → Bool) :
    (∀ s t : Text, EndsStatement (lines s) →
      ((∃ v ∈ (striking opens).trace t, v.output? ≠ none) →
        strikeClauses opens (s ++ '\n' :: t) =
          strikeClauses opens s ++ '\n' :: strikeClauses opens t) ∧
      ((∀ v ∈ (striking opens).trace t, v.output? = none) →
        strikeClauses opens (s ++ '\n' :: t) = strikeClauses opens s)) ∧
    ∀ script : Text, (lines (strikeClauses opens script)).countP Line.isTerminated =
      (lines script).countP Line.isTerminated := by
  have happend : ∀ s t : Text, EndsStatement (lines s) → strikeClauses opens (s ++ '\n' :: t) =
      ofLines (keptLines opens (lines s) ++ keptLines opens (lines t)) := by
    intro s t hs
    rw [← keptLines_append hs, ← lines_append_newline]
    rfl
  refine ⟨fun s t hs => ⟨fun hleft => ?_, fun hnothing => ?_⟩, fun script => ?_⟩
  · have ht : keptLines opens (lines t) ≠ [] := by
      intro hnothing
      obtain ⟨v, hv, hout⟩ := hleft
      exact hout (keptLines_eq_nil_iff.1 hnothing v hv)
    rw [happend s t hs, ofLines_append (keptLines_ne_nil hs) ht]
    rfl
  · rw [happend s t hs, keptLines_eq_nil_iff.2 hnothing, List.append_nil]
    rfl
  · have hcount := countP_isTerminated_keptLines opens (lines script)
    by_cases hleft : keptLines opens (lines script) = []
    · rw [strikeClauses_eq_nil hleft, ← hcount, hleft]
      decide
    · rw [lines_strikeClauses hleft, hcount]

/-- A statement ends inside the clause. An indented line behind it does not belong to the clause,
and of lines that are all struck not even the line feed in front of them is left. -/
theorem strikeClauses_append_newline_indented :
    let opens := opensClause "LOCATION".toList
    let s := "a\nLOCATION\n  '/t';".toList
    let t := "  b\nLOCATION\n  c".toList
    let u := "LOCATION\n  '/u'".toList
    EndsStatement (lines s) ∧
    (∃ v ∈ (striking opens).trace t, v.output? ≠ none) ∧
    (∀ v ∈ (striking opens).trace u, v.output? = none) ∧
    strikeClauses opens (s ++ '\n' :: t) = "a\n;\n  b".toList ∧
    strikeClauses opens (s ++ '\n' :: u) = "a\n;".toList := by
  intro opens s t u
  have hs : EndsStatement (lines s) := ⟨"  '/t';".toList, by decide, by decide⟩
  have ht : ∃ v ∈ (striking opens).trace t, v.output? ≠ none := by decide +kernel
  have hu : ∀ v ∈ (striking opens).trace u, v.output? = none := by decide +kernel
  obtain ⟨happend, -⟩ := strikeClauses_append_newline opens
  refine ⟨hs, ht, hu, ((happend s t hs).1 ht).trans ?_, ((happend s u hs).2 hu).trans ?_⟩
  · decide +kernel
  · decide +kernel

end DdlDump
