import DdlDump.Proofs.Ddl.QuotedNames

/-!
# What passes remember

Whether a pass is copying is decided by the lines and by nothing that is its own, so that all passes
over a script copy side by side (`Pass.skipping_visit_congr`, `Pass.map_skipping_visits`). The
region is what a pass has for itself. It is left alone by copied lines but for the first one, which
puts the pass back, so a pass stays in the regions between which it goes by its own rule
(`Pass.StaysIn`), and is in none of them while it copies.

The pass that puts out every line never leaves the beginning, striking a clause lists no columns,
and quoting columns knows no clauses. All three are followed from line to line, and the lines put
out are counted on the way (`traces_agree`).
-/

namespace DdlDump

open Text

namespace Cursor

/-- Whether copying begins, goes on or ends with a line depends on whether it was going on. -/
lemma skipping_enter_congr {c d : Cursor} (h : c.skipping = d.skipping) (l : Text) :
    (c.enter l).skipping = (d.enter l).skipping := by
  obtain ⟨r, copying⟩ := c
  obtain ⟨s, _⟩ := d
  cases h
  exact skipping_enter_eq r s copying l

/-- Noticing how a line opens leaves the region alone or puts it back. -/
lemma region_enter_cases (c : Cursor) (l : Text) :
    (c.enter l).region = .passing ∨ (c.enter l).region = c.region := by
  unfold enter
  cases Line.opening l with
  | recognised => exact Or.inr rfl
  | unrecognised => exact Or.inl rfl
  | inner => exact Or.inr rfl

end Cursor

namespace Pass

/-! ### One line -/

section Line

variable {pass : Pass} {c d : Cursor}

/-- Two passes that are both copying, or both not, are so behind the next line, too. -/
lemma skipping_visit_congr (p q : Pass) (h : c.skipping = d.skipping) (l : Text) :
    (p.visit c l).cursor.skipping = (q.visit d l).cursor.skipping := by
  rw [skipping_visit, skipping_visit, Cursor.skipping_enter_congr h]

/-- A pass stays in some regions when it begins in one of them, and each line that it treats leads
from one of them to one of them. -/
structure StaysIn (pass : Pass) (R : Region → Prop) : Prop where
  passing : R .passing
  treated : ∀ {r} l, R r → R (pass r l).2

/-- A pass stays in its regions at a line that it copies as well as at one that it treats. -/
lemma StaysIn.visit {R : Region → Prop} (h : pass.StaysIn R) (hc : R c.region) (l : Text) :
    R (pass.visit c l).cursor.region := by
  cases hskip : (c.enter l).skipping with
  | false =>
    rw [visit_of_not_skipping hskip]
    exact h.treated l hc
  | true =>
    rw [visit_of_skipping hskip]
    -- the line that begins the copying is the only one at which the pass is put back
    rcases Cursor.region_enter_cases c l with hpassing | hsame
    · exact hpassing ▸ h.passing
    · exact hsame ▸ hc

end Line

/-! ### All lines -/

section Lines

variable {pass : Pass} {c d : Cursor}

/-- What holds of a pass in the beginning, and behind a line when it holds in front of it, holds
behind every line. -/
theorem forall_mem_visits {P : Cursor → Prop} (hstep : ∀ c l, P c → P (pass.visit c l).cursor)
    (hc : P c) (ls : List Text) : ∀ v ∈ pass.visits c ls, P v.cursor := by
  induction ls generalizing c with
  | nil => exact List.forall_mem_nil _
  | cons l ls ih =>
    have hl : P (pass.visit c l).cursor := hstep c l hc
    exact List.forall_mem_cons.2 ⟨hl, ih hl⟩

/-- Two passes go through the same lines copying or not copying at the same time. -/
theorem map_skipping_visits (p q : Pass) (h : c.skipping = d.skipping) (ls : List Text) :
    (p.visits c ls).map (·.cursor.skipping) = (q.visits d ls).map (·.cursor.skipping) := by
  induction ls generalizing c d with
  | nil => rfl
  | cons l ls ih =>
    have hl := skipping_visit_congr p q h l
    rw [visits, visits, List.map_cons, List.map_cons, hl, ih hl]

/-- Behind the same lines either both of two passes are copying or none is. -/
lemma skipping_after_congr (p q : Pass) (h : c.skipping = d.skipping) (ls : List Text) :
    (p.after c ls).skipping = (q.after d ls).skipping := by
  induction ls generalizing c d with
  | nil => exact h
  | cons l ls ih => exact ih (skipping_visit_congr p q h l)

/-- Behind the same lines two passes copy the same lines. -/
lemma copies_congr (p q : Pass) (front : List Text) (l : Text) :
    p.copies front l = q.copies front l :=
  Cursor.skipping_enter_congr (skipping_after_congr p q rfl front) l

/-- The first visits are those of the first lines. -/
lemma take_visits (pass : Pass) (c : Cursor) (ls : List Text) (n : Nat) :
    (pass.visits c ls).take n = pass.visits c (ls.take n) := by
  induction ls generalizing c n with
  | nil => rw [visits, List.take_nil, List.take_nil, visits]
  | cons l ls ih =>
    cases n with
    | zero => rfl
    | succ n => rw [visits, List.take_succ_cons, List.take_succ_cons, visits, ih]

/-- What is put out by the first visits to the lines of a script. -/
lemma outputs_take_trace (pass : Pass) (script : Text) (n : Nat) :
    outputs ((pass.trace script).take n) = pass.emit .start ((lines script).take n) :=
  congrArg outputs (take_visits pass .start (lines script) n)

/-- A pass over a script stays in its regions, and in none while it copies. -/
theorem StaysIn.forall_mem_trace {R : Region → Prop} (h : pass.StaysIn R) (script : Text) :
    ∀ v ∈ pass.trace script, v.cursor.Coherent ∧ R v.cursor.region :=
  forall_mem_visits (P := fun c => c.Coherent ∧ R c.region)
    (fun _ l hc => ⟨coherent_visit hc.1 l, h.visit hc.2 l⟩) ⟨Cursor.coherent_start, h.passing⟩
    (lines script)

end Lines

/-! ### The pass that puts out every line -/

/-- It is in no region. -/
lemma copying_staysIn : copying.StaysIn (· = .passing) where
  passing := rfl
  treated _ hr := hr

/-- It puts out the lines that it meets. -/
lemma emit_copying (c : Cursor) (ls : List Text) : copying.emit c ls = ls := by
  induction ls generalizing c with
  | nil => rfl
  | cons l ls ih =>
    have hout : (copying.visit c l).output? = some l := by
      cases hskip : (c.enter l).skipping with
      | false =>
        rw [visit_of_not_skipping hskip]
        rfl
      | true => rw [visit_of_skipping hskip]
    exact emit_cons_eq_self_iff.2 ⟨hout, ih _⟩

/-- It changes no script. -/
theorem run_copying (script : Text) : copying.run script = script := by
  have hemit : copying.emit .start (lines script) = lines script := emit_copying .start _
  exact (congrArg ofLines hemit).trans (ofLines_lines script)

end Pass

/-! ### The passes that change a script -/

/-- A pass that strikes a clause lists no columns. -/
lemma striking_staysIn (opens : Text → Bool) : (striking opens).StaysIn (· ≠ .columns) where
  passing := by decide
  treated _ hr := striking_ne_columns hr

/-- Quoting column names leads to no clause. -/
lemma Column.quoting_ne_clause (r : Region) (l : Text) : (quoting r l).2 ≠ .clause := by
  have hcolumns : Region.columns ≠ .clause := by decide
  have hpassing : Region.passing ≠ .clause := by decide
  cases hlist : opensList l with
  | true =>
    rw [quoting_of_opensList hlist]
    exact hcolumns
  | false =>
    by_cases hcolumn : r = .columns ∧ Line.isIndented l = true
    · rw [hcolumn.1, quoting_of_isIndented hlist hcolumn.2]
      exact hcolumns
    · rw [quoting_of_outside hlist hcolumn]
      exact hpassing

/-- A pass that quotes column names is in no clause. -/
lemma Column.quoting_staysIn : quoting.StaysIn (· ≠ .clause) where
  passing := by decide
  treated {r} l _ := quoting_ne_clause r l

/-- The pass that puts out every line, the pass that strikes a clause, whatever lines open it, and
the pass that quotes column names, line by line. They copy the same lines, which are those of copied
statements, and go on copying behind the same lines. Behind every line a pass that is copying is in
no region, the first pass is never in one, striking is in no list of columns, and quoting is in no
clause. The first and the last have put out as many lines as they have met, and striking no more
than that. The first gives the script back. -/
theorem traces_agree (opens : Text → Bool) (script : Text) :
    ((∀ front l, (striking opens).copies front l = Pass.copying.copies front l ∧
        Column.quoting.copies front l = Pass.copying.copies front l) ∧
      (∀ i < (lines script).length,
        Pass.copying.copies ((lines script).take i) (lineAt (lines script) i) = true ↔
          IsCopiedAt (lines script) i) ∧
      ((striking opens).trace script).map (·.cursor.skipping) =
        (Pass.copying.trace script).map (·.cursor.skipping) ∧
      (Column.quoting.trace script).map (·.cursor.skipping) =
        (Pass.copying.trace script).map (·.cursor.skipping)) ∧
    ((∀ v ∈ Pass.copying.trace script, v.cursor.Coherent ∧ v.cursor.region = .passing) ∧
      (∀ v ∈ (striking opens).trace script, v.cursor.Coherent ∧ v.cursor.region ≠ .columns) ∧
      ∀ v ∈ Column.quoting.trace script, v.cursor.Coherent ∧ v.cursor.region ≠ .clause) ∧
    (∀ n ≤ (lines script).length,
      (Pass.outputs ((Pass.copying.trace script).take n)).length = n ∧
      (Pass.outputs ((Column.quoting.trace script).take n)).length = n ∧
      (Pass.outputs (((striking opens).trace script).take n)).length ≤ n) ∧
    Pass.copying.run script = script := by
  refine ⟨⟨fun front l => ⟨Pass.copies_congr _ _ front l, Pass.copies_congr _ _ front l⟩,
      fun i hi => Pass.copies_take_iff hi, Pass.map_skipping_visits _ _ rfl _,
      Pass.map_skipping_visits _ _ rfl _⟩,
    ⟨Pass.copying_staysIn.forall_mem_trace script, (striking_staysIn opens).forall_mem_trace script,
      Column.quoting_staysIn.forall_mem_trace script⟩,
    fun n hn => ?_, Pass.run_copying script⟩
  -- each visit meets one line, so that behind `n` lines the first `n` visits have been made
  have hmet : ((lines script).take n).length = n := List.length_take_of_le hn
  rw [Pass.outputs_take_trace, Pass.outputs_take_trace, Pass.outputs_take_trace, Pass.emit_copying]
  exact ⟨hmet, (length_quotedLines _).trans hmet, (Pass.length_emit_le _).trans_eq hmet⟩

/-- A clause is struck, a statement without a header is copied, with a line in it that opens the
clause elsewhere, and a header ends the copying before that statement has ended. -/
theorem traces_agree_headerEndsCopying :
    let opens := opensClause "LOCATION".toList
    let script :=
      "CREATE TABLE t(\n  a int)\nLOCATION\n '/t';\ncreate x\nLOCATION\nCREATE VIEW v AS b;".toList
    let behind := [false, false, false, false, true, true, false]
    (((striking opens).trace script).map (·.cursor.skipping) = behind ∧
      (Column.quoting.trace script).map (·.cursor.skipping) = behind) ∧
    (5 < (lines script).length ∧ IsCopiedAt (lines script) 5 ∧
      (striking opens).copies ((lines script).take 5) (lineAt (lines script) 5) = true ∧
      Column.quoting.copies ((lines script).take 5) (lineAt (lines script) 5) = true) ∧
    (6 ≤ (lines script).length ∧
      (Pass.outputs ((Pass.copying.trace script).take 6)).length = 6 ∧
      (Pass.outputs ((Column.quoting.trace script).take 6)).length = 6 ∧
      (Pass.outputs (((striking opens).trace script).take 6)).length = 5) ∧
    Pass.copying.run script = script := by
  intro opens script behind
  obtain ⟨⟨hsame, hcopied, hstriking, hquoting⟩, -, hcount, hrun⟩ := traces_agree opens script
  have hbehind : (Pass.copying.trace script).map (·.cursor.skipping) = behind := by decide +kernel
  have hlength : 5 < (lines script).length := by decide +kernel
  have hfive : IsCopiedAt (lines script) 5 := by decide +kernel
  have hcopies := (hcopied 5 hlength).2 hfive
  obtain ⟨hplain, hquoted, -⟩ := hcount 6 hlength
  refine ⟨⟨hstriking.trans hbehind, hquoting.trans hbehind⟩,
    ⟨hlength, hfive, (hsame _ _).1.trans hcopies, (hsame _ _).2.trans hcopies⟩,
    ⟨hlength, hplain, hquoted, ?_⟩, hrun⟩
  decide +kernel

end DdlDump
