import DdlDump.Proofs.Ddl.Clause
import DdlDump.Proofs.Ddl.Column
import DdlDump.Proofs.Ddl.HeaderLines
import Mathlib.Data.List.Basic

/-!
# Making a script replayable, line by line

Every stage of making a script replayable takes lines to lines, and so does the whole
(`lineByLine_prepare`). What holds of each stage and is passed on from two stages to one after the
other holds of the whole, whatever flags are on (`replayableLines_induction`).
-/

namespace DdlDump

open Text

/-- The lines of a script with prepared headers. -/
def headerLines (flags : Flags) (ls : List Text) : List Text :=
  ls.flatMap (preparedLines (flags.isOn .dropTable) (flags.isOn .ifNotExists))

/-- Two groups of lines have their headers prepared apart. -/
lemma headerLines_append (flags : Flags) (ls ms : List Text) :
    headerLines flags (ls ++ ms) = headerLines flags ls ++ headerLines flags ms :=
  List.flatMap_append

/-- Lines that are prepared already stay as they are. -/
lemma headerLines_of_prepared (flags : Flags) {ls : List Text}
    (hls : ∀ l ∈ ls, preparedLines (flags.isOn .dropTable) (flags.isOn .ifNotExists) l = [l]) :
    headerLines flags ls = ls := by
  unfold headerLines
  rw [List.flatMap_congr hls, List.flatMap_singleton']

/-- So do lines without headers. -/
lemma headerLines_of_parse?_eq_none (flags : Flags) {ls : List Text}
    (hls : ∀ l ∈ ls, Header.parse? l = none) : headerLines flags ls = ls :=
  headerLines_of_prepared flags fun l hl => preparedLines_of_parse?_eq_none (hls l hl)

/-- The lines that are left of a script when clauses are struck. -/
def keptLines (opens : Text → Bool) (ls : List Text) : List Text :=
  (striking opens).emit .start ls

/-- Whether a line starts with the words of a clause. -/
def opensClause (clause line : Text) : Bool :=
  decide (clause <+: line)

/-- The lines that are left when clauses are struck one after another. -/
def keptByAll (clauses : List Text) (ls : List Text) : List Text :=
  clauses.foldl (fun ms clause => keptLines (opensClause clause) ms) ls

/-- The lines of a script with column names in quotes. -/
def quotedLines (ls : List Text) : List Text :=
  Column.quoting.emit .start ls

/-- The lines that become of the lines of a script when it is made replayable. -/
def replayableLines (flags : Flags) (ls : List Text) : List Text :=
  quotedLines (keptByAll flags.struckClauses (headerLines flags ls))

/-! ### The clauses that flags strike -/

/-- All clauses that any flag strikes. -/
def allClauses : List Text :=
  Flag.all.flatMap Flag.struckClauses

/-- The clauses that flags strike are among these. -/
lemma struckClauses_subset (flags : Flags) : flags.struckClauses ⊆ allClauses := by
  intro clause h
  unfold Flags.struckClauses at h
  obtain ⟨f, hf, hclause⟩ := List.mem_flatMap.1 h
  exact List.mem_flatMap.2 ⟨f, Flag.mem_all f, hclause⟩

section OpensClause

variable {clause l : Text}

/-- A line that starts with another character than every clause opens none. -/
lemma opensClause_of_head? (h : clause ∈ allClauses)
    (hhead : ∀ k ∈ allClauses, k.head? ≠ l.head?) : opensClause clause l = false := by
  have hne : ∀ k ∈ allClauses, k ≠ [] := by decide
  unfold opensClause
  rw [decide_eq_false_iff_not]
  rintro ⟨r, rfl⟩
  refine hhead clause h ?_
  rw [List.head?_append_of_ne_nil _ (hne clause h)]

/-- No clause is opened by an empty line. -/
lemma opensClause_nil (h : clause ∈ allClauses) : opensClause clause [] = false :=
  opensClause_of_head? h (by decide)

/-- Nor by a semicolon. -/
lemma opensClause_semicolon (h : clause ∈ allClauses) : opensClause clause [';'] = false :=
  opensClause_of_head? h (by decide)

/-- Nor by an indented line. -/
lemma opensClause_of_isIndented (h : clause ∈ allClauses) (hl : Line.isIndented l = true) :
    opensClause clause l = false := by
  have hvisible : ∀ k ∈ allClauses, k.head?.any isIndent = false := by decide
  refine opensClause_of_head? h fun k hk hhead => ?_
  unfold Line.isIndented at hl
  rw [← hhead, hvisible k hk] at hl
  exact absurd hl (by decide)

end OpensClause

/-! ### Stage by stage -/

/-- A change of a script that takes its lines to the lines of the result. -/
def LineByLine (change : Text → Text) (onLines : List Text → List Text) : Prop :=
  ∀ ls, (∀ l ∈ ls, IsLine l) →
    change (ofLines ls) = ofLines (onLines ls) ∧ ∀ l ∈ onLines ls, IsLine l

/-- One change after another is made line by line when both are. -/
lemma LineByLine.comp {S T : Text → Text} {F G : List Text → List Text} (hS : LineByLine S F)
    (hT : LineByLine T G) : LineByLine (fun t => T (S t)) (fun ls => G (F ls)) := by
  intro ls hls
  obtain ⟨hfirst, hlines⟩ := hS ls hls
  obtain ⟨hsecond, hresult⟩ := hT (F ls) hlines
  exact ⟨(congrArg T hfirst).trans hsecond, hresult⟩

/-- A regular pass works line by line. -/
lemma Pass.Regular.lineByLine {pass : Pass} (hpass : pass.Regular) :
    LineByLine pass.run (pass.emit .start) :=
  fun _ hls => ⟨hpass.run_ofLines hls, fun _ hl => hpass.isLine_of_mem_emit hls hl⟩

/-- Headers are prepared line by line. -/
lemma lineByLine_prepareHeaders (flags : Flags) :
    LineByLine (prepareHeaders flags) (headerLines flags) := by
  intro ls hls
  refine ⟨prepareHeaders_ofLines flags hls, ?_⟩
  intro l hl
  obtain ⟨k, hk, hlk⟩ := List.mem_flatMap.1 hl
  exact isLine_of_mem_preparedLines (hls k hk) hlk

/-- The lines of a script whose headers have been prepared. -/
lemma lines_prepareHeaders (flags : Flags) (script : Text) :
    lines (prepareHeaders flags script) = headerLines flags (lines script) := by
  obtain ⟨hlines, hresult⟩ :=
    lineByLine_prepareHeaders flags (lines script) fun _ => isLine_of_mem_lines
  have hne : headerLines flags (lines script) ≠ [] := by
    obtain ⟨l, ls, hcons⟩ := List.exists_cons_of_ne_nil (lines_ne_nil script)
    rw [hcons, headerLines, List.flatMap_cons]
    exact List.append_ne_nil_of_left_ne_nil (preparedLines_ne_nil l) _
  rw [ofLines_lines] at hlines
  rw [hlines, lines_ofLines hne hresult]

/-- Clauses are struck line by line. -/
lemma lineByLine_strikeEach {clauses : List Text} (hclauses : clauses ⊆ allClauses) :
    LineByLine (strikeEach clauses) (keptByAll clauses) := by
  induction clauses with
  | nil => exact fun ls hls => ⟨rfl, hls⟩
  | cons clause clauses ih =>
    have hregular := striking_regular (opensClause_nil (hclauses List.mem_cons_self))
    exact hregular.lineByLine.comp (ih (List.subset_of_cons_subset hclauses))

/-- A script is made replayable line by line. -/
theorem lineByLine_prepare (flags : Flags) :
    LineByLine (prepare flags) (replayableLines flags) := by
  have hstruck := (lineByLine_prepareHeaders flags).comp
    (lineByLine_strikeEach (struckClauses_subset flags))
  exact hstruck.comp Column.quoting_regular.lineByLine

/-- What a script becomes, by its lines. -/
lemma prepare_eq_ofLines (flags : Flags) (script : Text) :
    prepare flags script = ofLines (replayableLines flags (lines script)) := by
  have hlines := (lineByLine_prepare flags (lines script) fun _ => isLine_of_mem_lines).1
  rwa [ofLines_lines] at hlines

/-- What holds of every stage, and is passed on from two stages to one after the other, holds of
the whole. -/
theorem replayableLines_induction {P : (List Text → List Text) → Prop} (flags : Flags)
    (hcomp : ∀ {F G}, P F → P G → P fun ls => G (F ls)) (hheader : P (headerLines flags))
    (hstrike : ∀ clause ∈ allClauses, P (keptLines (opensClause clause)))
    (hquote : P quotedLines) : P (replayableLines flags) := by
  have hstruck : ∀ clauses ⊆ allClauses, ∀ {F}, P F → P fun ls => keptByAll clauses (F ls) := by
    intro clauses
    induction clauses with
    | nil => exact fun _ _ hF => hF
    | cons clause clauses ih =>
      intro hsub F hF
      have hclause := hstrike clause (hsub List.mem_cons_self)
      exact ih (List.subset_of_cons_subset hsub) (hcomp hF hclause)
  have hkept : P fun ls => keptByAll flags.struckClauses (headerLines flags ls) :=
    hstruck flags.struckClauses (struckClauses_subset flags) hheader
  exact hcomp (G := quotedLines) hkept hquote

/-- Nothing becomes of nothing. -/
@[simp]
lemma replayableLines_nil (flags : Flags) : replayableLines flags [] = [] := by
  refine replayableLines_induction (P := fun F => F [] = []) flags ?_ rfl (fun _ _ => rfl) rfl
  intro F G hF hG
  exact (congrArg G hF).trans hG

/-! ### Scripts that are let pass -/

section Replayable

variable {flags : Flags}

/-- Unless flags are strict, they let every script pass. -/
lemma replayable_of_lenient (hstrict : flags.isOn .strict = false) (script : Text) :
    replayable flags script = .ok (prepare flags script) := by
  unfold replayable
  rw [hstrict]
  rfl

/-- A script that is let pass is prepared, whether or not flags are strict. -/
lemma eq_prepare_of_replayable {script out : Text} (hout : replayable flags script = .ok out) :
    out = prepare flags script := by
  cases hstrict : flags.isOn .strict with
  | false => exact Except.ok.inj (hout.symm.trans (replayable_of_lenient hstrict script))
  | true =>
    unfold replayable at hout
    rw [hstrict] at hout
    cases hrequire : requireRecognised script with
    | error e =>
      rw [hrequire] at hout
      exact absurd hout (by simp [bind, Except.bind])
    | ok _ =>
      rw [hrequire] at hout
      exact (Except.ok.inj hout).symm

end Replayable

end DdlDump
