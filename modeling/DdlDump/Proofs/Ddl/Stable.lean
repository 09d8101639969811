import DdlDump.Proofs.Ddl.ClauseLaws
import DdlDump.Proofs.Ddl.JointStriking

/-!
# Replayable scripts are left alone

A script that has been made replayable stays as it is when it is made replayable once more, unless
objects are to be dropped, since every run would drop them once more (`replayable_replayable`).

Each stage leaves what it has put out itself: headers are guarded, no clause that is struck is left,
and names are in quotes. It also leaves what the later stages make of this. Quoting takes away
headers, where a list of columns goes on with one, but brings none up, nor the beginning of a clause
or of a list of columns; and since a quoted line is not copied, all passes agree on where statements
are copied (`visit_quoting_cases`). Striking leaves a semicolon behind, which no stage changes.
-/

namespace DdlDump

open Text

/-! ### Headers -/

/-- A semicolon is prepared. -/
lemma preparedLines_semicolon (drop guard : Bool) : preparedLines drop guard [';'] = [[';']] :=
  preparedLines_of_parse?_eq_none (by decide)

/-- A line stays prepared when its name is put in quotes. -/
lemma preparedLines_quoteName {drop guard : Bool} {l : Text}
    (hl : preparedLines drop guard l = [l]) :
    preparedLines drop guard (Column.quoteName l) = [Column.quoteName l] := by
  by_cases hsame : Column.quoteName l = l
  · rwa [hsame]
  · refine preparedLines_of_parse?_eq_none (Line.parse?_eq_none_of_opening ?_)
    rw [Column.opening_quoteName hsame]
    decide

/-- All lines of a replayable script have prepared headers. -/
lemma headerLines_replayableLines {flags : Flags} (hdrop : flags.isOn .dropTable = false)
    (ls : List Text) :
    headerLines flags (replayableLines flags ls) = replayableLines flags ls := by
  have hheader : ∀ l ∈ headerLines flags ls,
      preparedLines (flags.isOn .dropTable) (flags.isOn .ifNotExists) l = [l] := by
    intro l hl
    obtain ⟨k, -, hkl⟩ := List.mem_flatMap.1 hl
    rw [hdrop] at hkl ⊢
    exact preparedLines_of_mem hkl
  have hkept : ∀ l ∈ keptByAll flags.struckClauses (headerLines flags ls),
      preparedLines (flags.isOn .dropTable) (flags.isOn .ifNotExists) l = [l] := by
    rw [keptByAll_eq_keptLines (struckClauses_subset flags)]
    refine Pass.forall_mem_emit (fun {r l m} hl hm => ?_) hheader
    rcases striking_cases (opensAny flags.struckClauses) r l with h | ⟨-, h⟩ | ⟨-, h⟩
    · rw [h, Option.some.injEq] at hm
      rwa [← hm]
    · rw [h, Option.some.injEq] at hm
      rw [← hm]
      exact preparedLines_semicolon _ _
    · rw [h] at hm
      exact absurd hm.symm (Option.some_ne_none m)
  refine headerLines_of_prepared flags (Pass.forall_mem_emit (fun {r l m} hl hm => ?_) hkept)
  rcases Column.quoting_cases r l with h | ⟨-, -, -, h⟩
  · rw [h, Option.some.injEq] at hm
    rwa [← hm]
  · rw [h, Option.some.injEq] at hm
    rw [← hm]
    exact preparedLines_quoteName hl

/-! ### Quoting -/

/-- A column line with its name in quotes, as the passes meet it again. -/
structure IsQuoted (l : Text) : Prop where
  indented : Line.isIndented l = true
  opening : Line.opening l = .inner
  noList : Column.opensList l = false
  settled : Column.quoteName l = l

/-- Quoting puts out a line as it is, or it puts the name of a column in quotes, and then nothing is
copied, neither before nor after the line. -/
lemma visit_quoting_cases {c : Cursor} (hc : c.Coherent) (l : Text) :
    ∃ m d, Column.quoting.visit c l = ⟨l, some m, d⟩ ∧
      (m = l ∨ (c = ⟨.columns, false⟩ ∧ d = ⟨.columns, false⟩ ∧ IsQuoted m)) := by
  cases hskip : (c.enter l).skipping with
  | true => exact ⟨l, _, Pass.visit_of_copied hc hskip, Or.inl rfl⟩
  | false =>
    rw [Pass.visit_of_not_skipping hskip]
    rcases Column.quoting_cases c.region l with h | ⟨hregion, hlist, hindent, h⟩
    · exact ⟨l, _, by rw [h], Or.inl rfl⟩
    · refine ⟨Column.quoteName l, ⟨.columns, false⟩, by rw [h], ?_⟩
      by_cases hsame : Column.quoteName l = l
      · exact Or.inl hsame
      · have hcopying : c.skipping = false := by
          by_contra hcopying
          have hpassing := hc (by simpa using hcopying)
          rw [hregion] at hpassing
          exact absurd hpassing (by decide)
        have hcursor : c = ⟨.columns, false⟩ := by
          rw [← hregion, ← hcopying]
        exact Or.inr ⟨hcursor, rfl, {
          indented := Column.isIndented_quoteName hindent
          opening := Column.opening_quoteName hsame
          noList := Column.opensList_quoteName hlist
          settled := Column.quoteName_quoteName l }⟩

/-- What is put out for a line is put out again, and a pass that meets it remembers the same as
behind the line itself. -/
lemma visit_quoting_again {c : Cursor} (hc : c.Coherent) {l m : Text}
    (hout : (Column.quoting.visit c l).output? = some m) :
    Column.quoting.visit c m = ⟨m, some m, (Column.quoting.visit c l).cursor⟩ := by
  obtain ⟨k, d, hvisit, hk⟩ := visit_quoting_cases hc l
  rw [hvisit] at hout ⊢
  obtain rfl : k = m := Option.some.inj hout
  rcases hk with rfl | ⟨rfl, rfl, hquoted⟩
  · exact hvisit
  · have hopening : Line.opening k ≠ .unrecognised := by
      rw [hquoted.opening]
      decide
    rw [Pass.visit_of_opening hopening,
      Column.quoting_of_isIndented hquoted.noList hquoted.indented, hquoted.settled]

/-- Quoting leaves the names that it has put in quotes, and meets them in the same regions as the
names without quotes. -/
lemma emit_quoting_emit_quoting {c : Cursor} (hc : c.Coherent) (ls : List Text) :
    Column.quoting.emit c (Column.quoting.emit c ls) = Column.quoting.emit c ls ∧
      Column.quoting.after c (Column.quoting.emit c ls) = Column.quoting.after c ls := by
  have hnothing : ∀ {c d l}, d = c ∧ c.Coherent → (Column.quoting.visit c l).output? = none →
      d = (Column.quoting.visit c l).cursor ∧ (Column.quoting.visit c l).cursor.Coherent := by
    rintro c d l ⟨rfl, hc⟩ hout
    obtain ⟨m, e, hvisit, -⟩ := visit_quoting_cases hc l
    rw [hvisit] at hout
    exact absurd hout (Option.some_ne_none m)
  have hline : ∀ {c d l m}, d = c ∧ c.Coherent → (Column.quoting.visit c l).output? = some m →
      (Column.quoting.visit d m).output? = some m ∧
        (Column.quoting.visit d m).cursor = (Column.quoting.visit c l).cursor ∧
        (Column.quoting.visit c l).cursor.Coherent := by
    rintro c d l m ⟨rfl, hc⟩ hout
    rw [visit_quoting_again hc hout]
    exact ⟨rfl, rfl, Pass.coherent_visit hc l⟩
  obtain ⟨hemit, hafter, -⟩ :=
    Pass.emit_emit_of_step (R := fun c d => d = c ∧ c.Coherent) hnothing hline ⟨rfl, hc⟩ ls
  exact ⟨hemit, hafter⟩

/-! ### Striking -/

section Striking

variable {opens : Text → Bool}

/-- A pass that strikes clauses is in none behind a line that it puts out. -/
lemma region_visit_striking {copying : Bool} {l m : Text}
    (h : ((striking opens).visit ⟨.passing, copying⟩ l).output? = some m) :
    ((striking opens).visit ⟨.passing, copying⟩ l).cursor.region = .passing := by
  have hcoherent : Cursor.Coherent ⟨.passing, copying⟩ := fun _ => rfl
  cases hskip : (Cursor.enter ⟨.passing, copying⟩ l).skipping with
  | true => rw [Pass.visit_of_copied hcoherent hskip]
  | false =>
    rw [Pass.visit_of_not_skipping hskip] at h ⊢
    rcases striking_cases opens .passing l with hout | ⟨-, hout⟩ | ⟨-, hout⟩
    · rw [hout]
    · rw [hout]
    · exact absurd (hout.symm.trans h) (by simp)

/-- Where nothing is left to strike, nothing is when names are put in quotes. -/
lemma emit_striking_emit_quoting (hopens : IsClauseTest opens) {c : Cursor} (hc : c.Coherent)
    {ls : List Text} (hls : (striking opens).emit ⟨.passing, c.skipping⟩ ls = ls) :
    (striking opens).emit ⟨.passing, c.skipping⟩ (Column.quoting.emit c ls) =
      Column.quoting.emit c ls := by
  induction ls generalizing c with
  | nil => rfl
  | cons l ls ih =>
    obtain ⟨hleft, hrest⟩ := Pass.emit_cons_eq_self_iff.1 hls
    obtain ⟨m, d, hvisit, hm⟩ := visit_quoting_cases hc l
    have hd : d.Coherent := by
      have hcoherent : (Column.quoting.visit c l).cursor.Coherent := Pass.coherent_visit hc l
      rwa [hvisit] at hcoherent
    -- Both passes agree on what is copied behind the line.
    have hskip :
        ((striking opens).visit ⟨.passing, c.skipping⟩ l).cursor.skipping = d.skipping := by
      have hquoting : (Column.quoting.visit c l).cursor.skipping = d.skipping := by rw [hvisit]
      rw [← hquoting, Pass.skipping_visit, Pass.skipping_visit,
        Cursor.skipping_enter_eq .passing c.region c.skipping l]
    have hcursor : ((striking opens).visit ⟨.passing, c.skipping⟩ l).cursor =
        ⟨.passing, d.skipping⟩ :=
      congrArg₂ Cursor.mk (region_visit_striking hleft) hskip
    have hagain : ((striking opens).visit ⟨.passing, c.skipping⟩ m).output? = some m ∧
        ((striking opens).visit ⟨.passing, c.skipping⟩ m).cursor = ⟨.passing, d.skipping⟩ := by
      rcases hm with rfl | ⟨rfl, rfl, hquoted⟩
      · exact ⟨hleft, hcursor⟩
      · have hopening : Line.opening m ≠ .unrecognised := by
          rw [hquoted.opening]
          decide
        rw [Pass.visit_of_opening hopening,
          striking_of_passing (clauseRegion_passing (hopens.indented hquoted.indented))]
        exact ⟨rfl, rfl⟩
    rw [hcursor] at hrest
    rw [Pass.emit_cons, hvisit]
    refine Pass.emit_cons_eq_self_iff.2 ⟨hagain.1, ?_⟩
    rw [hagain.2]
    exact ih hd hrest

end Striking

/-! ### The whole script -/

/-- The lines of a replayable script are left alone by every stage, and so by all of them. -/
theorem replayableLines_replayableLines {flags : Flags} (hdrop : flags.isOn .dropTable = false)
    (ls : List Text) :
    replayableLines flags (replayableLines flags ls) = replayableLines flags ls := by
  have hclauses : flags.struckClauses ⊆ allClauses := struckClauses_subset flags
  have hopens : IsClauseTest (opensAny flags.struckClauses) := isClauseTest_opensAny hclauses
  have hheader := headerLines_replayableLines hdrop ls
  have hstrike : keptByAll flags.struckClauses (replayableLines flags ls) =
      replayableLines flags ls := by
    have hlines : replayableLines flags ls =
        quotedLines (keptLines (opensAny flags.struckClauses) (headerLines flags ls)) := by
      unfold replayableLines
      rw [keptByAll_eq_keptLines hclauses]
    rw [keptByAll_eq_keptLines hclauses, hlines]
    exact emit_striking_emit_quoting hopens Cursor.coherent_start (keptLines_keptLines _ _)
  have hquote : quotedLines (replayableLines flags ls) = replayableLines flags ls :=
    (emit_quoting_emit_quoting Cursor.coherent_start _).1
  calc replayableLines flags (replayableLines flags ls)
      = quotedLines (keptByAll flags.struckClauses
          (headerLines flags (replayableLines flags ls))) := rfl
    _ = quotedLines (keptByAll flags.struckClauses (replayableLines flags ls)) := by rw [hheader]
    _ = quotedLines (replayableLines flags ls) := by rw [hstrike]
    _ = replayableLines flags ls := hquote

/-- A script that is replayable already is given back as it is, whatever it is made of. -/
theorem replayable_replayable {flags : Flags} (hstrict : flags.isOn .strict = false)
    (hdrop : flags.isOn .dropTable = false) (script : Text) :
    ∃ out, replayable flags script = .ok out ∧ replayable flags out = .ok out := by
  obtain ⟨-, hlines⟩ :=
    lineByLine_prepare flags (lines script) fun _ => isLine_of_mem_lines
  have hagain : prepare flags (prepare flags script) = prepare flags script := by
    rw [prepare_eq_ofLines flags script, (lineByLine_prepare flags _ hlines).1,
      replayableLines_replayableLines hdrop]
  exact ⟨prepare flags script, replayable_of_lenient hstrict script,
    (replayable_of_lenient hstrict _).trans (congrArg Except.ok hagain)⟩

/-- A list of columns that goes on with a header, a clause that hides another header, and a
statement that is copied, with a clause of its own. -/
def headerAmongColumns : List Text :=
  ["CREATE TABLE t(", "  a int,", "  CREATE VIEW v AS", "ROW FORMAT", "  CREATE TABLE w(",
    "LOCATION", "  b;", "create table u(", "  c int)", "LOCATION", "  '/u';",
    "  d int"].map String.toList

/-- The first header is quoted like a column and the other one is struck. Neither comes back. -/
theorem replayable_replayable_headerAmongColumns :
    let flags := Flags.ofList [.ifNotExists, .suppressLocation, .suppressRowFormat]
    let out := ofLines (["CREATE TABLE IF NOT EXISTS t(", "  \x60a\x60 int,",
      "  \x60CREATE\x60 VIEW IF NOT EXISTS v AS", ";", "create table u(", "  c int)", "LOCATION",
      "  '/u';", "  d int"].map String.toList)
    flags.isOn .strict = false ∧ flags.isOn .dropTable = false ∧
    replayable flags (ofLines headerAmongColumns) = .ok out ∧ replayable flags out = .ok out := by
  intro flags out
  have hstrict : flags.isOn .strict = false := by decide
  have hdrop : flags.isOn .dropTable = false := by decide
  have hout : replayable flags (ofLines headerAmongColumns) = .ok out := by
    refine congrArg Except.ok ((prepare_eq_ofLines flags _).trans ?_)
    decide +kernel
  obtain ⟨again, hagain, hstable⟩ :=
    replayable_replayable hstrict hdrop (ofLines headerAmongColumns)
  have hsame : again = out := Except.ok.inj (hagain.symm.trans hout)
  exact ⟨hstrict, hdrop, hout, hsame ▸ hstable⟩

end DdlDump
