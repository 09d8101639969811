import DdlDump.Proofs.Ddl.Replay
import DdlDump.Proofs.Lists

/-!
# Scripts of several parts

A dump puts the statements of its tables together with empty lines in between. The parts are made
replayable as if each stood alone (`replayable_joinParts`), for whatever lines they consist of, as
long as each ends in a semicolon.

The reason is the same for every stage: where a statement ends, nothing is copied any longer and no
clause goes on, and the empty line ends a list of columns. So behind it each pass is as it was in
the beginning (`SplitsAtBlank`). A stage leaves an end where it found one, so that this applies to
the next stage, too.
-/

namespace DdlDump

open Text

/-! ### Line by line -/

/-- Lines in the last of which a statement ends. -/
def EndsStatement (ls : List Text) : Prop :=
  ∃ last ∈ ls.getLast?, Line.isTerminated last = true

/-- Lines in the last of which a statement ends, cut in front of the last one. -/
lemma EndsStatement.exists_concat {ls : List Text} (h : EndsStatement ls) :
    ∃ init last, ls = init ++ [last] ∧ Line.isTerminated last = true := by
  obtain ⟨last, hlast, hends⟩ := h
  obtain ⟨init, rfl⟩ := List.getLast?_eq_some_iff.1 (Option.mem_def.1 hlast)
  exact ⟨init, last, rfl, hends⟩

/-- A line in which a statement ends may stand behind any lines. -/
lemma endsStatement_concat (init : List Text) {last : Text} (h : Line.isTerminated last = true) :
    EndsStatement (init ++ [last]) :=
  ⟨last, List.getLast?_concat, h⟩

/-- A change of lines that leaves an end where it finds one, and treats what stands behind an end
and an empty line apart. -/
structure SplitsAtBlank (onLines : List Text → List Text) : Prop where
  ends : ∀ {ls}, EndsStatement ls → EndsStatement (onLines ls)
  split : ∀ {ls} ms, EndsStatement ls → onLines (ls ++ [] :: ms) = onLines ls ++ [] :: onLines ms

/-- Two such changes are one when made one after the other. -/
lemma SplitsAtBlank.comp {F G : List Text → List Text} (hF : SplitsAtBlank F)
    (hG : SplitsAtBlank G) : SplitsAtBlank fun ls => G (F ls) where
  ends h := hG.ends (hF.ends h)
  split ms h := by rw [hF.split ms h, hG.split _ (hF.ends h)]

/-- A pass splits at an empty line if it leaves the ends of statements and is as it was in the
beginning behind an end and an empty line. -/
lemma splitsAtBlank_emit {pass : Pass}
    (hpass : ∀ {c l}, c.Coherent → Line.isTerminated l = true →
      ∃ m r, pass.visit c l = ⟨l, some m, ⟨r, false⟩⟩ ∧ Line.isTerminated m = true ∧
        pass.visit ⟨r, false⟩ [] = ⟨[], some [], .start⟩) :
    SplitsAtBlank (pass.emit .start) where
  ends := by
    intro ls h
    obtain ⟨init, last, rfl, hlast⟩ := h.exists_concat
    have hcoherent : (pass.after .start init).Coherent :=
      Pass.coherent_after Cursor.coherent_start init
    obtain ⟨m, r, hvisit, hm, -⟩ := hpass hcoherent hlast
    rw [Pass.emit_append, Pass.emit_cons, hvisit]
    exact endsStatement_concat _ hm
  split := by
    intro ls ms h
    obtain ⟨init, last, rfl, hlast⟩ := h.exists_concat
    have hcoherent : (pass.after .start init).Coherent :=
      Pass.coherent_after Cursor.coherent_start init
    obtain ⟨m, r, hvisit, -, hblank⟩ := hpass hcoherent hlast
    rw [Pass.emit_append, Pass.emit_cons, Pass.after_append, Pass.after_cons, Pass.after_nil,
      hvisit, hblank]
    rfl

/-- Striking a clause splits at an empty line. -/
lemma splitsAtBlank_keptLines {opens : Text → Bool} (hblank : opens [] = false) :
    SplitsAtBlank (keptLines opens) := by
  refine splitsAtBlank_emit fun {c l} hc hl => ?_
  obtain ⟨m, hvisit, hm⟩ : ∃ m, (striking opens).visit c l = ⟨l, some m, .start⟩ ∧
      Line.isTerminated m = true := visit_striking_of_terminated hc hl
  exact ⟨m, .passing, hvisit, hm, visit_striking_blank hblank⟩

/-- Quoting column names splits at an empty line. -/
lemma splitsAtBlank_quotedLines : SplitsAtBlank quotedLines := by
  refine splitsAtBlank_emit fun _ hl => ?_
  obtain ⟨m, r, hvisit, hm⟩ := Column.visit_quoting_of_terminated hl
  exact ⟨m, r, hvisit, hm, Column.visit_quoting_blank r⟩

/-- Preparing headers splits at an empty line. -/
lemma splitsAtBlank_headerLines (flags : Flags) : SplitsAtBlank (headerLines flags) where
  ends := by
    intro ls h
    obtain ⟨init, last, rfl, hlast⟩ := h.exists_concat
    have hends : EndsStatement
        (preparedLines (flags.isOn .dropTable) (flags.isOn .ifNotExists) last) := by
      unfold preparedLines
      cases hp : Header.parse? last with
      | none => exact endsStatement_concat [] hlast
      | some p =>
        have hguarded : Line.isTerminated
            ((p.1.guardedIf (flags.isOn .ifNotExists)).render ++ p.2) =
              Line.isTerminated (p.1.name ++ p.2) :=
          isTerminated_render_append (parse?_guardedIf hp)
        have hplain := isTerminated_render_append hp
        rw [(Header.render_append_of_parse? hp).1, hlast] at hplain
        exact endsStatement_concat _ (hguarded.trans hplain.symm)
    obtain ⟨lines, end_, hlines, hend⟩ := hends.exists_concat
    rw [headerLines_append]
    unfold headerLines
    rw [List.flatMap_singleton, hlines, ← List.append_assoc]
    exact endsStatement_concat _ hend
  split := by
    intro ls ms _
    rw [headerLines_append]
    rfl

/-- Making a script replayable splits at an empty line. -/
theorem splitsAtBlank_replayableLines (flags : Flags) : SplitsAtBlank (replayableLines flags) :=
  replayableLines_induction flags SplitsAtBlank.comp (splitsAtBlank_headerLines flags)
    (fun _ h => splitsAtBlank_keptLines (opensClause_nil h)) splitsAtBlank_quotedLines

/-! ### Texts that end in a semicolon -/

/-- A text that ends in a semicolon. -/
def EndsInSemicolon (s : Text) : Prop :=
  s.getLast? = some ';'

/-- A statement that is terminated ends in a semicolon, if there is one. -/
lemma endsInSemicolon_of_terminate {s t : Text} (hne : s ≠ []) (hs : s = terminate t) :
    EndsInSemicolon s := by
  subst hs
  unfold EndsInSemicolon terminate at *
  simp only at hne ⊢
  split
  · next h =>
    rw [if_pos h] at hne
    simpa [hne] using h
  · exact List.getLast?_concat

/-- What is in front of the end of a text does not count. -/
lemma endsInSemicolon_append {s t : Text} (ht : t ≠ []) :
    EndsInSemicolon (s ++ t) ↔ EndsInSemicolon t := by
  unfold EndsInSemicolon
  rw [List.getLast?_append_of_ne_nil s ht]

/-- A text ends in a semicolon when its last line does. -/
lemma endsInSemicolon_ofLines_concat (init : List Text) (last : Text) :
    EndsInSemicolon (ofLines (init ++ [last])) ↔ EndsInSemicolon last :=
  getLast?_ofLines_concat (by decide) init last

/-- In a line that ends in a semicolon a statement ends. -/
lemma EndsInSemicolon.isTerminated {l : Text} (hl : EndsInSemicolon l) :
    Line.isTerminated l = true := by
  obtain ⟨front, rfl⟩ := List.getLast?_eq_some_iff.1 hl
  rw [Line.isTerminated_concat front (by decide)]
  decide

/-- In the last line of a text that ends in a semicolon a statement ends. -/
lemma EndsInSemicolon.endsStatement {s : Text} (hs : EndsInSemicolon s) :
    EndsStatement (lines s) := by
  obtain ⟨init, last, hlines⟩ :=
    (List.eq_nil_or_concat' (lines s)).resolve_left (lines_ne_nil s)
  rw [← ofLines_lines s, hlines, endsInSemicolon_ofLines_concat] at hs
  rw [hlines]
  exact endsStatement_concat init hs.isTerminated

/-- The parts of a script, with an empty line between each two of them. -/
def joinParts (parts : List Text) : Text :=
  "\n\n".toList.intercalate parts

/-- One part is a script. -/
@[simp]
lemma joinParts_singleton (s : Text) : joinParts [s] = s :=
  List.intercalate_singleton

/-- A part in front of other parts. -/
lemma joinParts_cons {s : Text} {parts : List Text} (hparts : parts ≠ []) :
    joinParts (s :: parts) = s ++ '\n' :: '\n' :: joinParts parts := by
  unfold joinParts
  rw [List.intercalate_cons_of_ne_nil hparts, List.append_assoc]
  rfl

/-- Where each part ends in a semicolon, the whole does. -/
lemma endsInSemicolon_joinParts {parts : List Text} (hne : parts ≠ [])
    (hparts : ∀ s ∈ parts, EndsInSemicolon s) : EndsInSemicolon (joinParts parts) := by
  induction parts with
  | nil => exact absurd rfl hne
  | cons s parts ih =>
    rcases eq_or_ne parts [] with rfl | hrest
    · rw [joinParts_singleton]
      exact hparts s List.mem_cons_self
    · have hjoined := ih hrest fun t ht => hparts t (List.mem_cons_of_mem s ht)
      unfold EndsInSemicolon at hjoined ⊢
      rw [joinParts_cons hrest, List.getLast?_append, List.getLast?_cons, List.getLast?_cons,
        hjoined]
      rfl

/-- A part and the text behind it are prepared apart. -/
lemma prepare_append {s t : Text} (flags : Flags) (hs : EndsInSemicolon s)
    (ht : EndsInSemicolon t) :
    prepare flags (s ++ '\n' :: '\n' :: t) =
      prepare flags s ++ '\n' :: '\n' :: prepare flags t := by
  have hsplits := splitsAtBlank_replayableLines flags
  have hne : ∀ {u : Text}, EndsInSemicolon u → replayableLines flags (lines u) ≠ [] := by
    intro u hu hnil
    obtain ⟨last, hlast, -⟩ := hsplits.ends hu.endsStatement
    rw [hnil] at hlast
    exact absurd (Option.mem_def.1 hlast).symm (Option.some_ne_none last)
  have hsep : lines (s ++ '\n' :: '\n' :: t) = lines s ++ [] :: lines t := by
    rw [lines_append_newline, lines_cons, if_pos rfl]
  rw [prepare_eq_ofLines, prepare_eq_ofLines flags s, prepare_eq_ofLines flags t, hsep,
    hsplits.split _ hs.endsStatement, ofLines_append (hne hs) (List.cons_ne_nil _ _),
    ofLines_cons (hne ht)]
  rfl

/-! ### Refusing scripts -/

/-- A semicolon parts the statements on its two sides. -/
lemma statementTexts_append_cons (s t : Text) :
    statementTexts (s ++ ';' :: t) = statementTexts s ++ statementTexts t := by
  have hwithout : without (s ++ ';' :: t) '\n' = without s '\n' ++ ';' :: without t '\n' := by
    simp [without]
  unfold statementTexts
  rw [hwithout, List.splitOn_append_cons_self]

/-- The statements of a part that ends in a semicolon, and of the text behind it. -/
lemma exists_statementTexts_append {s : Text} (hs : EndsInSemicolon s) :
    ∃ texts, ∀ t, statementTexts (s ++ t) = texts ++ statementTexts t := by
  obtain ⟨front, rfl⟩ := List.getLast?_eq_some_iff.1 hs
  refine ⟨statementTexts front, fun t => ?_⟩
  rw [List.append_assoc, List.singleton_append, statementTexts_append_cons]

/-- A part is refused before what stands behind it. -/
lemma requireRecognised_append {s : Text} (hs : EndsInSemicolon s) (t : Text) :
    requireRecognised (s ++ '\n' :: '\n' :: t) =
      (requireRecognised s).bind fun _ => requireRecognised t := by
  obtain ⟨texts, htexts⟩ := exists_statementTexts_append hs
  have hbehind : statementTexts ('\n' :: '\n' :: t) = statementTexts t := rfl
  have halone : statementTexts s = texts ++ [[]] := by
    have hnil := htexts []
    rwa [List.append_nil] at hnil
  have hempty : (Statement.parse []).isUnrecognised = false := by decide
  unfold requireRecognised
  rw [htexts, hbehind, halone, List.find?_append, List.find?_append, List.find?_singleton,
    hempty]
  cases texts.find? fun t => (Statement.parse t).isUnrecognised <;> rfl

/-- A part and the text behind it are made replayable apart, the part first. -/
lemma replayable_append {s t : Text} (flags : Flags) (hs : EndsInSemicolon s)
    (ht : EndsInSemicolon t) :
    replayable flags (s ++ '\n' :: '\n' :: t) =
      (replayable flags s).bind fun a =>
        (replayable flags t).map fun b => a ++ '\n' :: '\n' :: b := by
  unfold replayable
  rw [prepare_append flags hs ht]
  cases flags.isOn .strict with
  | false => rfl
  | true =>
    rw [if_pos rfl, if_pos rfl, if_pos rfl, requireRecognised_append hs t]
    cases requireRecognised s with
    | error e => rfl
    | ok _ => cases requireRecognised t <;> rfl

/-- Nothing becomes of nothing, and nothing is refused. -/
lemma replayable_nil (flags : Flags) : replayable flags [] = .ok [] := by
  have hprepare : prepare flags [] = [] := by
    have hlines := (lineByLine_prepare flags [] (by simp)).1
    rwa [replayableLines_nil] at hlines
  unfold replayable
  rw [hprepare]
  cases flags.isOn .strict <;> rfl

/-- Parts that end in semicolons are made replayable one by one. -/
lemma replayable_joinParts_eq_mapM (flags : Flags) {parts : List Text}
    (hparts : ∀ s ∈ parts, EndsInSemicolon s) :
    replayable flags (joinParts parts) = (parts.mapM (replayable flags)).map joinParts := by
  induction parts with
  | nil => exact replayable_nil flags
  | cons s parts ih =>
    have hs := hparts s List.mem_cons_self
    have hrest : ∀ t ∈ parts, EndsInSemicolon t := fun t ht => hparts t (List.mem_cons_of_mem s ht)
    have hjoined : replayable flags (joinParts (s :: parts)) =
        (replayable flags s).bind fun a =>
          (parts.mapM (replayable flags)).map fun bs => joinParts (a :: bs) := by
      rcases eq_or_ne parts [] with rfl | hne
      · rw [joinParts_singleton]
        cases replayable flags s with
        | error e => rfl
        | ok a => exact congrArg Except.ok (joinParts_singleton a).symm
      · rw [joinParts_cons hne, replayable_append flags hs (endsInSemicolon_joinParts hne hrest),
          ih hrest]
        cases hresults : parts.mapM (replayable flags) with
        | error e => rfl
        | ok bs =>
          have hbs : bs ≠ [] := by
            have hlength := length_of_mapM_eq_ok hresults
            exact List.ne_nil_of_length_pos (hlength ▸ List.length_pos_iff.2 hne)
          simp only [Except.map, joinParts_cons hbs]
    rw [hjoined]
    cases hreplayable : replayable flags s with
    | error e =>
      rw [mapM_cons_of_error hreplayable]
      rfl
    | ok a =>
      rw [mapM_cons_of_ok hreplayable]
      cases parts.mapM (replayable flags) <;> rfl

/-- The parts of a script are made replayable independently of each other: the result is made of
what becomes of each part alone, and the script is refused exactly when a part is, as the first such
part is. -/
theorem replayable_joinParts (flags : Flags) {parts : List Text}
    (hparts : ∀ s ∈ parts, s ≠ [] ∧ ∃ t, s = terminate t) :
    replayable flags (joinParts parts) = (parts.mapM (replayable flags)).map joinParts ∧
    ∀ e, replayable flags (joinParts parts) = .error e ↔
      ∃ before s after, parts = before ++ s :: after ∧
        (∀ b ∈ before, ∃ out, replayable flags b = .ok out) ∧ replayable flags s = .error e := by
  have hends : ∀ s ∈ parts, EndsInSemicolon s := by
    intro s hs
    obtain ⟨hne, t, ht⟩ := hparts s hs
    exact endsInSemicolon_of_terminate hne ht
  have hjoined := replayable_joinParts_eq_mapM flags hends
  refine ⟨hjoined, fun e => ?_⟩
  rw [hjoined, ← mapM_eq_error_iff]
  cases parts.mapM (replayable flags) <;> simp [Except.map]

/-- A table that ends in the middle of a struck clause, a statement in small letters, and a table
that would go on with either. -/
theorem replayable_joinParts_openClause :
    let flags := Flags.ofList [.ifNotExists, .suppressLocation]
    let parts := ["CREATE TABLE t(\n  a int)\nLOCATION\n  '/t';", "create view v as select 1;",
      "  b int\nCREATE TABLE u(\n  c int);"].map String.toList
    (∀ s ∈ parts, s ≠ [] ∧ ∃ t, s = terminate t) ∧
    replayable flags (joinParts parts) =
      .ok (joinParts (["CREATE TABLE IF NOT EXISTS t(\n  \x60a\x60 int)\n;",
        "create view v as select 1;",
        "  b int\nCREATE TABLE IF NOT EXISTS u(\n  \x60c\x60 int);"].map String.toList)) := by
  intro flags parts
  have hparts : ∀ s ∈ parts, s ≠ [] ∧ ∃ t, s = terminate t := by
    intro s hs
    have hterminated : ∀ s ∈ parts, s ≠ [] ∧ s = terminate s := by decide +kernel
    exact ⟨(hterminated s hs).1, s, (hterminated s hs).2⟩
  refine ⟨hparts, (replayable_joinParts flags hparts).1.trans ?_⟩
  have hreplayable : replayable flags = fun s =>
      .ok (ofLines (replayableLines flags (lines s))) := by
    funext s
    exact congrArg Except.ok (prepare_eq_ofLines flags s)
  rw [hreplayable]
  decide +kernel

end DdlDump
