import DdlDump.Proofs.Ddl.Replay

/-!
# Statements that are copied

A statement that sets out to create something without a header is copied through every stage, line
for line, and keeps what stands before it apart from what stands behind it
(`replayable_around_copiedStatement`). Its first line puts every pass back into the initial region,
in whatever clause, list of columns or other copied statement the pass may be; its last line ends
the copying and nothing else. Since each stage gives the block back unchanged, the next stage meets
the same block again.
-/

namespace DdlDump

open Text

/-- The lines of a statement that is copied: it opens without a header, no line of it is a header,
and it ends in its last line and not before. -/
structure IsCopiedStatement (block : List Text) : Prop where
  isLine : ∀ l ∈ block, IsLine l
  unrecognised : ∃ first ∈ block.head?, (Statement.parse first).isUnrecognised = true
  noHeader : ∀ l ∈ block, (Statement.parse l).header? = none
  unfinished : ∀ l ∈ block.dropLast, Line.isTerminated l = false
  finished : ∃ last ∈ block.getLast?, Line.isTerminated last = true

/-- A line without a header, read as a statement, does not open with one. -/
lemma opening_ne_recognised {l : Text} (hl : (Statement.parse l).header? = none) :
    Line.opening l ≠ .recognised := by
  intro h
  rw [Line.opening_eq_recognised_iff, Option.isSome_iff_exists] at h
  obtain ⟨p, hp⟩ := h
  unfold Statement.parse at hl
  rw [hp] at hl
  exact absurd hl (Option.some_ne_none p.1)

namespace Pass

variable {pass : Pass}

/-- While a statement is copied, a line that is no header is put out. -/
lemma visit_copied {l : Text} (hl : Line.opening l ≠ .recognised) :
    pass.visit ⟨.passing, true⟩ l = ⟨l, some l, ⟨.passing, !Line.isTerminated l⟩⟩ := by
  cases ho : Line.opening l with
  | recognised => exact absurd ho hl
  | unrecognised => exact visit_of_unrecognised ho
  | inner => exact visit_of_inner ho

/-- Copying goes on up to the line in which the statement ends, and then the pass is as it was in
the beginning. -/
lemma emit_copied {block : List Text} (hheader : ∀ l ∈ block, Line.opening l ≠ .recognised)
    (hunfinished : ∀ l ∈ block.dropLast, Line.isTerminated l = false)
    (hfinished : ∃ last ∈ block.getLast?, Line.isTerminated last = true) (post : List Text) :
    pass.emit ⟨.passing, true⟩ (block ++ post) = block ++ pass.emit .start post := by
  induction block with
  | nil =>
    obtain ⟨last, hlast, -⟩ := hfinished
    simp at hlast
  | cons l block ih =>
    have hvisit : pass.visit ⟨.passing, true⟩ l = ⟨l, some l, ⟨.passing, !Line.isTerminated l⟩⟩ :=
      visit_copied (hheader l List.mem_cons_self)
    rw [List.cons_append, emit_cons, hvisit]
    rcases eq_or_ne block [] with rfl | hne
    · have hl : Line.isTerminated l = true := by simpa using hfinished
      rw [hl]
      rfl
    · have hl : Line.isTerminated l = false := by
        refine hunfinished l ?_
        rw [List.dropLast_cons_of_ne_nil hne]
        exact List.mem_cons_self
      have hrest : pass.emit ⟨.passing, true⟩ (block ++ post) = block ++ pass.emit .start post := by
        refine ih (fun k hk => hheader k (List.mem_cons_of_mem l hk)) (fun k hk => ?_) ?_
        · refine hunfinished k ?_
          rw [List.dropLast_cons_of_ne_nil hne]
          exact List.mem_cons_of_mem l hk
        · rwa [List.getLast?_cons_of_ne_nil hne] at hfinished
      rw [hl]
      exact congrArg (l :: ·) hrest

end Pass

/-- A change of lines that copies such a statement and treats what stands before it and what stands
behind it apart. -/
def CopiesStatements (onLines : List Text → List Text) : Prop :=
  ∀ pre block post, IsCopiedStatement block →
    onLines (pre ++ (block ++ post)) = onLines pre ++ (block ++ onLines post)

/-- Two changes that copy statements do so one after the other. -/
lemma CopiesStatements.comp {F G : List Text → List Text} (hF : CopiesStatements F)
    (hG : CopiesStatements G) : CopiesStatements fun ls => G (F ls) := by
  intro pre block post hblock
  simp only [hF pre block post hblock, hG _ block _ hblock]

/-- Every pass copies statements. -/
lemma copiesStatements_emit (pass : Pass) : CopiesStatements (pass.emit .start) := by
  intro pre block post hblock
  have hheader : ∀ l ∈ block, Line.opening l ≠ .recognised :=
    fun l hl => opening_ne_recognised (hblock.noHeader l hl)
  have hcopied : pass.emit ⟨.passing, true⟩ (block ++ post) = block ++ pass.emit .start post :=
    Pass.emit_copied hheader hblock.unfinished hblock.finished post
  obtain ⟨first, hfirst, hopens⟩ := hblock.unrecognised
  obtain ⟨rest, rfl⟩ : ∃ rest, block = first :: rest :=
    List.head?_eq_some_iff.1 (Option.mem_def.1 hfirst)
  have hopening : Line.opening first = .unrecognised := Line.opening_eq_unrecognised_iff.2 hopens
  -- The first line makes the cursor that `pre` leaves behind irrelevant.
  have hreset : pass.emit (pass.after .start pre) (first :: rest ++ post) =
      pass.emit ⟨.passing, true⟩ (first :: rest ++ post) := by
    rw [List.cons_append, Pass.emit_cons, Pass.emit_cons, Pass.visit_of_unrecognised hopening,
      Pass.visit_of_unrecognised hopening]
  rw [Pass.emit_append, hreset, hcopied]

/-- Preparing headers copies statements that have none. -/
lemma copiesStatements_headerLines (flags : Flags) : CopiesStatements (headerLines flags) := by
  intro pre block post hblock
  have hsame : headerLines flags block = block :=
    headerLines_of_parse?_eq_none flags fun l hl =>
      Line.parse?_eq_none_of_opening (opening_ne_recognised (hblock.noHeader l hl))
  rw [headerLines_append, headerLines_append, hsame]

/-- Making a script replayable copies statements. -/
theorem copiesStatements_replayableLines (flags : Flags) :
    CopiesStatements (replayableLines flags) :=
  replayableLines_induction flags CopiesStatements.comp (copiesStatements_headerLines flags)
    (fun _ _ => copiesStatements_emit _) (copiesStatements_emit _)

/-- A copied statement stands unchanged in the replayable script, between the lines that become of
what precedes it and the lines that become of what follows it, each as it is made replayable on its
own. Where nothing is left of one of them, it contributes no line. -/
theorem replayable_around_copiedStatement {flags : Flags} (hstrict : flags.isOn .strict = false)
    {pre block post : List Text} (hpre : ∀ l ∈ pre, IsLine l) (hpost : ∀ l ∈ post, IsLine l)
    (hblock : IsCopiedStatement block) :
    replayable flags (ofLines pre) = .ok (ofLines (replayableLines flags pre)) ∧
    replayable flags (ofLines post) = .ok (ofLines (replayableLines flags post)) ∧
    ∃ script, replayable flags (ofLines (pre ++ (block ++ post))) = .ok script ∧
      lines script = replayableLines flags pre ++ (block ++ replayableLines flags post) := by
  have hlenient : ∀ ls, (∀ l ∈ ls, IsLine l) →
      replayable flags (ofLines ls) = .ok (ofLines (replayableLines flags ls)) := by
    intro ls hls
    unfold replayable
    rw [hstrict, (lineByLine_prepare flags ls hls).1]
    rfl
  have hall : ∀ l ∈ pre ++ (block ++ post), IsLine l := by
    intro l hl
    rcases List.mem_append.1 hl with hl | hl
    · exact hpre l hl
    · rcases List.mem_append.1 hl with hl | hl
      · exact hblock.isLine l hl
      · exact hpost l hl
  refine ⟨hlenient pre hpre, hlenient post hpost, _, hlenient _ hall, ?_⟩
  have hne : replayableLines flags pre ++ (block ++ replayableLines flags post) ≠ [] := by
    obtain ⟨first, hfirst, -⟩ := hblock.unrecognised
    have hmem : first ∈ block := List.mem_of_mem_head? hfirst
    exact List.append_ne_nil_of_right_ne_nil _
      (List.append_ne_nil_of_left_ne_nil (List.ne_nil_of_mem hmem) _)
  have hresult := (lineByLine_prepare flags _ hall).2
  rw [copiesStatements_replayableLines flags pre block post hblock] at hresult ⊢
  exact lines_ofLines hne hresult

/-- A statement in small letters stands between a table whose last clause is cut off and the rest of
a clause that nothing opens. -/
theorem replayable_around_smallLetters :
    let flags := Flags.ofList [.dropTable, .suppressLocation]
    let pre := ["CREATE TABLE t(", "  a int)", "LOCATION"].map String.toList
    let block := ["create table u(", "  b int)", "LOCATION '/u';"].map String.toList
    let post := ["  '/v';", "CREATE VIEW v AS SELECT 1;"].map String.toList
    flags.isOn .strict = false ∧ (∀ l ∈ pre, IsLine l) ∧ (∀ l ∈ post, IsLine l) ∧
    IsCopiedStatement block ∧
    ∃ script, replayable flags (ofLines (pre ++ (block ++ post))) = .ok script ∧
      lines script =
        ["DROP TABLE t;", "", "CREATE TABLE t(", "  \x60a\x60 int)",
          "create table u(", "  b int)", "LOCATION '/u';",
          "  '/v';", "DROP VIEW v;", "", "CREATE VIEW v AS SELECT 1;"].map String.toList := by
  intro flags pre block post
  have hstrict : flags.isOn .strict = false := by decide
  have hpre : ∀ l ∈ pre, IsLine l := by decide
  have hpost : ∀ l ∈ post, IsLine l := by decide
  have hblock : IsCopiedStatement block :=
    ⟨by decide, ⟨_, rfl, by decide⟩, by decide, by decide, ⟨_, rfl, by decide⟩⟩
  obtain ⟨-, -, script, hscript, hlines⟩ :=
    replayable_around_copiedStatement hstrict hpre hpost hblock
  exact ⟨hstrict, hpre, hpost, hblock, script, hscript, hlines.trans (by decide +kernel)⟩

end DdlDump
