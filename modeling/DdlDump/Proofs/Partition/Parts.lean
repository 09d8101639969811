import DdlDump.Partition
import DdlDump.Proofs.Ddl.Separation

/-!
# The partitioned tables of a script of several parts

Which tables of a script have partitions is found out from the replayable script as a whole, with
its line feeds deleted and cut at its semicolons. Nevertheless it is settled part by part
(`partitionedNames_joinParts`): a part that ends in a semicolon still does when it is made
replayable (`endsInSemicolon_prepare`), so that no piece reaches from one part into the next.
-/

namespace DdlDump

open Text

/-! ### The end of a replayable script -/

/-- Lines of which the last one ends in a semicolon. -/
def LastEndsInSemicolon (ls : List Text) : Prop :=
  ∃ init last, ls = init ++ [last] ∧ EndsInSemicolon last

/-- A pass that puts out a semicolon at the end of a line for one leaves it at the end of lines. -/
lemma lastEndsInSemicolon_emit {pass : Pass}
    (hpass : ∀ {r l}, EndsInSemicolon l → ∃ m, (pass r l).1 = some m ∧ EndsInSemicolon m)
    {ls : List Text} (hls : LastEndsInSemicolon ls) :
    LastEndsInSemicolon (pass.emit .start ls) := by
  obtain ⟨init, last, rfl, hlast⟩ := hls
  have hvisit : ∀ c : Cursor, ∃ m, (pass.visit c last).output? = some m ∧ EndsInSemicolon m := by
    intro c
    cases hskip : (c.enter last).skipping with
    | true => exact ⟨last, by rw [Pass.visit_of_skipping hskip], hlast⟩
    | false =>
      rw [Pass.visit_of_not_skipping hskip]
      exact hpass hlast
  obtain ⟨m, hout, hm⟩ := hvisit (pass.after .start init)
  refine ⟨pass.emit .start init, m, ?_, hm⟩
  rw [Pass.emit_append, Pass.emit_cons, hout, Pass.emit_nil]
  rfl

/-- Preparing headers changes nothing at the end of a line. -/
lemma lastEndsInSemicolon_headerLines (flags : Flags) {ls : List Text}
    (hls : LastEndsInSemicolon ls) : LastEndsInSemicolon (headerLines flags ls) := by
  obtain ⟨init, last, rfl, hlast⟩ := hls
  rw [headerLines_append]
  unfold headerLines preparedLines
  rw [List.flatMap_singleton]
  cases hp : Header.parse? last with
  | none => exact ⟨_, last, rfl, hlast⟩
  | some p =>
    obtain ⟨hrender, hname⟩ := Header.render_append_of_parse? hp
    have hbehind : p.1.name ++ p.2 ≠ [] := List.append_ne_nil_of_left_ne_nil hname _
    have hsame : ∀ h : Header, h.name = p.1.name →
        (EndsInSemicolon (h.render ++ p.2) ↔ EndsInSemicolon (p.1.name ++ p.2)) := by
      intro h hh
      unfold Header.render
      rw [hh, List.append_assoc, List.append_assoc, ← List.append_assoc]
      exact endsInSemicolon_append hbehind
    rw [← hrender, hsame p.1 rfl] at hlast
    refine ⟨_, _, (List.append_assoc _ _ _).symm, ?_⟩
    exact (hsame (p.1.guardedIf _) rfl).2 hlast

/-- Nor does quoting a name. -/
lemma endsInSemicolon_quoteName {l : Text} (hl : EndsInSemicolon l) :
    EndsInSemicolon (Column.quoteName l) := by
  rcases Column.quoteName_cases l with h | ⟨indent, name, rest, hnames, h⟩
  · rwa [h]
  · have hrest : rest ≠ [] := by
      rintro rfl
      have hends := hl.isTerminated
      rw [hnames.cut, List.append_nil,
        Column.isTerminated_append_word hnames.isWord.1 hnames.isWord.2] at hends
      exact absurd hends (by decide)
    rw [hnames.cut, ← List.append_assoc, endsInSemicolon_append hrest] at hl
    have hsplit : indent ++ Column.quote :: (name ++ Column.quote :: rest) =
        (indent ++ Column.quote :: (name ++ [Column.quote])) ++ rest := by simp
    rw [h, hsplit]
    exact (endsInSemicolon_append hrest).2 hl

/-- A script that ends in a semicolon ends in one when it is made replayable. -/
theorem endsInSemicolon_prepare (flags : Flags) {script : Text} (hscript : EndsInSemicolon script) :
    EndsInSemicolon (prepare flags script) := by
  have hstages : ∀ {ls}, LastEndsInSemicolon ls →
      LastEndsInSemicolon (replayableLines flags ls) := by
    refine replayableLines_induction
      (P := fun F => ∀ {ls}, LastEndsInSemicolon ls → LastEndsInSemicolon (F ls)) flags ?_
      (lastEndsInSemicolon_headerLines flags) ?_ ?_
    · exact fun hF hG _ hls => hG (hF hls)
    · refine fun clause _ _ hls => lastEndsInSemicolon_emit (fun {r l} hl => ?_) hls
      rcases striking_cases (opensClause clause) r l with h | ⟨-, h⟩ | ⟨hopen, -⟩
      · exact ⟨l, by rw [h], hl⟩
      · exact ⟨[';'], by rw [h], rfl⟩
      · rw [hl.isTerminated] at hopen
        exact absurd hopen (by decide)
    · refine fun hls => lastEndsInSemicolon_emit (fun {r l} hl => ?_) hls
      rcases Column.quoting_cases r l with h | ⟨-, -, -, h⟩
      · exact ⟨l, h, hl⟩
      · exact ⟨_, by rw [h], endsInSemicolon_quoteName hl⟩
  obtain ⟨init, last, hlines⟩ :=
    (List.eq_nil_or_concat' (lines script)).resolve_left (lines_ne_nil script)
  rw [← ofLines_lines script, hlines, endsInSemicolon_ofLines_concat] at hscript
  obtain ⟨init', last', hlines', hlast'⟩ := hstages ⟨init, last, hlines, hscript⟩
  rw [prepare_eq_ofLines, hlines', endsInSemicolon_ofLines_concat]
  exact hlast'

/-! ### Part by part -/

/-- The partitioned tables on the two sides of a semicolon. -/
lemma partitionedNames_append_cons (s t : Text) :
    partitionedNames (s ++ ';' :: t) = partitionedNames s ++ partitionedNames t := by
  unfold partitionedNames
  rw [statementTexts_append_cons, List.filterMap_append]

/-- The partitioned tables of a part and of the text behind it. -/
lemma partitionedNames_append {s : Text} (hs : EndsInSemicolon s) (t : Text) :
    partitionedNames (s ++ '\n' :: '\n' :: t) = partitionedNames s ++ partitionedNames t := by
  have hbehind : partitionedNames ('\n' :: '\n' :: t) = partitionedNames t := rfl
  have hnone : partitionedNames [] = [] := by decide
  obtain ⟨front, rfl⟩ := List.getLast?_eq_some_iff.1 hs
  rw [List.append_assoc, List.singleton_append, partitionedNames_append_cons,
    partitionedNames_append_cons front [], hbehind, hnone, List.append_nil]

/-- The partitioned tables of a script are those of its parts, one part after the other. -/
theorem partitionedNames_joinParts {parts : List Text} (hparts : ∀ s ∈ parts, EndsInSemicolon s) :
    partitionedNames (joinParts parts) = parts.flatMap partitionedNames := by
  induction parts with
  | nil => decide
  | cons s parts ih =>
    rw [List.forall_mem_cons] at hparts
    rcases eq_or_ne parts [] with rfl | hne
    · rw [joinParts_singleton, List.flatMap_singleton]
    · rw [joinParts_cons hne, partitionedNames_append hparts.1, ih hparts.2, List.flatMap_cons]

/-! ### Names of partitioned tables -/

/-- The name of a partitioned table has neither semicolons nor line feeds: it is taken from one
statement of a script, without line feeds. -/
lemma not_mem_of_mem_partitionedNames {script name : Text}
    (hname : name ∈ partitionedNames script) : ';' ∉ name ∧ '\n' ∉ name := by
  obtain ⟨t, ht, hread⟩ := List.mem_filterMap.1 hname
  have hsub : ∀ c ∈ name, c ∈ t := by
    intro c hc
    simp only at hread
    split at hread
    · obtain ⟨h, hh, rfl⟩ := Option.map_eq_some_iff.1 hread
      obtain ⟨p, hp, rfl⟩ := Option.map_eq_some_iff.1 hh
      rw [← (Header.render_append_of_parse? hp).1]
      unfold Header.render
      unfold unquote without at hc
      simp [(List.mem_filter.1 hc).1]
    · exact absurd hread.symm (Option.some_ne_none name)
  have hsemicolon : ';' ∉ t := not_mem_of_mem_splitOn ht
  have hnewline : '\n' ∉ t := by
    intro hmem
    have hwithout := mem_of_mem_splitOn ht hmem
    unfold without at hwithout
    simp at hwithout
  exact ⟨fun h => hsemicolon (hsub _ h), fun h => hnewline (hsub _ h)⟩

end DdlDump
