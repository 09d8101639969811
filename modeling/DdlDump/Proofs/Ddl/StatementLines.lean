import DdlDump.Proofs.Ddl.Clause
import DdlDump.Proofs.Ddl.Column
import DdlDump.Proofs.Ddl.CopiedStatement

/-!
# Statements of several lines

A script is made of statements and of blank lines between them. A statement goes on over several
lines, and only the first of them can be a header. Where a statement ends, no pass is copying, so
that what becomes of a statement does not depend on those in front of it
(`Pass.skipping_after_blocks`).

Within a statement a pass goes by the lines: it begins to copy at the first line that sets out to
create something without a header, whichever line of the statement that is, and copies up to the
end (`Pass.copies_eq_any`). Hence all lines of a statement are treated as its first line
asks for exactly when the first line is such a line or none of them is (`copies_within_statement`).
A column with a name like `created_at` is enough for a table that is copied from that column on.
-/

namespace DdlDump

open Text

/-! ### Statements and the lines between them -/

/-- The lines of a statement: it ends in the last line and not before, and only the first line can
be a header. -/
structure IsStatement (block : List Text) : Prop where
  unfinished : ∀ l ∈ block.dropLast, Line.isTerminated l = false
  finished : ∃ last ∈ block.getLast?, Line.isTerminated last = true
  inner : ∀ l ∈ block.tail, (Statement.parse l).header? = none

/-- Lines on which nothing is visible. -/
def IsGap (block : List Text) : Prop :=
  ∀ l ∈ block, l.all isBlank = true

/-- Whether a line sets out to create something without a header. -/
def isUnrecognisedLine (l : Text) : Bool :=
  (Statement.parse l).isUnrecognised

/-- A line of which nothing is visible opens nothing. -/
lemma opening_of_blank {l : Text} (hl : l.all isBlank = true) : Line.opening l = .inner := by
  have hnothing : trimLeft l = [] := by
    unfold trimLeft
    rw [List.dropWhile_eq_nil_iff]
    exact List.all_eq_true.1 hl
  rw [Line.opening_eq_inner_iff]
  unfold Statement.startsWithCreate
  rw [hnothing]
  decide

namespace IsStatement

variable {block pre post : List Text} {l : Text}

/-- No statement ends in front of a line of the same statement. -/
lemma unfinished_before (h : IsStatement (pre ++ l :: post)) :
    ∀ k ∈ pre, Line.isTerminated k = false := by
  intro k hk
  apply h.unfinished
  rw [List.dropLast_append_of_ne_nil (List.cons_ne_nil l post)]
  exact List.mem_append_left _ hk

/-- A line behind another one of the same statement is no header. -/
lemma opening_ne_recognised_of_mem_tail (h : IsStatement block) (hl : l ∈ block.tail) :
    Line.opening l ≠ .recognised :=
  opening_ne_recognised (h.inner l hl)

end IsStatement

/-! ### Where copying begins and ends -/

namespace Pass

variable {pass : Pass} {c : Cursor} {l : Text}

/-- Copying goes on into a line that is no header, and begins in one that is unrecognised. -/
lemma skipping_enter_of_ne_recognised (hl : Line.opening l ≠ .recognised) :
    (c.enter l).skipping = (c.skipping || isUnrecognisedLine l) := by
  unfold Cursor.enter isUnrecognisedLine
  cases ho : Line.opening l with
  | recognised => exact absurd ho hl
  | unrecognised => rw [Line.opening_eq_unrecognised_iff.1 ho, Bool.or_true]
  | inner =>
    have hnot : (Statement.parse l).isUnrecognised = false := by
      rw [← Bool.not_eq_true, ← Line.opening_eq_unrecognised_iff, ho]
      decide
    rw [hnot, Bool.or_false]

/-- Where nothing is copied, only an unrecognised line changes that. -/
lemma skipping_enter_of_not_skipping (hc : c.skipping = false) :
    (c.enter l).skipping = isUnrecognisedLine l := by
  by_cases hl : Line.opening l = .recognised
  · have hnot : isUnrecognisedLine l = false := by
      unfold isUnrecognisedLine
      rw [← Bool.not_eq_true, ← Line.opening_eq_unrecognised_iff, hl]
      decide
    unfold Cursor.enter
    rw [hl, hnot]
  · rw [skipping_enter_of_ne_recognised hl, hc, Bool.false_or]

/-- Within a statement copying begins at the first unrecognised line and goes on. -/
lemma skipping_after_inner {ls : List Text} (hheader : ∀ l ∈ ls, Line.opening l ≠ .recognised)
    (hopen : ∀ l ∈ ls, Line.isTerminated l = false) :
    (pass.after c ls).skipping = (c.skipping || ls.any isUnrecognisedLine) := by
  induction ls generalizing c with
  | nil => simp
  | cons l ls ih =>
    rw [List.forall_mem_cons] at hheader hopen
    rw [after_cons, ih hheader.2 hopen.2, skipping_visit, skipping_enter_of_ne_recognised hheader.1,
      hopen.1, Bool.not_false, Bool.and_true, List.any_cons, Bool.or_assoc]

/-- The same from the first line on, which can be a header. -/
lemma skipping_after_unfinished {ls : List Text} (hc : c.skipping = false)
    (hheader : ∀ l ∈ ls.tail, Line.opening l ≠ .recognised)
    (hopen : ∀ l ∈ ls, Line.isTerminated l = false) :
    (pass.after c ls).skipping = ls.any isUnrecognisedLine := by
  cases ls with
  | nil => exact hc
  | cons l ls =>
    rw [List.forall_mem_cons] at hopen
    rw [List.tail_cons] at hheader
    rw [after_cons, skipping_after_inner hheader hopen.2, skipping_visit,
      skipping_enter_of_not_skipping hc, hopen.1, Bool.not_false, Bool.and_true, List.any_cons]

/-- Where a statement ends, copying ends. -/
lemma skipping_after_concat (front : List Text) (hl : Line.isTerminated l = true) :
    (pass.after c (front ++ [l])).skipping = false := by
  rw [after_append, after_cons, after_nil, skipping_visit, hl, Bool.not_true, Bool.and_false]

/-- Behind a statement nothing is copied. -/
lemma skipping_after_statement {block : List Text} (hblock : IsStatement block) :
    (pass.after c block).skipping = false := by
  obtain ⟨last, hlast, hends⟩ := hblock.finished
  obtain ⟨front, rfl⟩ := List.getLast?_eq_some_iff.1 (Option.mem_def.1 hlast)
  exact skipping_after_concat front hends

/-- Copying does not begin by itself. -/
lemma skipping_after_of_opening {ls : List Text} (hc : c.skipping = false)
    (hopening : ∀ l ∈ ls, Line.opening l ≠ .unrecognised) :
    (pass.after c ls).skipping = false := by
  induction ls generalizing c with
  | nil => exact hc
  | cons l ls ih =>
    rw [List.forall_mem_cons] at hopening
    apply ih ?_ hopening.2
    rw [skipping_visit, Cursor.skipping_enter hc hopening.1, Bool.false_and]

/-- Behind statements and blank lines nothing is copied. -/
theorem skipping_after_blocks {blocks : List (List Text)} (hc : c.skipping = false)
    (hblocks : ∀ b ∈ blocks, IsStatement b ∨ IsGap b) :
    (pass.after c blocks.flatten).skipping = false := by
  induction blocks generalizing c with
  | nil => exact hc
  | cons b blocks ih =>
    rw [List.forall_mem_cons] at hblocks
    rw [List.flatten_cons, after_append]
    apply ih ?_ hblocks.2
    rcases hblocks.1 with hstatement | hgap
    · exact skipping_after_statement hstatement
    · apply skipping_after_of_opening hc
      intro l hl
      rw [opening_of_blank (hgap l hl)]
      decide

/-! ### One line of a statement -/

/-- Whether a pass copies a line that stands behind others. -/
def copies (pass : Pass) (front : List Text) (l : Text) : Bool :=
  ((pass.after .start front).enter l).skipping

/-- What a pass puts out for a line that stands behind others. -/
def putsOut? (pass : Pass) (front : List Text) (l : Text) : Option Text :=
  (pass.visit (pass.after .start front) l).output?

section Within

variable {before : List (List Text)} {pre post : List Text}

/-- A line of a statement is copied when it or a line in front of it in the same statement is
unrecognised. -/
theorem copies_eq_any (hbefore : ∀ b ∈ before, IsStatement b ∨ IsGap b)
    (hstatement : IsStatement (pre ++ l :: post)) :
    pass.copies (before.flatten ++ pre) l = (pre ++ [l]).any isUnrecognisedLine := by
  have hstart : (pass.after .start before.flatten).skipping = false :=
    skipping_after_blocks rfl hbefore
  unfold copies
  rw [after_append]
  cases pre with
  | nil => simp [skipping_enter_of_not_skipping hstart]
  | cons first pre =>
    have htail : (first :: pre ++ l :: post).tail = pre ++ l :: post := rfl
    have hl : Line.opening l ≠ .recognised := by
      apply hstatement.opening_ne_recognised_of_mem_tail
      rw [htail]
      exact List.mem_append_right _ List.mem_cons_self
    have hpre : ∀ k ∈ (first :: pre).tail, Line.opening k ≠ .recognised := by
      intro k hk
      apply hstatement.opening_ne_recognised_of_mem_tail
      rw [htail]
      exact List.mem_append_left _ hk
    rw [skipping_enter_of_ne_recognised hl,
      skipping_after_unfinished hstart hpre hstatement.unfinished_before, List.any_append]
    simp

end Within

end Pass

/-! ### Regions of a statement -/

/-- The last of some lines is in a region that `opens` tells: it opens the region, or it continues
one by its indentation. -/
def IsInRegion (opens : Text → Bool) (ls : List Text) : Prop :=
  ∃ pre first rest, ls = pre ++ first :: rest ∧ opens first = true ∧
    ∀ l ∈ rest, Line.isIndented l = true

namespace Pass

variable {pass : Pass} {c : Cursor} {opens : Text → Bool} {region : Region}

/-- A pass stays in a region when no line takes it out. -/
lemma after_of_stays {ls : List Text} (hopening : ∀ l ∈ ls, Line.opening l ≠ .unrecognised)
    (hstays : ∀ l ∈ ls, (pass region l).2 = region) :
    pass.after ⟨region, false⟩ ls = ⟨region, false⟩ := by
  induction ls with
  | nil => rfl
  | cons l ls ih =>
    rw [List.forall_mem_cons] at hopening hstays
    rw [after_cons, visit_of_opening hopening.1, hstays.1]
    exact ih hopening.2 hstays.2

/-- A pass that a line takes into a region, and that indented lines leave there, is in the region
where the lines are. -/
lemma region_of_isInRegion {pre : List Text} {l : Text}
    (hregion : ∀ r k, Line.isTerminated k = false →
      opens k = true ∨ r = region ∧ Line.isIndented k = true → (pass r k).2 = region)
    (hc : c.skipping = false) (hopening : ∀ k ∈ pre, Line.opening k ≠ .unrecognised)
    (hopen : ∀ k ∈ pre, Line.isTerminated k = false) (hin : IsInRegion opens (pre ++ [l])) :
    opens l = true ∨ (pass.after c pre).region = region ∧ Line.isIndented l = true := by
  obtain ⟨front, first, rest, hsplit, hfirst, hindented⟩ := hin
  rcases List.eq_nil_or_concat' rest with rfl | ⟨middle, last, rfl⟩
  · obtain ⟨-, hl⟩ := List.append_inj' hsplit rfl
    exact Or.inl (by rw [List.singleton_inj.1 hl, hfirst])
  · rw [← List.cons_append, ← List.append_assoc] at hsplit
    obtain ⟨rfl, hl⟩ := List.append_inj' hsplit rfl
    obtain ⟨hfront, hfirstOpening, hmiddle⟩ :
        (∀ k ∈ front, Line.opening k ≠ .unrecognised) ∧ Line.opening first ≠ .unrecognised ∧
          ∀ k ∈ middle, Line.opening k ≠ .unrecognised := by
      simpa only [List.forall_mem_append, List.forall_mem_cons] using hopening
    obtain ⟨-, hfirstOpen, hmiddleOpen⟩ :
        (∀ k ∈ front, Line.isTerminated k = false) ∧ Line.isTerminated first = false ∧
          ∀ k ∈ middle, Line.isTerminated k = false := by
      simpa only [List.forall_mem_append, List.forall_mem_cons] using hopen
    rw [List.forall_mem_append] at hindented
    have hskip : ((pass.after c front).enter first).skipping = false :=
      Cursor.skipping_enter (skipping_after_of_opening hc hfront) hfirstOpening
    have hstays : ∀ k ∈ middle, (pass region k).2 = region := fun k hk =>
      hregion region k (hmiddleOpen k hk) (Or.inr ⟨rfl, hindented.1 k hk⟩)
    right
    constructor
    · rw [after_append, after_cons, visit_of_not_skipping hskip,
        hregion _ first hfirstOpen (Or.inl hfirst), after_of_stays hmiddle hstays]
    · rw [List.singleton_inj.1 hl]
      exact hindented.2 last (List.mem_singleton_self last)

end Pass

/-- A line is in the clause behind a line that is, when it opens the clause or is indented. -/
lemma clauseRegion_eq_clause {opens : Text → Bool} {r : Region} {l : Text}
    (hl : opens l = true ∨ r = .clause ∧ Line.isIndented l = true) :
    clauseRegion opens r l = .clause := by
  cases hopens : opens l with
  | true => exact clauseRegion_of_opens hopens
  | false =>
    obtain ⟨rfl, hindented⟩ := hl.resolve_left (by simp [hopens])
    exact clauseRegion_of_isIndented hopens hindented

/-- A line is in the list of columns behind a line that is, when it opens the list or is
indented. -/
lemma Column.quoting_eq {r : Region} {l : Text}
    (hl : opensList l = true ∨ r = .columns ∧ Line.isIndented l = true) :
    quoting r l = (some (if opensList l then l else quoteName l), .columns) := by
  cases hlist : opensList l with
  | true => exact quoting_of_opensList hlist
  | false =>
    obtain ⟨rfl, hindented⟩ := hl.resolve_left (by simp [hlist])
    exact quoting_of_isIndented hlist hindented

/-- The first line of a block settles for every line whether `p` holds of a line up to it exactly
when `p` holds of the first line or of none. -/
lemma forall_any_front_eq_iff {p : Text → Bool} {block : List Text} :
    (∀ pre l post, block = pre ++ l :: post → (pre ++ [l]).any p = block.head?.any p) ↔
      block.head?.any p = true ∨ block.any p = false := by
  constructor
  · intro hlaw
    by_cases hfirst : block.head?.any p = true
    · exact Or.inl hfirst
    · right
      rw [List.any_eq_false]
      intro l hl
      obtain ⟨pre, post, hsplit⟩ := List.append_of_mem hl
      have hnot := hlaw pre l post hsplit
      rw [Bool.eq_false_iff.2 hfirst, List.any_eq_false] at hnot
      exact hnot l (List.mem_append_right _ List.mem_cons_self)
  · intro h pre l post hsplit
    have hhead : block.head? = (pre ++ [l]).head? := by
      rw [hsplit]
      cases pre <;> rfl
    rcases h with hfirst | hnone
    · obtain ⟨first, hmem, hp⟩ := (Option.any_eq_true _ _).1 hfirst
      rw [hfirst, List.any_eq_true]
      exact ⟨first, List.mem_of_mem_head? (hhead ▸ hmem), hp⟩
    · have hfront : (pre ++ [l]).any p = false := by
        rw [hsplit, List.append_cons, List.any_append, Bool.or_eq_false_iff] at hnone
        exact hnone.1
      rw [hfront, hhead, eq_comm, Option.any_eq_false]
      intro k hk
      have hmem : k ∈ pre ++ [l] := List.mem_of_mem_head? (Option.mem_def.2 hk)
      exact Bool.eq_false_iff.2 (List.any_eq_false.1 hfront k hmem)

section Statement

variable {before : List (List Text)} {block pre post : List Text} {l : Text}

/-- Of a line in a clause only the end of the statement is left, where no line is unrecognised. -/
lemma putsOut?_striking_of_isInRegion {opens : Text → Bool}
    (hblock : IsStatement (pre ++ l :: post))
    (hbefore : ∀ b ∈ before, IsStatement b ∨ IsGap b)
    (hnone : ∀ k ∈ pre ++ l :: post, Line.opening k ≠ .unrecognised)
    (hin : IsInRegion opens (pre ++ [l])) :
    (striking opens).putsOut? (before.flatten ++ pre) l =
      if Line.isTerminated l then some [';'] else none := by
  rw [List.forall_mem_append, List.forall_mem_cons] at hnone
  obtain ⟨hpre, hl, -⟩ := hnone
  have hstart : ((striking opens).after .start before.flatten).skipping = false :=
    Pass.skipping_after_blocks rfl hbefore
  have hclause : ∀ r k, Line.isTerminated k = false →
      opens k = true ∨ r = .clause ∧ Line.isIndented k = true →
        (striking opens r k).2 = .clause := by
    intro r k hk hregion
    rw [striking_of_not_terminated (clauseRegion_eq_clause hregion) hk]
  have hregion := clauseRegion_eq_clause (Pass.region_of_isInRegion hclause hstart hpre
    hblock.unfinished_before hin)
  unfold Pass.putsOut?
  rw [Pass.after_append, Pass.visit_of_not_skipping
    (Cursor.skipping_enter (Pass.skipping_after_of_opening hstart hpre) hl)]
  cases hend : Line.isTerminated l with
  | true => rw [striking_of_terminated hregion hend, if_pos rfl]
  | false => rw [striking_of_not_terminated hregion hend, if_neg (by decide)]

/-- Of a line in a list of columns the name is quoted, where no line is unrecognised. -/
lemma putsOut?_quoting_of_isInRegion (hblock : IsStatement (pre ++ l :: post))
    (hbefore : ∀ b ∈ before, IsStatement b ∨ IsGap b)
    (hnone : ∀ k ∈ pre ++ l :: post, Line.opening k ≠ .unrecognised)
    (hin : IsInRegion Column.opensList (pre ++ [l])) :
    Column.quoting.putsOut? (before.flatten ++ pre) l =
      some (if Column.opensList l then l else Column.quoteName l) := by
  rw [List.forall_mem_append, List.forall_mem_cons] at hnone
  obtain ⟨hpre, hl, -⟩ := hnone
  have hstart : (Column.quoting.after .start before.flatten).skipping = false :=
    Pass.skipping_after_blocks rfl hbefore
  have hcolumns : ∀ r k, Line.isTerminated k = false →
      Column.opensList k = true ∨ r = .columns ∧ Line.isIndented k = true →
        (Column.quoting r k).2 = .columns := by
    intro r k _ hregion
    rw [Column.quoting_eq hregion]
  have hregion := Pass.region_of_isInRegion hcolumns hstart hpre hblock.unfinished_before hin
  unfold Pass.putsOut?
  rw [Pass.after_append, Pass.visit_of_not_skipping
    (Cursor.skipping_enter (Pass.skipping_after_of_opening hstart hpre) hl),
    Column.quoting_eq hregion]

/-- Which lines of a statement are copied, whatever statements are in front of it: those from the
first unrecognised line on. So the first line of a statement settles what becomes of all its lines
exactly when it is unrecognised or no line is. In a statement without unrecognised lines no line of
a struck clause is left, and no name in a list of columns is left without quotes. -/
theorem copies_within_statement (hbefore : ∀ b ∈ before, IsStatement b ∨ IsGap b)
    (hblock : IsStatement block) :
    (∀ (pass : Pass) pre l post, block = pre ++ l :: post →
      pass.copies (before.flatten ++ pre) l = (pre ++ [l]).any isUnrecognisedLine) ∧
    ((∀ (pass : Pass) pre l post, block = pre ++ l :: post →
        pass.copies (before.flatten ++ pre) l = block.head?.any isUnrecognisedLine) ↔
      block.head?.any isUnrecognisedLine = true ∨ block.any isUnrecognisedLine = false) ∧
    (block.any isUnrecognisedLine = false → ∀ pre l post, block = pre ++ l :: post →
      (∀ opens, IsInRegion opens (pre ++ [l]) →
        (striking opens).putsOut? (before.flatten ++ pre) l =
          if Line.isTerminated l then some [';'] else none) ∧
      (IsInRegion Column.opensList (pre ++ [l]) →
        Column.quoting.putsOut? (before.flatten ++ pre) l =
          some (if Column.opensList l then l else Column.quoteName l))) := by
  have hcopies : ∀ (pass : Pass) pre l post, block = pre ++ l :: post →
      pass.copies (before.flatten ++ pre) l = (pre ++ [l]).any isUnrecognisedLine := by
    rintro pass pre l post rfl
    exact Pass.copies_eq_any hbefore hblock
  refine ⟨hcopies, ?_, ?_⟩
  · rw [← forall_any_front_eq_iff]
    constructor
    · intro hlaw pre l post hsplit
      rw [← hcopies Pass.copying pre l post hsplit, hlaw Pass.copying pre l post hsplit]
    · intro hlaw pass pre l post hsplit
      rw [hcopies pass pre l post hsplit, hlaw pre l post hsplit]
  · rintro hnone pre l post rfl
    have hopening : ∀ k ∈ pre ++ l :: post, Line.opening k ≠ .unrecognised := by
      intro k hk
      rw [ne_eq, Line.opening_eq_unrecognised_iff]
      exact List.any_eq_false.1 hnone k hk
    exact ⟨fun opens => putsOut?_striking_of_isInRegion hblock hbefore hopening,
      putsOut?_quoting_of_isInRegion hblock hbefore hopening⟩

end Statement

/-- A table behind a statement in small letters and empty lines. -/
theorem copies_within_statement_smallLetters :
    let before := [["create table u(", "  b int);"], ["", " "]].map (List.map String.toList)
    let block := ["CREATE TABLE t(", "  a int)", "LOCATION", "  '/t';"].map String.toList
    (∀ b ∈ before, IsStatement b ∨ IsGap b) ∧ IsStatement block ∧
    block.any isUnrecognisedLine = false ∧
    (∀ (pass : Pass) pre l post, block = pre ++ l :: post →
      pass.copies (before.flatten ++ pre) l = false) ∧
    Column.quoting.putsOut? (before.flatten ++ block.take 1) "  a int)".toList =
      some "  \x60a\x60 int)".toList ∧
    (striking (opensClause "LOCATION".toList)).putsOut? (before.flatten ++ block.take 3)
      "  '/t';".toList = some [';'] := by
  intro before block
  have hbefore : ∀ b ∈ before, IsStatement b ∨ IsGap b := by
    intro b hb
    rcases List.mem_cons.1 hb with rfl | hb
    · exact Or.inl ⟨by decide, ⟨_, rfl, by decide⟩, by decide⟩
    · rw [List.mem_singleton.1 hb]
      exact Or.inr (by unfold IsGap; decide)
  have hblock : IsStatement block := ⟨by decide, ⟨_, rfl, by decide⟩, by decide⟩
  have hnone : block.any isUnrecognisedLine = false := by decide
  obtain ⟨-, hfirst, hregions⟩ := copies_within_statement hbefore hblock
  refine ⟨hbefore, hblock, hnone, hfirst.2 (Or.inr hnone), ?_, ?_⟩
  · have hin : IsInRegion Column.opensList (block.take 1 ++ ["  a int)".toList]) :=
      ⟨[], block.head (by decide), [_], rfl, by decide, by decide⟩
    exact ((hregions hnone _ _ (block.drop 2) rfl).2 hin).trans (by decide)
  · have hin : IsInRegion (opensClause "LOCATION".toList) (block.take 3 ++ ["  '/t';".toList]) :=
      ⟨block.take 2, _, [_], rfl, by decide, by decide⟩
    exact ((hregions hnone _ _ [] rfl).1 _ hin).trans (by decide)

/-- The first line of a table is a header, and yet the table is copied from the column `created_at`
on, so that no name in it is put in quotes. -/
theorem copies_createdAt :
    let block := ["CREATE TABLE t(", "  created_at int,", "  b int", ");"].map String.toList
    IsStatement block ∧ block.head?.any (fun l => (Statement.parse l).header?.isSome) = true ∧
    Column.quoting.copies (block.take 1) "  created_at int,".toList = true ∧
    quoteColumns (ofLines block) = ofLines block := by
  intro block
  exact ⟨⟨by decide, ⟨_, rfl, by decide⟩, by decide⟩, by decide, by decide, by decide +kernel⟩

end DdlDump
