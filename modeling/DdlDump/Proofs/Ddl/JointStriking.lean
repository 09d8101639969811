import DdlDump.Proofs.Ddl.Replay

/-!
# Striking several clauses at once

Striking one clause after another comes to the same as one pass that strikes them all, so that it
does not matter in which order clauses are struck, nor how often
(`foldl_strikePattern_eq_strikePattern`).
This is not plain from the passes, since the later one meets other lines than the earlier one: lines
are missing, so that lines stand next to each other that did not, and there are semicolons that the
script does not have.

Two passes with the region of each are followed by one pass in the region that the two have together
(`jointRegion`). Where the first pass is in a clause, the region of the second is left from before
that clause and does not matter any longer, because the line that ends the clause is not indented or
a semicolon, and ends any other clause as well. A clause is never struck out of a copied statement,
so that the second pass loses no line that begins or ends one.
-/

namespace DdlDump

open Text

/-- What all tests for the first line of a clause have in common: they are not passed by lines that
may stand inside or behind a clause, nor by a header. -/
structure IsClauseTest (opens : Text → Bool) : Prop where
  blank : opens [] = false
  semicolon : opens [';'] = false
  indented : ∀ {l}, Line.isIndented l = true → opens l = false
  header : ∀ {l}, Line.opening l = .recognised → opens l = false

/-! ### The tests for the clauses that flags strike -/

/-- Whether a line opens one of several clauses. -/
def opensAny (clauses : List Text) (l : Text) : Bool :=
  clauses.any fun clause => opensClause clause l

/-- No clause is opened by a header. -/
lemma opensClause_of_recognised {clause l : Text} (h : clause ∈ allClauses)
    (hl : Line.opening l = .recognised) : opensClause clause l = false := by
  have hcreate : ∀ k ∈ allClauses, k.head? ≠ some 'C' := by decide
  obtain ⟨⟨header, rest⟩, hp⟩ := Option.isSome_iff_exists.1 (Line.opening_eq_recognised_iff.1 hl)
  obtain ⟨rfl, hindent, -⟩ := Header.parse?_eq_some_iff.1 hp
  cases hi : header.indent with
  | nil =>
    refine opensClause_of_head? h ?_
    unfold Header.render Header.opening
    rw [hi]
    exact hcreate
  | cons c indent =>
    refine opensClause_of_isIndented h ?_
    unfold Line.isIndented Header.render Header.opening
    rw [hi]
    exact hindent c (hi ▸ List.mem_cons_self)

/-- A clause that flags strike is known by such a test. -/
lemma isClauseTest_opensClause {clause : Text} (h : clause ∈ allClauses) :
    IsClauseTest (opensClause clause) where
  blank := opensClause_nil h
  semicolon := opensClause_semicolon h
  indented := opensClause_of_isIndented h
  header := opensClause_of_recognised h

/-- So are several of them. -/
lemma isClauseTest_opensAny {clauses : List Text} (h : clauses ⊆ allClauses) :
    IsClauseTest (opensAny clauses) := by
  have hnone : ∀ {l}, (∀ clause ∈ allClauses, opensClause clause l = false) →
      opensAny clauses l = false := by
    intro l hl
    unfold opensAny
    rw [List.any_eq_false]
    intro clause hclause
    simp [hl clause (h hclause)]
  exact {
    blank := hnone fun _ hc => opensClause_nil hc
    semicolon := hnone fun _ hc => opensClause_semicolon hc
    indented := fun hl => hnone fun _ hc => opensClause_of_isIndented hc hl
    header := fun hl => hnone fun _ hc => opensClause_of_recognised hc hl }

/-! ### Two passes and one -/

/-- The region of one pass in the place of two: the clause when the first pass is in one, and the
region of the second otherwise. -/
def jointRegion (first second : Region) : Region :=
  if first = .clause then .clause else second

section Joint

variable {first second : Text → Bool} {r s : Region} {l : Text}

/-- Where neither pass lists columns, one in the place of both lists none. -/
lemma jointRegion_ne_columns (hs : s ≠ .columns) : jointRegion r s ≠ .columns := by
  unfold jointRegion
  split
  · decide
  · exact hs

/-- What the first pass puts out is in the clause of the second pass when it is in the joint one. -/
lemma clauseRegion_joint_of_passing (hs : s ≠ .columns)
    (h : clauseRegion first r l = .passing) :
    clauseRegion (fun l => first l || second l) (jointRegion r s) l = clauseRegion second s l := by
  have hfirst : first l = false := by
    by_contra hopens
    rw [clauseRegion_of_opens (by simpa using hopens)] at h
    exact absurd h (by decide)
  cases hsecond : second l with
  | true => rw [clauseRegion_of_opens hsecond, clauseRegion_of_opens (by simp [hsecond])]
  | false =>
    have hneither : (first l || second l) = false := by rw [hfirst, hsecond, Bool.or_false]
    cases hl : Line.isIndented l with
    | true =>
      rw [clauseRegion_of_isIndented hfirst hl] at h
      rw [clauseRegion_of_isIndented hsecond hl, clauseRegion_of_isIndented hneither hl, h]
      rfl
    | false =>
      rw [clauseRegion_ends hs hsecond hl,
        clauseRegion_ends (jointRegion_ne_columns hs) hneither hl]

/-- What is in the clause of the first pass is in the joint one. -/
lemma clauseRegion_joint_of_clause (hr : r ≠ .columns) (h : clauseRegion first r l = .clause) :
    clauseRegion (fun l => first l || second l) (jointRegion r s) l = .clause := by
  cases hopens : first l || second l with
  | true => exact clauseRegion_of_opens hopens
  | false =>
    have hfirst : first l = false := (Bool.or_eq_false_iff.1 hopens).1
    cases hl : Line.isIndented l with
    | true =>
      rw [clauseRegion_of_isIndented hfirst hl] at h
      rw [clauseRegion_of_isIndented hopens hl, h]
      rfl
    | false =>
      rw [clauseRegion_ends hr hfirst hl] at h
      exact absurd h (by decide)

/-- A line in a clause belongs to no copied statement, nor does it end one. -/
lemma not_copying_of_clause {opens : Text → Bool} (hopens : IsClauseTest opens) {copying : Bool}
    (hc : Cursor.Coherent ⟨r, copying⟩) (hskip : (Cursor.enter ⟨r, copying⟩ l).skipping = false)
    (hclause : clauseRegion opens r l = .clause) : copying = false := by
  by_contra hcopying
  rw [Bool.not_eq_false] at hcopying
  have hheader : Line.opening l = .recognised := Cursor.opening_of_skipping_enter hcopying hskip
  have hr : r = .passing := hc hcopying
  rw [hr, clauseRegion_passing (hopens.header hheader)] at hclause
  exact absurd hclause (by decide)

/-- One pass over what another one puts out puts out the same as one pass in the place of both. -/
lemma emit_striking_striking (hfirst : IsClauseTest first) (hsecond : IsClauseTest second)
    {copying : Bool} (hr : r ≠ .columns) (hs : s ≠ .columns) (hcr : Cursor.Coherent ⟨r, copying⟩)
    (hcs : Cursor.Coherent ⟨s, copying⟩) (ls : List Text) :
    (striking second).emit ⟨s, copying⟩ ((striking first).emit ⟨r, copying⟩ ls) =
      (striking fun l => first l || second l).emit ⟨jointRegion r s, copying⟩ ls := by
  induction ls generalizing r s copying with
  | nil => rfl
  | cons l ls ih =>
    have hcj : Cursor.Coherent ⟨jointRegion r s, copying⟩ := by
      intro hcopying
      have hpassing : r = .passing ∧ s = .passing := ⟨hcr hcopying, hcs hcopying⟩
      rw [hpassing.1, hpassing.2]
      rfl
    have hpassing : Region.passing ≠ .columns := by decide
    have hclause : Region.clause ≠ .columns := by decide
    have hfree : ∀ {t : Region}, Cursor.Coherent ⟨t, false⟩ := Cursor.coherent_of_not_skipping rfl
    have hsame : ∀ t, (Cursor.enter ⟨t, copying⟩ l).skipping =
        (Cursor.enter ⟨r, copying⟩ l).skipping := fun t => Cursor.skipping_enter_eq t r copying l
    rw [Pass.emit_cons, Pass.emit_cons]
    cases hskip : (Cursor.enter ⟨r, copying⟩ l).skipping with
    | true =>
      -- A copied line is put out by all three passes, which are in no region afterwards.
      rw [Pass.visit_of_copied hcr hskip, Pass.visit_of_copied hcj ((hsame _).trans hskip)]
      simp only [Option.toList_some, List.singleton_append]
      rw [Pass.emit_cons, Pass.visit_of_copied hcs ((hsame _).trans hskip)]
      exact congrArg (l :: ·) (ih hpassing hpassing (fun _ => rfl) fun _ => rfl)
    | false =>
      rw [Pass.visit_of_not_skipping hskip, Pass.visit_of_not_skipping ((hsame _).trans hskip)]
      cases hregion : clauseRegion first r l with
      | passing =>
        -- The first pass puts the line out, and the second one decides on it.
        have hjoint : striking (fun l => first l || second l) (jointRegion r s) l =
            striking second s l := by
          unfold striking
          rw [clauseRegion_joint_of_passing hs hregion]
        rw [striking_of_passing hregion, hjoint]
        simp only [Option.toList_some, List.singleton_append]
        rw [Pass.emit_cons, Pass.visit_of_not_skipping ((hsame _).trans hskip)]
        exact congrArg ((striking second s l).1.toList ++ ·)
          (ih hpassing (striking_ne_columns hs) hfree hfree)
      | clause =>
        have hcopying : copying = false := not_copying_of_clause hfirst hcr hskip hregion
        have hjoint : clauseRegion (fun l => first l || second l) (jointRegion r s) l = .clause :=
          clauseRegion_joint_of_clause hr hregion
        subst hcopying
        cases hend : Line.isTerminated l with
        | true =>
          -- A semicolon takes the place of the line, and the second pass puts it out.
          rw [striking_of_terminated hregion hend, striking_of_terminated hjoint hend]
          simp only [Option.toList_some, List.singleton_append]
          rw [Pass.emit_cons, Pass.visit_of_opening (by decide),
            striking_semicolon hs hsecond.semicolon]
          exact congrArg ([';'] :: ·) (ih hpassing hpassing hfree hfree)
        | false =>
          -- The second pass does not meet the line.
          rw [striking_of_not_terminated hregion hend, striking_of_not_terminated hjoint hend]
          exact ih hclause hs hfree hfree
      | columns => exact absurd hregion (clauseRegion_ne_columns hr)

end Joint

/-! ### Any number of clauses -/

/-- Where no line opens a clause, every line is put out. -/
lemma emit_striking_of_never_opens {opens : Text → Bool} {copying : Bool} {ls : List Text}
    (hls : ∀ l ∈ ls, opens l = false) : (striking opens).emit ⟨.passing, copying⟩ ls = ls := by
  induction ls generalizing copying with
  | nil => rfl
  | cons l ls ih =>
    rw [List.forall_mem_cons] at hls
    have hcoherent : Cursor.Coherent ⟨.passing, copying⟩ := fun _ => rfl
    rw [Pass.emit_cons]
    cases hskip : (Cursor.enter ⟨.passing, copying⟩ l).skipping with
    | true =>
      rw [Pass.visit_of_copied hcoherent hskip]
      exact congrArg (l :: ·) (ih hls.2)
    | false =>
      rw [Pass.visit_of_not_skipping hskip, striking_of_passing (clauseRegion_passing hls.1)]
      exact congrArg (l :: ·) (ih hls.2)

/-- Striking clauses one after another leaves what striking them at once leaves. -/
theorem keptByAll_eq_keptLines {clauses : List Text} (hclauses : clauses ⊆ allClauses)
    (ls : List Text) : keptByAll clauses ls = keptLines (opensAny clauses) ls := by
  induction clauses generalizing ls with
  | nil => exact (emit_striking_of_never_opens fun _ _ => rfl).symm
  | cons clause clauses ih =>
    have hfirst := isClauseTest_opensClause (hclauses List.mem_cons_self)
    have hrest : clauses ⊆ allClauses := List.subset_of_cons_subset hclauses
    have hjoint : keptLines (opensAny clauses) (keptLines (opensClause clause) ls) =
        keptLines (opensAny (clause :: clauses)) ls :=
      emit_striking_striking hfirst (isClauseTest_opensAny hrest) (by decide) (by decide)
        Cursor.coherent_start Cursor.coherent_start ls
    exact (ih hrest (keptLines (opensClause clause) ls)).trans hjoint

/-- Clauses that are known by the same texts are opened by the same lines. -/
lemma opensAny_congr {clauses others : List Text} (h : ∀ c, c ∈ others ↔ c ∈ clauses) :
    opensAny others = opensAny clauses := by
  funext l
  unfold opensAny
  rw [Bool.eq_iff_iff, List.any_eq_true, List.any_eq_true]
  simp only [h]

/-! ### Clauses as patterns -/

/-- Strikes the clauses that a pattern stands for. -/
def strikePattern (pattern script : Text) : Text :=
  strikeClauses (ClausePattern.parse pattern).isOpenedBy script

/-- A pattern with several clauses is passed by the lines that open one of them. -/
lemma isOpenedBy_parse_intercalate {clauses : List Text} (hne : clauses ≠ [])
    (hclauses : clauses ⊆ allClauses) :
    (ClausePattern.parse (['|'].intercalate clauses)).isOpenedBy = opensAny clauses := by
  have hbar : ∀ clause ∈ allClauses, '|' ∉ clause := by decide
  have hsplit : (['|'].intercalate clauses).splitOn '|' = clauses :=
    List.splitOn_intercalate '|' (fun clause hclause => hbar clause (hclauses hclause)) hne
  unfold ClausePattern.parse
  rw [hsplit]
  rfl

/-- Striking what patterns of one clause each stand for is striking the clauses. -/
lemma foldl_strikePattern {clauses : List Text} (hclauses : clauses ⊆ allClauses)
    (script : Text) :
    clauses.foldl (fun t clause => strikePattern clause t) script = strikeEach clauses script := by
  unfold strikeEach
  refine List.foldl_ext _ _ script fun t clause hclause => ?_
  have hone := isOpenedBy_parse_intercalate (List.cons_ne_nil clause [])
    (List.cons_subset.2 ⟨hclauses hclause, List.nil_subset _⟩)
  have hopens : opensAny [clause] = opensClause clause := by
    funext l
    exact Bool.or_false _
  rw [List.intercalate_singleton, hopens] at hone
  unfold strikePattern
  rw [hone]
  rfl

/-- What is left of a script when clauses are struck one after another, by its lines. -/
lemma strikeEach_eq_strikeClauses {clauses : List Text} (hclauses : clauses ⊆ allClauses)
    (script : Text) : strikeEach clauses script = strikeClauses (opensAny clauses) script := by
  have hlines := (lineByLine_strikeEach hclauses (lines script) fun _ => isLine_of_mem_lines).1
  rw [ofLines_lines, keptByAll_eq_keptLines hclauses] at hlines
  exact hlines

/-- Striking clauses one after another, in any order and with any repetitions, is striking them all
in one pass, so that it comes down to which clauses are struck. -/
theorem foldl_strikePattern_eq_strikePattern {clauses : List Text} (hne : clauses ≠ [])
    (hclauses : clauses ⊆ allClauses) (script : Text) :
    clauses.foldl (fun t clause => strikePattern clause t) script =
        strikePattern (['|'].intercalate clauses) script ∧
      strikeEach clauses script = strikePattern (['|'].intercalate clauses) script ∧
      ∀ others : List Text, (∀ c, c ∈ others ↔ c ∈ clauses) →
        others.foldl (fun t clause => strikePattern clause t) script =
          clauses.foldl (fun t clause => strikePattern clause t) script := by
  have hjoint : strikeEach clauses script = strikePattern (['|'].intercalate clauses) script := by
    unfold strikePattern
    rw [strikeEach_eq_strikeClauses hclauses, isOpenedBy_parse_intercalate hne hclauses]
  refine ⟨(foldl_strikePattern hclauses script).trans hjoint, hjoint, fun others hothers => ?_⟩
  have hsubset : others ⊆ allClauses := fun c hc => hclauses ((hothers c).1 hc)
  rw [foldl_strikePattern hsubset, foldl_strikePattern hclauses,
    strikeEach_eq_strikeClauses hsubset, strikeEach_eq_strikeClauses hclauses,
    opensAny_congr hothers]

/-- Clauses next to each other, one of them with the end of the statement, in front of a statement
that is copied and has a clause of its own. -/
def adjacentClauses : List Text :=
  ["STORED AS", "  a", "LOCATION", "  '/t'", "ROW FORMAT", "  b", "LOCATION '/u';", "  c",
    "create x", "LOCATION", "  d;", "STORED AS"].map String.toList

/-- Two clauses, one of them struck twice, leave of these lines what they leave in the other order
and in one pass. -/
theorem foldl_strikePattern_adjacentClauses :
    let clauses := ["STORED AS", "LOCATION", "STORED AS"].map String.toList
    let left := ["ROW FORMAT", "  b", ";", "  c", "create x", "LOCATION", "  d;"].map String.toList
    clauses ≠ [] ∧ clauses ⊆ allClauses ∧
    clauses.foldl (fun t clause => strikePattern clause t) (ofLines adjacentClauses) =
      ofLines left ∧
    (["LOCATION", "STORED AS"].map String.toList).foldl
        (fun t clause => strikePattern clause t) (ofLines adjacentClauses) = ofLines left := by
  intro clauses left
  have hne : clauses ≠ [] := by decide
  have hclauses : clauses ⊆ allClauses := by decide
  have hsame : ∀ c, c ∈ ["LOCATION", "STORED AS"].map String.toList ↔ c ∈ clauses := by
    intro c
    simp only [clauses, List.map_cons, List.map_nil, List.mem_cons, List.not_mem_nil, or_false]
    tauto
  obtain ⟨hjoint, -, hothers⟩ :=
    foldl_strikePattern_eq_strikePattern hne hclauses (ofLines adjacentClauses)
  have hstruck : strikePattern (['|'].intercalate clauses) (ofLines adjacentClauses) =
      ofLines left := by
    decide +kernel
  exact ⟨hne, hclauses, hjoint.trans hstruck, (hothers _ hsame).trans (hjoint.trans hstruck)⟩

end DdlDump
