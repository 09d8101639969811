import DdlDump.Proofs.Ddl.CreatedObjects

/-!
# Prepared headers

The headers of a script are prepared in one pass over all of its characters, but what comes out can
be read off its lines (`prepareHeaders_eq_ofLines`). A line without a header is kept. In front of a
line with a header the object may be dropped, and the guard may be put in front of its name. Each
line creates what it created before.

A header that is read again is the one that was put in, so that dropping and guarding do not
disturb each other: they can be done in either order or both at once
(`prepareHeaders_dropTable_ifNotExists`).
-/

namespace DdlDump

open Text

/-! ### One line -/

/-- The lines that drop the object which a line creates: a statement and an empty line. -/
def droppingLines (l : Text) : List Text :=
  match createdObject? l with
  | some (kind, _, name) => ["DROP ".toList ++ (kind.keyword ++ ' ' :: (name ++ [';'])), []]
  | none => []

/-- A line with the guard put in between its opening and the name of its object, if it creates one
without a guard. -/
def guardedLine (l : Text) : Text :=
  match Header.parse? l with
  | some (h, _) =>
    if h.guarded then l
    else l.take h.opening.length ++ (Header.guardKeyword ++ l.drop h.opening.length)
  | none => l

section Line

variable {drop guard : Bool} {l rest : Text} {h : Header}

/-- Behind the opening of a header without a guard stands the name. -/
lemma guardedLine_of_unguarded (hp : Header.parse? l = some (h, rest))
    (hguarded : h.guarded = false) :
    l = h.opening ++ (h.name ++ rest) ∧
      guardedLine l = h.opening ++ (Header.guardKeyword ++ (h.name ++ rest)) := by
  have hsplit : l = h.opening ++ (h.name ++ rest) := by
    have hrender : h.render ++ rest = l := (Header.render_append_of_parse? hp).1
    simpa [Header.render, Header.optional, hguarded] using hrender.symm
  refine ⟨hsplit, ?_⟩
  simp only [guardedLine, hp, hguarded, Bool.false_eq_true, if_false]
  rw [hsplit, List.take_left, List.drop_left]

/-- The line is the one that has its header guarded. -/
lemma guardedLine_of_parse? (hp : Header.parse? l = some (h, rest)) :
    guardedLine l = (h.guardedIf true).render ++ rest := by
  have hrender : (h.guardedIf true).render =
      h.opening ++ (Header.optional true Header.guardKeyword ++ h.name) :=
    congrArg (fun guarded => h.opening ++ (Header.optional guarded Header.guardKeyword ++ h.name))
      (Bool.or_true h.guarded)
  cases hguarded : h.guarded with
  | true =>
    rw [hrender, ← hguarded]
    simp only [guardedLine, hp, hguarded, if_true]
    rw [← hguarded]
    exact (Header.render_append_of_parse? hp).1.symm
  | false =>
    rw [hrender, (guardedLine_of_unguarded hp hguarded).2]
    simp [Header.optional]

/-- Without a header there is nothing to guard. -/
lemma guardedLine_of_parse?_eq_none (hp : Header.parse? l = none) : guardedLine l = l := by
  simp only [guardedLine, hp]

/-- A line creates with the guard what it creates without. -/
lemma createdObject?_guardedLine (l : Text) :
    createdObject? (guardedLine l) = createdObject? l := by
  cases hp : Header.parse? l with
  | none => rw [guardedLine_of_parse?_eq_none hp]
  | some p =>
    have hparse : Header.parse? ((p.1.guardedIf true).render ++ p.2) =
        some (p.1.guardedIf true, p.2) := parse?_guardedIf hp
    rw [guardedLine_of_parse? hp, createdObject?_of_parse? hparse, createdObject?_of_parse? hp]
    rfl

/-- The lines that drop an object create none. -/
lemma createdObject?_of_mem_droppingLines {m : Text} (hm : m ∈ droppingLines l) :
    createdObject? m = none := by
  unfold droppingLines at hm
  split at hm
  · next kind external name _ =>
    have hdrop := opening_dropStatement ⟨[], external, kind, false, name⟩
    rcases List.mem_cons.1 hm with rfl | hm
    · exact createdObject?_of_opening (ne_of_eq_of_ne hdrop (by decide))
    · rw [List.mem_singleton.1 hm]
      decide
  · exact absurd hm List.not_mem_nil

/-- What takes the place of a line: the lines that drop its object, and the line itself, guarded, as
it is asked for. -/
lemma preparedLines_eq (drop guard : Bool) (l : Text) :
    preparedLines drop guard l =
      (if drop then droppingLines l else []) ++ [if guard then guardedLine l else l] := by
  cases hp : Header.parse? l with
  | none =>
    have hnone : createdObject? l = none := by
      simp only [createdObject?, Statement.parse, hp, Option.map_none]
    simp only [preparedLines_of_parse?_eq_none hp, droppingLines, hnone,
      guardedLine_of_parse?_eq_none hp, ite_self, List.nil_append]
  | some p =>
    have hline : (p.1.guardedIf guard).render ++ p.2 = if guard then guardedLine l else l := by
      cases guard with
      | true => exact (guardedLine_of_parse? hp).symm
      | false =>
        have hsame : p.1.guardedIf false = p.1 := by simp only [Header.guardedIf, Bool.or_false]
        rw [hsame]
        exact (Header.render_append_of_parse? hp).1
    simp only [preparedLines, hp, hline, droppingLines, createdObject?_of_parse? hp]
    rfl

end Line

/-! ### All lines -/

/-- Where lines that create nothing are put in front of every line, they stand directly above
whatever creates something. -/
lemma exists_suffix_of_flatMap {before : Text → List Text} {change : Text → Text}
    (hbefore : ∀ l, ∀ m ∈ before l, createdObject? m = none) {ls above below : List Text} {m : Text}
    (hsplit : ls.flatMap (fun l => before l ++ [change l]) = above ++ m :: below)
    (hm : createdObject? m ≠ none) : ∃ l ∈ ls, m = change l ∧ before l <:+ above := by
  induction ls generalizing above with
  | nil => exact absurd hsplit.symm (by simp)
  | cons l ls ih =>
    rw [List.flatMap_cons, List.append_assoc, List.singleton_append] at hsplit
    have hhere : m = change l → before l <:+ above →
        ∃ l' ∈ l :: ls, m = change l' ∧ before l' <:+ above := fun hchange hsuffix =>
      ⟨l, List.mem_cons_self, hchange, hsuffix⟩
    rcases List.append_eq_append_iff.1 hsplit with ⟨front, rfl, hrest⟩ | ⟨front, hfront, hrest⟩
    · cases front with
      | nil =>
        rw [List.nil_append, List.cons.injEq] at hrest
        exact hhere hrest.1.symm (by simp)
      | cons first front =>
        rw [List.cons_append, List.cons.injEq] at hrest
        obtain ⟨l', hl', hchange, hsuffix⟩ := ih hrest.2
        refine ⟨l', List.mem_cons_of_mem l hl', hchange, hsuffix.trans ?_⟩
        exact ⟨before l ++ [first], by simp⟩
    · cases front with
      | nil =>
        rw [List.nil_append, List.cons.injEq] at hrest
        exact hhere hrest.1 (by simp [hfront])
      | cons first front =>
        rw [List.cons_append, List.cons.injEq] at hrest
        have hmem : m ∈ before l := by simp [hfront, hrest.1]
        exact absurd (hbefore l m hmem) hm

/-- The headers of a script are prepared line by line: nothing is changed but that a statement
which drops the object, with an empty line behind it, is put in front of a line with a header, and
the guard in front of its name. So the lines create what they created, and the object of a line is
dropped directly above it. -/
theorem prepareHeaders_eq_ofLines (flags : Flags) (script : Text) :
    prepareHeaders flags script =
      ofLines ((lines script).flatMap fun l =>
        (if flags.isOn .dropTable then droppingLines l else []) ++
          [if flags.isOn .ifNotExists then guardedLine l else l]) ∧
    createdObjects (lines (prepareHeaders flags script)) = createdObjects (lines script) ∧
    (flags.isOn .dropTable = true → ∀ above m below,
      lines (prepareHeaders flags script) = above ++ m :: below → droppingLines m <:+ above) := by
  have hlines : headerLines flags (lines script) = (lines script).flatMap fun l =>
      (if flags.isOn .dropTable then droppingLines l else []) ++
        [if flags.isOn .ifNotExists then guardedLine l else l] :=
    List.flatMap_congr fun l _ => preparedLines_eq _ _ l
  refine ⟨?_, ?_, fun hdrop above m below hsplit => ?_⟩
  · rw [← ofLines_lines (prepareHeaders flags script), lines_prepareHeaders, hlines]
  · rw [lines_prepareHeaders, createdObjects_headerLines]
  · rw [lines_prepareHeaders, hlines] at hsplit
    simp only [hdrop, if_true] at hsplit
    cases hcreated : createdObject? m with
    | none =>
      have hnone : droppingLines m = [] := by rw [droppingLines, hcreated]
      exact hnone ▸ List.nil_suffix
    | some object =>
      obtain ⟨l, -, hm, hsuffix⟩ := exists_suffix_of_flatMap
        (fun _ _ => createdObject?_of_mem_droppingLines) hsplit (by simp [hcreated])
      have hsame : createdObject? m = createdObject? l := by
        rw [hm]
        split
        · exact createdObject?_guardedLine l
        · rfl
      rwa [droppingLines, hsame]

/-- A header is recognised whatever follows its name, even where the words of a guard are its name;
it is dropped above, and the guard is put in where there is none. -/
theorem prepareHeaders_eq_ofLines_wordsOfGuard :
    let flags := Flags.ofList [.dropTable, .ifNotExists]
    let script := ofLines (["CREATE TABLE IF NOT EXISTS (a int);", "\tCREATE EXTERNAL TABLE IF",
      "  (b int);", "CREATE VIEW IF NOT EXISTS  v AS SELECT 1;",
      "CREATE VIEW IF NOT EXISTS w AS SELECT 2;"].map String.toList)
    let result := (["DROP TABLE IF;", "", "CREATE TABLE IF NOT EXISTS IF NOT EXISTS (a int);",
      "DROP TABLE IF;", "", "\tCREATE EXTERNAL TABLE IF NOT EXISTS IF", "  (b int);",
      "DROP VIEW IF;", "", "CREATE VIEW IF NOT EXISTS IF NOT EXISTS  v AS SELECT 1;",
      "DROP VIEW w;", "", "CREATE VIEW IF NOT EXISTS w AS SELECT 2;"].map String.toList)
    flags.isOn .dropTable = true ∧ prepareHeaders flags script = ofLines result ∧
    createdObjects (lines (prepareHeaders flags script)) = createdObjects (lines script) ∧
    ∀ above m below, lines (prepareHeaders flags script) = above ++ m :: below →
      droppingLines m <:+ above := by
  intro flags script result
  have hdrop : flags.isOn .dropTable = true := by decide
  obtain ⟨hlines, hcreated, habove⟩ := prepareHeaders_eq_ofLines flags script
  exact ⟨hdrop, hlines.trans (by decide +kernel), hcreated, habove hdrop⟩

/-! ### One preparation after another -/

section Twice

variable {drop drop' guard guard' : Bool} {l rest : Text} {h : Header}

/-- Nothing takes the place of the lines that drop an object. -/
lemma preparedLines_dropStatement (h : Header) :
    preparedLines drop guard h.dropStatement = [h.dropStatement] := by
  refine preparedLines_of_parse?_eq_none (Line.parse?_eq_none_of_opening ?_)
  rw [opening_dropStatement]
  decide

/-- What takes the place of a line is prepared again by what it still lacks, unless its object is
dropped both times. -/
lemma flatMap_preparedLines (hdrop : drop = false ∨ drop' = false) (l : Text) :
    (preparedLines drop guard l).flatMap (preparedLines drop' guard') =
      preparedLines (drop || drop') (guard || guard') l := by
  -- of the lines in the place of a header only the last has one, which is read as it was put in
  cases hp : Header.parse? l with
  | none => simp [preparedLines_of_parse?_eq_none hp]
  | some p =>
    obtain ⟨h, rest⟩ := p
    have hagain : preparedLines drop' guard' ((h.guardedIf guard).render ++ rest) =
        (if drop' then [h.dropStatement, []] else []) ++
          [(h.guardedIf (guard || guard')).render ++ rest] := by
      rw [← guardedIf_guardedIf]
      simp only [preparedLines, parse?_guardedIf hp]
      rfl
    have hempty : preparedLines drop' guard' [] = [[]] := by
      cases drop' <;> cases guard' <;> decide
    have hfirst : ∀ drop guard, preparedLines drop guard l =
        (if drop then [h.dropStatement, []] else []) ++ [(h.guardedIf guard).render ++ rest] := by
      intro drop guard
      simp only [preparedLines, hp]
    rw [hfirst, hfirst, List.flatMap_append, List.flatMap_singleton, hagain]
    rcases hdrop with rfl | rfl
    · simp
    · cases drop <;> simp [preparedLines_dropStatement, hempty]

/-- Two preparations amount to one, unless objects are dropped both times. -/
theorem prepareHeaders_prepareHeaders {first second both : Flags}
    (hdrop : first.isOn .dropTable = false ∨ second.isOn .dropTable = false)
    (hdropBoth : both.isOn .dropTable = (first.isOn .dropTable || second.isOn .dropTable))
    (hguardBoth : both.isOn .ifNotExists = (first.isOn .ifNotExists || second.isOn .ifNotExists))
    (script : Text) :
    prepareHeaders second (prepareHeaders first script) = prepareHeaders both script := by
  have hlines : headerLines second (headerLines first (lines script)) =
      headerLines both (lines script) := by
    unfold headerLines
    rw [List.flatMap_assoc, hdropBoth, hguardBoth]
    exact List.flatMap_congr fun l _ => flatMap_preparedLines hdrop l
  rw [← ofLines_lines (prepareHeaders second _), lines_prepareHeaders, lines_prepareHeaders, hlines,
    ← lines_prepareHeaders, ofLines_lines]

end Twice

/-- Dropping and guarding do not disturb each other: one after the other, in either order, they do
what both do at once, and guarding again changes nothing. -/
theorem prepareHeaders_dropTable_ifNotExists (script : Text) :
    let drop := Flags.ofList [.dropTable]
    let guard := Flags.ofList [.ifNotExists]
    let both := Flags.ofList [.dropTable, .ifNotExists]
    prepareHeaders guard (prepareHeaders drop script) = prepareHeaders both script ∧
    prepareHeaders drop (prepareHeaders guard script) = prepareHeaders both script ∧
    prepareHeaders guard (prepareHeaders guard script) = prepareHeaders guard script := by
  intro drop guard both
  have hkeeps : guard.isOn .dropTable = false := by decide
  refine ⟨?_, ?_, ?_⟩
  · exact prepareHeaders_prepareHeaders (Or.inr hkeeps) (by decide) (by decide) script
  · exact prepareHeaders_prepareHeaders (Or.inl hkeeps) (by decide) (by decide) script
  · exact prepareHeaders_prepareHeaders (Or.inl hkeeps) (by decide) (by decide) script

end DdlDump
