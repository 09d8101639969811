import DdlDump.Partition
import DdlDump.Proofs.Ddl.StatementTexts

/-!
# The header of a statement, from its first line and from its text

The headers of a script are prepared line by line, but the tables that have partitions are found in
the texts of statements, whose line feeds are deleted. The header on the first line of a statement
is thus read a second time, with the lines behind it put directly behind it. The kind of the object
is the same both times. Its name goes on if the line ends with it and the next line does not start
with a blank or a parenthesis, and a guard may come about if the line ends inside its words
(`Header.continued`).

So the table whose partitions are asked for is the one that is dropped and created when neither
happens, and otherwise only when the guard has the same name behind it (`header?_statementTexts`). A
name on a line of its own is enough for another one to be asked for
(`header?_statementTexts_nameAlone`).
-/

namespace DdlDump

open Text

namespace Header

/-! ### A header with text behind it -/

/-- The header that is read where text stands directly behind a header. -/
def continued (h : Header) (behind : Text) : Header :=
  match if h.guarded then none else (after? (h.name ++ behind) guardKeyword).bind parseName? with
  | some (name, _) => { h with guarded := true, name := name }
  | none => { h with name := h.name ++ behind.takeWhile isNameChar }

section Continued

variable {h : Header} {behind : Text}

/-- Where no guard comes about, the name goes on as far as it can. -/
lemma continued_of_guardFree (hfree : h.guarded = false → GuardFree (h.name ++ behind)) :
    h.continued behind = { h with name := h.name ++ behind.takeWhile isNameChar } := by
  unfold continued
  cases hguarded : h.guarded with
  | true => rfl
  | false =>
    have hnone : (after? (h.name ++ behind) guardKeyword).bind parseName? = none := hfree hguarded
    simp only [Bool.false_eq_true, if_false, hnone]

/-- Where a guard comes about, the name is the one behind it. -/
lemma continued_of_guard (hguarded : h.guarded = false) {name rest : Text}
    (hguard : (after? (h.name ++ behind) guardKeyword).bind parseName? = some (name, rest)) :
    h.continued behind = { h with guarded := true, name := name } := by
  unfold continued
  simp only [hguarded, Bool.false_eq_true, if_false, hguard]

/-- Either no guard comes about, or one does. -/
lemma guardFree_or_guard (h : Header) (behind : Text) :
    (h.guarded = false → GuardFree (h.name ++ behind)) ∨ h.guarded = false ∧ ∃ name rest,
      (after? (h.name ++ behind) guardKeyword).bind parseName? = some (name, rest) := by
  cases hguarded : h.guarded with
  | true => exact Or.inl fun hfalse => absurd hfalse (by decide)
  | false =>
    unfold GuardFree
    cases hguard : (after? (h.name ++ behind) guardKeyword).bind parseName? with
    | none => exact Or.inl fun _ => rfl
    | some p => exact Or.inr ⟨rfl, p.1, p.2, rfl⟩

/-- The kind of the object does not depend on what is behind the header. -/
lemma kind_continued (h : Header) (behind : Text) :
    (h.continued behind).kind = h.kind ∧ (h.continued behind).external = h.external := by
  rcases guardFree_or_guard h behind with hfree | ⟨hguarded, name, rest, hguard⟩
  · rw [continued_of_guardFree hfree]
    exact ⟨rfl, rfl⟩
  · rw [continued_of_guard hguarded hguard]
    exact ⟨rfl, rfl⟩

/-- Nothing goes on in front of the end of a name. -/
lemma takeWhile_isNameChar_eq_nil_iff : behind.takeWhile isNameChar = [] ↔ EndsName behind := by
  unfold EndsName
  cases behind with
  | nil => simp
  | cons c behind =>
    cases hc : isNameChar c with
    | true => simp [hc]
    | false => simp [hc]

/-- The header is the same with the text behind it when its name ends there and no guard comes
about. -/
theorem continued_eq_self_iff :
    h.continued behind = h ↔
      EndsName behind ∧ (h.guarded = false → GuardFree (h.name ++ behind)) := by
  rcases guardFree_or_guard h behind with hfree | ⟨hguarded, name, rest, hguard⟩
  · have hname : h.continued behind = h ↔ h.name ++ behind.takeWhile isNameChar = h.name := by
      rw [continued_of_guardFree hfree]
      exact ⟨congrArg Header.name, fun heq => by rw [heq]⟩
    rw [hname, List.append_right_eq_self, takeWhile_isNameChar_eq_nil_iff]
    exact ⟨fun hends => ⟨hends, hfree⟩, And.left⟩
  · constructor
    · intro hsame
      have htrue : (h.continued behind).guarded = true := by
        rw [continued_of_guard hguarded hguard]
      rw [hsame, hguarded] at htrue
      exact absurd htrue (by decide)
    · rintro ⟨-, hfree⟩
      have hnone : (after? (h.name ++ behind) guardKeyword).bind parseName? = none :=
        hfree hguarded
      rw [hguard] at hnone
      exact absurd hnone (Option.some_ne_none _)

/-- The name alone is also the same where a guard comes about with this name behind it. -/
theorem name_continued_eq_iff :
    (h.continued behind).name = h.name ↔
      EndsName behind ∧ (h.guarded = false → GuardFree (h.name ++ behind)) ∨
      h.guarded = false ∧ ∃ rest,
        (after? (h.name ++ behind) guardKeyword).bind parseName? = some (h.name, rest) := by
  rcases guardFree_or_guard h behind with hfree | ⟨hguarded, name, rest, hguard⟩
  · have hnone : ¬ (h.guarded = false ∧ ∃ rest,
        (after? (h.name ++ behind) guardKeyword).bind parseName? = some (h.name, rest)) := by
      rintro ⟨hguarded, rest, hguard⟩
      have hfree := hfree hguarded
      unfold GuardFree at hfree
      rw [hguard] at hfree
      exact absurd hfree (Option.some_ne_none _)
    rw [continued_of_guardFree hfree, or_iff_left hnone, and_iff_left hfree,
      ← takeWhile_isNameChar_eq_nil_iff]
    exact List.append_right_eq_self
  · have hbound : ¬ (h.guarded = false → GuardFree (h.name ++ behind)) := by
      intro hfree
      have hnone := hfree hguarded
      unfold GuardFree at hnone
      rw [hguard] at hnone
      exact absurd hnone (Option.some_ne_none _)
    rw [continued_of_guard hguarded hguard, or_iff_right fun h => hbound h.2,
      and_iff_right hguarded]
    constructor
    · rintro rfl
      exact ⟨rest, hguard⟩
    · rintro ⟨rest', hguard'⟩
      rw [hguard] at hguard'
      exact congrArg Prod.fst (Option.some.inj hguard')

/-- The header that is read from a printed header with text behind it. -/
theorem exists_parse?_render_append (hindent : ∀ c ∈ h.indent, isIndent c = true)
    (hname : IsName h.name) (behind : Text) :
    ∃ rest, parse? (h.render ++ behind) = some (h.continued behind, rest) := by
  rcases guardFree_or_guard h behind with hfree | ⟨hguarded, name, rest, hguard⟩
  · have hcut : behind.takeWhile isNameChar ++ behind.dropWhile isNameChar = behind :=
      List.takeWhile_append_dropWhile
    rw [continued_of_guardFree hfree]
    refine ⟨behind.dropWhile isNameChar, parse?_eq_some_iff.2 ⟨?_, hindent, ⟨?_, ?_⟩,
      head?_dropWhile_eq_false behind, fun hguarded => ?_⟩⟩
    · conv_lhs => rw [← hcut]
      unfold render opening
      simp only [List.append_assoc]
    · exact List.append_ne_nil_of_left_ne_nil hname.1 _
    · rw [List.forall_mem_append]
      exact ⟨hname.2, fun c hc => List.mem_takeWhile_imp hc⟩
    · rw [List.append_assoc, hcut]
      exact hfree hguarded
  · obtain ⟨r, hr, hparse⟩ := Option.bind_eq_some_iff.1 hguard
    obtain ⟨rfl, hname', hends⟩ := parseName?_eq_some_iff.1 hparse
    rw [continued_of_guard hguarded hguard]
    refine ⟨rest, parse?_eq_some_iff.2 ⟨?_, hindent, hname', hends, by simp⟩⟩
    unfold render opening optional
    simp only [hguarded, Bool.false_eq_true, if_false, if_true, List.nil_append, List.append_assoc,
      after?_eq_some_iff.1 hr]

end Continued

/-- A header without a semicolon in its name holds none. -/
lemma not_mem_render {h : Header} (hindent : ∀ c ∈ h.indent, isIndent c = true)
    (hname : ';' ∉ h.name) : ';' ∉ h.render := by
  have hspaces : ';' ∉ h.indent := fun hmem => absurd (hindent ';' hmem) (by decide)
  have hexternal : ';' ∉ optional h.external externalKeyword := by
    cases h.external <;> decide
  have hkind : ';' ∉ h.kind.keyword := by
    cases h.kind <;> decide
  have hguard : ';' ∉ optional h.guarded guardKeyword := by
    cases h.guarded <;> decide
  have hcreate : ';' ∉ createKeyword := by decide
  unfold render opening
  simp [hspaces, hcreate, hexternal, hkind, hguard, hname]

end Header

/-! ### The text of a statement -/

section StatementText

variable {s : Text}

/-- Without its line feeds a text is made of its lines. -/
lemma without_newline (s : Text) : without s '\n' = (lines s).flatten := by
  have hlines : (lines s).map (without · '\n') = lines s := by
    conv_rhs => rw [← List.map_id (lines s)]
    exact List.map_congr_left fun l hl => without_of_not_mem (isLine_of_mem_lines hl)
  conv_lhs => rw [← ofLines_lines s]
  unfold ofLines
  rw [without_intercalate (by decide), hlines]

/-- A text with no semicolon but at its end is one statement, with nothing visible behind it. -/
lemma exists_statementTexts_eq (hs : ';' ∉ s.dropLast) :
    ∃ behind, (behind = [] ∨ behind = [[]]) ∧
      statementTexts s = without (lines s).flatten ';' :: behind := by
  rw [← without_newline]
  unfold statementTexts
  by_cases hmem : ';' ∈ s
  · obtain ⟨front, c, rfl⟩ := (List.eq_nil_or_concat' s).resolve_left (List.ne_nil_of_mem hmem)
    rw [List.dropLast_concat] at hs
    obtain rfl : ';' = c := by simpa [hs] using hmem
    have hfront : ';' ∉ without front '\n' := fun h => hs (List.mem_of_mem_filter h)
    have hend : without [';'] '\n' = [';'] := rfl
    refine ⟨[[]], Or.inr rfl, ?_⟩
    rw [without_append, hend, List.splitOn_append_cons_self, List.splitOn_eq_singleton hfront,
      without_append, without_of_not_mem hfront]
    simp [without]
  · have hnone : ';' ∉ without s '\n' := fun h => hmem (List.mem_of_mem_filter h)
    refine ⟨[], Or.inl rfl, ?_⟩
    rw [List.splitOn_eq_singleton hnone, without_of_not_mem hnone]

/-- A statement creates a partitioned table when the table is what its header says and the words
that open the partition columns stand in it. -/
lemma partitionedNames_of_header {text : Text} {h : Header} {behind : List Text}
    (hbehind : behind = [] ∨ behind = [[]]) (htexts : statementTexts s = text :: behind)
    (hheader : (Statement.parse text).header? = some h) :
    partitionedNames s =
      if h.kind = .table ∧ occursIn Statement.partitionKeyword text = true then [unquote h.name]
      else [] := by
  have hnone : ∀ t ∈ behind, ((fun t => if (Statement.parse t).isPartitioned then
      (Statement.parse t).header?.map fun h => unquote h.name else none) t) = none := by
    rcases hbehind with rfl | rfl <;> decide
  have htext : (Statement.parse text).text = text := rfl
  unfold partitionedNames
  rw [htexts, List.filterMap_cons, List.filterMap_eq_nil_iff.2 hnone]
  unfold Statement.isPartitioned
  simp only [hheader, htext, Bool.and_eq_true, beq_iff_eq, Option.map_some]
  split_ifs <;> rfl

end StatementText

/-! ### The two readings -/

section Readings

variable {s first rest : Text} {others : List Text} {h : Header}

/-- Where only the first line of a script has a header, this header is prepared and nothing else is
changed. -/
lemma prepareHeaders_of_first (hlines : lines s = first :: others)
    (hp : Header.parse? first = some (h, rest))
    (hothers : ∀ l ∈ others, (Statement.parse l).header? = none) (flags : Flags) :
    prepareHeaders flags s =
      h.prepared (flags.isOn .dropTable) (flags.isOn .ifNotExists) ++ ofLines (rest :: others) := by
  have hsame : ∀ f, others.map (substituteLine f) = others := by
    intro f
    conv_rhs => rw [← List.map_id others]
    refine List.map_congr_left fun l hl => ?_
    have hnone : Header.parse? l = none := by simpa [Statement.parse] using hothers l hl
    unfold substituteLine
    rw [hnone]
    rfl
  have hfirst : ∀ f, substituteLine f first = f h ++ rest := by
    intro f
    unfold substituteLine
    rw [hp]
  unfold prepareHeaders
  rw [← ofLines_lines s, substituteHeaders_ofLines fun l hl => isLine_of_mem_lines hl, hlines,
    List.map_cons, hsame, hfirst]
  rcases eq_or_ne others [] with rfl | hne
  · rw [ofLines_singleton, ofLines_singleton]
  · rw [ofLines_cons hne, ofLines_cons hne, List.append_assoc]

/-- The text of a statement is the header on its first line, with the rest of the statement behind
it. -/
lemma without_flatten_lines (hlines : lines s = first :: others)
    (hp : Header.parse? first = some (h, rest)) (hname : ';' ∉ h.name) :
    without (lines s).flatten ';' = h.render ++ without (rest ++ others.flatten) ';' := by
  obtain ⟨hsplit, hindent, -⟩ := Header.parse?_eq_some_iff.1 hp
  rw [hlines, List.flatten_cons, hsplit, List.append_assoc, without_append,
    without_of_not_mem (Header.not_mem_render hindent hname)]

/-- The header of a statement is read on its first line, where the object is dropped and created,
and from the text of the statement, where the partitions of a table are asked for. The second
reading is the first one with the rest of the statement behind it: the kind of the object is the
same, and so is all of the header exactly when the name ends there and no guard comes about. The
name alone is the same in one more case: a guard comes about, and has the same name behind it. -/
theorem header?_statementTexts (hlines : lines s = first :: others)
    (hp : Header.parse? first = some (h, rest))
    (hothers : ∀ l ∈ others, (Statement.parse l).header? = none) (hends : ';' ∉ s.dropLast)
    (hname : ';' ∉ h.name) (flags : Flags) :
    prepareHeaders flags s =
      h.prepared (flags.isOn .dropTable) (flags.isOn .ifNotExists) ++ ofLines (rest :: others) ∧
    ∃ text behind, (statementTexts s).head? = some text ∧
      behind = without (rest ++ others.flatten) ';' ∧ text = h.render ++ behind ∧
      (Statement.parse text).header? = some (h.continued behind) ∧
      ((h.continued behind).kind = h.kind ∧ (h.continued behind).external = h.external) ∧
      (h.continued behind = h ↔ Header.EndsName behind ∧
        (h.guarded = false → Header.GuardFree (h.name ++ behind))) ∧
      ((h.continued behind).name = h.name ↔
        Header.EndsName behind ∧ (h.guarded = false → Header.GuardFree (h.name ++ behind)) ∨
        h.guarded = false ∧ ∃ r,
          (after? (h.name ++ behind) Header.guardKeyword).bind Header.parseName? =
            some (h.name, r)) ∧
      partitionedNames s =
        if h.kind = .table ∧ occursIn Statement.partitionKeyword text = true then
          [unquote (h.continued behind).name]
        else [] := by
  refine ⟨prepareHeaders_of_first hlines hp hothers flags, ?_⟩
  obtain ⟨-, hindent, hisName, -⟩ := Header.parse?_eq_some_iff.1 hp
  obtain ⟨tail, htail, htexts⟩ := exists_statementTexts_eq hends
  obtain ⟨behind, hbehind⟩ : ∃ behind, behind = without (rest ++ others.flatten) ';' := ⟨_, rfl⟩
  have htext := without_flatten_lines hlines hp hname
  rw [← hbehind] at htext
  generalize without (lines s).flatten ';' = text at htexts htext
  obtain ⟨r, hread⟩ := Header.exists_parse?_render_append hindent hisName behind
  have hheader : (Statement.parse text).header? = some (h.continued behind) := by
    unfold Statement.parse
    rw [htext, hread]
    rfl
  have hkind := Header.kind_continued h behind
  refine ⟨text, behind, by rw [htexts]; rfl, hbehind, htext, hheader, hkind,
    Header.continued_eq_self_iff, Header.name_continued_eq_iff, ?_⟩
  rw [partitionedNames_of_header htail htexts hheader, hkind.1]

end Readings

/-- A table whose name ends its line is still the table whose partitions are asked for where a
parenthesis opens the next line. -/
theorem header?_statementTexts_parenthesisBelow :
    let first := "CREATE EXTERNAL TABLE \x60t\x60".toList
    let others := ["(a int)", "PARTITIONED BY (ds string);"].map String.toList
    let s := ofLines (first :: others)
    let h : Header := ⟨[], true, .table, false, "\x60t\x60".toList⟩
    let flags := Flags.ofList [.dropTable]
    (lines s = first :: others ∧ Header.parse? first = some (h, []) ∧
      (∀ l ∈ others, (Statement.parse l).header? = none) ∧ ';' ∉ s.dropLast ∧ ';' ∉ h.name) ∧
    prepareHeaders flags s = "DROP TABLE \x60t\x60;\n\n".toList ++ s ∧
    (∃ text, (statementTexts s).head? = some text ∧ (Statement.parse text).header? = some h) ∧
    partitionedNames s = ["t".toList] := by
  intro first others s h flags
  have hlines : lines s = first :: others := lines_ofLines (List.cons_ne_nil _ _) (by decide)
  have hp : Header.parse? first = some (h, []) := by decide +kernel
  have hothers : ∀ l ∈ others, (Statement.parse l).header? = none := by decide +kernel
  have hends : ';' ∉ s.dropLast := by decide +kernel
  have hname : ';' ∉ h.name := by decide
  obtain ⟨hprepared, text, behind, hhead, hbehind, htext, hheader, -, hsame, -, hnames⟩ :=
    header?_statementTexts hlines hp hothers hends hname flags
  have hcontinued : h.continued behind = h := by
    rw [hsame, hbehind]
    exact ⟨Header.endsName_parenthesis _, fun _ => rfl⟩
  rw [hcontinued] at hheader hnames
  refine ⟨⟨hlines, hp, hothers, hends, hname⟩, hprepared.trans (by decide +kernel),
    ⟨text, hhead, hheader⟩, hnames.trans ?_⟩
  rw [htext, hbehind]
  decide +kernel

/-- Where a word opens the next line, the name is glued to it: the table `t` is dropped and created,
and the partitions of another one are asked for. -/
theorem header?_statementTexts_nameAlone :
    let s := "CREATE TABLE t\nPARTITIONED BY (\n  ds string);".toList
    let h : Header := ⟨[], false, .table, false, "t".toList⟩
    ((lines s).map fun l => (Statement.parse l).header?) = [some h, none, none] ∧
    ';' ∉ s.dropLast ∧
    ((statementTexts s).map fun text => (Statement.parse text).header?) =
      [some { h with name := "tPARTITIONED".toList }, none] ∧
    prepareHeaders (Flags.ofList [.dropTable]) s = "DROP TABLE t;\n\n".toList ++ s ∧
    partitionedNames s = ["tPARTITIONED".toList] := by
  decide +kernel

end DdlDump
