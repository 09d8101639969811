import DdlDump.Ddl.Replay
import DdlDump.Proofs.Ddl.Scan
import DdlDump.Proofs.Text.Word
import Mathlib.Data.List.Basic

/-!
# What quoting column names does to a line

Quoting puts out one line for each line. It changes exactly the lines that name a column
(`NamesColumn`), and of these the name alone (`NamesColumn.quoteName_eq`, `exists_namesColumn`). It
changes neither where lines nor where statements end.
-/

namespace DdlDump

open Text

namespace Column

/-- The quote is no line feed. -/
lemma quote_ne_newline : quote ≠ '\n' := by
  decide

/-! ### Lines that name a column -/

/-- A line names a column when a word stands behind its indent, with a blank, a comma, a closing
parenthesis or nothing behind the word, and the line does not go on from its indent with the words
of a constraint, the last of them as a whole word. -/
structure NamesColumn (l indent name rest : Text) : Prop where
  cut : l = indent ++ (name ++ rest)
  isIndent : indent ≠ [] ∧ ∀ c ∈ indent, DdlDump.isIndent c = true
  isWord : name ≠ [] ∧ ∀ c ∈ name, isWordChar c = true
  ends : ∀ c ∈ rest.head?, isBlank c = true ∨ c = ',' ∨ c = ')'
  noConstraint : ∀ k ∈ constraintKeywords, ∀ r, name ++ rest = k ++ r →
    ∃ c ∈ r.head?, isWordChar c = true

/-- What may stand behind the name of a column. -/
lemma endsName_iff {t : Text} :
    endsName t = true ↔ ∀ c ∈ t.head?, isBlank c = true ∨ c = ',' ∨ c = ')' := by
  cases t with
  | nil => simp [endsName]
  | cons c t => simp [endsName, or_assoc]

/-- A text does not start with the words of a constraint when what follows them goes on with the
last word. -/
lemma opensConstraint_eq_false_iff {t : Text} :
    opensConstraint t = false ↔
      ∀ k ∈ constraintKeywords, ∀ r, t = k ++ r → ∃ c ∈ r.head?, isWordChar c = true := by
  have hkeyword : ∀ k : Text, ¬ (after? t k).any atWordEnd = true ↔
      ∀ r, t = k ++ r → ∃ c ∈ r.head?, isWordChar c = true := by
    intro k
    simp only [Option.any_eq_true, not_exists, not_and, after?_eq_some_iff, Bool.not_eq_true,
      atWordEnd_eq_false_iff]
  unfold opensConstraint
  rw [List.any_eq_false]
  exact forall₂_congr fun k _ => hkeyword k

namespace NamesColumn

variable {l indent name rest : Text} (h : NamesColumn l indent name rest)

include h

/-- The name is a whole word. -/
lemma atWordEnd_rest : atWordEnd rest = true := by
  refine atWordEnd_iff.2 fun c hc => ?_
  rcases h.ends c hc with hblank | rfl | rfl
  · exact isWordChar_eq_false_of_isBlank hblank
  · decide
  · decide

/-- The line is indented. -/
lemma isIndented_append (t : Text) : Line.isIndented (indent ++ t) = true := by
  obtain ⟨c, cs, hcons⟩ := List.exists_cons_of_ne_nil h.isIndent.1
  rw [hcons]
  exact h.isIndent.2 c (hcons ▸ List.mem_cons_self)

/-- Behind the indent stands the name, which is no part of it. -/
lemma cut_indent :
    l.takeWhile DdlDump.isIndent = indent ∧ l.dropWhile DdlDump.isIndent = name ++ rest := by
  have hname : ∀ c ∈ (name ++ rest).head?, DdlDump.isIndent c = false := by
    intro c hc
    rw [List.head?_append_of_ne_nil _ h.isWord.1] at hc
    exact isIndent_eq_false_of_isWordChar (h.isWord.2 c (List.mem_of_mem_head? hc))
  rw [h.cut]
  exact ⟨takeWhile_run_append h.isIndent.2 hname, dropWhile_run_append h.isIndent.2 hname⟩

/-- The name and the rest are found behind the indent. -/
lemma cut_word : word (name ++ rest) = name ∧ afterWord (name ++ rest) = rest :=
  ⟨word_append h.isWord.2 h.atWordEnd_rest, afterWord_append h.isWord.2 h.atWordEnd_rest⟩

/-- The name is put in quotes, and nothing else is changed. -/
theorem quoteName_eq : quoteName l = indent ++ quote :: (name ++ quote :: rest) := by
  have hindent : indent.isEmpty = false := by simpa using h.isIndent.1
  have hname : startsWithName (name ++ rest) = true := by
    have hword : atWordEnd (name ++ rest) = false := by
      unfold atWordEnd
      rw [h.cut_word.1]
      simpa using h.isWord.1
    unfold startsWithName
    rw [opensConstraint_eq_false_iff.2 h.noConstraint, hword, h.cut_word.2,
      endsName_iff.2 h.ends]
    rfl
  unfold quoteName
  simp only [h.cut_indent.1, h.cut_indent.2, hindent, hname, h.cut_word.1, h.cut_word.2]
  rfl

/-- This changes the line. -/
lemma quoteName_ne : quoteName l ≠ l := by
  rw [h.quoteName_eq]
  intro hsame
  have hlength := congrArg List.length (hsame.trans h.cut)
  simp only [List.length_append, List.length_cons] at hlength
  omega

end NamesColumn

/-- No other line is changed. -/
theorem exists_namesColumn {l : Text} (hl : quoteName l ≠ l) :
    ∃ indent name rest, NamesColumn l indent name rest := by
  have hcondition : l.takeWhile DdlDump.isIndent ≠ [] ∧
      startsWithName (l.dropWhile DdlDump.isIndent) = true := by
    by_contra hnot
    refine hl ?_
    unfold quoteName
    simp only [Bool.and_eq_true, Bool.not_eq_true', List.isEmpty_eq_false_iff]
    exact if_neg hnot
  have hname := hcondition.2
  unfold startsWithName atWordEnd at hname
  simp only [Bool.and_eq_true, Bool.not_eq_true', List.isEmpty_eq_false_iff] at hname
  obtain ⟨⟨hconstraint, hword⟩, hends⟩ := hname
  exact ⟨l.takeWhile DdlDump.isIndent, word (l.dropWhile DdlDump.isIndent),
    afterWord (l.dropWhile DdlDump.isIndent), {
    cut := by rw [word_append_afterWord, List.takeWhile_append_dropWhile]
    isIndent := ⟨hcondition.1, fun c hc => List.mem_takeWhile_imp hc⟩
    isWord := ⟨hword, fun c hc => List.mem_takeWhile_imp hc⟩
    ends := endsName_iff.1 hends
    noConstraint := by
      rw [word_append_afterWord]
      exact opensConstraint_eq_false_iff.1 hconstraint }⟩

/-! ### A line with its name in quotes -/

section Quoted

variable {l : Text}

/-- A line stays as it is, or it names a column and is put together again with quotes around the
name. -/
lemma quoteName_cases (l : Text) :
    quoteName l = l ∨ ∃ indent name rest, NamesColumn l indent name rest ∧
      quoteName l = indent ++ quote :: (name ++ quote :: rest) := by
  by_cases hsame : quoteName l = l
  · exact Or.inl hsame
  · obtain ⟨indent, name, rest, hnames⟩ := exists_namesColumn hsame
    exact Or.inr ⟨indent, name, rest, hnames, hnames.quoteName_eq⟩

/-- A line is still a line when its name is quoted. -/
lemma isLine_quoteName (hl : IsLine l) : IsLine (quoteName l) := by
  rcases quoteName_cases l with h | ⟨indent, name, rest, hnames, h⟩
  · rwa [h]
  · rw [h]
    rw [hnames.cut] at hl
    unfold IsLine at hl ⊢
    simp only [List.mem_append, List.mem_cons, not_or] at hl ⊢
    exact ⟨hl.1, quote_ne_newline.symm, hl.2.1, quote_ne_newline.symm, hl.2.2⟩

/-- A line that ends in a word ends no statement. -/
lemma isTerminated_append_word {x w : Text} (hne : w ≠ []) (hw : ∀ c ∈ w, isWordChar c = true) :
    Line.isTerminated (x ++ w) = false := by
  obtain ⟨init, last, rfl⟩ := (List.eq_nil_or_concat w).resolve_left hne
  have hlast : isWordChar last = true := hw last (by simp)
  rw [List.concat_eq_append, ← List.append_assoc,
    Line.isTerminated_concat _ (isBlank_eq_false_of_isWordChar hlast), beq_eq_false_iff_ne]
  rintro rfl
  exact absurd hlast (by decide)

/-- Quoting a name does not change whether a statement ends in the line. -/
lemma isTerminated_quoteName (l : Text) :
    Line.isTerminated (quoteName l) = Line.isTerminated l := by
  rcases quoteName_cases l with h | ⟨indent, name, rest, hnames, h⟩
  · rw [h]
  · have hquoted : Line.isTerminated (indent ++ quote :: (name ++ [quote])) = false := by
      have hassoc : indent ++ quote :: (name ++ [quote]) =
          (indent ++ quote :: name) ++ [quote] := by simp
      rw [hassoc, Line.isTerminated_concat _ (by decide)]
      decide
    have hsplit : indent ++ quote :: (name ++ quote :: rest) =
        (indent ++ quote :: (name ++ [quote])) ++ rest := by simp
    conv_rhs => rw [hnames.cut]
    rw [h, hsplit, ← List.append_assoc, Line.isTerminated_append, Line.isTerminated_append _ rest,
      hquoted, isTerminated_append_word hnames.isWord.1 hnames.isWord.2]

/-- A line whose name is put in quotes goes on with a quote behind its indent. -/
lemma exists_dropWhile_quoteName (hl : quoteName l ≠ l) :
    ∃ rest, (quoteName l).dropWhile isIndent = quote :: rest := by
  obtain ⟨indent, name, rest, hnames⟩ := exists_namesColumn hl
  have hquote : ∀ c ∈ (quote :: (name ++ quote :: rest)).head?, isIndent c = false := by
    intro c hc
    rw [← Option.some.inj hc]
    decide
  rw [hnames.quoteName_eq]
  exact ⟨_, dropWhile_run_append hnames.isIndent.2 hquote⟩

/-- An indented line stays indented. -/
lemma isIndented_quoteName (hl : Line.isIndented l = true) :
    Line.isIndented (quoteName l) = true := by
  rcases quoteName_cases l with h | ⟨indent, name, rest, hnames, h⟩
  · rwa [h]
  · rw [h]
    exact hnames.isIndented_append _

/-- A name in quotes is not put in quotes again, since a quote begins no word. -/
lemma quoteName_quoteName (l : Text) : quoteName (quoteName l) = quoteName l := by
  by_contra hagain
  have hchanged : quoteName l ≠ l := fun hsame => hagain (congrArg quoteName hsame)
  obtain ⟨r, hr⟩ := exists_dropWhile_quoteName hchanged
  obtain ⟨indent, name, rest, hnames⟩ := exists_namesColumn hagain
  obtain ⟨c, cs, hcons⟩ := List.exists_cons_of_ne_nil hnames.isWord.1
  have hc : isWordChar c = true := hnames.isWord.2 c (hcons ▸ List.mem_cons_self)
  rw [hnames.cut_indent.2, hcons, List.cons_append, List.cons.injEq] at hr
  rw [hr.1] at hc
  exact absurd hc (by decide)

/-- A line with a quote behind its indent does not set out to create anything. -/
lemma opening_quoteName (hl : quoteName l ≠ l) : Line.opening (quoteName l) = .inner := by
  obtain ⟨rest, hrest⟩ := exists_dropWhile_quoteName hl
  have hvisible : trimLeft (quote :: rest) = quote :: rest := by
    unfold trimLeft
    exact List.dropWhile_cons_of_neg (by decide)
  have hquote : Char.toUpper quote ≠ 'C' := by decide
  rw [Line.opening_eq_inner_iff]
  unfold Statement.startsWithCreate
  rw [← Line.trimLeft_dropWhile_isIndent, hrest, hvisible, decide_eq_false_iff_not]
  rintro ⟨t, ht⟩
  exact hquote (List.cons.inj ht).1.symm

/-- The quotes bring up no word behind which columns are listed. -/
lemma opensList_quoteName (hl : opensList l = false) : opensList (quoteName l) = false := by
  have hquote : ∀ k ∈ listKeywords, quote ∉ k := by decide
  rcases quoteName_cases l with h | ⟨indent, name, rest, hnames, h⟩
  · rwa [h]
  · unfold opensList at hl ⊢
    rw [List.any_eq_false] at hl ⊢
    intro k hk hin
    refine hl k hk ?_
    rw [occursIn_iff] at hin ⊢
    rw [h] at hin
    rw [hnames.cut]
    rcases isInfix_append_cons (hquote k hk) hin with hindent | hbehind
    · exact hindent.trans (List.prefix_append _ _).isInfix
    · rcases isInfix_append_cons (hquote k hk) hbehind with hword | hrest
      · exact hword.trans (List.infix_append' _ _ _)
      · rw [← List.append_assoc]
        exact hrest.trans (List.suffix_append _ _).isInfix

end Quoted

/-! ### What the pass does -/

/-- A line behind which columns are listed is put out. -/
lemma quoting_of_opensList {r : Region} {l : Text} (h : opensList l = true) :
    quoting r l = (some l, .columns) := by
  unfold quoting
  rw [if_pos h]

/-- The name of a column is quoted. -/
lemma quoting_of_isIndented {l : Text} (h : opensList l = false) (hl : Line.isIndented l = true) :
    quoting .columns l = (some (quoteName l), .columns) := by
  unfold quoting
  simp [h, hl]

/-- A line that stands in no list of columns is put out. -/
lemma quoting_of_outside {r : Region} {l : Text} (h : opensList l = false)
    (hl : ¬ (r = .columns ∧ Line.isIndented l = true)) : quoting r l = (some l, .passing) := by
  unfold quoting
  rw [if_neg (by simp [h]), if_neg (by simpa using hl)]

/-- Where no columns are listed, a line is put out. -/
lemma quoting_passing {l : Text} (h : opensList l = false) :
    quoting .passing l = (some l, .passing) :=
  quoting_of_outside h (by simp)

/-- A line that is not indented ends the list of columns. -/
lemma quoting_of_not_isIndented {r : Region} {l : Text} (h : opensList l = false)
    (hl : Line.isIndented l = false) : quoting r l = (some l, .passing) :=
  quoting_of_outside h (by simp [hl])

/-- A line that is not indented is put out. -/
lemma visit_quoting_of_not_isIndented {r : Region} {l : Text}
    (hopening : Line.opening l ≠ .unrecognised) (hl : Line.isIndented l = false) :
    ∃ s, quoting.visit ⟨r, false⟩ l = ⟨l, some l, ⟨s, false⟩⟩ := by
  rw [Pass.visit_of_opening hopening]
  by_cases hlist : opensList l = true
  · rw [quoting_of_opensList hlist]
    exact ⟨.columns, rfl⟩
  · rw [quoting_of_not_isIndented (by simpa using hlist) hl]
    exact ⟨.passing, rfl⟩

/-- For every line one line is put out: the line itself, or, in a list of columns, the line with its
name quoted. -/
lemma quoting_cases (r : Region) (l : Text) :
    (quoting r l).1 = some l ∨
      (r = .columns ∧ opensList l = false ∧ Line.isIndented l = true ∧
        quoting r l = (some (quoteName l), .columns)) := by
  unfold quoting
  cases hlist : opensList l with
  | true => exact Or.inl rfl
  | false =>
    by_cases hcolumn : (r == .columns && Line.isIndented l) = true
    · rw [Bool.and_eq_true, beq_iff_eq] at hcolumn
      refine Or.inr ⟨hcolumn.1, rfl, hcolumn.2, ?_⟩
      simp [hcolumn.1, hcolumn.2]
    · rw [Bool.not_eq_true] at hcolumn
      simp [hcolumn]

/-- Behind a line that starts with one of the keywords columns are listed. -/
lemma opensList_append {k : Text} (hk : k ∈ listKeywords) (r : Text) :
    opensList (k ++ r) = true := by
  unfold opensList
  rw [List.any_eq_true]
  exact ⟨k, hk, occursIn_iff.2 ⟨[], r, rfl⟩⟩

/-- Behind an empty line no columns are listed. -/
@[simp]
lemma opensList_nil : opensList [] = false := by
  decide

/-- Nor behind a semicolon of its own. -/
@[simp]
lemma opensList_semicolon : opensList [';'] = false := by
  decide

/-- Quoting is a regular pass. -/
lemma quoting_regular : quoting.Regular where
  blank := by rw [quoting_passing opensList_nil]
  isLine := by
    intro r l m hl hm
    rcases quoting_cases r l with h | ⟨-, -, -, h⟩
    · rw [h, Option.some.injEq] at hm
      exact hm ▸ hl
    · rw [h, Option.some.injEq] at hm
      exact hm ▸ isLine_quoteName hl

/-- Where a statement ends, its end is put out, and nothing is copied any longer. -/
lemma visit_quoting_of_terminated {c : Cursor} {l : Text} (hl : Line.isTerminated l = true) :
    ∃ m r, quoting.visit c l = ⟨l, some m, ⟨r, false⟩⟩ ∧ Line.isTerminated m = true := by
  cases hskip : (c.enter l).skipping with
  | true =>
    refine ⟨l, (c.enter l).region, ?_, hl⟩
    rw [Pass.visit_of_skipping hskip, hl]
    rfl
  | false =>
    rw [Pass.visit_of_not_skipping hskip]
    rcases quoting_cases c.region l with h | ⟨-, -, -, h⟩
    · exact ⟨l, (quoting c.region l).2, by rw [h], hl⟩
    · exact ⟨quoteName l, (quoting c.region l).2, by rw [h], by rwa [isTerminated_quoteName]⟩

/-- An empty line ends a list of columns. -/
lemma visit_quoting_blank (r : Region) : quoting.visit ⟨r, false⟩ [] = ⟨[], some [], .start⟩ := by
  rw [Pass.visit_of_opening (by simp), quoting_of_not_isIndented opensList_nil Line.isIndented_nil]
  rfl

end Column

end DdlDump
