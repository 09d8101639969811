import DdlDump.Proofs.Ddl.Semicolons
import DdlDump.Proofs.Ddl.Separation
import DdlDump.Proofs.Ddl.StatementLines
import DdlDump.Proofs.Text.Trim

/-!
# Statements with their semicolons

The statement that a warehouse answers is trimmed and gets a semicolon. Its headers are the same
then (`headerCount_terminate`): a header is there as soon as a name begins behind its keywords, and
neither blanks nor a semicolon begin one there. A semicolon that directly follows a name becomes
part of it, and in all other cases the names of headers stay without semicolons
(`not_mem_name_of_mem_lines_terminate`).
-/

namespace DdlDump

open Text

/-! ### Text behind the last line -/

/-- What is put behind lines goes on with the last one. -/
lemma ofLines_concat_append (init : List Text) (last s : Text) :
    ofLines (init ++ [last]) ++ s = ofLines (init ++ [last ++ s]) := by
  rcases eq_or_ne init [] with rfl | hne
  · simp
  · rw [ofLines_append hne (List.cons_ne_nil _ _), ofLines_append hne (List.cons_ne_nil _ _)]
    simp

/-- What is put behind a text and holds no line feed goes on with its last line. -/
lemma exists_lines_append {s : Text} (t : Text) (hs : IsLine s) :
    ∃ init last, lines t = init ++ [last] ∧ lines (t ++ s) = init ++ [last ++ s] := by
  obtain ⟨init, last, hlines⟩ := (List.eq_nil_or_concat' (lines t)).resolve_left (lines_ne_nil t)
  refine ⟨init, last, hlines, ?_⟩
  have hmem : ∀ l ∈ init ++ [last], IsLine l := fun l hl => isLine_of_mem_lines (hlines ▸ hl)
  have hinit : ∀ l ∈ init, IsLine l := fun l hl => hmem l (List.mem_append_left _ hl)
  have hlast : IsLine (last ++ s) := by
    have hfront : IsLine last := hmem last (by simp)
    unfold IsLine at hfront hs ⊢
    rw [List.mem_append, not_or]
    exact ⟨hfront, hs⟩
  rw [← ofLines_lines t, hlines, ofLines_concat_append]
  apply lines_ofLines (by simp)
  intro l hl
  rcases List.mem_append.1 hl with hl | hl
  · exact hinit l hl
  · exact List.mem_singleton.1 hl ▸ hlast

/-! ### Where a header is -/

namespace Header

/-- A name begins with its first character. -/
lemma exists_parseGuardedName? {c : Char} (hc : isNameChar c = true) (r : Text) :
    ∃ p, parseGuardedName? (c :: r) = some p := by
  unfold parseGuardedName?
  cases (after? (c :: r) guardKeyword).bind parseName? with
  | some p => exact ⟨_, rfl⟩
  | none =>
    unfold parseName?
    rw [List.takeWhile_cons_of_pos hc]
    exact ⟨_, rfl⟩

/-- A text starts with a header when a name begins behind the keywords of one. -/
lemma isSome_parse?_iff {t : Text} :
    (parse? t).isSome = true ↔ ∃ (h : Header) (c : Char) (r : Text),
      (∀ d ∈ h.indent, isIndent d = true) ∧ isNameChar c = true ∧ t = h.opening ++ c :: r := by
  constructor
  · intro ht
    obtain ⟨⟨h, rest⟩, hp⟩ := Option.isSome_iff_exists.1 ht
    obtain ⟨hsplit, hindent, ⟨hne, hname⟩, -⟩ := parse?_eq_some_iff.1 hp
    obtain ⟨c, n, hn⟩ := List.exists_cons_of_ne_nil hne
    have hfirst : ∃ d r, isNameChar d = true ∧
        optional h.guarded guardKeyword ++ h.name ++ rest = d :: r := by
      cases h.guarded with
      | false => exact ⟨c, n ++ rest, hname c (hn ▸ List.mem_cons_self), by rw [hn]; rfl⟩
      | true => exact ⟨'I', _, by decide, rfl⟩
    obtain ⟨d, r, hd, hr⟩ := hfirst
    refine ⟨h, d, r, hindent, hd, ?_⟩
    rw [hsplit, ← hr]
    unfold render
    simp only [List.append_assoc]
  · rintro ⟨h, c, r, hindent, hc, rfl⟩
    obtain ⟨indent, external, kind, guarded, name⟩ := h
    obtain ⟨p, hp⟩ := exists_parseGuardedName? hc r
    have hbody : ∀ d ∈ (createKeyword ++ (optional external externalKeyword ++
        (kind.keyword ++ ' ' :: c :: r))).head?, isIndent d = false := by
      intro d hd
      have hfirst : 'C' = d := Option.some.inj hd
      rw [← hfirst]
      decide
    have hkind : ObjectKind.parse? (kind.keyword ++ ' ' :: c :: r) = some (kind, c :: r) :=
      parseKind?_eq_some_iff.2 rfl
    have hassoc : opening ⟨indent, external, kind, guarded, name⟩ ++ c :: r =
        indent ++ (createKeyword ++ (optional external externalKeyword ++
          (kind.keyword ++ ' ' :: c :: r))) := by
      simp [opening]
    rw [hassoc]
    unfold parse?
    rw [takeWhile_run_append hindent hbody, dropWhile_run_append hindent hbody, after?_append]
    simp only [Option.bind_eq_bind, Option.bind_some, takeOptional_external, hkind, hp,
      Option.pure_def, Option.isSome_some]

/-- The keywords of a header end in a space. -/
lemma exists_opening_eq (h : Header) : ∃ front, h.opening = front ++ [' '] := by
  refine
    ⟨h.indent ++ (createKeyword ++ (optional h.external externalKeyword ++ h.kind.keyword)), ?_⟩
  unfold opening
  simp only [List.append_assoc]

/-- A text that ends visibly goes on to start with a header, or not to, when a name can begin behind
it with the first character at most. -/
lemma isSome_parse?_append {l front s : Text} {v : Char} (hl : l = front ++ [v])
    (hv : isBlank v = false)
    (hs : ∀ d c r, s = d ++ c :: r → isNameChar c = true → d = []) :
    (parse? (l ++ s)).isSome = (parse? l).isSome := by
  rw [Bool.eq_iff_iff, isSome_parse?_iff, isSome_parse?_iff]
  constructor
  · rintro ⟨h, c, r, hindent, hc, hsplit⟩
    have hne : h.opening ≠ l := by
      obtain ⟨keywords, hspace⟩ := exists_opening_eq h
      intro hsame
      rw [hspace, hl] at hsame
      obtain ⟨-, hsame⟩ := List.append_inj' hsame rfl
      rw [← List.singleton_inj.1 hsame] at hv
      exact absurd hv (by decide)
    rcases List.append_eq_append_iff.1 hsplit with ⟨d, hopening, hrest⟩ | ⟨d, hopening, hrest⟩
    · -- The keywords reach beyond the text, so that the name begins further behind.
      have hd := hs d c r hrest hc
      rw [hd, List.append_nil] at hopening
      exact absurd hopening hne
    · cases d with
      | nil => exact absurd (hopening.trans (List.append_nil _)).symm hne
      | cons e d =>
        obtain ⟨rfl, -⟩ := List.cons.inj hrest
        exact ⟨h, c, d, hindent, hc, hopening⟩
  · rintro ⟨h, c, r, hindent, hc, hsplit⟩
    exact ⟨h, c, r ++ s, hindent, hc, by rw [hsplit]; simp⟩

/-- A name does not start with the guard, in which there is a space. -/
lemma guardFree_of_isName {n : Text} (hn : ∀ c ∈ n, isNameChar c = true) : GuardFree n := by
  rw [← List.append_nil n]
  exact guardFree_append hn (by simp [EndsName]) (by simp)

/-- What stands in front of the name in a header ends in a space. -/
lemma exists_beforeName_eq (h : Header) :
    ∃ front, h.opening ++ optional h.guarded guardKeyword = front ++ [' '] := by
  cases h.guarded with
  | false =>
    obtain ⟨front, hopening⟩ := exists_opening_eq h
    exact ⟨front, by rw [hopening]; simp [optional]⟩
  | true =>
    refine ⟨h.opening ++ "IF NOT EXISTS".toList, ?_⟩
    rw [List.append_assoc]
    rfl

/-- A header with nothing behind its name is read back. -/
lemma parse?_render {h : Header} (hindent : ∀ c ∈ h.indent, isIndent c = true)
    (hne : h.name ≠ []) (hname : ∀ c ∈ h.name, isNameChar c = true) :
    parse? h.render = some (h, []) := by
  refine parse?_eq_some_iff.2 ⟨(List.append_nil _).symm, hindent, ⟨hne, hname⟩,
    fun c hc => absurd hc (by simp), fun _ => ?_⟩
  rw [List.append_nil]
  exact guardFree_of_isName hname

/-- A semicolon behind a text becomes part of the name of a header only where the text ends directly
behind the name. -/
lemma not_mem_name_of_parse?_concat {l front rest : Text} {v : Char} {h : Header}
    (hplain : ';' ∉ l) (hl : l = front ++ [v]) (hv : isBlank v = false)
    (hbare : ∀ h, parse? l ≠ some (h, [])) (hp : parse? (l ++ [';']) = some (h, rest)) :
    ';' ∉ h.name := by
  obtain ⟨hsplit, hindent, ⟨hne, hname⟩, -, -⟩ := parse?_eq_some_iff.1 hp
  rcases List.eq_nil_or_concat' rest with rfl | ⟨behind, end_, rfl⟩
  · obtain ⟨n, c, hn⟩ := (List.eq_nil_or_concat' h.name).resolve_left hne
    have hrender : l ++ [';'] = ({ h with name := n }.render) ++ [c] := by
      rw [hsplit]
      unfold render
      rw [hn]
      simp only [List.append_assoc, List.append_nil]
      rfl
    obtain ⟨hfront, -⟩ := List.append_inj' hrender rfl
    rw [hn, List.forall_mem_append] at hname
    rcases eq_or_ne n [] with rfl | hnonempty
    · -- Without the semicolon there is no name, and the text ends in the space in front of it.
      obtain ⟨keywords, hkeywords⟩ := exists_beforeName_eq h
      have hspace : front ++ [v] = keywords ++ [' '] := by
        rw [← hl, hfront, ← hkeywords]
        unfold render
        rw [List.append_nil]
        rfl
      obtain ⟨-, hsame⟩ := List.append_inj' hspace rfl
      rw [List.singleton_inj.1 hsame] at hv
      exact absurd hv (by decide)
    · have hread : parse? ({ h with name := n }.render) = some ({ h with name := n }, []) :=
        parse?_render hindent hnonempty hname.1
      rw [← hfront] at hread
      exact absurd hread (hbare _)
  · rw [← List.append_assoc] at hsplit
    obtain ⟨hfront, -⟩ := List.append_inj' hsplit rfl
    intro hmem
    apply hplain
    rw [hfront]
    unfold render
    simp [hmem]

end Header

/-! ### The headers of a text that is trimmed or ended -/

/-- Whether one line is a header. -/
lemma headerCount_singleton (l : Text) :
    headerCount [l] = if (Header.parse? l).isSome then 1 else 0 := by
  unfold headerCount Statement.parse
  rw [List.countP_singleton, Option.isSome_map]

/-- There is no header among blank lines. -/
lemma headerCount_of_blank {ls : List Text} (hls : ∀ l ∈ ls, l.all isBlank = true) :
    headerCount ls = 0 := by
  unfold headerCount
  rw [List.countP_eq_zero]
  intro l hl
  unfold Statement.parse
  rw [Line.parse?_eq_none_of_opening (by rw [opening_of_blank (hls l hl)]; decide)]
  exact Bool.false_ne_true

/-- The lines of blanks are blank. -/
lemma all_isBlank_of_mem_lines {blanks : Text} (hblanks : ∀ c ∈ blanks, isBlank c = true)
    {l : Text} (hl : l ∈ lines blanks) : l.all isBlank = true := by
  rw [List.all_eq_true]
  exact fun c hc => hblanks c (mem_of_mem_splitOn hl hc)

section Headers

variable {t front : Text} {v : Char}

/-- Where a text ends visibly, its last line does. -/
lemma exists_visible_last (ht : t = front ++ [v]) (hv : isBlank v = false) {init : List Text}
    {last : Text} (hlines : lines t = init ++ [last]) : ∃ end_, last = end_ ++ [v] := by
  have hnewline : v ≠ '\n' := by
    rintro rfl
    exact absurd hv (by decide)
  have hlast : t.getLast? = some v := by rw [ht, List.getLast?_concat]
  rw [← ofLines_lines t, hlines, getLast?_ofLines_concat hnewline] at hlast
  exact List.getLast?_eq_some_iff.1 hlast

/-- A text that ends visibly has the same headers when a line goes on behind it in which no name
begins behind the first character. -/
lemma headerCount_lines_append (ht : t = front ++ [v]) (hv : isBlank v = false) {s : Text}
    (hline : IsLine s) (hs : ∀ d c r, s = d ++ c :: r → Header.isNameChar c = true → d = []) :
    headerCount (lines (t ++ s)) = headerCount (lines t) := by
  obtain ⟨init, last, hlines, happend⟩ := exists_lines_append t hline
  obtain ⟨end_, hend⟩ := exists_visible_last ht hv hlines
  rw [hlines, happend, headerCount_append, headerCount_append, headerCount_singleton,
    headerCount_singleton, Header.isSome_parse?_append hend hv hs]

/-- Nor do blanks behind it bring a header. -/
lemma headerCount_lines_append_blanks (ht : t = front ++ [v]) (hv : isBlank v = false)
    {blanks : Text} (hblanks : ∀ c ∈ blanks, isBlank c = true) :
    headerCount (lines (t ++ blanks)) = headerCount (lines t) := by
  have hname : ∀ {s : Text}, (∀ c ∈ s, isBlank c = true) → ∀ d c r, s = d ++ c :: r →
      Header.isNameChar c = true → d = [] := by
    intro s hs d c r hsplit hc
    have hblank := hs c (hsplit ▸ List.mem_append_right _ List.mem_cons_self)
    unfold Header.isNameChar at hc
    rw [hblank] at hc
    exact absurd hc (by simp)
  by_cases hline : IsLine blanks
  · exact headerCount_lines_append ht hv hline (hname hblanks)
  · obtain ⟨first, rest, rfl, hfirst⟩ := List.eq_append_cons_of_mem (not_not.1 hline)
    rw [List.forall_mem_append, List.forall_mem_cons] at hblanks
    rw [← List.append_assoc, lines_append_newline, headerCount_append,
      headerCount_lines_append ht hv hfirst (hname hblanks.1),
      headerCount_of_blank fun l hl => all_isBlank_of_mem_lines hblanks.2.2 hl, Nat.add_zero]

end Headers

/-! ### Statements with their semicolons -/

section Terminate

variable {ddl : Text}

/-- A text without visible characters is no statement. -/
lemma terminate_of_blank (hddl : ddl.all isBlank = true) : terminate ddl = [] := by
  unfold terminate
  simp only [trimRight_eq_nil_iff.2 hddl]
  rfl

variable (hsemicolon : ';' ∉ ddl)

include hsemicolon

/-- Any other text without semicolons is trimmed and gets one. -/
lemma terminate_of_visible (hddl : ddl.all isBlank = false) :
    terminate ddl = ddl.trimRight ++ [';'] := by
  have hne : ddl.trimRight ≠ [] := trimRight_ne_nil hddl
  have hopen : ddl.trimRight.getLast? ≠ some ';' := fun h =>
    hsemicolon (mem_of_mem_trimRight (List.mem_of_getLast? h))
  unfold terminate
  simp [hne, hopen]

/-- A statement has one semicolon, and what is no statement has none. -/
lemma count_terminate : (terminate ddl).count ';' = if ddl.all isBlank then 0 else 1 := by
  cases hddl : ddl.all isBlank with
  | true =>
    rw [terminate_of_blank hddl]
    rfl
  | false =>
    have hnone : List.count ';' ddl.trimRight = 0 :=
      List.count_eq_zero.2 fun h => hsemicolon (mem_of_mem_trimRight h)
    rw [terminate_of_visible hsemicolon hddl, List.count_append, hnone]
    rfl

/-- A statement has the headers of the text that the warehouse answered. -/
lemma headerCount_terminate : headerCount (lines (terminate ddl)) = headerCount (lines ddl) := by
  cases hddl : ddl.all isBlank with
  | true =>
    have hblank : ∀ l ∈ lines ddl, l.all isBlank = true := fun l hl =>
      all_isBlank_of_mem_lines (List.all_eq_true.1 hddl) hl
    rw [terminate_of_blank hddl, headerCount_of_blank hblank]
    decide
  | false =>
    obtain ⟨front, v, hfront, hv⟩ := exists_visible_of_trimRight (trimRight_ne_nil hddl)
    obtain ⟨blanks, hblanks, hsplit⟩ := exists_trimRight_append ddl
    have hended : ∀ d c r, [';'] = d ++ c :: r → Header.isNameChar c = true → d = [] := by
      intro d c r hd _
      have hlength := congrArg List.length hd
      rw [List.length_append, List.length_cons, List.length_cons, List.length_nil] at hlength
      apply List.eq_nil_of_length_eq_zero
      omega
    rw [terminate_of_visible hsemicolon hddl,
      headerCount_lines_append hfront hv (by decide) hended]
    conv_rhs => rw [hsplit]
    exact (headerCount_lines_append_blanks hfront hv hblanks).symm

/-- The lines of a statement have no semicolon, but for the last one, which is the last line of the
trimmed text and gets one. -/
lemma mem_lines_terminate {l : Text} (hl : l ∈ lines (terminate ddl)) :
    ';' ∉ l ∨ ∃ last ∈ (lines ddl.trimRight).getLast?, ';' ∉ last ∧
      (∃ front v, last = front ++ [v] ∧ isBlank v = false) ∧ l = last ++ [';'] := by
  cases hddl : ddl.all isBlank with
  | true =>
    rw [terminate_of_blank hddl] at hl
    left
    have hempty : l = [] := List.mem_singleton.1 hl
    rw [hempty]
    exact List.not_mem_nil
  | false =>
    obtain ⟨front, v, hfront, hv⟩ := exists_visible_of_trimRight (trimRight_ne_nil hddl)
    obtain ⟨init, last, hlines, hended⟩ :=
      exists_lines_append (s := [';']) ddl.trimRight (by decide)
    have hplain : ∀ k ∈ init ++ [last], ';' ∉ k := fun k hk hmem =>
      hsemicolon (mem_of_mem_trimRight (mem_of_mem_splitOn (hlines ▸ hk) hmem))
    rw [terminate_of_visible hsemicolon hddl, hended] at hl
    rcases List.mem_append.1 hl with hl | hl
    · exact Or.inl (hplain l (List.mem_append_left _ hl))
    · obtain ⟨end_, hend⟩ := exists_visible_last hfront hv hlines
      have hlast : last ∈ (lines ddl.trimRight).getLast? := by
        rw [hlines]
        exact List.getLast?_concat
      exact Or.inr ⟨last, hlast, hplain last (by simp), ⟨end_, v, hend, hv⟩,
        List.mem_singleton.1 hl⟩

/-- A semicolon stands at the end of the last line of a statement and nowhere else. -/
lemma endsOnly_of_mem_lines_terminate {l : Text} (hl : l ∈ lines (terminate ddl)) : EndsOnly l := by
  unfold EndsOnly
  rcases mem_lines_terminate hsemicolon hl with hplain | ⟨last, -, hplain, -, rfl⟩
  · have hopen : Line.isTerminated l = false := by
      by_contra hends
      rw [Bool.not_eq_false] at hends
      unfold Line.isTerminated at hends
      exact hplain (mem_of_mem_trimRight (List.mem_of_getLast? (beq_iff_eq.1 hends)))
    rw [hopen, List.count_eq_zero.2 hplain]
    rfl
  · rw [Line.isTerminated_concat last (by decide), List.count_append, List.count_eq_zero.2 hplain]
    decide

/-- Where the trimmed text does not end directly behind the name of a header, no header of the
statement has a semicolon in its name. -/
lemma not_mem_name_of_mem_lines_terminate
    (hbare : ∀ last ∈ (lines ddl.trimRight).getLast?, ∀ h, Header.parse? last ≠ some (h, []))
    {l rest : Text} {h : Header} (hl : l ∈ lines (terminate ddl))
    (hp : Header.parse? l = some (h, rest)) : ';' ∉ h.name := by
  rcases mem_lines_terminate hsemicolon hl with
    hplain | ⟨last, hlast, hplain, ⟨front, v, hend, hv⟩, rfl⟩
  · intro hmem
    apply hplain
    rw [← (Header.render_append_of_parse? hp).1]
    unfold Header.render
    simp [hmem]
  · exact Header.not_mem_name_of_parse?_concat hplain hend hv (hbare last hlast) hp

end Terminate

end DdlDump
