import DdlDump.Proofs.Settings
import DdlDump.Warehouse.Connection

/-!
# Texts that name a connection

Which texts name a connection, and to what, can be told without reading them
(`Connection.parse_text`). The executable of the first tool goes up to the first question mark, over
any number of lines, and what is behind the question mark has to be on one line; the address of the
second tool is one line with something on it. In both places a line feed at the very end is passed
over: in settings it makes no difference anyway (`Settings.parse_append_newline`), and of the
address it is no part.
-/

namespace DdlDump

open Text

namespace Settings

section Parse

variable {s t : Text}

/-- What is held depends only on the settings that come up. -/
lemma parse_congr (h : scan s = scan t) : parse s = parse t := by
  unfold parse
  rw [h]

/-- A question mark in front of settings makes no difference. -/
lemma parse_questionMark_cons (t : Text) : parse ('?' :: t) = parse t :=
  parse_congr (scan_cons_of_not_word (by decide))

/-- A line feed behind settings makes no difference. -/
lemma parse_append_newline (t : Text) : parse (t ++ ['\n']) = parse t :=
  parse_congr (scan_append_blank (by decide) t)

end Parse

end Settings

namespace Connection

/-! ### Parts of a text -/

section Parts

variable {c : Char} {a b t line : Text}

/-- A text is not cut at a character that it does not have. -/
lemma splitFirst?_eq_none_of_not_mem (ht : c ∉ t) : splitFirst? c t = none := by
  have hdrop : t.dropWhile (· != c) = [] :=
    List.dropWhile_eq_nil_iff.2 fun d hd => bne_iff_ne.2 (ne_of_mem_of_not_mem hd ht)
  unfold splitFirst?
  rw [hdrop]

/-- A text is cut at the first place where a character comes up. -/
lemma splitFirst?_append (ha : c ∉ a) : splitFirst? c (a ++ c :: b) = some (a, b) := by
  have hrun : ∀ d ∈ a, (d != c) = true := fun d hd => bne_iff_ne.2 (ne_of_mem_of_not_mem hd ha)
  unfold splitFirst?
  rw [takeWhile_run_append hrun (by simp), dropWhile_run_append hrun (by simp)]

/-- A line, possibly with a line feed behind it. -/
def IsLineWithEnd (line t : Text) : Prop :=
  IsLine line ∧ (t = line ∨ t = line ++ ['\n'])

/-- A line is taken from a text that is on it, and from no other. -/
lemma oneLine?_eq_some_iff : oneLine? t = some line ↔ IsLineWithEnd line t := by
  have hwhole : ofLines (lines t) = t := ofLines_lines t
  have hlines : ∀ l ∈ lines t, IsLine l := fun l hl => isLine_of_mem_lines hl
  constructor
  · intro h
    unfold oneLine? at h
    split at h
    · next l hl =>
      rw [hl] at hwhole hlines
      obtain rfl : l = line := Option.some.inj h
      exact ⟨hlines l List.mem_cons_self, Or.inl (hwhole.symm.trans (ofLines_singleton l))⟩
    · next l hl =>
      rw [hl] at hwhole hlines
      obtain rfl : l = line := Option.some.inj h
      refine ⟨hlines l List.mem_cons_self, Or.inr (hwhole.symm.trans ?_)⟩
      rw [ofLines_cons (List.cons_ne_nil _ _), ofLines_singleton]
    · exact absurd h (Option.some_ne_none line).symm
  · rintro ⟨hline, rfl | rfl⟩
    · have hone : lines (ofLines [t]) = [t] :=
        lines_ofLines (List.cons_ne_nil _ _) (by simpa using hline)
      rw [ofLines_singleton] at hone
      unfold oneLine?
      rw [hone]
    · have htwo : lines (ofLines [line, []]) = [line, []] :=
        lines_ofLines (List.cons_ne_nil _ _) (by simpa using hline)
      rw [ofLines_cons (List.cons_ne_nil _ _), ofLines_singleton] at htwo
      unfold oneLine?
      rw [htwo]

end Parts

/-! ### What stands behind the name of a tool -/

/-- The executable that is run for the one that is named, if any. -/
def executableFor (named : Text) : Text :=
  if named = [] then "hive".toList else named

/-- Settings behind a question mark, on one line; or nothing at all. -/
def IsQuery (query : Text) : Prop :=
  query = [] ∨ ∃ settings line, query = '?' :: settings ∧ IsLineWithEnd line settings

section Behind

variable {text rest : Text} {c : Connection}

/-- The settings of a query are those of its line. -/
lemma parse_of_isLineWithEnd {settings line : Text} (h : IsLineWithEnd line settings) :
    Settings.parse ('?' :: settings) = Settings.parse line := by
  rw [Settings.parse_questionMark_cons]
  rcases h with ⟨-, rfl | rfl⟩
  · rfl
  · exact Settings.parse_append_newline line

/-- What stands behind `hive://`: an executable without question marks, and a query. -/
lemma parseHive?_eq_some_iff :
    parseHive? text rest = some c ↔ ∃ named query, '?' ∉ named ∧ IsQuery query ∧
      rest = named ++ query ∧ c = .hive text (executableFor named) (Settings.parse query) := by
  have hmake : ∀ named settings, parseHive?.make text named settings =
      .hive text (executableFor named) settings := by
    intro named settings
    cases named <;> rfl
  have hempty : Settings.parse [] = .empty := by
    unfold Settings.parse
    rw [Settings.scan]
    rfl
  by_cases hmark : '?' ∈ rest
  · obtain ⟨named, settings, rfl, hnamed⟩ := List.eq_append_cons_of_mem hmark
    unfold parseHive?
    rw [splitFirst?_append hnamed]
    simp only [Option.map_eq_some_iff, oneLine?_eq_some_iff, hmake]
    constructor
    · rintro ⟨line, hline, rfl⟩
      refine ⟨named, '?' :: settings, hnamed, Or.inr ⟨settings, line, rfl, hline⟩, rfl, ?_⟩
      rw [parse_of_isLineWithEnd hline]
    · rintro ⟨named', query, hnamed', rfl | ⟨settings', line, rfl, hline⟩, hsplit, rfl⟩
      · rw [List.append_nil] at hsplit
        exact absurd (hsplit ▸ hmark) hnamed'
      · obtain ⟨rfl, rfl⟩ := append_cons_inj hnamed hnamed' hsplit
        exact ⟨line, hline, by rw [parse_of_isLineWithEnd hline]⟩
  · unfold parseHive?
    rw [splitFirst?_eq_none_of_not_mem hmark]
    simp only [hmake, Option.some.injEq]
    constructor
    · rintro rfl
      exact ⟨rest, [], hmark, Or.inl rfl, (List.append_nil rest).symm, by rw [hempty]⟩
    · rintro ⟨named, query, -, rfl | ⟨settings, line, rfl, -⟩, rfl, rfl⟩
      · rw [List.append_nil, hempty]
      · exact absurd (by simp) hmark

/-- What stands behind `beeline://`: the scheme of an address, and the address on a line. -/
lemma parseBeeline?_eq_some_iff :
    parseBeeline? text rest = some c ↔ ∃ address behind, address ≠ [] ∧
      IsLineWithEnd address behind ∧ rest = "jdbc:hive2://".toList ++ behind ∧
      c = .beeline text ("jdbc:hive2://".toList ++ address) := by
  have hline : ∀ line, (rest.after? urlScheme).bind oneLine? = some line ↔
      ∃ behind, rest = urlScheme ++ behind ∧ IsLineWithEnd line behind := by
    intro line
    simp only [Option.bind_eq_some_iff, after?_eq_some_iff, oneLine?_eq_some_iff]
  unfold parseBeeline?
  constructor
  · intro h
    split at h
    · next d address hread =>
      obtain ⟨behind, hrest, haddress⟩ := (hline (d :: address)).1 hread
      exact ⟨d :: address, behind, List.cons_ne_nil _ _, haddress, hrest,
        (Option.some.inj h).symm⟩
    · exact absurd h (Option.some_ne_none c).symm
  · rintro ⟨address, behind, hne, haddress, hrest, rfl⟩
    obtain ⟨d, address, rfl⟩ := List.exists_cons_of_ne_nil hne
    rw [(hline (d :: address)).2 ⟨behind, hrest, haddress⟩]
    rfl

end Behind

/-! ### Whole texts -/

section Parse

variable {text : Text} {c : Connection}

/-- Texts for the first tool: an executable without question marks, if any, and a query. -/
def IsHiveText (text named query : Text) : Prop :=
  '?' ∉ named ∧ IsQuery query ∧ text = "hive://".toList ++ (named ++ query)

/-- Texts for the second tool: an address on a line. -/
def IsBeelineText (text address : Text) : Prop :=
  address ≠ [] ∧ ∃ behind, IsLineWithEnd address behind ∧
    text = "beeline://jdbc:hive2://".toList ++ behind

/-- A text starts with a keyword when there is a rest behind it. -/
lemma after?_eq_none_iff {k t : Text} : after? t k = none ↔ ¬ k <+: t := by
  rw [Option.eq_none_iff_forall_ne_some]
  constructor
  · rintro h ⟨r, rfl⟩
    exact h r (after?_append k r)
  · rintro h r hr
    exact h ⟨r, (after?_eq_some_iff.1 hr).symm⟩

/-- No text is for both tools. -/
lemma hive_ne_beeline (r b : Text) : "hive://".toList ++ r ≠ "beeline://".toList ++ b :=
  fun h => absurd (List.cons.inj h).1 (by decide)

/-- The address of the second tool stands directly behind its name. -/
lemma beeline_append (behind : Text) : "beeline://jdbc:hive2://".toList ++ behind =
    "beeline://".toList ++ ("jdbc:hive2://".toList ++ behind) :=
  rfl

/-- Behind `hive://` stands what the first tool needs, or the text is malformed. -/
lemma parse_hive (r : Text) : parse ("hive://".toList ++ r) =
    (parseHive? ("hive://".toList ++ r) r).elim (.error .malformed) .ok := by
  unfold parse
  rw [after?_append]

/-- Behind `beeline://` stands what the second tool needs, or the text is malformed. -/
lemma parse_beeline (r : Text) : parse ("beeline://".toList ++ r) =
    (parseBeeline? ("beeline://".toList ++ r) r).elim (.error .malformed) .ok := by
  have hnot : ¬ "hive://".toList <+: "beeline://".toList ++ r :=
    fun ⟨b, hb⟩ => hive_ne_beeline b r hb
  unfold parse
  rw [after?_append, after?_eq_none_iff.2 hnot]

/-- Other texts are for no tool. -/
lemma parse_of_no_tool (hhive : ¬ "hive://".toList <+: text)
    (hbeeline : ¬ "beeline://".toList <+: text) : parse text = .error (.unsupported text) := by
  unfold parse
  rw [after?_eq_none_iff.2 hhive, after?_eq_none_iff.2 hbeeline]

/-- A connection comes of a reading that has one. -/
lemma elim_eq_ok_iff {read? : Option Connection} {e : ConnectionError} :
    (read?.elim (.error e) .ok : Except ConnectionError Connection) = .ok c ↔ read? = some c := by
  cases read? <;> simp

/-- A text gives the connection that it names. -/
lemma parse_eq_ok_iff :
    parse text = .ok c ↔
      (∃ named query, IsHiveText text named query ∧
        c = .hive text (executableFor named) (Settings.parse query)) ∨
      ∃ address, IsBeelineText text address ∧
        c = .beeline text ("jdbc:hive2://".toList ++ address) := by
  unfold IsHiveText IsBeelineText
  simp only [beeline_append]
  by_cases hhive : "hive://".toList <+: text
  · obtain ⟨r, rfl⟩ := hhive
    rw [parse_hive, elim_eq_ok_iff, parseHive?_eq_some_iff]
    constructor
    · rintro ⟨named, query, hnamed, hquery, rfl, rfl⟩
      exact Or.inl ⟨named, query, ⟨hnamed, hquery, rfl⟩, rfl⟩
    · rintro (⟨named, query, ⟨hnamed, hquery, htext⟩, rfl⟩ | ⟨_, ⟨-, _, -, htext⟩, -⟩)
      · exact ⟨named, query, hnamed, hquery, List.append_cancel_left htext, rfl⟩
      · exact absurd htext (hive_ne_beeline _ _)
  · by_cases hbeeline : "beeline://".toList <+: text
    · obtain ⟨r, rfl⟩ := hbeeline
      rw [parse_beeline, elim_eq_ok_iff, parseBeeline?_eq_some_iff]
      constructor
      · rintro ⟨address, behind, hne, hline, rfl, rfl⟩
        exact Or.inr ⟨address, ⟨hne, behind, hline, rfl⟩, rfl⟩
      · rintro (⟨_, _, ⟨-, -, htext⟩, -⟩ | ⟨address, ⟨hne, behind, hline, htext⟩, rfl⟩)
        · exact absurd htext.symm (hive_ne_beeline _ _)
        · exact ⟨address, behind, hne, hline, List.append_cancel_left htext, rfl⟩
    · rw [parse_of_no_tool hhive hbeeline]
      refine iff_of_false (by simp) ?_
      rintro (⟨named, query, ⟨-, -, rfl⟩, -⟩ | ⟨_, ⟨-, behind, -, rfl⟩, -⟩)
      · exact hhive (List.prefix_append _ _)
      · exact hbeeline (List.prefix_append _ _)

/-- A text that names no connection is malformed when it names a tool, and unsupported when it does
not. -/
lemma parse_of_ne_ok (h : ∀ c, parse text ≠ .ok c) :
    ("hive://".toList <+: text ∨ "beeline://".toList <+: text →
      parse text = .error .malformed) ∧
    (¬ "hive://".toList <+: text → ¬ "beeline://".toList <+: text →
      parse text = .error (.unsupported text)) := by
  refine ⟨?_, parse_of_no_tool⟩
  rintro (⟨r, rfl⟩ | ⟨r, rfl⟩)
  · rw [parse_hive] at h ⊢
    cases hread : parseHive? ("hive://".toList ++ r) r with
    | none => rfl
    | some c => exact absurd (by rw [hread]; rfl) (h c)
  · rw [parse_beeline] at h ⊢
    cases hread : parseBeeline? ("beeline://".toList ++ r) r with
    | none => rfl
    | some c => exact absurd (by rw [hread]; rfl) (h c)

end Parse

/-! ### What is run -/

/-- The switches with which the first tool is run under some settings. -/
structure IsSwitches (settings : Settings) (silence database : List Text) : Prop where
  silent : (∀ v ∈ settings.get? "silent".toList, v.lower ≠ "false".toList) →
    silence = ["-S".toList]
  outspoken : ∀ v ∈ settings.get? "silent".toList, v.lower = "false".toList → silence = []
  inside : ∀ db ∈ settings.get? "database".toList, db ≠ [] →
    database = ["--database".toList, db]
  outside : (∀ db ∈ settings.get? "database".toList, db = []) → database = []

/-- The first tool is run with the switches of its settings and then the query. -/
lemma exists_switches (text executable : Text) (settings : Settings) :
    ∃ silence database, IsSwitches settings silence database ∧
      ∀ query, (hive text executable settings).command query =
        executable :: (silence ++ (database ++ ["-e".toList, query])) := by
  refine ⟨if isSilent settings then ["-S".toList] else [],
    (database? settings).elim [] fun db => ["--database".toList, db], ?_, fun query =>
      congrArg (executable :: ·) (List.append_assoc _ _ _)⟩
  unfold isSilent database?
  constructor
  · intro h
    have hloud : (settings.get? "silent".toList).any (fun v => v.lower == "false".toList) =
        false := by
      rw [Option.any_eq_false]
      exact fun v hv => beq_eq_false_iff_ne.2 (h v hv)
    rw [hloud]
    rfl
  · intro v hv h
    rw [Option.mem_def.1 hv, Option.any_some, h]
    rfl
  · intro db hdb hne
    rw [Option.mem_def.1 hdb, Option.filter_some, if_pos (by simpa using hne)]
    rfl
  · intro h
    have hnone : (settings.get? "database".toList).filter (fun v => !v.isEmpty) = none := by
      rw [Option.filter_eq_none_iff]
      exact fun db hdb => by simp [h db hdb]
    rw [hnone]
    rfl

/-- Which texts name a connection. Behind `hive://` stands an executable without question marks, and
possibly a question mark with settings on one line behind it; behind `beeline://jdbc:hive2://`
stands an address that is one line with something on it. Every other text is refused. The first tool
is run by the name that is given, with the switches that the settings from the question mark on ask
for; the second one is told the address. -/
theorem parse_text (text : Text) :
    ((∃ c, parse text = .ok c) ↔
      (∃ named query, IsHiveText text named query) ∨ ∃ address, IsBeelineText text address) ∧
    ((¬ ∃ c, parse text = .ok c) →
      ("hive://".toList <+: text ∨ "beeline://".toList <+: text →
        parse text = .error .malformed) ∧
      (¬ "hive://".toList <+: text → ¬ "beeline://".toList <+: text →
        parse text = .error (.unsupported text))) ∧
    (∀ named query, IsHiveText text named query →
      ∃ c, parse text = .ok c ∧ c.executable = executableFor named ∧
        c.settings = Settings.parse query ∧
        ∃ silence database, IsSwitches (Settings.parse query) silence database ∧
          ∀ q, c.command q =
            executableFor named :: (silence ++ (database ++ ["-e".toList, q]))) ∧
    ∀ address, IsBeelineText text address →
      ∃ c, parse text = .ok c ∧ c.url? = some ("jdbc:hive2://".toList ++ address) ∧
        ∀ q, c.command q = ["beeline".toList, "-u".toList, "jdbc:hive2://".toList ++ address,
          "--silent=true".toList, "--showHeader=false".toList, "--outputformat=tsv2".toList,
          "-e".toList, q] := by
  have hhive : ∀ named query, IsHiveText text named query →
      parse text = .ok (.hive text (executableFor named) (Settings.parse query)) :=
    fun named query h => parse_eq_ok_iff.2 (Or.inl ⟨named, query, h, rfl⟩)
  have hbeeline : ∀ address, IsBeelineText text address →
      parse text = .ok (.beeline text ("jdbc:hive2://".toList ++ address)) :=
    fun address h => parse_eq_ok_iff.2 (Or.inr ⟨address, h, rfl⟩)
  refine ⟨⟨?_, ?_⟩, fun h => parse_of_ne_ok fun c hc => h ⟨c, hc⟩, fun named query h => ?_,
    fun address h => ⟨_, hbeeline address h, rfl, fun q => rfl⟩⟩
  · rintro ⟨c, hc⟩
    rcases parse_eq_ok_iff.1 hc with ⟨named, query, h, -⟩ | ⟨address, h, -⟩
    · exact Or.inl ⟨named, query, h⟩
    · exact Or.inr ⟨address, h⟩
  · rintro (⟨named, query, h⟩ | ⟨address, h⟩)
    · exact ⟨_, hhive named query h⟩
    · exact ⟨_, hbeeline address h⟩
  · exact ⟨_, hhive named query h, rfl, rfl, exists_switches text _ _⟩

/-- An executable on two lines with settings, an address with a line feed behind it, and a tool that
is not known. -/
theorem parse_text_threeTools :
    let hiveText := "hive://my\nhive?silent=FALSE;database=sales & x\n".toList
    let beelineText := "beeline://jdbc:hive2://h:1/d\n".toList
    let otherText := "sqlite://hive://".toList
    (IsHiveText hiveText "my\nhive".toList "?silent=FALSE;database=sales & x\n".toList ∧
      ∃ c, parse hiveText = .ok c ∧ c.command "q".toList =
        ["my\nhive".toList, "--database".toList, "sales".toList, "-e".toList, "q".toList]) ∧
    (IsBeelineText beelineText "h:1/d".toList ∧
      ∃ c, parse beelineText = .ok c ∧ c.url? = some "jdbc:hive2://h:1/d".toList) ∧
    (¬ ∃ c, parse otherText = .ok c) ∧ parse otherText = .error (.unsupported otherText) := by
  intro hiveText beelineText otherText
  have hhive : IsHiveText hiveText "my\nhive".toList
      "?silent=FALSE;database=sales & x\n".toList := by
    refine ⟨by decide, Or.inr ⟨_, "silent=FALSE;database=sales & x".toList, rfl, by decide,
      Or.inr rfl⟩, rfl⟩
  have hbeeline : IsBeelineText beelineText "h:1/d".toList :=
    ⟨by decide, _, ⟨by decide, Or.inr rfl⟩, rfl⟩
  have hother : ¬ ∃ c, parse otherText = .ok c := by
    rw [(parse_text otherText).1]
    rintro (⟨named, query, -, -, h⟩ | ⟨address, -, behind, -, h⟩)
    · exact absurd (List.cons.inj h).1 (by decide)
    · exact absurd (List.cons.inj h).1 (by decide)
  obtain ⟨c, hc, -, -, silence, database, hswitches, hcommand⟩ :=
    (parse_text hiveText).2.2.1 _ _ hhive
  obtain ⟨d, hd, hurl, -⟩ := (parse_text beelineText).2.2.2 _ hbeeline
  have hsilence : silence = [] := by
    refine hswitches.outspoken "FALSE".toList ?_ (by decide)
    decide +kernel
  have hdatabase : database = ["--database".toList, "sales".toList] := by
    refine hswitches.inside "sales".toList ?_ (by decide)
    decide +kernel
  refine ⟨⟨hhive, c, hc, ?_⟩, ⟨hbeeline, d, hd, hurl⟩, hother,
    ((parse_text otherText).2.1 hother).2 (by decide) (by decide)⟩
  rw [hcommand, hsilence, hdatabase]
  rfl

end Connection

end DdlDump
