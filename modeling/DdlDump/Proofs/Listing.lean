import DdlDump.Warehouse.Tool
import DdlDump.Proofs.Text.Trim

/-!
# Listings and their entries

The entries of a listing are found again whatever ends its lines, whatever blanks stand around them
and whatever remarks of the tool stand between them (`entries_joinWith_lines`).

Since an empty line is no entry, it makes no difference that a carriage return and a line feed are
one break: read as two breaks, they leave an empty line between them (`entries_eq`). The entries are
therefore those of the pieces between line breaks, and a listing can be cut at any break, also where
a line feed that is put between two listings joins a carriage return in front of it
(`entries_append_break`).
-/

namespace DdlDump

open Text

namespace Text

/-! ### Lines that have something on them -/

/-- A character goes in front of the first line, which may be an empty one that is not there. -/
lemma pushFirst_eq (c : Char) (ls : List Text) :
    pushFirst c ls = (c :: ls.headD []) :: ls.tail := by
  cases ls <;> rfl

/-- The lines of a list that have something on them. -/
def written (ls : List Text) : List Text :=
  ls.filter fun l => !l.isEmpty

/-- An empty line is not among them. -/
lemma written_nil_cons (ls : List Text) : written ([] :: ls) = written ls :=
  rfl

/-- Whether there is an empty line in front makes no difference to them. -/
lemma written_eq_of_headD_tail {ls ms : List Text} (hhead : ls.headD [] = ms.headD [])
    (htail : written ls.tail = written ms.tail) : written ls = written ms := by
  have hcons : ∀ ls : List Text, written ls = written [ls.headD []] ++ written ls.tail := by
    intro ls
    cases ls with
    | nil => rfl
    | cons l ls => exact List.filter_append [l] ls
  rw [hcons ls, hcons ms, hhead, htail]

/-- The first line of an output is what stands in front of the first break, and of the other lines
those that have something on them stand between breaks. -/
lemma outputLines_cut (t : Text) :
    (outputLines t).headD [] = (t.splitOnP isLineBreak).headD [] ∧
      written (outputLines t).tail = written (t.splitOnP isLineBreak).tail := by
  induction t using outputLines.induct with
  | case1 => exact ⟨rfl, rfl⟩
  | case2 t ih =>
    -- the break of two characters leaves an empty piece between them
    have hpieces : List.splitOnP isLineBreak ('\r' :: '\n' :: t) =
        [] :: [] :: t.splitOnP isLineBreak := by
      rw [List.splitOnP_cons_eq_if_modifyHead, List.splitOnP_cons_eq_if_modifyHead,
        if_pos (by decide), if_pos (by decide)]
    rw [outputLines, hpieces, List.tail_cons, List.tail_cons, written_nil_cons]
    exact ⟨rfl, written_eq_of_headD_tail ih.1 ih.2⟩
  | case3 c t hcr hc ih =>
    rw [outputLines, if_pos hc, List.splitOnP_cons_eq_if_modifyHead, if_pos hc, List.tail_cons,
      List.tail_cons]
    · exact ⟨rfl, written_eq_of_headD_tail ih.1 ih.2⟩
    · exact hcr
  | case4 c t hcr hc ih =>
    obtain ⟨first, others, hpieces⟩ :=
      List.exists_cons_of_ne_nil (List.splitOnP_ne_nil isLineBreak t)
    rw [hpieces] at ih
    rw [outputLines, if_neg hc, List.splitOnP_cons_eq_if_modifyHead, if_neg hc, hpieces,
      pushFirst_eq, ih.1]
    · exact ⟨rfl, ih.2⟩
    · exact hcr

/-- The lines of an output that have something on them are the pieces between breaks that do. -/
lemma written_outputLines (t : Text) :
    written (outputLines t) = written (t.splitOnP isLineBreak) :=
  written_eq_of_headD_tail (outputLines_cut t).1 (outputLines_cut t).2

end Text

namespace Listing

/-! ### Listings that are cut -/

section Cut

variable {s l : Text} {c : Char}

/-- Entries are trimmed lines that have something on them. -/
lemma filter_isEntry_written (ls : List Text) :
    ((written ls).map Text.trim).filter isEntry = (ls.map Text.trim).filter isEntry := by
  unfold written
  rw [List.filter_map, List.filter_map, List.filter_filter]
  refine congrArg (List.map Text.trim) (List.filter_congr fun l _ => ?_)
  cases l with
  | nil => rfl
  | cons c l => exact Bool.and_true _

/-- The entries of a listing are those of the pieces between its line breaks. -/
lemma entries_eq (t : Text) :
    entries t = ((t.splitOnP isLineBreak).map Text.trim).filter isEntry := by
  unfold entries
  rw [← filter_isEntry_written, written_outputLines, filter_isEntry_written]

/-- A listing can be cut at any break. -/
lemma entries_append_break (hc : isLineBreak c = true) (a b : Text) :
    entries (a ++ c :: b) = entries a ++ entries b := by
  simp only [entries_eq, List.splitOnP_append_cons a b hc, List.map_append, List.filter_append]

/-- A line has one entry or none. -/
lemma entries_of_line (hl : ∀ c ∈ l, isLineBreak c = false) :
    entries l = [l.trim].filter isEntry := by
  rw [entries_eq, List.splitOnP_eq_singleton hl, List.map_singleton]

/-- What ends a line: one of the line breaks, or a carriage return with a line feed. -/
def IsBreak (s : Text) : Prop :=
  s = ['\r', '\n'] ∨ ∃ c, isLineBreak c = true ∧ s = [c]

/-- So a listing can be cut at whatever ends a line. -/
lemma entries_append_isBreak (hs : IsBreak s) (a b : Text) :
    entries (a ++ (s ++ b)) = entries a ++ entries b := by
  rcases hs with rfl | ⟨c, hc, rfl⟩
  · have hreturn : entries (a ++ '\r' :: ([] ++ '\n' :: b)) = entries a ++ entries b := by
      rw [entries_append_break (by decide), entries_append_break (by decide)]
      rfl
    exact hreturn
  · exact entries_append_break hc a b

/-- The entries of lines stand one after the other, whatever ends the lines. -/
lemma entries_joinWith {separator : Nat → Text} (hseparator : ∀ i, IsBreak (separator i))
    (ls : List Text) : entries (Text.joinWith separator ls) = ls.flatMap entries := by
  induction ls generalizing separator with
  | nil => rfl
  | cons l ls ih =>
    rcases eq_or_ne ls [] with rfl | hne
    · rw [List.flatMap_singleton]
      rfl
    · rw [Text.joinWith_cons_of_ne_nil _ hne, entries_append_isBreak (hseparator 0),
        ih fun i => hseparator (i + 1), List.flatMap_cons]

end Cut

/-! ### Lines of a listing -/

/-- What makes a text a name that is listed. -/
structure IsName (name : Text) : Prop where
  ne_nil : name ≠ []
  oneLine : ∀ c ∈ name, isLineBreak c = false
  trimmed : name.trim = name
  no_remark : ∀ r ∈ remarks, ¬ r <+: name

instance : DecidablePred IsName := fun name =>
  decidable_of_iff (name ≠ [] ∧ name.all (fun c => !isLineBreak c) = true ∧ name.trim = name ∧
      remarks.all (fun r => !decide (r <+: name)) = true)
    ⟨fun ⟨hne, hline, htrim, hremark⟩ => ⟨hne, by simpa using hline, htrim, by simpa using hremark⟩,
      fun h => ⟨h.ne_nil, by simpa using h.oneLine, h.trimmed, by simpa using h.no_remark⟩⟩

/-- Blanks that do not end a line. -/
def IsPadding (t : Text) : Prop :=
  ∀ c ∈ t, isBlank c = true ∧ isLineBreak c = false

instance : DecidablePred IsPadding := fun t =>
  decidable_of_iff (t.all (fun c => isBlank c && !isLineBreak c) = true) (by simp [IsPadding])

/-- A line of a listing, with what stands around the entry or in front of the remark. -/
inductive ListedLine
  | entry (before name after : Text)
  | blank (blanks : Text)
  | remark (before words : Text)

namespace ListedLine

/-- The characters of a line. -/
def text : ListedLine → Text
  | entry before name after => before ++ (name ++ after)
  | blank blanks => blanks
  | remark before words => before ++ words

/-- The name on a line, if there is one. -/
def name? : ListedLine → Option Text
  | entry _ name _ => some name
  | blank _ => none
  | remark _ _ => none

/-- What can stand on a line. -/
def IsListed : ListedLine → Prop
  | entry before name after => IsPadding before ∧ IsName name ∧ IsPadding after
  | blank blanks => IsPadding blanks
  | remark before words =>
    IsPadding before ∧ (∃ r ∈ remarks, r <+: words) ∧ ∀ c ∈ words, isLineBreak c = false

instance : DecidablePred IsListed
  | entry before name after =>
    inferInstanceAs (Decidable (IsPadding before ∧ IsName name ∧ IsPadding after))
  | blank blanks => inferInstanceAs (Decidable (IsPadding blanks))
  | remark before words =>
    decidable_of_iff (IsPadding before ∧ (remarks.any fun r => decide (r <+: words)) = true ∧
      words.all (fun c => !isLineBreak c) = true) (by simp [IsListed])

end ListedLine

section Line

variable {name : Text} {t : Text}

/-- A name is an entry. -/
lemma isEntry_of_isName (hname : IsName name) : isEntry name = true := by
  unfold isEntry
  rw [Bool.and_eq_true, Bool.not_eq_true', Bool.not_eq_true', List.isEmpty_eq_false_iff,
    List.any_eq_false]
  exact ⟨hname.ne_nil, fun r hr => by simpa using hname.no_remark r hr⟩

/-- Entries that are found in a listing are names. -/
lemma isName_of_mem_entries (hname : name ∈ entries t) : IsName name := by
  rw [entries_eq, List.mem_filter] at hname
  obtain ⟨hmem, hentry⟩ := hname
  obtain ⟨piece, hpiece, rfl⟩ := List.mem_map.1 hmem
  unfold isEntry at hentry
  rw [Bool.and_eq_true, Bool.not_eq_true', Bool.not_eq_true', List.isEmpty_eq_false_iff,
    List.any_eq_false] at hentry
  exact
    { ne_nil := hentry.1
      oneLine := fun c hc => Text.eq_false_of_mem_splitOnP hpiece c (mem_of_mem_trim hc)
      trimmed := trim_trim piece
      no_remark := fun r hr => by simpa using hentry.2 r hr }

/-- A text that starts like a remark is no entry. -/
lemma isEntry_trim_of_remark {r words : Text} (hr : r ∈ remarks) (hstart : r <+: words) :
    isEntry words.trim = false := by
  -- remarks start and end visibly, so that trimming does not cut them short
  have hvisible : (remarks.all fun r => !r.isEmpty && r.head?.all (fun c => !isBlank c) &&
      r.getLast?.all fun c => !isBlank c) = true := by decide
  have hends := List.all_eq_true.1 hvisible r hr
  simp only [Bool.and_eq_true, Bool.not_eq_true', List.isEmpty_eq_false_iff,
    Option.all_eq_true] at hends
  obtain ⟨⟨hne, hhead⟩, hlast⟩ := hends
  obtain ⟨rest, rfl⟩ := hstart
  have htrim : Text.trim (r ++ rest) = r ++ Text.trimRight rest :=
    trim_append_of_visible hne hhead hlast
  have hany : remarks.any (fun r' => decide (r' <+: Text.trim (r ++ rest))) = true :=
    List.any_eq_true.2 ⟨r, hr, decide_eq_true (htrim ▸ List.prefix_append r _)⟩
  unfold isEntry
  rw [hany]
  exact Bool.and_false _

/-- A line of a listing has its name as its entry. -/
lemma entries_text {line : ListedLine} (hline : line.IsListed) :
    entries line.text = line.name?.toList := by
  cases line with
  | entry before name after =>
    obtain ⟨hbefore, hname, hafter⟩ := hline
    have honeLine : ∀ c ∈ before ++ (name ++ after), isLineBreak c = false :=
      List.forall_mem_append.2 ⟨fun c hc => (hbefore c hc).2,
        List.forall_mem_append.2 ⟨hname.oneLine, fun c hc => (hafter c hc).2⟩⟩
    have htrim : Text.trim (before ++ (name ++ after)) = name :=
      (trim_blanks_append (fun c hc => (hbefore c hc).1) fun c hc => (hafter c hc).1).trans
        hname.trimmed
    rw [ListedLine.text, entries_of_line honeLine, htrim,
      List.filter_cons_of_pos (isEntry_of_isName hname)]
    rfl
  | blank blanks =>
    have htrim : Text.trim blanks = [] := trim_of_blank fun c hc => (hline c hc).1
    rw [ListedLine.text, entries_of_line fun c hc => (hline c hc).2, htrim]
    rfl
  | remark before words =>
    obtain ⟨hbefore, ⟨r, hr, hstart⟩, hwords⟩ := hline
    have honeLine : ∀ c ∈ before ++ words, isLineBreak c = false :=
      List.forall_mem_append.2 ⟨fun c hc => (hbefore c hc).2, hwords⟩
    have htrim : Text.trim (before ++ words) = Text.trim words := by
      have hframed : Text.trim (before ++ (words ++ [])) = Text.trim words :=
        trim_blanks_append (fun c hc => (hbefore c hc).1) (List.forall_mem_nil _)
      rwa [List.append_nil] at hframed
    rw [ListedLine.text, entries_of_line honeLine, htrim,
      List.filter_cons_of_neg (by simp [isEntry_trim_of_remark hr hstart])]
    rfl

end Line

/-- The entries of a listing are the names on its lines, in their order, whatever ends the lines and
whatever blanks and remarks there are. The entries of two listings with a line feed in between are
those of the one and then those of the other, and entries that are listed again are the same. -/
theorem entries_joinWith_lines :
    (∀ (lines : List ListedLine) (separator : Nat → Text),
      (∀ l ∈ lines, l.IsListed) → (∀ i, IsBreak (separator i)) →
      entries (Text.joinWith separator (lines.map ListedLine.text)) =
        lines.filterMap ListedLine.name?) ∧
    (∀ a b : Text, entries (a ++ '\n' :: b) = entries a ++ entries b) ∧
    ∀ t : Text, entries (Text.ofLines (entries t)) = entries t := by
  have hlines : ∀ (lines : List ListedLine) (separator : Nat → Text),
      (∀ l ∈ lines, l.IsListed) → (∀ i, IsBreak (separator i)) →
      entries (Text.joinWith separator (lines.map ListedLine.text)) =
        lines.filterMap ListedLine.name? := by
    intro lines separator hlisted hseparator
    rw [entries_joinWith hseparator, List.flatMap_map, List.filterMap_eq_flatMap_toList]
    exact List.flatMap_congr fun l hl => entries_text (hlisted l hl)
  refine ⟨hlines, entries_append_break (by decide), fun t => ?_⟩
  -- the entries are lines of their own, with nothing around them
  have hagain := hlines ((entries t).map fun name => .entry [] name []) (fun _ => ['\n'])
    (by
      intro l hl
      obtain ⟨name, hname, rfl⟩ := List.mem_map.1 hl
      exact ⟨List.forall_mem_nil _, isName_of_mem_entries hname, List.forall_mem_nil _⟩)
    fun _ => Or.inr ⟨'\n', by decide, rfl⟩
  have htext : ((entries t).map fun name => ListedLine.entry [] name []).map ListedLine.text =
      entries t := by
    rw [List.map_map]
    exact (List.map_congr_left fun name _ => List.append_nil name).trans (List.map_id _)
  rw [htext, Text.joinWith_const] at hagain
  refine hagain.trans ?_
  rw [List.filterMap_map]
  exact List.filterMap_some

/-- Two names among remarks and a blank line, each line with an end of its own. -/
theorem entries_joinWith_lines_mixedBreaks :
    let lines : List ListedLine := [.remark "\t".toList "WARN: old".toList,
      .entry " ".toList "a b".toList "\x1f".toList, .blank "  ".toList,
      .entry [] "ok_t".toList " ".toList, .remark [] "Time taken: 1 s".toList]
    let separator : Nat → Text := fun
      | 0 => "\r\n".toList
      | 1 => "\u0085".toList
      | 2 => "\r".toList
      | _ => "\u2028".toList
    (∀ l ∈ lines, l.IsListed) ∧ (∀ i, IsBreak (separator i)) ∧
    Text.joinWith separator (lines.map ListedLine.text) =
      "\tWARN: old\r\n a b\x1f\u0085  \rok_t \u2028Time taken: 1 s".toList ∧
    entries "\tWARN: old\r\n a b\x1f\u0085  \rok_t \u2028Time taken: 1 s".toList =
      ["a b".toList, "ok_t".toList] := by
  intro lines separator
  have hlisted : ∀ l ∈ lines, l.IsListed := by
    have hall : lines.all (fun l => decide l.IsListed) = true := by decide
    exact fun l hl => of_decide_eq_true (List.all_eq_true.1 hall l hl)
  have hseparator : ∀ i, IsBreak (separator i)
    | 0 => Or.inl rfl
    | 1 => Or.inr ⟨'\u0085', by decide, rfl⟩
    | 2 => Or.inr ⟨'\r', by decide, rfl⟩
    | _ + 3 => Or.inr ⟨'\u2028', by decide, rfl⟩
  have htext : Text.joinWith separator (lines.map ListedLine.text) =
      "\tWARN: old\r\n a b\x1f\u0085  \rok_t \u2028Time taken: 1 s".toList := by decide
  refine ⟨hlisted, hseparator, htext, ?_⟩
  rw [← htext, entries_joinWith_lines.1 lines separator hlisted hseparator]
  rfl

end Listing

end DdlDump
