import DdlDump.Ddl.Statement
import DdlDump.Proofs.Ddl.Header
import DdlDump.Proofs.Text.Word
import Mathlib.Data.List.Forall2

/-!
# The statements that have a header

Which statements have a header, and what it says, can be told without reading one
(`Statement.parse_grammar`): a header is there as soon as a name begins behind its keywords. What
the name is depends on the guard alone, which counts only where a name begins behind it as well, so
that `IF` is the name of the object in `CREATE TABLE IF NOT EXISTS (a int)`. Of the other statements
those are unrecognised that start, behind their blanks, with the word CREATE in whatever letters.
-/

namespace DdlDump

open Text

namespace Header

/-- Whether a text goes on with a name: it is not empty, and its first character neither is a blank
nor opens a parenthesis. -/
def beginsName (t : Text) : Bool :=
  t.head?.any isNameChar

/-- A text without the guard at its start, where a name begins behind the guard. -/
def withoutGuard (t : Text) : Text :=
  match after? t guardKeyword with
  | some behind => if beginsName behind then behind else t
  | none => t

section Name

variable {t : Text}

/-- The longest run of the characters of a name is a name where one begins. -/
lemma isName_takeWhile (ht : beginsName t = true) : IsName (t.takeWhile isNameChar) := by
  refine ⟨?_, fun c hc => List.mem_takeWhile_imp hc⟩
  cases t with
  | nil => exact absurd ht (by decide)
  | cons c t =>
    have hc : isNameChar c = true := ht
    rw [List.takeWhile_cons_of_pos hc]
    exact List.cons_ne_nil _ _

/-- A name begins where a text starts with one. -/
lemma beginsName_append {n rest : Text} (hn : IsName n) : beginsName (n ++ rest) = true := by
  obtain ⟨c, m, rfl⟩ := List.exists_cons_of_ne_nil hn.1
  exact hn.2 c List.mem_cons_self

/-- A name is read where one begins. -/
lemma parseName?_eq_none_iff : parseName? t = none ↔ beginsName t = false := by
  unfold parseName?
  cases t with
  | nil => simp [beginsName]
  | cons c t =>
    rw [List.takeWhile_cons]
    cases hc : isNameChar c <;> simp [beginsName, hc]

/-- The guard counts, or there is none to be taken. -/
lemma withoutGuard_cases (t : Text) :
    (t = guardKeyword ++ withoutGuard t ∧ beginsName (withoutGuard t) = true) ∨
      (withoutGuard t = t ∧ GuardFree t) := by
  unfold withoutGuard GuardFree
  cases hafter : after? t guardKeyword with
  | none => exact Or.inr ⟨rfl, rfl⟩
  | some behind =>
    simp only [Option.bind_some]
    cases hbegins : beginsName behind with
    | true => exact Or.inl ⟨after?_eq_some_iff.1 hafter, hbegins⟩
    | false => exact Or.inr ⟨rfl, parseName?_eq_none_iff.2 hbegins⟩

end Name

/-- A header is read where a name begins behind its keywords: the one with these keywords, and with
the longest name behind the guard that counts. -/
lemma exists_parse?_of_beginsName {indent r : Text} (hindent : ∀ c ∈ indent, isIndent c = true)
    (external : Bool) (kind : ObjectKind) (hr : beginsName r = true) :
    ∃ h rest, parse? (indent ++ (createKeyword ++ (optional external externalKeyword ++
        (kind.keyword ++ ' ' :: r)))) = some (h, rest) ∧
      h.indent = indent ∧ h.external = external ∧ h.kind = kind ∧
      h.name = (withoutGuard r).takeWhile isNameChar := by
  have hcut : (withoutGuard r).takeWhile isNameChar ++ (withoutGuard r).dropWhile isNameChar =
      withoutGuard r := List.takeWhile_append_dropWhile
  have hends : EndsName ((withoutGuard r).dropWhile isNameChar) :=
    head?_dropWhile_eq_false (withoutGuard r)
  obtain ⟨guarded, hsplit, hbegins, hfree⟩ : ∃ guarded,
      r = optional guarded guardKeyword ++ withoutGuard r ∧ beginsName (withoutGuard r) = true ∧
        (guarded = false → GuardFree (withoutGuard r)) := by
    rcases withoutGuard_cases r with ⟨hsplit, hbegins⟩ | ⟨hsame, hfree⟩
    · exact ⟨true, hsplit, hbegins, by simp⟩
    · exact ⟨false, hsame.symm, hsame.symm ▸ hr, fun _ => hsame.symm ▸ hfree⟩
  refine ⟨⟨indent, external, kind, guarded, (withoutGuard r).takeWhile isNameChar⟩,
    (withoutGuard r).dropWhile isNameChar, parse?_eq_some_iff.2 ⟨?_, hindent,
      isName_takeWhile hbegins, hends, fun hguarded => ?_⟩, rfl, rfl, rfl, rfl⟩
  · conv_lhs => rw [hsplit, ← hcut]
    simp only [render, opening, List.append_assoc, List.cons_append, List.nil_append]
  · rw [hcut]
    exact hfree hguarded

/-- Behind the keywords of a header that was read, a name begins. -/
lemma exists_beginsName_of_parse? {t rest : Text} {h : Header} (hp : parse? t = some (h, rest)) :
    ∃ r, beginsName r = true ∧ t = h.indent ++ (createKeyword ++
      (optional h.external externalKeyword ++ (h.kind.keyword ++ ' ' :: r))) := by
  obtain ⟨hsplit, -, hname, -⟩ := parse?_eq_some_iff.1 hp
  refine ⟨optional h.guarded guardKeyword ++ (h.name ++ rest), ?_, ?_⟩
  · cases h.guarded with
    | true => rfl
    | false => exact beginsName_append (n := h.name) hname
  · rw [hsplit]
    simp only [render, opening, List.append_assoc, List.cons_append, List.nil_append]

end Header

namespace Statement

open Header

/-- The word CREATE in whatever letters, each of them a capital or a small one. -/
def IsCreateWord (word : Text) : Prop :=
  List.Forall₂ (fun capital c => c = capital ∨ c = capital.toLower) "CREATE".toList word

/-- The characters whose capital is a letter of CREATE are that letter and its small form. -/
lemma toUpper_eq_iff {capital c : Char} (hcapital : capital ∈ "CREATE".toList) :
    c.toUpper = capital ↔ c = capital ∨ c = capital.toLower := by
  have hascii : ∀ {c : Char}, c.toNat < 128 → ("CREATE".toList.all fun capital =>
      c.toUpper = capital ↔ c = capital ∨ c = capital.toLower) = true :=
    ascii_forall (P := fun c => ("CREATE".toList.all fun capital =>
      c.toUpper = capital ↔ c = capital ∨ c = capital.toLower) = true) (by decide +kernel)
  have hletters : ("CREATE".toList.all fun capital => capital.toLower.toNat < 128) = true := by
    decide
  by_cases hc : c.toNat < 128
  · exact of_decide_eq_true (List.all_eq_true.1 (hascii hc) capital hcapital)
  · -- beyond ASCII nothing has such a capital
    have hletter := of_decide_eq_true (List.all_eq_true.1 hletters capital hcapital)
    have hsmall : c ≠ capital.toLower := fun h => hc (h ▸ hletter)
    rw [toUpper_of_not_lt hc, or_iff_left hsmall]

/-- A word is CREATE in whatever letters when its capitals are. -/
lemma map_toUpper_eq_iff {word : Text} :
    word.map Char.toUpper = "CREATE".toList ↔ IsCreateWord word := by
  have hpart : ∀ capitals ⊆ "CREATE".toList, ∀ word : Text,
      word.map Char.toUpper = capitals ↔
        List.Forall₂ (fun capital c => c = capital ∨ c = capital.toLower) capitals word := by
    intro capitals hcapitals word
    induction capitals generalizing word with
    | nil => rw [List.map_eq_nil_iff, List.forall₂_nil_left_iff]
    | cons capital capitals ih =>
      rw [List.cons_subset] at hcapitals
      cases word with
      | nil => simp
      | cons c word =>
        rw [List.map_cons, List.cons.injEq, List.forall₂_cons, toUpper_eq_iff hcapitals.1,
          ih hcapitals.2]
  exact hpart _ (List.Subset.refl _) word

/-- A text starts with CREATE where the word stands behind its blanks. -/
lemma startsWithCreate_iff {text : Text} :
    startsWithCreate text = true ↔ ∃ blanks word behind, (∀ c ∈ blanks, isBlank c = true) ∧
      IsCreateWord word ∧ text = blanks ++ (word ++ behind) := by
  unfold startsWithCreate
  rw [decide_eq_true_eq]
  constructor
  · rintro ⟨s, hs⟩
    obtain ⟨word, behind, hsplit, hmap, -⟩ := List.map_eq_append_iff.1 hs.symm
    refine ⟨text.takeWhile isBlank, word, behind, fun c hc => List.mem_takeWhile_imp hc,
      map_toUpper_eq_iff.1 hmap, ?_⟩
    rw [← hsplit]
    exact List.takeWhile_append_dropWhile.symm
  · rintro ⟨blanks, word, behind, hblanks, hcreate, rfl⟩
    have hcapitals := map_toUpper_eq_iff.2 hcreate
    have hvisible : ∀ c ∈ (word ++ behind).head?, isBlank c = false := by
      obtain ⟨c, rest, hc, -, rfl⟩ := List.forall₂_cons_left_iff.1 hcreate
      rintro d hd
      obtain rfl : c = d := Option.some.inj hd
      rcases hc with rfl | rfl <;> decide
    have htrim : trimLeft (blanks ++ (word ++ behind)) = word ++ behind :=
      dropWhile_run_append hblanks hvisible
    rw [htrim, List.map_append, hcapitals]
    exact List.prefix_append _ _

/-- The statements that have a header, and what it says. A name begins behind the keywords of a
header; the header has these keywords and the longest name that there is, behind the guard where
that counts. Of the statements without a header those are unrecognised that start with CREATE in
whatever letters. -/
theorem parse_grammar (text : Text) :
    ((parse text).header?.isSome = true ↔
      ∃ (indent : Text) (external : Bool) (kind : ObjectKind) (r : Text),
        (∀ c ∈ indent, isIndent c = true) ∧ beginsName r = true ∧
        text = indent ++ (createKeyword ++ (optional external externalKeyword ++
          (kind.keyword ++ ' ' :: r)))) ∧
    (∀ (indent : Text) (external : Bool) (kind : ObjectKind) (r : Text),
      (∀ c ∈ indent, isIndent c = true) → beginsName r = true →
      text = indent ++ (createKeyword ++ (optional external externalKeyword ++
        (kind.keyword ++ ' ' :: r))) →
      ∃ h, (parse text).header? = some h ∧ h.indent = indent ∧ h.external = external ∧
        h.kind = kind ∧ h.name = (withoutGuard r).takeWhile isNameChar) ∧
    ((parse text).header? = none →
      ((parse text).isUnrecognised = true ↔
        ∃ blanks word behind, (∀ c ∈ blanks, isBlank c = true) ∧ IsCreateWord word ∧
          text = blanks ++ (word ++ behind))) := by
  have hread : ∀ (indent : Text) (external : Bool) (kind : ObjectKind) (r : Text),
      (∀ c ∈ indent, isIndent c = true) → beginsName r = true →
      text = indent ++ (createKeyword ++ (optional external externalKeyword ++
        (kind.keyword ++ ' ' :: r))) →
      ∃ h, (parse text).header? = some h ∧ h.indent = indent ∧ h.external = external ∧
        h.kind = kind ∧ h.name = (withoutGuard r).takeWhile isNameChar := by
    rintro indent external kind r hindent hr rfl
    obtain ⟨h, rest, hp, hsays⟩ := exists_parse?_of_beginsName hindent external kind hr
    exact ⟨h, congrArg (Option.map Prod.fst) hp, hsays⟩
  refine ⟨⟨fun hsome => ?_, ?_⟩, hread, fun hnone => ?_⟩
  · obtain ⟨h, hh⟩ := Option.isSome_iff_exists.1 hsome
    obtain ⟨⟨_, rest⟩, hp, rfl⟩ := Option.map_eq_some_iff.1 hh
    obtain ⟨r, hr, hsplit⟩ := exists_beginsName_of_parse? hp
    exact ⟨_, _, _, r, (parse?_eq_some_iff.1 hp).2.1, hr, hsplit⟩
  · rintro ⟨indent, external, kind, r, hindent, hr, hsplit⟩
    obtain ⟨h, hh, -⟩ := hread indent external kind r hindent hr hsplit
    rw [hh]
    rfl
  · rw [← startsWithCreate_iff]
    unfold isUnrecognised
    rw [hnone]
    rfl

/-- A guard that counts, a guard without a name behind it, and a header in small letters. -/
theorem parse_grammar_guardWithoutName :
    let guarded := " \tCREATE EXTERNAL VIEW IF NOT EXISTS IF NOT EXISTS v".toList
    let unnamed := "CREATE TABLE IF NOT EXISTS (a int)".toList
    let small := "\u3000\ncReaTE table t(a int)".toList
    ((∀ c ∈ " \t".toList, isIndent c = true) ∧
      beginsName "IF NOT EXISTS IF NOT EXISTS v".toList = true ∧
      ∃ h, (parse guarded).header? = some h ∧ h.indent = " \t".toList ∧ h.external = true ∧
        h.kind = .view ∧ h.name = "IF".toList) ∧
    (beginsName "IF NOT EXISTS (a int)".toList = true ∧
      ∃ h, (parse unnamed).header? = some h ∧ h.external = false ∧ h.kind = .table ∧
        h.name = "IF".toList) ∧
    ((parse small).header? = none ∧ (parse small).isUnrecognised = true) := by
  intro guarded unnamed small
  have hindent : ∀ c ∈ " \t".toList, isIndent c = true := List.all_eq_true.1 (by decide)
  have hguarded : beginsName "IF NOT EXISTS IF NOT EXISTS v".toList = true := by decide
  have hunnamed : beginsName "IF NOT EXISTS (a int)".toList = true := by decide
  have hview : guarded = " \t".toList ++ (createKeyword ++ (optional true externalKeyword ++
      (ObjectKind.view.keyword ++ ' ' :: "IF NOT EXISTS IF NOT EXISTS v".toList))) := by
    decide +kernel
  have htable : unnamed = [] ++ (createKeyword ++ (optional false externalKeyword ++
      (ObjectKind.table.keyword ++ ' ' :: "IF NOT EXISTS (a int)".toList))) := by
    decide +kernel
  have hsmall : small = "\u3000\n".toList ++ ("cReaTE".toList ++ " table t(a int)".toList) := by
    decide +kernel
  have hcreate : IsCreateWord "cReaTE".toList := by
    unfold IsCreateWord
    simp
  have hnone : (parse small).header? = none := by decide +kernel
  obtain ⟨h, hh, hindented, hexternal, hkind, hname⟩ :=
    (parse_grammar guarded).2.1 _ _ _ _ hindent hguarded hview
  obtain ⟨k, hk, -, hkexternal, hkkind, hkname⟩ :=
    (parse_grammar unnamed).2.1 _ _ _ _ (by simp) hunnamed htable
  exact ⟨⟨hindent, hguarded, h, hh, hindented, hexternal, hkind, hname.trans (by decide)⟩,
    ⟨hunnamed, k, hk, hkexternal, hkkind, hkname.trans (by decide)⟩, hnone,
    ((parse_grammar small).2.2 hnone).2
      ⟨_, _, _, List.all_eq_true.1 (by decide), hcreate, hsmall⟩⟩

end Statement

end DdlDump
