import DdlDump.Proofs.View.Reference
import Mathlib.Data.List.Infix

/-!
# The mentions of a text

A text mentions an object where its name stands behind FROM or JOIN. Of a text that consists of such
mentions, with other text in front of them and between them, exactly the mentioned objects are read
(`mem_objectsRead_mentions`), whether they are written with a database or without, with quotes or
without. The text between two mentions is what tells them apart: it does not go on with the name in
front of it, it keeps the next keyword from being part of a word, and it has no such keyword itself.
-/

namespace DdlDump

open Text

namespace Reference

/-- A text without keywords in it, whole words or not. -/
def IsFiller (t : Text) : Prop :=
  ∀ w, IsSource w → ¬ w <:+: t

/-- A text is without keywords where none is taken off any of its ends. -/
lemma isFiller_iff {t : Text} : IsFiller t ↔ ∀ u ∈ t.tails, takeSource? u = none := by
  simp only [List.mem_tails, Option.eq_none_iff_forall_ne_some, Ne, takeSource?_eq_some_iff]
  constructor
  · rintro h u hu r ⟨w, hw, rfl⟩
    exact h w hw ((List.prefix_append w r).isInfix.trans hu.isInfix)
  · rintro h w hw ⟨v, r, rfl⟩
    exact h (w ++ r) ⟨v, (List.append_assoc v w r).symm⟩ r ⟨w, hw, rfl⟩

instance : DecidablePred IsFiller :=
  fun _ => decidable_of_iff _ isFiller_iff.symm

/-- A name behind a keyword, with the text behind it. -/
structure Mention where
  keyword : Text
  blanks : Text
  name : WrittenName
  filler : Text

namespace Mention

/-- The characters of a mention. -/
def text (m : Mention) : Text :=
  m.keyword ++ (m.blanks ++ (m.name.text ++ m.filler))

/-- What makes a text a mention. -/
structure IsMention (m : Mention) : Prop where
  keyword : IsSource m.keyword
  separated : m.blanks ≠ []
  blanks : ∀ c ∈ m.blanks, isBlank c = true
  name : m.name.IsName
  filler : IsFiller m.filler
  /-- The text behind the name does not go on with it. -/
  ends : EndsName m.filler

instance : DecidablePred IsMention := fun m =>
  decidable_of_iff (IsSource m.keyword ∧ m.blanks ≠ [] ∧ m.blanks.all isBlank = true ∧
      m.name.IsName ∧ IsFiller m.filler ∧ EndsName m.filler)
    ⟨fun ⟨hw, hne, hblanks, hn, hf, hends⟩ => ⟨hw, hne, List.all_eq_true.1 hblanks, hn, hf, hends⟩,
      fun h => ⟨h.keyword, h.separated, List.all_eq_true.2 h.blanks, h.name, h.filler, h.ends⟩⟩

/-- Whether another mention may follow. -/
def IsSeparated (m : Mention) : Prop :=
  m.filler ≠ [] ∧ ∀ c ∈ m.filler.getLast?, isWordChar c = false

instance : DecidablePred IsSeparated := fun m =>
  decidable_of_iff (m.filler ≠ [] ∧ endsInWord false m.filler = false)
    (and_congr_right fun _ => endsInWord_eq_false_iff)

end Mention

section Filler

variable {b : Bool} {f t : Text} {m : Mention}

/-- No reference starts in a text without keywords, unless a word goes on behind it. -/
lemma take?_eq_none_of_isFiller {v u : Text} (hf : IsFiller (v ++ u)) (hu : u ≠ [])
    (hend : t = [] ∨ ∀ c ∈ (v ++ u).getLast?, isWordChar c = false) : take? (u ++ t) = none := by
  have hnone : takeSource? (u ++ t) = none := by
    rw [Option.eq_none_iff_forall_ne_some]
    intro r hr
    obtain ⟨w, hw, hsplit⟩ := takeSource?_eq_some_iff.1 hr
    have hinside : ∀ a, u ≠ w ++ a := by
      rintro a rfl
      exact hf w hw (List.append_assoc v w a ▸ List.infix_append v w a)
    rcases List.append_eq_append_iff.1 hsplit with ⟨a, rfl, ha⟩ | ⟨a, hu', -⟩
    · rcases hend with rfl | hlast
      · have hnil : a = [] := (List.append_eq_nil_iff.1 ha.symm).1
        exact hinside [] (by rw [hnil, List.append_nil, List.append_nil])
      · -- the last character in front of `t` would belong to the keyword
        rw [List.getLast?_append_of_ne_nil _ hu, List.getLast?_eq_getLast_of_ne_nil hu] at hlast
        have hword := (isWord_of_isSource hw).2 _ (List.mem_append_left a (List.getLast_mem hu))
        rw [hlast _ rfl] at hword
        exact absurd hword (by decide)
    · exact hinside a hu'
  unfold take?
  rw [hnone]

/-- So it is passed over. -/
lemma scan_isFiller_append (hf : IsFiller f)
    (hend : t = [] ∨ ∀ c ∈ f.getLast?, isWordChar c = false) :
    scan b (f ++ t) = scan (endsInWord b f) t := by
  apply scan_append_of_forall
  rintro v u rfl hu -
  exact take?_eq_none_of_isFiller hf hu hend

/-- A mention is found, and the search goes on behind its name. -/
lemma scan_mention_append (hm : m.IsMention) (hend : t ≠ [] → m.filler ≠ []) :
    scan false (m.text ++ t) = m.name.reference :: scan false (m.filler ++ t) := by
  have hends : EndsName (m.filler ++ t) := by
    rcases eq_or_ne m.filler [] with hnil | hne
    · rw [hnil, not_imp_not.1 hend hnil]
      intro c hc
      exact absurd hc (by simp)
    · unfold EndsName
      rw [List.head?_append_of_ne_nil _ hne]
      exact hm.ends
  apply scan_of_take?
  unfold Mention.text
  simp only [List.append_assoc]
  exact take?_append hm.keyword hm.separated hm.blanks hm.name hends

/-- The mentions of a text are found one after the other. -/
lemma scan_mentions {ms : List Mention} (hms : ∀ m ∈ ms, m.IsMention)
    (hseparated : ∀ m ∈ ms.dropLast, m.IsSeparated) :
    scan false (ms.flatMap Mention.text) = ms.map fun m => m.name.reference := by
  induction ms with
  | nil => exact scan_nil false
  | cons m ms ih =>
    rw [List.forall_mem_cons] at hms
    rw [List.flatMap_cons, List.map_cons]
    rcases eq_or_ne ms [] with rfl | hne
    · rw [List.flatMap_nil, scan_mention_append hms.1 (fun h => absurd rfl h),
        scan_isFiller_append hms.1.filler (Or.inl rfl), scan_nil]
      rfl
    · rw [List.dropLast_cons_of_ne_nil hne, List.forall_mem_cons] at hseparated
      obtain ⟨⟨hfiller, hlast⟩, hothers⟩ := hseparated
      rw [scan_mention_append hms.1 fun _ => hfiller,
        scan_isFiller_append hms.1.filler (Or.inr hlast), endsInWord_eq_false_iff.2 hlast,
        ih hms.2 hothers]

end Filler

end Reference

open Reference

/-- Of a text that consists of mentions, with other text in front, exactly those objects are read,
each once, that are known by a name that is mentioned with this database or with none. -/
theorem mem_objectsRead_mentions (front : Text) (ms : List Mention) (db : Text)
    (known? : Text → Option Text) (hfront : IsFiller front)
    (hend : ms ≠ [] → ∀ c ∈ front.getLast?, isWordChar c = false)
    (hms : ∀ m ∈ ms, m.IsMention) (hseparated : ∀ m ∈ ms.dropLast, m.IsSeparated) :
    (∀ x, x ∈ objectsRead db known? (front ++ ms.flatMap Mention.text) ↔
      ∃ m ∈ ms, (∀ s ∈ m.name.schema?, s.word.lower = db.lower) ∧
        known? m.name.name.word.lower = some x) ∧
    (objectsRead db known? (front ++ ms.flatMap Mention.text)).Nodup := by
  have hscan : scan false (front ++ ms.flatMap Mention.text) =
      ms.map fun m => m.name.reference := by
    rcases eq_or_ne ms [] with rfl | hne
    · rw [List.flatMap_nil, scan_isFiller_append hfront (Or.inl rfl), scan_nil, List.map_nil]
    · rw [scan_isFiller_append hfront (Or.inr (hend hne)), endsInWord_eq_false_iff.2 (hend hne),
        scan_mentions hms hseparated]
  refine ⟨fun x => ?_, nodup_objectsRead⟩
  rw [mem_objectsRead_iff, hscan]
  simp only [List.mem_map, exists_exists_and_eq_and, means_reference_iff]

/-- Mentions in mixed letters, with quotes and without, and behind the second keyword a name that is
a keyword itself. -/
def mixedMentions : List Mention :=
  [⟨"FrOm".toList, "\n\t".toList, ⟨none, ⟨"Orders".toList, true⟩⟩, ", goods\n".toList⟩,
    ⟨"JOİN".toList, " ".toList, ⟨some ⟨"Shop".toList, true⟩, ⟨"From".toList, false⟩⟩,
      " ON x.y = 1 and(".toList⟩,
    ⟨"join".toList, " ".toList, ⟨some ⟨"d".toList, false⟩, ⟨"goods".toList, true⟩⟩, []⟩]

/-- Neither an object of another database is read nor one that stands elsewhere. -/
theorem mem_objectsRead_mentions_mixedLetters :
    let front := "SELECT * ".toList
    let body := front ++ mixedMentions.flatMap Mention.text
    let known? : Text → Option Text := fun key =>
      (["ORDERS", "from", "goods"].map String.toList).find? fun name => name.lower == key
    (IsFiller front ∧ (∀ c ∈ front.getLast?, isWordChar c = false) ∧
      (∀ m ∈ mixedMentions, m.IsMention) ∧ ∀ m ∈ mixedMentions.dropLast, m.IsSeparated) ∧
    "ORDERS".toList ∈ objectsRead "shop".toList known? body ∧
    "from".toList ∈ objectsRead "shop".toList known? body ∧
    "goods".toList ∉ objectsRead "shop".toList known? body := by
  intro front body known?
  have hfront : IsFiller front := by decide
  have hend : ∀ c ∈ front.getLast?, isWordChar c = false :=
    endsInWord_eq_false_iff.1 (by decide)
  have hms : ∀ m ∈ mixedMentions, m.IsMention := by decide
  have hseparated : ∀ m ∈ mixedMentions.dropLast, m.IsSeparated := by decide
  have hread := (mem_objectsRead_mentions front mixedMentions "shop".toList known? hfront
    (fun _ => hend) hms hseparated).1
  refine ⟨⟨hfront, hend, hms, hseparated⟩, (hread _).2 ?_, (hread _).2 ?_, mt (hread _).1 ?_⟩
  · decide +kernel
  · decide +kernel
  · decide +kernel

end DdlDump
