import DdlDump.Proofs.View.Reference

/-!
# Searching a text in two

No reference reaches over a blank, unless the blank belongs to the gap between the keyword and the
name. So the references of a text are those in front of a blank and those behind it, where the text
in front does not end in a keyword that is still without its name (`scan_append_blank`).
-/

namespace DdlDump

open Text

namespace Reference

/-! ### Reading up to a blank -/

section UpToBlank

variable {c : Char} {t : Text}

/-- A blank is none of the other characters. -/
lemma ne_of_isBlank {d : Char} (hc : isBlank c = true) (hd : isBlank d = false) : c ≠ d := by
  rintro rfl
  rw [hc] at hd
  exact absurd hd (by decide)

/-- What is dropped off the front is dropped in front of a blank. -/
lemma dropQuote_append_blank (hc : isBlank c = true) (t r : Text) :
    dropQuote (t ++ c :: r) = dropQuote t ++ c :: r := by
  cases t with
  | nil =>
    refine dropQuote_of_head? fun d hd => ?_
    rw [← Option.some.inj hd]
    exact ne_of_isBlank hc rfl
  | cons d t =>
    rw [List.cons_append, dropQuote, dropQuote]
    split <;> rfl

/-- A word ends in front of a blank. -/
lemma word_append_blank (hc : isBlank c = true) (t r : Text) :
    word (t ++ c :: r) = word t ∧ afterWord (t ++ c :: r) = afterWord t ++ c :: r ∧
      atWordEnd (t ++ c :: r) = atWordEnd t := by
  have hchar := isWordChar_eq_false_of_isBlank hc
  have hword : word (t ++ c :: r) = word t := takeWhile_append_cons hchar t r
  refine ⟨hword, dropWhile_append_cons hchar t r, ?_⟩
  unfold atWordEnd
  rw [hword]

/-- A dot and a word are taken in front of a blank or not at all. -/
lemma takeQualified?_append_blank (hc : isBlank c = true) (t r : Text) :
    takeQualified? (t ++ c :: r) = (takeQualified? t).map fun p => (p.1, p.2 ++ c :: r) := by
  unfold takeQualified?
  rw [dropQuote_append_blank hc]
  cases hbare : dropQuote t with
  | nil =>
    have hdot : c ≠ '.' := ne_of_isBlank hc rfl
    rw [List.nil_append]
    split
    · next h => exact absurd (List.cons.inj h).1 hdot
    · rfl
  | cons d u =>
    rw [List.cons_append]
    by_cases hd : d = '.'
    · subst hd
      obtain ⟨hword, hafter, hend⟩ := word_append_blank hc (dropQuote u) r
      simp only [dropQuote_append_blank hc, hword, hafter, hend]
      split <;> rfl
    · split
      · next h => exact absurd (List.cons.inj h).1 hd
      · split
        · next h => exact absurd (List.cons.inj h).1 hd
        · rfl

/-- So is a name. -/
lemma takeName?_append_blank (hc : isBlank c = true) (t r : Text) :
    takeName? (t ++ c :: r) = (takeName? t).map fun p => (p.1, p.2 ++ c :: r) := by
  obtain ⟨hword, hafter, hend⟩ := word_append_blank hc (dropQuote t) r
  unfold takeName?
  simp only [dropQuote_append_blank hc, hword, hafter, hend, takeQualified?_append_blank hc]
  split
  · rfl
  · cases takeQualified? (afterWord (dropQuote t)) with
    | none => rfl
    | some p => exact congrArg some (Prod.ext rfl (dropQuote_append_blank hc p.2 r))

/-- FROM and JOIN do not reach over a blank. -/
lemma takeSource?_append_blank (hc : isBlank c = true) (t r : Text) :
    takeSource? (t ++ c :: r) = (takeSource? t).map (· ++ c :: r) := by
  ext s
  rw [Option.map_eq_some_iff, takeSource?_eq_some_iff]
  constructor
  · rintro ⟨w, hw, hsplit⟩
    suffices h : ∃ a, t = w ++ a by
      obtain ⟨a, rfl⟩ := h
      rw [List.append_assoc, List.append_cancel_left_eq] at hsplit
      exact ⟨a, takeSource?_eq_some_iff.2 ⟨w, hw, rfl⟩, hsplit⟩
    rcases List.append_eq_append_iff.1 hsplit with ⟨a, rfl, ha⟩ | ⟨a, ht, -⟩
    · cases a with
      | nil => exact ⟨[], by rw [List.append_nil, List.append_nil]⟩
      | cons d a =>
        -- the blank would belong to the keyword
        have hword := (isWord_of_isSource hw).2 d (by simp)
        rw [← (List.cons.inj ha).1, isWordChar_eq_false_of_isBlank hc] at hword
        exact absurd hword (by decide)
    · exact ⟨a, ht⟩
  · rintro ⟨a, ha, rfl⟩
    obtain ⟨w, hw, rfl⟩ := takeSource?_eq_some_iff.1 ha
    exact ⟨w, hw, List.append_assoc w a (c :: r)⟩

/-- And so is a reference, unless the blank stands between the keyword and the name. -/
lemma take?_append_blank (hc : isBlank c = true)
    (hopen : ∀ w blanks, IsSource w → (∀ d ∈ blanks, isBlank d = true) → t ≠ w ++ blanks)
    (r : Text) : take? (t ++ c :: r) = (take? t).map fun p => (p.1, p.2 ++ c :: r) := by
  unfold take?
  rw [takeSource?_append_blank hc]
  cases htake : takeSource? t with
  | none => rfl
  | some s =>
    obtain ⟨w, hw, rfl⟩ := takeSource?_eq_some_iff.1 htake
    cases s with
    | nil => exact absurd rfl (hopen w [] hw (by simp))
    | cons d u =>
      cases hd : isBlank d with
      | false => simp [hd]
      | true =>
        have hvisible : (u.dropWhile isBlank).isEmpty = false := by
          rw [List.isEmpty_eq_false_iff, Ne, List.dropWhile_eq_nil_iff]
          intro hu
          exact hopen w (d :: u) hw (List.forall_mem_cons.2 ⟨hd, hu⟩) rfl
        have htrim : trimLeft (u ++ c :: r) = trimLeft u ++ c :: r := by
          unfold trimLeft
          rw [List.dropWhile_append, hvisible, if_neg (by decide)]
        simp [hd, htrim, takeName?_append_blank hc]

end UpToBlank

/-! ### Where a reference ends -/

section Ends

variable {t rest body : Text} {r : Reference}

/-- Behind a word there is a quote to be dropped, or the word ends. -/
lemma exists_dropQuote_afterWord (hbody : atWordEnd body = false) :
    ∃ p d, body = p ++ d :: dropQuote (afterWord body) ∧
      (d = Column.quote ∨ isWordChar d = true ∧ atWordEnd (dropQuote (afterWord body)) = true) := by
  have hsplit := word_append_afterWord body
  have hend : atWordEnd (afterWord body) = true :=
    atWordEnd_iff.2 (head?_dropWhile_eq_false body)
  by_cases hquote : ∃ c ∈ (afterWord body).head?, c = Column.quote
  · obtain ⟨c, hc, rfl⟩ := hquote
    obtain ⟨u, hu⟩ := List.head?_eq_some_iff.1 hc
    refine ⟨word body, Column.quote, ?_, Or.inl rfl⟩
    rw [hu, dropQuote, if_pos rfl, ← hu]
    exact hsplit.symm
  · have hdrop : dropQuote (afterWord body) = afterWord body :=
      dropQuote_of_head? fun c hc h => hquote ⟨c, hc, h⟩
    have hne : word body ≠ [] := by
      intro hnil
      unfold atWordEnd at hbody
      rw [hnil] at hbody
      exact absurd hbody (by decide)
    rw [hdrop]
    refine ⟨(word body).dropLast, (word body).getLast hne, ?_, Or.inr ⟨?_, hend⟩⟩
    · rw [List.append_cons, List.dropLast_append_getLast hne]
      exact hsplit.symm
    · exact List.mem_takeWhile_imp (List.getLast_mem hne)

/-- Dropping a quote leaves an end of the text. -/
lemma dropQuote_suffix (t : Text) : dropQuote t <:+ t := by
  cases t with
  | nil => exact List.suffix_rfl
  | cons c t =>
    rw [dropQuote]
    split
    · exact List.suffix_cons c t
    · exact List.suffix_rfl

/-- The second word of a qualified name is taken off an end of the text. -/
lemma exists_word_of_takeQualified? {name : Text} (h : takeQualified? t = some (name, rest)) :
    ∃ body, body <:+ t ∧ atWordEnd body = false ∧ rest = afterWord body := by
  unfold takeQualified? at h
  split at h
  · next u hdot =>
    have hu : u <:+ t := (hdot ▸ List.suffix_cons '.' u).trans (dropQuote_suffix t)
    simp only at h
    split at h
    · exact absurd h.symm (Option.some_ne_none _)
    · next hword =>
      exact ⟨dropQuote u, (dropQuote_suffix u).trans hu, Bool.not_eq_true _ ▸ hword,
        (Prod.mk.inj (Option.some.inj h)).2.symm⟩
  · exact absurd h.symm (Option.some_ne_none _)

/-- A name is taken up to behind a word and its quote. -/
lemma exists_word_of_takeName? (h : takeName? t = some (r, rest)) :
    ∃ body, body <:+ t ∧ atWordEnd body = false ∧ rest = dropQuote (afterWord body) := by
  unfold takeName? at h
  simp only at h
  split at h
  · exact absurd h.symm (Option.some_ne_none _)
  · next hword =>
    split at h
    · next name rest' hqualified =>
      obtain ⟨body, hbody, hsecond, rfl⟩ := exists_word_of_takeQualified? hqualified
      have hafter : afterWord (dropQuote t) <:+ t :=
        (List.dropWhile_suffix isWordChar).trans (dropQuote_suffix t)
      exact ⟨body, hbody.trans hafter, hsecond, (Prod.mk.inj (Option.some.inj h)).2.symm⟩
    · exact ⟨dropQuote t, dropQuote_suffix t, Bool.not_eq_true _ ▸ hword,
        (Prod.mk.inj (Option.some.inj h)).2.symm⟩

/-- A reference ends with a quote or in front of the end of a word. -/
lemma exists_of_take? (h : take? t = some (r, rest)) :
    ∃ p d, t = p ++ d :: rest ∧
      (d = Column.quote ∨ isWordChar d = true ∧ atWordEnd rest = true) := by
  have hname : ∃ u, u <:+ t ∧ takeName? u = some (r, rest) := by
    unfold take? at h
    split at h
    · next c s hsource =>
      obtain ⟨w, -, rfl⟩ := takeSource?_eq_some_iff.1 hsource
      split at h
      · have hs : s <:+ w ++ c :: s := (List.suffix_cons c s).trans (List.suffix_append w _)
        exact ⟨trimLeft s, (List.dropWhile_suffix isBlank).trans hs, h⟩
      · exact absurd h.symm (Option.some_ne_none _)
    · exact absurd h.symm (Option.some_ne_none _)
  obtain ⟨u, hu, htake⟩ := hname
  obtain ⟨body, hbody, hword, rfl⟩ := exists_word_of_takeName? htake
  obtain ⟨front, hfront⟩ := hbody.trans hu
  obtain ⟨p, d, hsplit, hd⟩ := exists_dropQuote_afterWord hword
  refine ⟨front ++ p, d, ?_, hd⟩
  rw [List.append_assoc, ← hsplit, hfront]

end Ends

/-! ### Searching on both sides of a blank -/

/-- Whether no keyword at the end of a text is still without its name, given whether a word is in
progress in front of the text. -/
def IsClosed (b : Bool) (t : Text) : Prop :=
  ∀ v w blanks, t = v ++ (w ++ blanks) → IsSource w → (∀ c ∈ blanks, isBlank c = true) →
    endsInWord b v = true

section Split

variable {b : Bool} {c : Char} {t rest : Text} {r : Reference}

/-- This is so behind the first character. -/
lemma IsClosed.tail (h : IsClosed b (c :: t)) : IsClosed (isWordChar c) t := by
  intro v w blanks hsplit hw hblanks
  have hend := h (c :: v) w blanks (by rw [hsplit]; rfl) hw hblanks
  rwa [endsInWord_cons] at hend

/-- Outside of words such a text is no keyword without a name. -/
lemma IsClosed.not_open (h : IsClosed false t) :
    ∀ w blanks, IsSource w → (∀ c ∈ blanks, isBlank c = true) → t ≠ w ++ blanks := by
  intro w blanks hw hblanks hsplit
  exact absurd (h [] w blanks hsplit hw hblanks) (by decide)

/-- And it is so behind a reference. -/
lemma IsClosed.behind (h : IsClosed b t) (htake : take? t = some (r, rest)) :
    IsClosed false rest := by
  intro v w blanks hsplit hw hblanks
  obtain ⟨p, d, rfl, hd⟩ := exists_of_take? htake
  have hend := h (p ++ d :: v) w blanks (by rw [hsplit]; simp) hw hblanks
  rw [endsInWord_append, endsInWord_cons] at hend
  cases v with
  | nil =>
    -- the reference would end in front of the keyword without a quote in between
    obtain ⟨hne, hword⟩ := isWord_of_isSource hw
    obtain ⟨e, u, rfl⟩ := List.exists_cons_of_ne_nil hne
    rcases hd with rfl | ⟨-, hrest⟩
    · exact absurd hend (by decide)
    · have he := atWordEnd_iff.1 hrest e (by rw [hsplit]; rfl)
      rw [hword e List.mem_cons_self] at he
      exact absurd he (by decide)
  | cons e v =>
    rw [endsInWord_cons] at hend ⊢
    exact hend

/-- The references of a text are those in front of a blank and those behind it, where no keyword in
front is still without its name. -/
lemma scan_append_blank (hc : isBlank c = true) (h : IsClosed b t) (u : Text) :
    scan b (t ++ c :: u) = scan b t ++ scan false u := by
  induction b, t using scan.induct with
  | case1 b t r rest htake ih =>
    cases b with
    | true => exact absurd htake.symm (Option.some_ne_none _)
    | false =>
      have hshort : take? t = some (r, rest) := htake
      have hlong : take? (t ++ c :: u) = some (r, rest ++ c :: u) := by
        rw [take?_append_blank hc h.not_open, hshort, Option.map_some]
      rw [scan_of_take? hshort, scan_of_take? hlong, ih (h.behind hshort), List.cons_append]
  | case2 b hnone =>
    have hfirst := take?_eq_none_of_atWordEnd (atWordEnd_blank hc u)
    rw [List.nil_append, scan_cons fun _ => hfirst, isWordChar_eq_false_of_isBlank hc, scan_nil,
      List.nil_append]
  | case3 b d t hnone ih =>
    have hshort : b = false → take? (d :: t) = none := by
      rintro rfl
      exact hnone
    have hlong : b = false → take? (d :: (t ++ c :: u)) = none := by
      rintro rfl
      rw [← List.cons_append, take?_append_blank hc h.not_open, hshort rfl, Option.map_none]
    rw [List.cons_append, scan_cons hshort, scan_cons hlong, ih h.tail]

end Split

end Reference

end DdlDump
