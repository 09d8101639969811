import DdlDump.Proofs.Lists
import DdlDump.Proofs.Text.Word
import DdlDump.View.Reference
import Mathlib.Data.List.Forall2

/-!
# Reading references

What is needed to follow the search for references through a text. A reference is read off the front
of a text that starts with FROM or JOIN in whatever letters, blanks and a name (`take?_append`),
and where none starts the search goes on behind the next character. Whether a keyword counts depends
on the character in front of it alone (`endsInWord`), so that a stretch in which no reference starts
can be passed over as a whole (`scan_append_of_forall`).
-/

namespace DdlDump

open Text

namespace Reference

/-! ### Keywords -/

/-- A word in whatever letters. -/
def Spells (capitals word : Text) : Prop :=
  List.Forall₂ (fun capital c => spells capital c = true) capitals word

/-- FROM or JOIN in whatever letters. -/
def IsSource (word : Text) : Prop :=
  Spells "FROM".toList word ∨ Spells "JOIN".toList word

section Keyword

variable {k t r w : Text} {c : Char}

/-- A keyword is taken off a text that starts with it, in whatever letters. -/
lemma takeKeyword?_eq_some_iff : takeKeyword? k t = some r ↔ ∃ w, Spells k w ∧ t = w ++ r := by
  unfold Spells
  induction k generalizing t with
  | nil => simp [takeKeyword?, List.forall₂_nil_left_iff]
  | cons capital k ih =>
    simp only [List.forall₂_cons_left_iff]
    cases t with
    | nil =>
      refine iff_of_false (by simp [takeKeyword?]) ?_
      rintro ⟨w, ⟨c, w, -, -, rfl⟩, h⟩
      exact absurd h (by simp)
    | cons d t =>
      rw [takeKeyword?]
      constructor
      · intro h
        split at h
        · next hd =>
          obtain ⟨w, hw, rfl⟩ := ih.1 h
          exact ⟨d :: w, ⟨d, w, hd, hw, rfl⟩, rfl⟩
        · exact absurd h.symm (Option.some_ne_none r)
      · rintro ⟨w, ⟨c, w, hc, hw, rfl⟩, h⟩
        rw [List.cons_append, List.cons.injEq] at h
        obtain ⟨rfl, rfl⟩ := h
        rw [if_pos hc]
        exact ih.2 ⟨w, hw, rfl⟩

/-- No word is both FROM and JOIN. -/
lemma not_spells_both {u v : Text} (hfrom : Spells "FROM".toList u) (hjoin : Spells "JOIN".toList v)
    (h : u ++ r = v ++ t) : False := by
  have hcapital : ∀ {capital c : Char}, spells capital c = true → capital ≠ 'I' →
      c.toUpper = capital := by
    intro capital c hc hI
    simpa [spells, hI] using hc
  obtain ⟨c, u, hc, -, rfl⟩ := List.forall₂_cons_left_iff.1 hfrom
  obtain ⟨d, v, hd, -, rfl⟩ := List.forall₂_cons_left_iff.1 hjoin
  rw [List.cons_append, List.cons_append, List.cons.injEq] at h
  obtain ⟨rfl, -⟩ := h
  have hboth := (hcapital hc (by decide)).symm.trans (hcapital hd (by decide))
  exact absurd hboth (by decide)

/-- FROM or JOIN is taken off a text that starts with either. -/
lemma takeSource?_eq_some_iff : takeSource? t = some r ↔ ∃ w, IsSource w ∧ t = w ++ r := by
  unfold takeSource? IsSource
  rw [Option.or_eq_some_iff]
  constructor
  · rintro (h | ⟨-, h⟩)
    · obtain ⟨w, hw, hsplit⟩ := takeKeyword?_eq_some_iff.1 h
      exact ⟨w, Or.inl hw, hsplit⟩
    · obtain ⟨w, hw, hsplit⟩ := takeKeyword?_eq_some_iff.1 h
      exact ⟨w, Or.inr hw, hsplit⟩
  · rintro ⟨w, hw | hw, hsplit⟩
    · exact Or.inl (takeKeyword?_eq_some_iff.2 ⟨w, hw, hsplit⟩)
    · refine Or.inr ⟨?_, takeKeyword?_eq_some_iff.2 ⟨w, hw, hsplit⟩⟩
      rw [Option.eq_none_iff_forall_ne_some]
      intro r' hfrom
      obtain ⟨u, hu, hu'⟩ := takeKeyword?_eq_some_iff.1 hfrom
      exact not_spells_both hu hw (hu'.symm.trans hsplit)

/-- A keyword in whatever letters is taken off whole. -/
lemma spells_iff : Spells k w ↔ takeKeyword? k w = some [] := by
  rw [takeKeyword?_eq_some_iff]
  simp

instance (k w : Text) : Decidable (Spells k w) :=
  decidable_of_iff _ spells_iff.symm

/-- FROM and JOIN are what is taken off whole. -/
lemma isSource_iff : IsSource w ↔ takeSource? w = some [] := by
  rw [takeSource?_eq_some_iff]
  simp

instance : DecidablePred IsSource :=
  fun _ => decidable_of_iff _ isSource_iff.symm

/-- What spells a letter of FROM or JOIN is a word character. -/
lemma isWordChar_of_spells {capital : Char} (hcapital : capital ∈ "FROMJOIN".toList)
    (hc : spells capital c = true) : isWordChar c = true := by
  have hascii : ∀ {c : Char}, c.toNat < 128 → ("FROMJOIN".toList.all fun capital =>
      !spells capital c || isWordChar c) = true :=
    ascii_forall (P := fun c => ("FROMJOIN".toList.all fun capital =>
      !spells capital c || isWordChar c) = true) (by decide +kernel)
  have hletters : ("FROMJOIN".toList.all fun capital => capital.toNat < 128) = true := by
    decide
  by_cases hsmall : c.toNat < 128
  · have hspelled := List.all_eq_true.1 (hascii hsmall) capital hcapital
    rwa [hc, Bool.not_true, Bool.false_or] at hspelled
  · unfold spells at hc
    rw [toUpper_of_not_lt hsmall, Bool.or_eq_true, beq_iff_eq] at hc
    rcases hc with rfl | hc
    · exact absurd (of_decide_eq_true (List.all_eq_true.1 hletters _ hcapital)) hsmall
    · -- beyond ASCII there are the dotted capital and the dotless small I
      simp only [Bool.and_eq_true, Bool.or_eq_true, beq_iff_eq] at hc
      rcases hc.2 with rfl | rfl <;> decide

/-- FROM and JOIN are words. -/
lemma isWord_of_isSource (hw : IsSource w) : w ≠ [] ∧ ∀ c ∈ w, isWordChar c = true := by
  have hword : ∀ capitals ⊆ "FROMJOIN".toList, ∀ w, Spells capitals w →
      ∀ c ∈ w, isWordChar c = true := by
    intro capitals hcapitals w hw c hc
    induction hw with
    | nil => exact absurd hc List.not_mem_nil
    | cons hd _ ih =>
      rw [List.cons_subset] at hcapitals
      rcases List.mem_cons.1 hc with rfl | hc
      · exact isWordChar_of_spells hcapitals.1 hd
      · exact ih hcapitals.2 hc
  rcases hw with hw | hw
  · refine ⟨?_, hword _ (by decide) w hw⟩
    rintro rfl
    exact absurd (List.forall₂_nil_right_iff.1 hw) (by decide)
  · refine ⟨?_, hword _ (by decide) w hw⟩
    rintro rfl
    exact absurd (List.forall₂_nil_right_iff.1 hw) (by decide)

end Keyword

/-! ### Names as they are written -/

/-- A word that may stand in quotes. -/
structure QuotableWord where
  word : Text
  quoted : Bool

namespace QuotableWord

/-- The characters of the word, with its quotes. -/
def text (q : QuotableWord) : Text :=
  if q.quoted then Column.quote :: (q.word ++ [Column.quote]) else q.word

/-- A word has at least one character, and all of them are word characters. -/
def IsWord (q : QuotableWord) : Prop :=
  q.word ≠ [] ∧ ∀ c ∈ q.word, isWordChar c = true

instance : DecidablePred IsWord := fun q =>
  decidable_of_iff (q.word ≠ [] ∧ q.word.all isWordChar = true)
    (and_congr_right fun _ => List.all_eq_true)

/-- What is behind the word itself, where `r` is behind its quotes. -/
def behind (q : QuotableWord) (r : Text) : Text :=
  if q.quoted then Column.quote :: r else r

end QuotableWord

/-- A name as it is written: a word, and possibly another one with a dot in front of it. -/
structure WrittenName where
  schema? : Option QuotableWord
  name : QuotableWord

namespace WrittenName

/-- The characters of the name. -/
def text (n : WrittenName) : Text :=
  match n.schema? with
  | some s => s.text ++ '.' :: n.name.text
  | none => n.name.text

/-- The reference that the name is read as. -/
def reference (n : WrittenName) : Reference :=
  ⟨n.schema?.map QuotableWord.word, n.name.word⟩

/-- A name is made of words. -/
def IsName (n : WrittenName) : Prop :=
  (∀ s ∈ n.schema?, s.IsWord) ∧ n.name.IsWord

instance : DecidablePred IsName :=
  fun n => inferInstanceAs (Decidable ((∀ s ∈ n.schema?, s.IsWord) ∧ n.name.IsWord))

end WrittenName

/-- A text in front of which a name is complete: its first character, if there is one, is no part of
a word, no dot and no quote. -/
def EndsName (r : Text) : Prop :=
  ∀ c ∈ r.head?, isWordChar c = false ∧ c ≠ '.' ∧ c ≠ Column.quote

instance : DecidablePred EndsName := fun r =>
  decidable_of_iff ((r.head?.all fun c => !isWordChar c && c != '.' && c != Column.quote) = true)
    (by simp [EndsName, Option.all_eq_true, and_assoc])

section Name

variable {q : QuotableWord} {n : WrittenName} {r t : Text} {c : Char}

/-- There is no quote to be dropped off a text that starts otherwise. -/
lemma dropQuote_of_head? (hr : ∀ c ∈ r.head?, c ≠ Column.quote) : dropQuote r = r := by
  cases r with
  | nil => rfl
  | cons c r => rw [dropQuote, if_neg (hr c rfl)]

/-- A text in front of which a name is complete is behind a word. -/
lemma EndsName.atWordEnd (hr : EndsName r) : atWordEnd r = true :=
  atWordEnd_iff.2 fun c hc => (hr c hc).1

/-- A quote is no part of a word. -/
lemma atWordEnd_quote (r : Text) : atWordEnd (Column.quote :: r) = true :=
  atWordEnd_cons_iff.2 (by decide)

namespace QuotableWord

/-- The quote in front of a word is dropped. -/
lemma dropQuote_text_append (hq : q.IsWord) (r : Text) :
    dropQuote (q.text ++ r) = q.word ++ q.behind r := by
  unfold text behind
  cases q.quoted with
  | true => simp [dropQuote]
  | false =>
    obtain ⟨c, w, hw⟩ := List.exists_cons_of_ne_nil hq.1
    have hc : isWordChar c = true := hq.2 c (hw ▸ List.mem_cons_self)
    refine dropQuote_of_head? fun d hd => ?_
    simp only [Bool.false_eq_true, if_false, hw, List.cons_append] at hd
    rw [← Option.some.inj hd]
    rintro rfl
    exact absurd hc (by decide)

/-- The word ends where its quotes are, or where what is behind it ends a word. -/
lemma atWordEnd_behind (hr : atWordEnd r = true) : atWordEnd (q.behind r) = true := by
  unfold behind
  cases q.quoted with
  | true => exact atWordEnd_quote r
  | false => exact hr

/-- The quote behind a word is dropped. -/
lemma dropQuote_behind (hr : ∀ c ∈ r.head?, c ≠ Column.quote) : dropQuote (q.behind r) = r := by
  unfold behind
  cases q.quoted with
  | true => rw [if_pos rfl, dropQuote, if_pos rfl]
  | false => exact dropQuote_of_head? hr

/-- A word is read up to its end. -/
lemma read_append (hq : q.IsWord) (hr : Text.atWordEnd r = true) :
    Text.atWordEnd (q.word ++ q.behind r) = false ∧ Text.word (q.word ++ q.behind r) = q.word ∧
      afterWord (q.word ++ q.behind r) = q.behind r := by
  refine ⟨atWordEnd_eq_false_iff.2 ?_, word_append hq.2 (atWordEnd_behind hr),
    afterWord_append hq.2 (atWordEnd_behind hr)⟩
  obtain ⟨c, w, hw⟩ := List.exists_cons_of_ne_nil hq.1
  exact ⟨c, by rw [hw]; rfl, hq.2 c (hw ▸ List.mem_cons_self)⟩

end QuotableWord

/-- Where a name is complete, no dot follows it. -/
lemma takeQualified?_behind (hr : EndsName r) : takeQualified? (q.behind r) = none := by
  unfold takeQualified?
  rw [QuotableWord.dropQuote_behind fun c hc => (hr c hc).2.2]
  cases r with
  | nil => rfl
  | cons c r =>
    split
    · next h => exact absurd (List.cons.inj h).1 (hr c rfl).2.1
    · rfl

/-- A dot and a word behind another word are taken. -/
lemma takeQualified?_behind_dot {p : QuotableWord} (hp : p.IsWord) (hr : EndsName r) :
    takeQualified? (q.behind ('.' :: (p.text ++ r))) = some (p.word, p.behind r) := by
  obtain ⟨hword, hread, hafter⟩ := p.read_append hp hr.atWordEnd
  unfold takeQualified?
  rw [QuotableWord.dropQuote_behind (by simp [Column.quote])]
  simp only [p.dropQuote_text_append hp, hword, hread, hafter, Bool.false_eq_true, if_false]

/-- A name is read as it is written, up to where it is complete. -/
lemma takeName?_append (hn : n.IsName) (hr : EndsName r) :
    takeName? (n.text ++ r) = some (n.reference, r) := by
  obtain ⟨schema?, name⟩ := n
  obtain ⟨hschema, hname⟩ := hn
  have hquote : ∀ c ∈ r.head?, c ≠ Column.quote := fun c hc => (hr c hc).2.2
  unfold takeName? WrittenName.text WrittenName.reference
  cases schema? with
  | none =>
    obtain ⟨hword, hread, hafter⟩ := QuotableWord.read_append hname hr.atWordEnd
    simp only [QuotableWord.dropQuote_text_append hname, hword, hread, hafter, Bool.false_eq_true,
      if_false, takeQualified?_behind hr, QuotableWord.dropQuote_behind hquote, Option.map_none]
  | some s =>
    have hs : s.IsWord := hschema s rfl
    have hdot : Text.atWordEnd ('.' :: (name.text ++ r)) = true :=
      atWordEnd_cons_iff.2 (by decide)
    obtain ⟨hword, hread, hafter⟩ := QuotableWord.read_append hs hdot
    simp only [List.append_assoc, List.cons_append, QuotableWord.dropQuote_text_append hs, hword,
      hread, hafter, Bool.false_eq_true, if_false, takeQualified?_behind_dot hname hr,
      QuotableWord.dropQuote_behind hquote, Option.map_some]

/-- A name starts visibly. -/
lemma isBlank_head?_text_append (hn : n.IsName) (r : Text) :
    ∀ c ∈ (n.text ++ r).head?, isBlank c = false := by
  have hquotable : ∀ (q : QuotableWord) (r : Text), q.IsWord →
      ∀ c ∈ (q.text ++ r).head?, isBlank c = false := by
    intro q r hq c hc
    obtain ⟨d, w, hw⟩ := List.exists_cons_of_ne_nil hq.1
    have hd := isBlank_eq_false_of_isWordChar (hq.2 d (hw ▸ List.mem_cons_self))
    unfold QuotableWord.text at hc
    rw [hw] at hc
    split at hc
    · rw [← Option.some.inj hc]
      decide
    · rwa [← Option.some.inj hc]
  unfold WrittenName.text
  cases hschema : n.schema? with
  | none => exact hquotable n.name r hn.2
  | some s =>
    rw [List.append_assoc]
    exact hquotable s _ (hn.1 s hschema)

/-- A keyword, blanks and a name are read as a reference, up to where the name is complete. -/
lemma take?_append {w blanks : Text} (hw : IsSource w) (hne : blanks ≠ [])
    (hblanks : ∀ c ∈ blanks, isBlank c = true) (hn : n.IsName) (hr : EndsName r) :
    take? (w ++ (blanks ++ (n.text ++ r))) = some (n.reference, r) := by
  obtain ⟨c, bs, rfl⟩ := List.exists_cons_of_ne_nil hne
  rw [List.forall_mem_cons] at hblanks
  have hsource : takeSource? (w ++ (c :: bs ++ (n.text ++ r))) =
      some (c :: (bs ++ (n.text ++ r))) := takeSource?_eq_some_iff.2 ⟨w, hw, rfl⟩
  have htrim : trimLeft (bs ++ (n.text ++ r)) = n.text ++ r :=
    dropWhile_run_append hblanks.2 (isBlank_head?_text_append hn r)
  unfold take?
  rw [hsource]
  simp only [hblanks.1, if_true, htrim, takeName?_append hn hr]

end Name

/-! ### Passing over text -/

/-- Whether a word is in progress behind a text, given whether one is in front of it. -/
def endsInWord (b : Bool) (t : Text) : Bool :=
  match t.getLast? with
  | some c => isWordChar c
  | none => b

section Scan

variable {b : Bool} {f t rest : Text} {c : Char} {r : Reference}

/-- Behind its first character a text goes on with what that leaves. -/
lemma endsInWord_cons (b : Bool) (c : Char) (t : Text) :
    endsInWord b (c :: t) = endsInWord (isWordChar c) t := by
  unfold endsInWord
  rw [List.getLast?_cons]
  cases t.getLast? <;> rfl

/-- Behind one text another one goes on with what that leaves. -/
lemma endsInWord_append (b : Bool) (s t : Text) :
    endsInWord b (s ++ t) = endsInWord (endsInWord b s) t := by
  unfold endsInWord
  rw [List.getLast?_append]
  cases t.getLast? <;> rfl

/-- A text ends outside of words where its last character, if there is one, is no word character. -/
lemma endsInWord_eq_false_iff :
    endsInWord false t = false ↔ ∀ c ∈ t.getLast?, isWordChar c = false := by
  unfold endsInWord
  cases t.getLast? <;> simp

/-- A reference does not start with anything but a word. -/
lemma take?_eq_none_of_atWordEnd (ht : atWordEnd t = true) : take? t = none := by
  have hnone : takeSource? t = none := by
    rw [Option.eq_none_iff_forall_ne_some]
    intro r hr
    obtain ⟨w, hw, rfl⟩ := takeSource?_eq_some_iff.1 hr
    obtain ⟨hne, hword⟩ := isWord_of_isSource hw
    obtain ⟨c, w, rfl⟩ := List.exists_cons_of_ne_nil hne
    have hc := atWordEnd_iff.1 ht c rfl
    rw [hword c List.mem_cons_self] at hc
    exact absurd hc (by decide)
  unfold take?
  rw [hnone]

/-- There is nothing to be found in nothing. -/
@[simp]
lemma scan_nil (b : Bool) : scan b [] = [] := by
  rw [scan]
  have hnone : (if b then none else take? []) = none := by
    cases b with
    | true => rfl
    | false => exact take?_eq_none_of_atWordEnd (t := []) rfl
  split
  · next h => exact absurd (hnone.symm.trans h).symm (Option.some_ne_none _)
  · rfl

/-- A reference is found where one starts, outside of words. -/
lemma scan_of_take? (h : take? t = some (r, rest)) : scan false t = r :: scan false rest := by
  rw [scan]
  split
  · next r' rest' h' =>
    have hsame : (r', rest') = (r, rest) := Option.some.inj (h'.symm.trans h)
    rw [(Prod.mk.inj hsame).1, (Prod.mk.inj hsame).2]
  · next h' => exact absurd (h'.symm.trans h).symm (Option.some_ne_none _)

/-- Otherwise the search goes on behind the next character. -/
lemma scan_cons (h : b = false → take? (c :: t) = none) :
    scan b (c :: t) = scan (isWordChar c) t := by
  have hnone : (if b then none else take? (c :: t)) = none := by
    cases b with
    | true => rfl
    | false => exact h rfl
  conv_lhs => rw [scan]
  split
  · next h' => exact absurd (hnone.symm.trans h').symm (Option.some_ne_none _)
  · rfl

/-- A stretch in which no reference starts outside of words is passed over. -/
lemma scan_append_of_forall
    (h : ∀ v u, f = v ++ u → u ≠ [] → endsInWord b v = false → take? (u ++ t) = none) :
    scan b (f ++ t) = scan (endsInWord b f) t := by
  induction f generalizing b with
  | nil => rfl
  | cons c f ih =>
    have hfirst : b = false → take? (c :: (f ++ t)) = none := by
      intro hb
      exact h [] (c :: f) rfl (List.cons_ne_nil c f) hb
    rw [List.cons_append, scan_cons hfirst, endsInWord_cons]
    refine ih fun v u hsplit hu hv => h (c :: v) u (by rw [hsplit]; rfl) hu ?_
    rwa [endsInWord_cons]

end Scan

/-! ### The objects that are meant -/

/-- Whether a reference means an object: one of this database, known by this name. -/
def Means (db : Text) (known? : Text → Option Text) (r : Reference) (x : Text) : Prop :=
  (∀ s ∈ r.schema?, s.lower = db.lower) ∧ known? r.name.lower = some x

/-- What a name means as it is written. -/
lemma means_reference_iff {db : Text} {known? : Text → Option Text} {n : WrittenName} {x : Text} :
    n.reference.Means db known? x ↔
      (∀ s ∈ n.schema?, s.word.lower = db.lower) ∧ known? n.name.word.lower = some x := by
  unfold Means WrittenName.reference
  cases n.schema? <;> simp

end Reference

open Reference

section Objects

variable {db t x : Text} {known? : Text → Option Text}

/-- The objects that a text reads from are those that its references mean. -/
lemma mem_objectsRead_iff :
    x ∈ objectsRead db known? t ↔ ∃ r ∈ scan false t, r.Means db known? x := by
  unfold objectsRead Means
  rw [List.mem_eraseDups, List.mem_filterMap]
  refine exists_congr fun r => and_congr_right fun _ => ?_
  rw [Option.ite_none_right_eq_some, Option.all_eq_true]
  simp only [beq_iff_eq, Option.mem_def]

/-- Each of them is listed once. -/
lemma nodup_objectsRead : (objectsRead db known? t).Nodup :=
  nodup_eraseDups _

end Objects

end DdlDump
