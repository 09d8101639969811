import DdlDump.Proofs.View.Arrangement
import DdlDump.Proofs.View.Split

/-!
# Lists behind FROM

Behind FROM there may be several names with commas between them. Only the first of them is read: the
others do not stand directly behind a keyword, and no reference starts with a name or with a comma
(`scan_others`). Whether a view is put behind all objects of such a list is therefore up to the text
in front of FROM and the first name (`FromList.mem_objectsRead_text`).
-/

namespace DdlDump

open Text

/-- The word at the end of a text, but for blanks behind it. -/
def lastWord (t : Text) : Text :=
  ((t.reverse.dropWhile isBlank).takeWhile isWordChar).reverse

namespace Reference

/-! ### Stretches without references -/

/-- Whether a text starts with a blank that a name follows. -/
def opensName : Text → Bool
  | [] => false
  | c :: t => isBlank c && (takeName? (trimLeft t)).isSome

/-- Whether no reference starts in a stretch of text in front of another text. -/
def IsPassed (f t : Text) : Prop :=
  ∀ b, scan b (f ++ t) = scan (endsInWord b f) t

section Passed

variable {b : Bool} {f g t w : Text} {q : QuotableWord} {n : WrittenName}

/-- Two stretches without references make one. -/
lemma IsPassed.append (hf : IsPassed f (g ++ t)) (hg : IsPassed g t) : IsPassed (f ++ g) t := by
  intro b
  rw [List.append_assoc, hf b, hg, endsInWord_append]

/-- No reference starts outside of words. -/
lemma isPassed_of_forall (hf : ∀ c ∈ f, isWordChar c = false) : IsPassed f t := by
  intro b
  apply scan_append_of_forall
  rintro v u rfl hu -
  obtain ⟨c, u, rfl⟩ := List.exists_cons_of_ne_nil hu
  exact take?_eq_none_of_atWordEnd (atWordEnd_cons_iff.2 (hf c (by simp)))

/-- What a keyword leaves of a word and the text behind it is that text or goes on with the word. -/
lemma eq_or_goesOn_of_takeSource? {s : Text} (hw : ∀ c ∈ w, isWordChar c = true)
    (ht : atWordEnd t = true) (h : takeSource? (w ++ t) = some s) :
    s = t ∨ ∃ c ∈ s.head?, isBlank c = false := by
  obtain ⟨k, hk, hsplit⟩ := takeSource?_eq_some_iff.1 h
  rcases List.append_eq_append_iff.1 hsplit with ⟨a, rfl, ha⟩ | ⟨a, rfl, rfl⟩
  · cases a with
    | nil => exact Or.inl ha.symm
    | cons c a =>
      -- the keyword would go on behind the end of the word
      have hc := atWordEnd_iff.1 ht c (by rw [ha]; rfl)
      rw [(isWord_of_isSource hk).2 c (by simp)] at hc
      exact absurd hc (by decide)
  · cases a with
    | nil => exact Or.inl rfl
    | cons c a => exact Or.inr ⟨c, rfl, isBlank_eq_false_of_isWordChar (hw c (by simp))⟩

/-- No reference starts with a word behind which there is no name. -/
lemma take?_word_append (hw : ∀ c ∈ w, isWordChar c = true) (ht : atWordEnd t = true)
    (hname : opensName t = false) : take? (w ++ t) = none := by
  unfold take?
  cases htake : takeSource? (w ++ t) with
  | none => rfl
  | some s =>
    cases s with
    | nil => rfl
    | cons c s =>
      rcases eq_or_goesOn_of_takeSource? hw ht htake with rfl | ⟨d, hd, hblank⟩
      · unfold opensName at hname
        cases hc : isBlank c with
        | false => simp [hc]
        | true => simpa [hc] using hname
      · rw [← Option.some.inj hd] at hblank
        simp [hblank]

/-- So such a word is passed over. -/
lemma isPassed_word (hw : ∀ c ∈ w, isWordChar c = true) (ht : atWordEnd t = true)
    (hname : opensName t = false) : IsPassed w t := by
  intro b
  apply scan_append_of_forall
  rintro v u rfl - -
  exact take?_word_append (fun c hc => hw c (List.mem_append_right v hc)) ht hname

/-- A word that may stand in quotes is passed over as well. -/
lemma isPassed_quotable (hq : q.IsWord) (ht : atWordEnd t = true) (hname : opensName t = false) :
    IsPassed q.text t := by
  have hquote : ∀ {r}, IsPassed [Column.quote] r :=
    isPassed_of_forall (List.forall_mem_singleton.2 (by decide))
  unfold QuotableWord.text
  split
  · have hword : IsPassed q.word ([Column.quote] ++ t) :=
      isPassed_word hq.2 (atWordEnd_quote t) rfl
    exact IsPassed.append (f := [Column.quote]) hquote (hword.append hquote)
  · exact isPassed_word hq.2 ht hname

/-- And so is a name. -/
lemma isPassed_name (hn : n.IsName) (ht : atWordEnd t = true) (hname : opensName t = false) :
    IsPassed n.text t := by
  have hlast : IsPassed n.name.text t := isPassed_quotable hn.2 ht hname
  have hdot : IsPassed ['.'] (n.name.text ++ t) :=
    isPassed_of_forall (List.forall_mem_singleton.2 (by decide))
  unfold WrittenName.text
  cases hschema : n.schema? with
  | none => exact hlast
  | some s =>
    have hfirst : IsPassed s.text (('.' :: n.name.text) ++ t) :=
      isPassed_quotable (hn.1 s hschema) (atWordEnd_cons_iff.2 (by decide)) rfl
    exact hfirst.append (IsPassed.append (f := ['.']) hdot hlast)

end Passed

/-! ### The names behind the first -/

/-- A name with the comma in front of it and the blanks on both sides of that. -/
structure ListedName where
  before : Text
  behind : Text
  name : WrittenName

namespace ListedName

/-- The characters from behind the name in front up to the end of this one. -/
def text (l : ListedName) : Text :=
  l.before ++ ',' :: l.behind ++ l.name.text

/-- What makes a text such a name. -/
structure IsListed (l : ListedName) : Prop where
  before : ∀ c ∈ l.before, isBlank c = true
  behind : ∀ c ∈ l.behind, isBlank c = true
  name : l.name.IsName

instance : DecidablePred IsListed := fun l =>
  decidable_of_iff (l.before.all isBlank = true ∧ l.behind.all isBlank = true ∧ l.name.IsName)
    ⟨fun ⟨hbefore, hbehind, hname⟩ =>
      ⟨List.all_eq_true.1 hbefore, List.all_eq_true.1 hbehind, hname⟩,
      fun h => ⟨List.all_eq_true.2 h.before, List.all_eq_true.2 h.behind, h.name⟩⟩

end ListedName

section Listed

variable {l : ListedName} {ls : List ListedName} {t : Text}

/-- What is in front of the name is no part of a word. -/
lemma ListedName.IsListed.isWordChar_eq_false (hl : l.IsListed) :
    ∀ c ∈ l.before ++ ',' :: l.behind, isWordChar c = false := by
  intro c hc
  rcases List.mem_append.1 hc with hc | hc
  · exact isWordChar_eq_false_of_isBlank (hl.before c hc)
  · rcases List.mem_cons.1 hc with rfl | hc
    · decide
    · exact isWordChar_eq_false_of_isBlank (hl.behind c hc)

/-- In front of the comma a name is complete, and none follows behind blanks. -/
lemma start_listed (hl : l.IsListed) (t : Text) :
    EndsName (l.text ++ t) ∧ opensName (l.text ++ t) = false := by
  obtain ⟨before, behind, name⟩ := l
  have hcomma : ∀ r, takeName? (',' :: r) = none := fun r => rfl
  unfold EndsName ListedName.text
  simp only [List.append_assoc, List.cons_append]
  cases before with
  | nil => exact ⟨by simp; decide, rfl⟩
  | cons c before =>
    obtain ⟨hc, hbefore⟩ := List.forall_mem_cons.1 hl.before
    have htrim : ∀ r, trimLeft (before ++ ',' :: r) = ',' :: r := fun r =>
      dropWhile_run_append hbefore (by simp; decide)
    constructor
    · intro d hd
      rw [← Option.some.inj hd]
      exact ⟨isWordChar_eq_false_of_isBlank hc, ne_of_isBlank hc rfl, ne_of_isBlank hc rfl⟩
    · rw [List.cons_append, opensName, htrim, hcomma, Option.isSome_none, Bool.and_false]

/-- The same is true of several names, and of none. -/
lemma start_others (hls : ∀ l ∈ ls, l.IsListed) :
    EndsName (ls.flatMap ListedName.text) ∧ opensName (ls.flatMap ListedName.text) = false := by
  cases ls with
  | nil => exact ⟨by simp [EndsName], rfl⟩
  | cons l ls => exact start_listed (hls l List.mem_cons_self) _

/-- No reference starts behind the first name of a list. -/
lemma scan_others {b : Bool} (hls : ∀ l ∈ ls, l.IsListed) :
    scan b (ls.flatMap ListedName.text) = [] := by
  induction ls generalizing b with
  | nil => exact scan_nil b
  | cons l ls ih =>
    rw [List.forall_mem_cons] at hls
    obtain ⟨hends, hopens⟩ := start_others hls.2
    have hname : IsPassed l.name.text (ls.flatMap ListedName.text) :=
      isPassed_name hls.1.name hends.atWordEnd hopens
    have hpassed : IsPassed l.text (ls.flatMap ListedName.text) :=
      (isPassed_of_forall hls.1.isWordChar_eq_false).append hname
    rw [List.flatMap_cons, hpassed b, ih hls.2]

end Listed

/-! ### The text in front of FROM -/

section LastWord

variable {v w blanks t : Text}

/-- The word at the end of a text is found behind a text that ends outside of words. -/
lemma lastWord_append (hv : endsInWord false v = false) (hw : ∀ c ∈ w, isWordChar c = true)
    (hne : w ≠ []) (hblanks : ∀ c ∈ blanks, isBlank c = true) :
    lastWord (v ++ (w ++ blanks)) = w := by
  unfold lastWord
  have hvisible : ∀ c ∈ (w.reverse ++ v.reverse).head?, isBlank c = false := by
    rw [List.head?_append_of_ne_nil _ (List.reverse_ne_nil_iff.2 hne), List.head?_reverse]
    intro c hc
    exact isBlank_eq_false_of_isWordChar (hw c (List.mem_of_getLast? hc))
  have hfront : ∀ c ∈ v.reverse.head?, isWordChar c = false := by
    rw [List.head?_reverse]
    exact endsInWord_eq_false_iff.1 hv
  rw [List.reverse_append, List.reverse_append, List.append_assoc,
    dropWhile_run_append (by simpa using hblanks) hvisible,
    takeWhile_run_append (by simpa using hw) hfront, List.reverse_reverse]

/-- No keyword is without its name at the end of a text whose last word is none. -/
lemma isClosed_of_lastWord (h : ¬ IsSource (lastWord t)) : IsClosed false t := by
  rintro v w blanks rfl hw hblanks
  by_contra hv
  rw [Bool.not_eq_true] at hv
  obtain ⟨hne, hword⟩ := isWord_of_isSource hw
  rw [lastWord_append hv hword hne hblanks] at h
  exact h hw

end LastWord

/-- Whether a name that is written names an object of a database, in whatever letters. -/
def WrittenName.Names (n : WrittenName) (db object : Text) : Prop :=
  (∀ s ∈ n.schema?, s.word.lower = db.lower) ∧ n.name.word.lower = object.lower

instance (n : WrittenName) (db object : Text) : Decidable (n.Names db object) :=
  inferInstanceAs (Decidable ((∀ s ∈ n.schema?, s.word.lower = db.lower) ∧ _))

end Reference

open Reference Definition

/-! ### Lists of names behind FROM -/

/-- A text that ends in FROM and the names of objects, with commas between them. -/
structure FromList where
  select : Text
  gap : Char
  keyword : Text
  blanks : Text
  first : WrittenName
  others : List ListedName

namespace FromList

/-- The characters of the text. -/
def text (l : FromList) : Text :=
  l.select ++ l.gap ::
    (l.keyword ++ (l.blanks ++ (l.first.text ++ l.others.flatMap ListedName.text)))

/-- The names behind FROM. -/
def names (l : FromList) : List WrittenName :=
  l.first :: l.others.map ListedName.name

/-- What makes a text such a list. -/
structure IsFromList (l : FromList) : Prop where
  /-- The text in front of FROM does not end in another keyword that is without its name. -/
  select : ¬ IsSource (lastWord l.select)
  gap : isBlank l.gap = true
  keyword : Spells "FROM".toList l.keyword
  separated : l.blanks ≠ []
  blanks : ∀ c ∈ l.blanks, isBlank c = true
  first : l.first.IsName
  others : ∀ o ∈ l.others, o.IsListed

instance : DecidablePred IsFromList := fun l =>
  decidable_of_iff (¬ IsSource (lastWord l.select) ∧ isBlank l.gap = true ∧
      Spells "FROM".toList l.keyword ∧ l.blanks ≠ [] ∧ l.blanks.all isBlank = true ∧
      l.first.IsName ∧ ∀ o ∈ l.others, o.IsListed)
    ⟨fun ⟨hselect, hgap, hkeyword, hne, hblanks, hfirst, hothers⟩ =>
      ⟨hselect, hgap, hkeyword, hne, List.all_eq_true.1 hblanks, hfirst, hothers⟩,
      fun h => ⟨h.select, h.gap, h.keyword, h.separated, List.all_eq_true.2 h.blanks, h.first,
        h.others⟩⟩

variable {l : FromList}

/-- The references of such a text are those in front of FROM and the first name behind it. -/
lemma scan_text (hl : l.IsFromList) :
    scan false l.text = scan false l.select ++ [l.first.reference] := by
  obtain ⟨hends, -⟩ := start_others hl.others
  have hfirst := take?_append (Or.inl hl.keyword) hl.separated hl.blanks hl.first hends
  unfold text
  rw [scan_append_blank hl.gap (isClosed_of_lastWord hl.select), scan_of_take? hfirst,
    scan_others hl.others]

/-- The objects that such a text reads from are those that it reads from in front of FROM and the
one that the first name behind it means. So all objects of the list are read just when the other
names mean none but these, and these are what a view with such a text is put behind. -/
theorem mem_objectsRead_text (hl : l.IsFromList) (db : Text) :
    (∀ (known? : Text → Option Text) (x : Text), x ∈ objectsRead db known? l.text ↔
      x ∈ objectsRead db known? l.select ∨ l.first.reference.Means db known? x) ∧
    (∀ known? : Text → Option Text,
      (∀ n ∈ l.names, ∀ x, n.reference.Means db known? x → x ∈ objectsRead db known? l.text) ↔
      ∀ o ∈ l.others, ∀ x, o.name.reference.Means db known? x →
        x ∈ objectsRead db known? l.select ∨ l.first.reference.Means db known? x) ∧
    ∀ levels, Dependent.IsTopological levels →
      ∀ ds : List Definition, (ds.map fun d => d.name.lower).Nodup → ¬ HasCircle (sources db ds) →
      ∀ d ∈ ds, d.isView = true → d.ddl = l.text → ∀ e ∈ ds, e ≠ d →
        e.name ∈ objectsRead db (fun key => (index ds).lookup key) l.select ∨
          l.first.Names db e.name →
        (Session.arrangeBy levels db ds).value.idxOf e <
          (Session.arrangeBy levels db ds).value.idxOf d := by
  have hread : ∀ (known? : Text → Option Text) (x : Text), x ∈ objectsRead db known? l.text ↔
      x ∈ objectsRead db known? l.select ∨ l.first.reference.Means db known? x := by
    intro known? x
    simp only [mem_objectsRead_iff, scan_text hl, List.mem_append, List.mem_singleton, or_and_right,
      exists_or, exists_eq_left]
  refine ⟨hread, fun known? => ?_, ?_⟩
  · unfold names
    simp only [hread, List.forall_mem_cons, List.forall_mem_map]
    exact and_iff_right fun x hx => Or.inr hx
  · intro levels hlevels ds hlower hcircle d hd hview hddl e he hne hfound
    have hnames : (ds.map Definition.name).Nodup := by
      refine List.Nodup.of_map Text.lower ?_
      rwa [List.map_map]
    refine Session.idxOf_lt_of_mem_sources hlevels hnames hcircle hd he ?_
    rw [sources_of_mem db hnames hd, if_pos hview, hddl, List.mem_filter, hread, bne_iff_ne]
    refine ⟨hfound.imp_right fun hfirst => ?_, fun hsame => ?_⟩
    · rw [means_reference_iff, hfirst.2]
      exact ⟨hfirst.1, lookup_index hlower he⟩
    · exact hne (List.inj_on_of_nodup_map hnames he hd hsame)

/-- A view whose list names two objects, of which it reads the second in front of FROM as well. -/
def readInFront : FromList where
  select := "CREATE VIEW v AS SELECT (SELECT MAX(x) FROM b) valid_from".toList
  gap := '\n'
  keyword := "From".toList
  blanks := " ".toList
  first := ⟨some ⟨"Shop".toList, true⟩, ⟨"A".toList, false⟩⟩
  others := [⟨" ".toList, "\n".toList, ⟨none, ⟨"b".toList, true⟩⟩⟩]

/-- Both are read, and the view is put behind both. -/
theorem mem_objectsRead_text_readInFront :
    let db := "shop".toList
    let v : Definition := ⟨"v".toList, readInFront.text⟩
    let a : Definition := ⟨"a".toList, "CREATE VIEW a AS SELECT * FROM b".toList⟩
    let b : Definition := ⟨"B".toList, "CREATE TABLE B(x int)".toList⟩
    let ds := [v, a, b]
    let known? : Text → Option Text := fun key => (index ds).lookup key
    let arranged := (Session.arrangeBy Dependent.levels db ds).value
    readInFront.IsFromList ∧
    (∀ n ∈ readInFront.names, ∀ x, n.reference.Means db known? x →
      x ∈ objectsRead db known? readInFront.text) ∧
    (ds.map fun d => d.name.lower).Nodup ∧ ¬ HasCircle (sources db ds) ∧ v.isView = true ∧
    readInFront.first.Names db a.name ∧ arranged.idxOf a < arranged.idxOf v ∧
    b.name ∈ objectsRead db known? readInFront.select ∧ arranged.idxOf b < arranged.idxOf v := by
  intro db v a b ds known? arranged
  have hl : readInFront.IsFromList := by decide +kernel
  have hlower : (ds.map fun d => d.name.lower).Nodup := by decide +kernel
  have hview : v.isView = true := by decide +kernel
  have hfirst : readInFront.first.Names db a.name := by decide +kernel
  have hsecond : b.name ∈ objectsRead db known? readInFront.select := by decide +kernel
  have hcircle : ¬ HasCircle (sources db ds) :=
    not_hasCircle_sources (fun t => if t = v.name then 2 else if t = a.name then 1 else 0)
      (by decide +kernel)
  have hothers : ∀ o ∈ readInFront.others, o.name.name.word.lower = b.name.lower := by
    decide +kernel
  have hknown : known? b.name.lower = some b.name := lookup_index hlower (by simp [ds])
  obtain ⟨-, hall, horder⟩ := mem_objectsRead_text hl db
  have hbehind := horder _ Dependent.isTopological_levels ds hlower hcircle v (by simp [ds]) hview
    rfl
  refine ⟨hl, (hall known?).2 ?_, hlower, hcircle, hview, hfirst, ?_, hsecond, ?_⟩
  · intro o ho x hx
    have hfound := (means_reference_iff.1 hx).2
    rw [hothers o ho, hknown] at hfound
    rw [← Option.some.inj hfound]
    exact Or.inl hsecond
  · exact hbehind a (by simp [ds]) (by decide) (Or.inr hfirst)
  · exact hbehind b (by simp [ds]) (by decide) (Or.inl hsecond)

/-- A view whose list names a table and another view, which is nowhere else to be found. -/
def readsSecond : FromList where
  select := "CREATE VIEW v AS SELECT *".toList
  gap := ' '
  keyword := "FROM".toList
  blanks := " ".toList
  first := ⟨none, ⟨"t".toList, false⟩⟩
  others := [⟨[], " ".toList, ⟨none, ⟨"w".toList, false⟩⟩⟩]

/-- The other view is not read, and the one that names it is put in front of it. -/
theorem text_second_not_read :
    let db := "shop".toList
    let ds : List Definition := [⟨"v".toList, readsSecond.text⟩,
      ⟨"w".toList, "CREATE VIEW w AS SELECT * FROM t".toList⟩,
      ⟨"t".toList, "CREATE TABLE t(x int)".toList⟩]
    let known? : Text → Option Text := fun key => (index ds).lookup key
    readsSecond.IsFromList ∧ readsSecond.text = "CREATE VIEW v AS SELECT * FROM t, w".toList ∧
    (ds.map fun d => d.name.lower).Nodup ∧ ¬ HasCircle (sources db ds) ∧
    (∀ n ∈ readsSecond.names, ∃ d ∈ ds, n.Names db d.name) ∧
    (∃ n ∈ readsSecond.names, n.Names db "w".toList) ∧
    "w".toList ∉ objectsRead db known? readsSecond.text ∧
    (Session.arrangeBy Dependent.levels db ds).value.map Definition.name =
      ["t", "v", "w"].map String.toList := by
  intro db ds known?
  have hcircle : ¬ HasCircle (sources db ds) :=
    not_hasCircle_sources (fun t => if t = "t".toList then 0 else 1) (by decide +kernel)
  refine ⟨by decide +kernel, by decide, by decide +kernel, hcircle, ?_, ?_, ?_, ?_⟩
  · decide +kernel
  · decide +kernel
  · decide +kernel
  · decide +kernel

end FromList

end DdlDump
