import DdlDump.Proofs.Lists
import DdlDump.Proofs.Text.Trim
import DdlDump.Proofs.Text.Word
import DdlDump.Settings
import Mathlib.Data.List.Induction

/-!
# Settings that are written and read

Settings are written as keys with their values, with separators of either kind between them. Reading
what was written gives the pairs back (`scan_write`), and of pairs with the same key the place of
the first and the value of the last one (`entries_parse`, `dictionary`). Conversely, whatever text
is read, it is read as settings that could have been written (`isEntry_of_mem_scan`), each key held
once, so that a bag of settings is not changed when it is written and read again.

Where the reader is in a text matters only between settings: a key is told by the equals sign behind
its last character, and a value ends at a separator, which belongs to no key.
-/

namespace DdlDump

open Text

namespace Settings

/-! ### What is written -/

/-- What makes a key and a value a setting. -/
structure IsEntry (e : Text × Text) : Prop where
  key_ne_nil : e.1 ≠ []
  key : ∀ c ∈ e.1, isWordChar c = true
  no_semicolon : ';' ∉ e.2
  no_ampersand : '&' ∉ e.2
  trimmed : e.2.trim = e.2

instance : DecidablePred IsEntry := fun e =>
  decidable_of_iff (e.1 ≠ [] ∧ e.1.all isWordChar = true ∧ ';' ∉ e.2 ∧ '&' ∉ e.2 ∧ e.2.trim = e.2)
    ⟨fun ⟨hne, hkey, hsemicolon, hampersand, htrim⟩ =>
        ⟨hne, List.all_eq_true.1 hkey, hsemicolon, hampersand, htrim⟩,
      fun h => ⟨h.key_ne_nil, List.all_eq_true.2 h.key, h.no_semicolon, h.no_ampersand, h.trimmed⟩⟩

/-- A setting as it is written. -/
def writeEntry (e : Text × Text) : Text :=
  e.1 ++ '=' :: e.2

/-- Settings one after the other, with the given separators between them. -/
def write (separator : Nat → Text) (es : List (Text × Text)) : Text :=
  Text.joinWith separator (es.map writeEntry)

/-- The value that comes last for a key. -/
def lastValue (es : List (Text × Text)) (key : Text) : Text :=
  (es.reverse.lookup key).getD []

/-- Each key at the place where it first comes up, with the value that comes last for it. -/
def dictionary (es : List (Text × Text)) : List (Text × Text) :=
  (es.map Prod.fst).eraseDups.map fun key => (key, lastValue es key)

/-! ### Keys that come up again -/

section Dictionary

variable {es : List (Text × Text)}

/-- A later setting decides on the value of its key and of no other. -/
lemma lastValue_concat (es : List (Text × Text)) (e : Text × Text) (key : Text) :
    lastValue (es ++ [e]) key = if key = e.1 then e.2 else lastValue es key := by
  unfold lastValue
  rw [List.reverse_concat, List.lookup_cons]
  split
  · next h => simp [beq_iff_eq.1 h]
  · next h => simp [beq_eq_false_iff_ne.1 h]

/-- A value is replaced where its key stands, or put at the end. -/
lemma setEntry_map {keys : List Text} (hkeys : keys.Nodup) (f : Text → Text) (key value : Text) :
    setEntry key value (keys.map fun k => (k, f k)) =
      (if key ∈ keys then keys else keys ++ [key]).map fun k =>
        (k, if k = key then value else f k) := by
  induction keys with
  | nil => simp [setEntry]
  | cons k keys ih =>
    rw [List.nodup_cons] at hkeys
    rw [List.map_cons, setEntry]
    by_cases hk : k = key
    · subst hk
      have hothers : ∀ k' ∈ keys, (k', f k') = (k', if k' = k then value else f k') := by
        intro k' hk'
        rw [if_neg (ne_of_mem_of_not_mem hk' hkeys.1)]
      rw [if_pos rfl, if_pos List.mem_cons_self, List.map_cons, if_pos rfl,
        List.map_congr_left hothers]
    · rw [if_neg hk, ih hkeys.2]
      by_cases hmem : key ∈ keys
      · rw [if_pos hmem, if_pos (List.mem_cons_of_mem k hmem), List.map_cons, if_neg hk]
      · have hmem' : key ∉ k :: keys := by simp [hmem, Ne.symm hk]
        rw [if_neg hmem, if_neg hmem', List.cons_append, List.map_cons, if_neg hk]

/-- One more setting is set in the dictionary of those before it. -/
lemma dictionary_concat (es : List (Text × Text)) (e : Text × Text) :
    dictionary (es ++ [e]) = setEntry e.1 e.2 (dictionary es) := by
  unfold dictionary
  rw [setEntry_map (nodup_eraseDups _), List.map_append, List.map_singleton, eraseDups_concat]
  simp only [lastValue_concat, List.mem_eraseDups]

/-- Settings are held as their dictionary. -/
lemma entries_parse (t : Text) : (parse t).entries = dictionary (scan t) := by
  have hset : ∀ es : List (Text × Text),
      (es.foldl (fun s e => s.set e.1 e.2) empty).entries = dictionary es := by
    intro es
    induction es using List.reverseRecOn with
    | nil => rfl
    | append_singleton es e ih =>
      rw [List.foldl_append, dictionary_concat, ← ih]
      rfl
  exact hset (scan t)

/-- A dictionary holds every key once. -/
lemma nodup_dictionary (es : List (Text × Text)) : ((dictionary es).map Prod.fst).Nodup := by
  have hkeys : (dictionary es).map Prod.fst = (es.map Prod.fst).eraseDups := by
    unfold dictionary
    rw [List.map_map]
    exact List.map_id _
  rw [hkeys]
  exact nodup_eraseDups _

/-- The value that comes last for a key has come for it. -/
lemma mem_of_lastValue {key : Text} (hkey : key ∈ es.map Prod.fst) :
    (key, lastValue es key) ∈ es := by
  induction es using List.reverseRecOn with
  | nil => exact absurd hkey List.not_mem_nil
  | append_singleton es e ih =>
    rw [lastValue_concat, List.mem_append, List.mem_singleton]
    by_cases h : key = e.1
    · subst h
      exact Or.inr (by rw [if_pos rfl])
    · rw [if_neg h]
      refine Or.inl (ih ?_)
      simpa [h] using hkey

/-- A dictionary holds nothing that has not come up. -/
lemma mem_of_mem_dictionary {e : Text × Text} (he : e ∈ dictionary es) : e ∈ es := by
  obtain ⟨key, hkey, rfl⟩ := List.mem_map.1 he
  exact mem_of_lastValue (List.mem_eraseDups.1 hkey)

/-- Settings with keys of their own are their dictionary. -/
lemma dictionary_of_nodup (hes : (es.map Prod.fst).Nodup) : dictionary es = es := by
  have hvalue : ∀ e ∈ es, lastValue es e.1 = e.2 := by
    intro e he
    have hlast := mem_of_lastValue (List.mem_map_of_mem he)
    exact congrArg Prod.snd (List.inj_on_of_nodup_map hes hlast he rfl)
  unfold dictionary
  rw [eraseDups_of_nodup hes, List.map_map]
  conv_rhs => rw [← List.map_id es]
  exact List.map_congr_left fun e he => Prod.ext rfl (hvalue e he)

end Dictionary

/-! ### Reading what is written -/

section Scan

variable {e : Text × Text} {c : Char} {rest : Text}

/-- In front of a key nothing counts but word characters. -/
lemma scan_cons_of_not_word (hc : isWordChar c = false) : scan (c :: rest) = scan rest := by
  rw [scan, if_neg (by simp [hc])]

/-- A key with an equals sign behind it makes a setting of what is up to the next separator. -/
lemma scan_key_append {key tail : Text} (hne : key ≠ []) (hkey : ∀ c ∈ key, isWordChar c = true) :
    scan (key ++ '=' :: tail) =
      (key, Text.trim (tail.takeWhile isValueChar)) :: scan (tail.dropWhile isValueChar) := by
  obtain ⟨c, k, rfl⟩ := List.exists_cons_of_ne_nil hne
  rw [List.forall_mem_cons] at hkey
  have hend : atWordEnd ('=' :: tail) = true := atWordEnd_cons_iff.2 (by decide)
  rw [List.cons_append, scan, if_pos hkey.1, word_append hkey.2 hend]
  split
  · next h =>
    rw [afterWord_append hkey.2 hend, List.cons.injEq] at h
    rw [h.2]
  · next h => exact absurd (afterWord_append hkey.2 hend) (h tail)

/-- A word with anything else behind it is passed over. -/
lemma scan_word_append {word tail : Text} (hword : ∀ c ∈ word, isWordChar c = true)
    (hend : atWordEnd tail = true) (hequal : ∀ value, tail ≠ '=' :: value) :
    scan (word ++ tail) = scan tail := by
  cases word with
  | nil => rfl
  | cons c w =>
    rw [List.forall_mem_cons] at hword
    rw [List.cons_append, scan, if_pos hword.1]
    split
    · next value h => exact absurd ((afterWord_append hword.2 hend).symm.trans h) (hequal value)
    · rw [afterWord_append hword.2 hend]

/-- The characters of values are those that do not separate settings. -/
lemma isValueChar_iff : isValueChar c = true ↔ c ≠ ';' ∧ c ≠ '&' := by
  simp [isValueChar]

/-- A written setting is read as it is. -/
lemma scan_writeEntry_append (he : IsEntry e) (hrest : ∀ c ∈ rest.head?, isValueChar c = false) :
    scan (writeEntry e ++ rest) = e :: scan rest := by
  have hvalue : ∀ c ∈ e.2, isValueChar c = true := fun c hc =>
    isValueChar_iff.2
      ⟨ne_of_mem_of_not_mem hc he.no_semicolon, ne_of_mem_of_not_mem hc he.no_ampersand⟩
  unfold writeEntry
  rw [List.append_assoc, List.cons_append, scan_key_append he.key_ne_nil he.key,
    takeWhile_run_append hvalue hrest, dropWhile_run_append hvalue hrest, he.trimmed]

/-- Written settings are read as they are, whatever separators stand between them. -/
lemma scan_write {es : List (Text × Text)} (hes : ∀ e ∈ es, IsEntry e) {separator : Nat → Text}
    (hseparator : ∀ i, separator i = [';'] ∨ separator i = ['&']) :
    scan (write separator es) = es := by
  unfold write
  induction es generalizing separator with
  | nil => rw [List.map_nil, joinWith, scan]
  | cons e es ih =>
    rw [List.forall_mem_cons] at hes
    rcases eq_or_ne es [] with rfl | hne
    · have hread : scan (writeEntry e ++ []) = e :: scan [] :=
        scan_writeEntry_append hes.1 (by simp)
      rw [List.append_nil] at hread
      rw [List.map_singleton, joinWith, hread, scan]
    · have hmap : es.map writeEntry ≠ [] := by simpa using hne
      obtain ⟨c, hc, hword, hchar⟩ : ∃ c, separator 0 = [c] ∧ isWordChar c = false ∧
          isValueChar c = false := by
        rcases hseparator 0 with h | h
        · exact ⟨';', h, by decide, by decide⟩
        · exact ⟨'&', h, by decide, by decide⟩
      rw [List.map_cons, joinWith_cons_of_ne_nil _ hmap, hc, List.singleton_append,
        scan_writeEntry_append hes.1 (by simpa using hchar), scan_cons_of_not_word hword,
        ih hes.2 fun i => hseparator (i + 1)]

/-! ### What is read -/

/-- A text is read from its front: a key with an equals sign and what is behind the value, another
word and what is behind it, or a character that is in no word and what is behind it. -/
@[elab_as_elim]
lemma scan_induction {motive : Text → Prop} (nil : motive [])
    (setting : ∀ key tail, key ≠ [] → (∀ c ∈ key, isWordChar c = true) →
      motive (tail.dropWhile isValueChar) → motive (key ++ '=' :: tail))
    (word : ∀ w tail, (∀ c ∈ w, isWordChar c = true) → atWordEnd tail = true →
      (∀ value, tail ≠ '=' :: value) → motive tail → motive (w ++ tail))
    (other : ∀ c rest, isWordChar c = false → motive rest → motive (c :: rest)) (t : Text) :
    motive t := by
  have hword : ∀ {c : Char} {rest : Text}, isWordChar c = true →
      ∀ d ∈ c :: Text.word rest, isWordChar d = true := fun hc =>
    List.forall_mem_cons.2 ⟨hc, fun d hd => List.mem_takeWhile_imp hd⟩
  have hsplit : ∀ c rest, c :: rest = (c :: Text.word rest) ++ afterWord rest := by simp
  induction t using scan.induct with
  | case1 => exact nil
  | case2 c rest hc tail hafter ih =>
    rw [hsplit, hafter]
    exact setting _ tail (List.cons_ne_nil _ _) (hword hc) ih
  | case3 c rest hc hequal ih =>
    rw [hsplit]
    exact word _ _ (hword hc) (atWordEnd_iff.2 (head?_dropWhile_eq_false rest)) hequal ih
  | case4 c rest hc ih => exact other c rest (by simpa using hc) ih

/-- Whatever is read from a text could have been written as a setting. -/
lemma isEntry_of_mem_scan {t : Text} (he : e ∈ scan t) : IsEntry e := by
  induction t using scan_induction with
  | nil =>
    rw [scan] at he
    exact absurd he List.not_mem_nil
  | setting key tail hne hkey ih =>
    rw [scan_key_append hne hkey] at he
    rcases List.mem_cons.1 he with rfl | he
    · have hvalue : ∀ d ∈ Text.trim (tail.takeWhile isValueChar), d ≠ ';' ∧ d ≠ '&' := fun d hd =>
        isValueChar_iff.1 (List.mem_takeWhile_imp (mem_of_mem_trim hd))
      exact ⟨hne, hkey, fun h => (hvalue _ h).1 rfl, fun h => (hvalue _ h).2 rfl, trim_trim _⟩
    · exact ih he
  | word w tail hw hend hequal ih =>
    rw [scan_word_append hw hend hequal] at he
    exact ih he
  | other c rest hc ih =>
    rw [scan_cons_of_not_word hc] at he
    exact ih he

/-- A blank at the end of a text is trimmed off the last value, or is in no setting. -/
lemma scan_append_blank {b : Char} (hb : isBlank b = true) (t : Text) :
    scan (t ++ [b]) = scan t := by
  have hnotWord : isWordChar b = false := isWordChar_eq_false_of_isBlank hb
  have hvalue : isValueChar b = true := by
    rw [isValueChar_iff]
    constructor <;> rintro rfl <;> exact absurd hb (by decide)
  induction t using scan_induction with
  | nil => rw [List.nil_append, scan_cons_of_not_word hnotWord]
  | setting key tail hne hkey ih =>
    rw [List.append_assoc, List.cons_append, scan_key_append hne hkey, scan_key_append hne hkey]
    rcases eq_or_ne (tail.dropWhile isValueChar) [] with hnil | hne'
    · -- the last value goes up to the end
      have hall : ∀ c ∈ tail, isValueChar c = true := List.dropWhile_eq_nil_iff.1 hnil
      have hwhole : ∀ c ∈ tail ++ [b], isValueChar c = true :=
        List.forall_mem_append.2 ⟨hall, by simpa using hvalue⟩
      have htrim : Text.trim ([] ++ (tail ++ [b])) = Text.trim tail :=
        trim_blanks_append (List.forall_mem_nil _) (by simpa using hb)
      rw [List.nil_append] at htrim
      rw [List.takeWhile_eq_self_iff.2 hall, List.takeWhile_eq_self_iff.2 hwhole,
        List.dropWhile_eq_nil_iff.2 hall, List.dropWhile_eq_nil_iff.2 hwhole, htrim]
    · have hcut : tail.takeWhile isValueChar ++ tail.dropWhile isValueChar = tail :=
        List.takeWhile_append_dropWhile
      have hrun : ∀ c ∈ tail.takeWhile isValueChar, isValueChar c = true := fun c hc =>
        List.mem_takeWhile_imp hc
      have hstop : ∀ c ∈ (tail.dropWhile isValueChar ++ [b]).head?, isValueChar c = false := by
        rw [List.head?_append_of_ne_nil _ hne']
        exact head?_dropWhile_eq_false tail
      have hlonger : tail ++ [b] =
          tail.takeWhile isValueChar ++ (tail.dropWhile isValueChar ++ [b]) := by
        rw [← List.append_assoc, hcut]
      rw [hlonger, takeWhile_run_append hrun hstop, dropWhile_run_append hrun hstop, ih]
  | word w tail hw hend hequal ih =>
    have hend' : atWordEnd (tail ++ [b]) = true := by
      rw [atWordEnd_iff] at hend ⊢
      cases tail with
      | nil => simpa using hnotWord
      | cons c tail => simpa using hend
    have hequal' : ∀ value, tail ++ [b] ≠ '=' :: value := by
      intro value h
      cases tail with
      | nil =>
        obtain rfl : b = '=' := by simpa using (List.cons.inj h).1
        exact absurd hb (by decide)
      | cons c tail =>
        rw [List.cons_append, List.cons.injEq] at h
        exact hequal tail (by rw [h.1])
    rw [List.append_assoc, scan_word_append hw hend' hequal', ih, scan_word_append hw hend hequal]
  | other c rest hc ih =>
    rw [List.cons_append, scan_cons_of_not_word hc, ih, scan_cons_of_not_word hc]

/-- Settings in the order of their dictionary are held as they are. -/
lemma parse_eq {t : Text} {s : Settings} (ht : scan t = s.entries)
    (hs : (s.entries.map Prod.fst).Nodup) : parse t = s := by
  have hentries : (parse t).entries = s.entries := by
    rw [entries_parse, ht, dictionary_of_nodup hs]
  cases s
  exact congrArg Settings.mk hentries

end Scan

/-- Reading undoes writing. Settings that are written with either separator between them, behind a
question mark or not, are held as a dictionary: every key once, where it first came up, with the
value that came last. Conversely, whatever text is read, what is held are settings that can be
written, with keys of their own, and they are held again when their writing is read. -/
theorem entries_parse_write :
    (∀ (es : List (Text × Text)) (separator : Nat → Text) (opening : Text),
      (∀ e ∈ es, IsEntry e) → (∀ i, separator i = [';'] ∨ separator i = ['&']) →
      opening = [] ∨ opening = ['?'] →
      (parse (opening ++ write separator es)).entries = dictionary es) ∧
    ∀ t : Text,
      (∀ e ∈ (parse t).entries, IsEntry e) ∧
      ((parse t).entries.map Prod.fst).Nodup ∧
      parse ([';'].intercalate ((parse t).entries.map writeEntry)) = parse t := by
  constructor
  · intro es separator opening hes hseparator hopening
    have hscan : scan (opening ++ write separator es) = scan (write separator es) := by
      rcases hopening with rfl | rfl
      · rfl
      · exact scan_cons_of_not_word (by decide)
    rw [entries_parse, hscan, scan_write hes hseparator]
  · intro t
    have hentry : ∀ e ∈ (parse t).entries, IsEntry e := fun e he =>
      isEntry_of_mem_scan (mem_of_mem_dictionary (entries_parse t ▸ he))
    have hkeys : ((parse t).entries.map Prod.fst).Nodup := by
      rw [entries_parse]
      exact nodup_dictionary _
    refine ⟨hentry, hkeys, parse_eq ?_ hkeys⟩
    rw [← joinWith_const]
    exact scan_write hentry fun _ => Or.inl rfl

/-- A key that comes up again, a value with an equals sign and a blank in it, and an empty one. -/
theorem entries_parse_write_repeatedKey :
    let es : List (Text × Text) := [("b".toList, "1".toList), ("a".toList, "x = y?".toList),
      ("b".toList, []), ("c_1".toList, "true".toList)]
    let separator : Nat → Text := fun i => if i = 1 then ['&'] else [';']
    (∀ e ∈ es, IsEntry e) ∧ (∀ i, separator i = [';'] ∨ separator i = ['&']) ∧
    (parse ("?".toList ++ write separator es)).entries =
      [("b".toList, []), ("a".toList, "x = y?".toList), ("c_1".toList, "true".toList)] := by
  intro es separator
  have hes : ∀ e ∈ es, IsEntry e := by
    have hall : es.all (fun e => decide (IsEntry e)) = true := by decide
    exact fun e he => of_decide_eq_true (List.all_eq_true.1 hall e he)
  have hseparator : ∀ i, separator i = [';'] ∨ separator i = ['&'] := by
    intro i
    by_cases hi : i = 1
    · exact Or.inr (if_pos hi)
    · exact Or.inl (if_neg hi)
  refine ⟨hes, hseparator, ?_⟩
  rw [entries_parse_write.1 es separator "?".toList hes hseparator (Or.inr rfl)]
  decide

end Settings

end DdlDump
