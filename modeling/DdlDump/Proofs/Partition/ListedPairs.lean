import DdlDump.Proofs.Partition.Row
import Mathlib.Data.List.Basic

/-!
# The pairs that a row lists

Values are not escaped in a row, so that not every pair can be listed. Those that can are the ones
with a key of neither equals signs nor separators and a value that does not end in a separator and
has no equals sign behind its first separator (`IsListable`). A row of such pairs is read as they
are, whatever separators stand between them, and every row is read as such pairs
(`parse_listedRow`).

Reading goes piece by piece. The first piece of a pair holds its key, the equals sign and the value
up to its first separator (`collect_pieces_listedPair`); the rest of the value is made of pieces
without equals signs, each of which goes on with what is in front of it
(`collect_pieces_continued`).
-/

namespace DdlDump

open Text

namespace Partition

/-! ### Pairs and rows -/

/-- A pair that a row can list. -/
structure IsListable (pair : Text × Text) : Prop where
  key : ∀ c ∈ pair.1, c ≠ '=' ∧ isSeparator c = false
  /-- The value does not end in a separator. -/
  last : ∀ c ∈ pair.2.getLast?, isSeparator c = false
  /-- There is no equals sign from the first separator of the value on. -/
  rest : '=' ∉ pair.2.dropWhile (!isSeparator ·)

/-- A pair as it stands in a row. -/
def listedPair (pair : Text × Text) : Text :=
  pair.1 ++ '=' :: pair.2

/-- Pairs as they stand in a row, with separators between them. -/
def listedRow (pairs : List (Text × Text)) (separators : List Text) : Text :=
  match pairs with
  | [] => []
  | pair :: others =>
    listedPair pair ++ (separators.zip others).flatMap fun (s, other) => s ++ listedPair other

instance : DecidablePred IsListable := fun pair =>
  decidable_of_iff (pair.1.all (fun c => c != '=' && !isSeparator c) = true ∧
      pair.2.getLast?.all (!isSeparator ·) = true ∧
      (pair.2.dropWhile (!isSeparator ·)).elem '=' = false) <| by
    simp only [List.all_eq_true, Bool.and_eq_true, bne_iff_ne, Bool.not_eq_true',
      Option.all_eq_true, List.elem_eq_mem, decide_eq_false_iff_not]
    exact ⟨fun ⟨hkey, hlast, hrest⟩ => ⟨hkey, hlast, hrest⟩,
      fun h => ⟨h.key, h.last, h.rest⟩⟩

/-- What does not separate anything is visible. -/
lemma isBlank_eq_false_of_isSeparator {c : Char} (hc : isSeparator c = false) : isBlank c = false :=
  (Bool.or_eq_false_iff.1 hc).2

/-! ### Reading listed pairs -/

section Pieces

variable {s content rest tail : Text} {pair : Text × Text}

/-- Separators and a run of other characters are the first piece of a row. -/
lemma pieces_append (hs : ∀ c ∈ s, isSeparator c = true) (hne : content ≠ [])
    (hcontent : ∀ c ∈ content, isSeparator c = false)
    (hrest : ∀ c ∈ rest.head?, isSeparator c = true) :
    pieces (s ++ (content ++ rest)) = ⟨s, content⟩ :: pieces rest := by
  have hbehind : ∀ c ∈ (content ++ rest).head?, isSeparator c = false := by
    intro c hc
    rw [List.head?_append_of_ne_nil _ hne] at hc
    exact hcontent c (List.mem_of_mem_head? hc)
  have hrun : ∀ c ∈ content, (!isSeparator c) = true := fun c hc => by rw [hcontent c hc]; rfl
  have hend : ∀ c ∈ rest.head?, (!isSeparator c) = false := fun c hc => by rw [hrest c hc]; rfl
  obtain ⟨c, row, hrow⟩ := List.exists_cons_of_ne_nil
    (List.append_ne_nil_of_right_ne_nil s (List.append_ne_nil_of_left_ne_nil hne rest))
  rw [hrow, pieces, ← hrow]
  simp only [takeWhile_run_append hs hbehind, dropWhile_run_append hs hbehind,
    takeWhile_run_append hrun hend, dropWhile_run_append hrun hend]

/-- A row that does not end in a separator has a first piece with something in it. -/
lemma exists_piece {row : Text} (hne : row ≠ [])
    (hlast : ∀ c ∈ row.getLast?, isSeparator c = false) :
    ∃ s content more, row = s ++ (content ++ more) ∧ (∀ c ∈ s, isSeparator c = true) ∧
      content ≠ [] ∧ (∀ c ∈ content, isSeparator c = false) ∧
      ∀ c ∈ more.head?, isSeparator c = true := by
  have hcut : row.takeWhile isSeparator ++ row.dropWhile isSeparator = row :=
    List.takeWhile_append_dropWhile
  cases hbehind : row.dropWhile isSeparator with
  | nil =>
    rw [List.dropWhile_eq_nil_iff] at hbehind
    have hend := hlast (row.getLast hne) (List.getLast?_eq_some_getLast hne)
    rw [hbehind _ (List.getLast_mem hne)] at hend
    exact absurd hend (by decide)
  | cons d r =>
    have hd : isSeparator d = false := by
      apply head?_dropWhile_eq_false row d
      rw [hbehind]
      rfl
    have hrun : (d :: r).takeWhile (!isSeparator ·) ++ (d :: r).dropWhile (!isSeparator ·) =
        d :: r := List.takeWhile_append_dropWhile
    refine ⟨row.takeWhile isSeparator, (d :: r).takeWhile (!isSeparator ·),
      (d :: r).dropWhile (!isSeparator ·), ?_, fun c hc => List.mem_takeWhile_imp hc, ?_, ?_, ?_⟩
    · rw [hrun, ← hbehind, hcut]
    · rw [List.takeWhile_cons_of_pos (by simp [hd])]
      exact List.cons_ne_nil d _
    · intro c hc
      simpa using List.mem_takeWhile_imp hc
    · intro c hc
      simpa using head?_dropWhile_eq_false (d :: r) c hc

/-- What holds no equals sign goes on with the value in front of it, as a whole. -/
lemma collect_pieces_continued (hlast : ∀ c ∈ tail.getLast?, isSeparator c = false)
    (heq : '=' ∉ tail) (hrest : ∀ c ∈ rest.head?, isSeparator c = true) :
    collect (pieces (tail ++ rest)) =
      (tail ++ (collect (pieces rest)).1, (collect (pieces rest)).2) := by
  -- piece by piece: each holds something, since what is left never ends in a separator
  induction hlength : tail.length using Nat.strong_induction_on generalizing tail with
  | _ n ih =>
    rcases eq_or_ne tail [] with rfl | hne
    · rfl
    · obtain ⟨s, content, more, rfl, hs, hcontent, hrun, hmore⟩ := exists_piece hne hlast
      simp only [List.mem_append, not_or] at heq
      have hshorter : more.length < n := by
        have hpos : 0 < content.length := List.length_pos_iff.2 hcontent
        simp only [List.length_append] at hlength
        omega
      have hend : ∀ c ∈ more.getLast?, isSeparator c = false := fun c hc =>
        hlast c (List.mem_getLast?_append_of_mem_getLast?
          (List.mem_getLast?_append_of_mem_getLast? hc))
      have hbehind : ∀ c ∈ (more ++ rest).head?, isSeparator c = true := by
        intro c hc
        cases more with
        | nil => exact hrest c hc
        | cons d more => exact hmore c hc
      have hempty : content.isEmpty = false := List.isEmpty_eq_false_iff.2 hcontent
      rw [List.append_assoc, List.append_assoc, pieces_append hs hcontent hrun hbehind,
        collect_of_not_mem heq.2.1, ih more.length hshorter hend heq.2.2 rfl]
      simp only [hempty, Bool.false_eq_true, if_false, Piece.text, List.append_assoc]

/-- A listed pair is read as it is, and what the pieces behind it go on with belongs to its
value. -/
lemma collect_pieces_listedPair (hs : ∀ c ∈ s, isSeparator c = true) (hpair : IsListable pair)
    (hrest : ∀ c ∈ rest.head?, isSeparator c = true) :
    collect (pieces (s ++ (listedPair pair ++ rest))) =
      ([], (pair.1, pair.2 ++ (collect (pieces rest)).1) :: (collect (pieces rest)).2) := by
  obtain ⟨key, value⟩ := pair
  obtain ⟨first, hfirst⟩ : ∃ first, first = value.takeWhile (!isSeparator ·) := ⟨_, rfl⟩
  obtain ⟨tail, htail⟩ : ∃ tail, tail = value.dropWhile (!isSeparator ·) := ⟨_, rfl⟩
  have hvalue : value = first ++ tail := by
    rw [hfirst, htail, List.takeWhile_append_dropWhile]
  have hkey : '=' ∉ key := fun hmem => (hpair.key '=' hmem).1 rfl
  have hrun : ∀ c ∈ key ++ '=' :: first, isSeparator c = false := by
    intro c hc
    rcases List.mem_append.1 hc with hc | hc
    · exact (hpair.key c hc).2
    · rcases List.mem_cons.1 hc with rfl | hc
      · decide
      · rw [hfirst] at hc
        simpa using List.mem_takeWhile_imp hc
  have hend : ∀ c ∈ tail.getLast?, isSeparator c = false := fun c hc =>
    hpair.last c (hvalue ▸ List.mem_getLast?_append_of_mem_getLast? hc)
  have hbehind : ∀ c ∈ (tail ++ rest).head?, isSeparator c = true := by
    intro c hc
    cases htaileq : tail with
    | nil => exact hrest c (by rwa [htaileq] at hc)
    | cons d t =>
      have hstop := head?_dropWhile_eq_false (p := (!isSeparator ·)) value c
      rw [htaileq] at hc
      rw [← htail, htaileq] at hstop
      simpa using hstop hc
  have hrow : s ++ (listedPair (key, value) ++ rest) =
      s ++ ((key ++ '=' :: first) ++ (tail ++ rest)) := by
    simp only [listedPair, hvalue, List.append_assoc, List.cons_append]
  rw [hrow, pieces_append hs (by simp) hrun hbehind]
  obtain ⟨begun, hcontent, hcollect⟩ :=
    collect_of_mem (pieces (tail ++ rest)) (p := ⟨s, key ++ '=' :: first⟩) (by simp)
  have hbegins : (key ++ '=' :: first).takeWhile (· != '=') = key :=
    takeWhile_run_append (fun c hc => bne_iff_ne.2 (ne_of_mem_of_not_mem hc hkey)) (by simp)
  simp only [hbegins] at hcontent hcollect
  obtain rfl : first = begun := by simpa using hcontent
  rw [hcollect, collect_pieces_continued hend (htail ▸ hpair.rest) hrest, hvalue]
  simp only [List.append_assoc]

/-- What is listed behind something starts with a separator. -/
lemma isSeparator_head?_flatMap {entries : List (Text × (Text × Text))}
    (hentries : ∀ e ∈ entries, e.1 ≠ [] ∧ ∀ c ∈ e.1, isSeparator c = true) :
    ∀ c ∈ (entries.flatMap fun e => e.1 ++ listedPair e.2).head?, isSeparator c = true := by
  intro c hc
  cases entries with
  | nil => exact absurd hc (by simp)
  | cons e entries =>
    obtain ⟨hne, hseparators⟩ := hentries e List.mem_cons_self
    rw [List.flatMap_cons, List.append_assoc, List.head?_append_of_ne_nil _ hne] at hc
    exact hseparators c (List.mem_of_mem_head? hc)

/-- Listed pairs, each behind separators, are read as they are. -/
lemma collect_pieces_flatMap {entries : List (Text × (Text × Text))}
    (hseparators : ∀ e ∈ entries, e.1 ≠ [] ∧ ∀ c ∈ e.1, isSeparator c = true)
    (hpairs : ∀ e ∈ entries, IsListable e.2) :
    collect (pieces (entries.flatMap fun e => e.1 ++ listedPair e.2)) =
      ([], entries.map Prod.snd) := by
  induction entries with
  | nil =>
    rw [List.flatMap_nil, pieces]
    rfl
  | cons e entries ih =>
    rw [List.forall_mem_cons] at hseparators hpairs
    rw [List.flatMap_cons, List.append_assoc, collect_pieces_listedPair hseparators.1.2 hpairs.1
      (isSeparator_head?_flatMap hseparators.2), ih hseparators.2 hpairs.2, List.append_nil,
      List.map_cons]

end Pieces

/-! ### Whole rows -/

section Row

variable {pair : Text × Text} {pairs : List (Text × Text)} {separators : List Text}

/-- A listed pair does not start with a separator. -/
lemma isSeparator_head?_listedPair (hpair : IsListable pair) :
    ∀ c ∈ (listedPair pair).head?, isSeparator c = false := by
  intro c hc
  rw [listedPair] at hc
  cases hkey : pair.1 with
  | nil =>
    rw [hkey] at hc
    obtain rfl : '=' = c := Option.some.inj hc
    decide
  | cons d key =>
    rw [hkey] at hc
    exact (hpair.key c (by rw [hkey]; exact List.mem_of_mem_head? hc)).2

/-- Nor does it end in one. -/
lemma isSeparator_getLast?_listedPair (hpair : IsListable pair) :
    ∀ c ∈ (listedPair pair).getLast?, isSeparator c = false := by
  have hsplit : listedPair pair = (pair.1 ++ ['=']) ++ pair.2 := by simp [listedPair]
  rw [hsplit]
  refine forall_getLast?_append (fun c hc => ?_) hpair.last
  rw [List.getLast?_concat] at hc
  obtain rfl : '=' = c := Option.some.inj hc
  decide

/-- A row of listed pairs does not start with a separator. -/
lemma isSeparator_head?_listedRow (hpairs : ∀ pair ∈ pairs, IsListable pair) :
    ∀ c ∈ (listedRow pairs separators).head?, isSeparator c = false := by
  intro c hc
  cases pairs with
  | nil => exact absurd hc (by simp [listedRow])
  | cons pair others =>
    have hne : listedPair pair ≠ [] := by simp [listedPair]
    rw [listedRow, List.head?_append_of_ne_nil _ hne] at hc
    exact isSeparator_head?_listedPair (hpairs pair List.mem_cons_self) c hc

/-- Nor does it end in one. -/
lemma isSeparator_getLast?_listedRow (hpairs : ∀ pair ∈ pairs, IsListable pair) :
    ∀ c ∈ (listedRow pairs separators).getLast?, isSeparator c = false := by
  cases pairs with
  | nil => simp [listedRow]
  | cons pair others =>
    rw [List.forall_mem_cons] at hpairs
    refine forall_getLast?_append (isSeparator_getLast?_listedPair hpairs.1) ?_
    refine forall_getLast?_flatMap fun e he => ?_
    have hne : listedPair e.2 ≠ [] := by simp [listedPair]
    rw [List.getLast?_append_of_ne_nil _ hne]
    exact isSeparator_getLast?_listedPair (hpairs.2 e.2 (List.of_mem_zip he).2)

/-- Listed pairs are read as they are. -/
lemma collect_pieces_listedRow (hpairs : ∀ pair ∈ pairs, IsListable pair)
    (hlength : separators.length = pairs.length - 1)
    (hseparators : ∀ s ∈ separators, s ≠ [] ∧ ∀ c ∈ s, isSeparator c = true) :
    collect (pieces (listedRow pairs separators)) = ([], pairs) := by
  cases pairs with
  | nil =>
    rw [listedRow, pieces]
    rfl
  | cons pair others =>
    have hzip : (separators.zip others).map Prod.snd = others :=
      List.map_snd_zip (by simp [hlength])
    have hfirst : ∀ e ∈ separators.zip others, e.1 ≠ [] ∧ ∀ c ∈ e.1, isSeparator c = true :=
      fun e he => hseparators e.1 (List.of_mem_zip he).1
    have hsecond : ∀ e ∈ separators.zip others, IsListable e.2 :=
      fun e he => hpairs e.2 (List.mem_cons_of_mem pair (List.of_mem_zip he).2)
    have hrow := collect_pieces_listedPair (s := []) (by simp) (hpairs pair List.mem_cons_self)
      (isSeparator_head?_flatMap hfirst)
    rw [collect_pieces_flatMap hfirst hsecond, hzip, List.append_nil] at hrow
    exact hrow

/-- Every row of listed pairs is read as they are, whatever blanks there are around it. -/
lemma parse_blanks_listedRow {before after : Text} (hpairs : ∀ pair ∈ pairs, IsListable pair)
    (hlength : separators.length = pairs.length - 1)
    (hseparators : ∀ s ∈ separators, s ≠ [] ∧ ∀ c ∈ s, isSeparator c = true)
    (hbefore : ∀ c ∈ before, isBlank c = true) (hafter : ∀ c ∈ after, isBlank c = true) :
    parse (before ++ (listedRow pairs separators ++ after)) = ⟨pairs⟩ := by
  have htrim : (before ++ (listedRow pairs separators ++ after)).trim =
      listedRow pairs separators :=
    trim_append_blanks hbefore hafter
      (fun c hc => isBlank_eq_false_of_isSeparator (isSeparator_head?_listedRow hpairs c hc))
      (fun c hc => isBlank_eq_false_of_isSeparator (isSeparator_getLast?_listedRow hpairs c hc))
  rw [parse, htrim, collect_pieces_listedRow hpairs hlength hseparators]

/-- A row with a slash between each two pairs. -/
lemma listedRow_slashes (pairs : List (Text × Text)) :
    listedRow pairs (List.replicate (pairs.length - 1) ['/']) =
      ['/'].intercalate (pairs.map listedPair) := by
  cases pairs with
  | nil => rfl
  | cons pair others =>
    have hzip : ∀ others : List (Text × Text),
        (List.replicate others.length ['/']).zip others =
          others.map fun other => (['/'], other) := by
      intro others
      induction others with
      | nil => rfl
      | cons other others ih =>
        rw [List.length_cons, List.replicate_succ, List.zip_cons_cons, ih, List.map_cons]
    rw [List.map_cons, intercalate_cons_eq_flatMap, listedRow, List.length_cons,
      Nat.add_sub_cancel, hzip, List.flatMap_map, List.flatMap_map]

/-! ### What is read of any row -/

/-- Pieces are put together to listable pairs, behind a text that can go on with a value. -/
lemma isListable_of_mem_collect {ps : List Piece}
    (hps : ∀ p ∈ ps, (∀ c ∈ p.separators, isSeparator c = true) ∧
      ∀ c ∈ p.content, isSeparator c = false) :
    (∀ pair ∈ (collect ps).2, IsListable pair) ∧
      '=' ∉ (collect ps).1 ∧ ∀ c ∈ (collect ps).1.getLast?, isSeparator c = false := by
  induction ps with
  | nil => simp [collect]
  | cons p ps ih =>
    rw [List.forall_mem_cons] at hps
    obtain ⟨hlistable, heq, hlast⟩ := ih hps.2
    obtain ⟨⟨hseparators, hcontents⟩, -⟩ := hps
    by_cases hp : '=' ∈ p.content
    · obtain ⟨begun, hcontent, hcollect⟩ := collect_of_mem ps hp
      have hkey : ∀ c ∈ p.content.takeWhile (· != '='), c ≠ '=' ∧ isSeparator c = false := by
        intro c hc
        exact ⟨bne_iff_ne.1 (List.mem_takeWhile_imp (p := (· != '=')) hc),
          hcontents c ((List.takeWhile_sublist _).subset hc)⟩
      have hbegun : ∀ c ∈ begun, isSeparator c = false := by
        intro c hc
        apply hcontents c
        rw [hcontent]
        exact List.mem_append_right _ (List.mem_cons_of_mem '=' hc)
      have hrest : '=' ∉ (begun ++ (collect ps).1).dropWhile (!isSeparator ·) := by
        rw [List.dropWhile_append_of_pos fun c hc => by rw [hbegun c hc]; rfl]
        exact fun hmem => heq ((List.dropWhile_sublist _).subset hmem)
      have hvalue : ∀ c ∈ (begun ++ (collect ps).1).getLast?, isSeparator c = false :=
        forall_getLast?_append (fun c hc => hbegun c (List.mem_of_mem_getLast? hc)) hlast
      rw [hcollect]
      exact ⟨List.forall_mem_cons.2 ⟨⟨hkey, hvalue, hrest⟩, hlistable⟩, List.not_mem_nil, by simp⟩
    · have hequal : '=' ∉ p.separators := fun hmem => absurd (hseparators '=' hmem) (by decide)
      rw [collect_of_not_mem hp]
      refine ⟨hlistable, ?_, forall_getLast?_append ?_ hlast⟩
      · split
        · exact heq
        · simp [Piece.text, hequal, hp, heq]
      · split
        · simp
        · next hne =>
          rw [List.isEmpty_iff] at hne
          intro c hc
          rw [Piece.text, List.getLast?_append_of_ne_nil _ hne] at hc
          exact hcontents c (List.mem_of_mem_getLast? hc)

/-- A row is read as listable pairs. -/
lemma isListable_of_mem_parse {row : Text} : ∀ pair ∈ (parse row).values, IsListable pair :=
  (isListable_of_mem_collect fun _ hp =>
    ⟨fun _ hc => isSeparator_of_mem_separators hp hc,
      fun _ hc => isSeparator_eq_false_of_mem_content hp hc⟩).1

/-- Reading undoes the listing of pairs that can be listed, whatever separators stand between them
and whatever blanks around them; and the pairs that are read of any row can be listed, so that they
are read again when they are listed with slashes. -/
theorem parse_listedRow :
    (∀ (pairs : List (Text × Text)) (separators : List Text) (before after : Text),
      (∀ pair ∈ pairs, IsListable pair) → separators.length = pairs.length - 1 →
      (∀ s ∈ separators, s ≠ [] ∧ ∀ c ∈ s, isSeparator c = true) →
      (∀ c ∈ before, isBlank c = true) → (∀ c ∈ after, isBlank c = true) →
      parse (before ++ (listedRow pairs separators ++ after)) = ⟨pairs⟩) ∧
    ∀ row, (∀ pair ∈ (parse row).values, IsListable pair) ∧
      parse (['/'].intercalate ((parse row).values.map listedPair)) = parse row := by
  constructor
  · intro pairs separators before after hpairs hlength hseparators hbefore hafter
    exact parse_blanks_listedRow hpairs hlength hseparators hbefore hafter
  · intro row
    have hpairs : ∀ pair ∈ (parse row).values, IsListable pair := isListable_of_mem_parse
    have hslash : ∀ s ∈ List.replicate ((parse row).values.length - 1) ['/'],
        s ≠ [] ∧ ∀ c ∈ s, isSeparator c = true := by
      intro s hs
      rw [List.eq_of_mem_replicate hs]
      exact ⟨List.cons_ne_nil _ _, by simp [isSeparator]⟩
    have hagain : parse ([] ++ (listedRow (parse row).values
        (List.replicate ((parse row).values.length - 1) ['/']) ++ [])) = parse row :=
      parse_blanks_listedRow hpairs (by simp) hslash (by simp) (by simp)
    rw [listedRow_slashes, List.nil_append, List.append_nil] at hagain
    exact ⟨hpairs, hagain⟩

/-- Values with blanks, slashes, equals signs and quotes, an empty value and an empty key, behind
different separators. -/
theorem parse_listedRow_unescaped :
    let pairs := [("ds".toList, "a b/c".toList), ("note".toList, "x='1', y".toList),
      ("n".toList, []), ([], "u=v".toList)]
    let separators := ["/".toList, " / ".toList, "\n".toList]
    let row := "\t".toList ++ (listedRow pairs separators ++ " \n".toList)
    row = "\tds=a b/c/note=x='1', y / n=\n=u=v \n".toList ∧
    (∀ pair ∈ pairs, IsListable pair) ∧ separators.length = pairs.length - 1 ∧
    (∀ s ∈ separators, s ≠ [] ∧ ∀ c ∈ s, isSeparator c = true) ∧
    parse row = ⟨pairs⟩ ∧
    parse (['/'].intercalate ((parse row).values.map listedPair)) = parse row := by
  intro pairs separators row
  have hpairs : ∀ pair ∈ pairs, IsListable pair := by decide
  have hlength : separators.length = pairs.length - 1 := by decide
  have hseparators : ∀ s ∈ separators, s ≠ [] ∧ ∀ c ∈ s, isSeparator c = true := by
    intro s hs
    have hall : separators.all (fun s => !s.isEmpty && s.all isSeparator) = true := by decide
    simpa using List.all_eq_true.1 hall s hs
  have hbefore : ∀ c ∈ "\t".toList, isBlank c = true := List.all_eq_true.1 (by decide)
  have hafter : ∀ c ∈ " \n".toList, isBlank c = true := List.all_eq_true.1 (by decide)
  exact ⟨by decide, hpairs, hlength, hseparators,
    parse_listedRow.1 pairs separators _ _ hpairs hlength hseparators hbefore hafter,
    (parse_listedRow.2 row).2⟩

end Row

end Partition

end DdlDump
