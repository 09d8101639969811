import DdlDump.Ddl.Replay
import DdlDump.Proofs.Ddl.Header
import DdlDump.Proofs.Ddl.Line

/-!
# Headers line by line

A header never reaches beyond the end of the line that it starts on. The one pass that prepares the
headers of a script therefore treats every line on its own: the result is made of the given lines,
each either left as it is or with what is put in the place of its header
(`substituteHeaders_ofLines`, `prepareHeaders_ofLines`).
-/

namespace DdlDump

open Text

namespace Header

/-! ### Reading a header does not look beyond the line -/

/-- A line feed is no part of an indent. -/
lemma isIndent_newline : isIndent '\n' = false := by
  decide

/-- A line feed ends a name. -/
lemma isNameChar_newline : isNameChar '\n' = false := by
  decide

lemma takeOptional_append_newline {k : Text} (hk : IsLine k) (l m : Text) :
    takeOptional k (l ++ '\n' :: m) =
      ((takeOptional k l).1, (takeOptional k l).2 ++ '\n' :: m) := by
  unfold takeOptional
  rw [after?_append_newline hk]
  cases after? l k <;> rfl

lemma parseKind?_append_newline (l m : Text) :
    ObjectKind.parse? (l ++ '\n' :: m) =
      (ObjectKind.parse? l).map fun p => (p.1, p.2 ++ '\n' :: m) := by
  have htable : IsLine (ObjectKind.keyword .table ++ [' ']) := by decide
  have hview : IsLine (ObjectKind.keyword .view ++ [' ']) := by decide
  unfold ObjectKind.parse?
  rw [after?_append_newline htable, after?_append_newline hview]
  cases after? l (ObjectKind.keyword .table ++ [' ']) with
  | some r => rfl
  | none => cases after? l (ObjectKind.keyword .view ++ [' ']) <;> rfl

lemma parseName?_append_newline (l m : Text) :
    parseName? (l ++ '\n' :: m) = (parseName? l).map fun p => (p.1, p.2 ++ '\n' :: m) := by
  unfold parseName?
  rw [takeWhile_append_cons isNameChar_newline, dropWhile_append_cons isNameChar_newline]
  cases l.takeWhile isNameChar <;> rfl

lemma parseGuardedName?_append_newline (l m : Text) :
    parseGuardedName? (l ++ '\n' :: m) =
      (parseGuardedName? l).map fun p => (p.1, p.2.1, p.2.2 ++ '\n' :: m) := by
  have hguard : IsLine guardKeyword := by decide
  have hbehind : (after? (l ++ '\n' :: m) guardKeyword).bind parseName? =
      ((after? l guardKeyword).bind parseName?).map fun p => (p.1, p.2 ++ '\n' :: m) := by
    rw [after?_append_newline hguard]
    cases after? l guardKeyword with
    | none => rfl
    | some r => exact parseName?_append_newline r m
  unfold parseGuardedName?
  rw [hbehind, parseName?_append_newline]
  cases (after? l guardKeyword).bind parseName? with
  | some p => rfl
  | none => cases parseName? l <;> rfl

/-- The header at the start of a text is the one at the start of its first line. -/
lemma parse?_append_newline (l m : Text) :
    parse? (l ++ '\n' :: m) = (parse? l).map fun p => (p.1, p.2 ++ '\n' :: m) := by
  have hcreate : IsLine createKeyword := by decide
  have hexternal : IsLine externalKeyword := by decide
  unfold parse?
  rw [takeWhile_append_cons isIndent_newline, dropWhile_append_cons isIndent_newline,
    after?_append_newline hcreate]
  cases after? (l.dropWhile isIndent) createKeyword with
  | none => rfl
  | some body =>
    simp only [Option.map_some, Option.bind_eq_bind, Option.bind_some, Option.pure_def]
    rw [takeOptional_append_newline hexternal, parseKind?_append_newline]
    cases ObjectKind.parse? (takeOptional externalKeyword body).2 with
    | none => rfl
    | some p =>
      simp only [Option.map_some, Option.bind_some]
      rw [parseGuardedName?_append_newline]
      cases parseGuardedName? p.2 <;> rfl

/-- The parts of a header on a line, and what follows it there, hold no line feed. -/
lemma isLine_of_parse? {l rest : Text} {h : Header} (hl : IsLine l)
    (hp : parse? l = some (h, rest)) : IsLine h.opening ∧ IsLine h.name ∧ IsLine rest := by
  have hsplit : h.opening ++ (optional h.guarded guardKeyword ++ h.name) ++ rest = l :=
    (render_append_of_parse? hp).1
  unfold IsLine at hl ⊢
  rw [← hsplit] at hl
  simp only [List.mem_append, not_or] at hl
  exact ⟨hl.1.1, hl.1.2.2, hl.2⟩

end Header

/-! ### Putting something in the place of headers -/

/-- A line with `f h` in the place of the header `h` that it starts with, if it does. -/
def substituteLine (f : Header → Text) (l : Text) : Text :=
  match Header.parse? l with
  | some (h, rest) => f h ++ rest
  | none => l

section Substitute

variable {f : Header → Text}

lemma substituteFrom_nil (fresh : Bool) : substituteFrom f fresh [] = [] := by
  rw [substituteFrom]
  cases fresh <;> rfl

lemma substituteFrom_of_parse? {t rest : Text} {h : Header}
    (hp : Header.parse? t = some (h, rest)) :
    substituteFrom f true t = f h ++ substituteFrom f false rest := by
  rw [substituteFrom]
  split
  · next h' rest' he =>
    rw [if_pos rfl, hp, Option.some.injEq, Prod.mk.injEq] at he
    rw [he.1, he.2]
  · next he =>
    rw [if_pos rfl, hp] at he
    exact absurd he (Option.some_ne_none _)

lemma substituteFrom_cons {fresh : Bool} {c : Char} {t : Text}
    (hnone : fresh = true → Header.parse? (c :: t) = none) :
    substituteFrom f fresh (c :: t) = c :: substituteFrom f (c == '\n') t := by
  rw [substituteFrom]
  split
  · next h rest he =>
    cases fresh with
    | false => exact absurd he.symm (Option.some_ne_none _)
    | true =>
      rw [if_pos rfl, hnone rfl] at he
      exact absurd he.symm (Option.some_ne_none _)
  · rfl

/-- Inside a line everything is copied. -/
lemma substituteFrom_inside {l : Text} (hl : IsLine l) : substituteFrom f false l = l := by
  induction l with
  | nil => exact substituteFrom_nil false
  | cons c l ih =>
    unfold IsLine at hl ih
    rw [List.mem_cons, not_or] at hl
    rw [substituteFrom_cons (by simp), beq_false_of_ne (Ne.symm hl.1), ih hl.2]

/-- Copying goes on up to the end of the line. -/
lemma substituteFrom_inside_append {l : Text} (hl : IsLine l) (m : Text) :
    substituteFrom f false (l ++ '\n' :: m) = l ++ '\n' :: substituteFrom f true m := by
  induction l with
  | nil => exact substituteFrom_cons (by simp)
  | cons c l ih =>
    unfold IsLine at hl ih
    rw [List.mem_cons, not_or] at hl
    rw [List.cons_append, substituteFrom_cons (by simp), beq_false_of_ne (Ne.symm hl.1), ih hl.2]
    rfl

/-- A single line. -/
lemma substituteHeaders_line {l : Text} (hl : IsLine l) :
    substituteHeaders f l = substituteLine f l := by
  unfold substituteHeaders substituteLine
  cases hp : Header.parse? l with
  | some p =>
    obtain ⟨-, -, hrest⟩ := Header.isLine_of_parse? hl hp
    rw [substituteFrom_of_parse? hp, substituteFrom_inside hrest]
  | none =>
    cases l with
    | nil => exact substituteFrom_nil true
    | cons c l =>
      unfold IsLine at hl
      rw [List.mem_cons, not_or] at hl
      rw [substituteFrom_cons fun _ => hp, beq_false_of_ne (Ne.symm hl.1),
        substituteFrom_inside hl.2]

/-- The first line and the text behind it are treated apart. -/
lemma substituteHeaders_append_newline {l : Text} (hl : IsLine l) (m : Text) :
    substituteHeaders f (l ++ '\n' :: m) = substituteLine f l ++ '\n' :: substituteHeaders f m := by
  unfold substituteHeaders substituteLine
  have hparse := Header.parse?_append_newline l m
  cases hp : Header.parse? l with
  | some p =>
    obtain ⟨-, -, hrest⟩ := Header.isLine_of_parse? hl hp
    rw [hp] at hparse
    rw [substituteFrom_of_parse? hparse, substituteFrom_inside_append hrest]
    exact (List.append_assoc ..).symm
  | none =>
    rw [hp] at hparse
    cases l with
    | nil => exact substituteFrom_cons fun _ => hparse
    | cons c l =>
      unfold IsLine at hl
      rw [List.mem_cons, not_or] at hl
      rw [List.cons_append] at hparse ⊢
      rw [substituteFrom_cons fun _ => hparse, beq_false_of_ne (Ne.symm hl.1),
        substituteFrom_inside_append hl.2]
      rfl

/-- Every line of a script is treated on its own. -/
theorem substituteHeaders_ofLines {ls : List Text} (hls : ∀ l ∈ ls, IsLine l) :
    substituteHeaders f (ofLines ls) = ofLines (ls.map (substituteLine f)) := by
  induction ls with
  | nil => exact substituteFrom_nil true
  | cons l ls ih =>
    have hl : IsLine l := hls l List.mem_cons_self
    have hrest := ih fun m hm => hls m (List.mem_cons_of_mem l hm)
    rcases eq_or_ne ls [] with rfl | hne
    · rw [List.map_singleton, ofLines_singleton, ofLines_singleton, substituteHeaders_line hl]
    · rw [List.map_cons, ofLines_cons hne, ofLines_cons (by simpa using hne),
        substituteHeaders_append_newline hl, hrest]

end Substitute

/-! ### Preparing headers -/

/-- The lines that take the place of a line when its header, if it has one, is prepared. -/
def preparedLines (drop guard : Bool) (l : Text) : List Text :=
  match Header.parse? l with
  | some (h, rest) =>
    (if drop then [h.dropStatement, []] else []) ++ [(h.guardedIf guard).render ++ rest]
  | none => [l]

section Prepare

variable {drop guard : Bool}

/-- A header is still one when it is guarded. -/
lemma parse?_guardedIf {l rest : Text} {h : Header} (hp : Header.parse? l = some (h, rest)) :
    Header.parse? ((h.guardedIf guard).render ++ rest) = some (h.guardedIf guard, rest) := by
  obtain ⟨-, hindent, hname, hrest, hguard⟩ := Header.parse?_eq_some_iff.1 hp
  refine Header.parse?_eq_some_iff.2 ⟨rfl, hindent, hname, hrest, fun hfree => hguard ?_⟩
  exact (Bool.or_eq_false_iff.1 hfree).1

/-- Whether a statement ends in the line of a header is settled from the name on. -/
lemma isTerminated_render_append {l rest : Text} {h : Header}
    (hp : Header.parse? l = some (h, rest)) :
    Line.isTerminated (h.render ++ rest) = Line.isTerminated (h.name ++ rest) := by
  obtain ⟨-, -, ⟨hne, hname⟩, -, -⟩ := Header.parse?_eq_some_iff.1 hp
  obtain ⟨c, n, hn⟩ := List.exists_cons_of_ne_nil hne
  have hvisible : (h.name ++ rest).all isBlank = false := by
    have hc := hname c (hn ▸ List.mem_cons_self)
    unfold Header.isNameChar at hc
    rw [Bool.and_eq_true, Bool.not_eq_true'] at hc
    rw [hn, List.cons_append, List.all_cons, hc.1, Bool.false_and]
  unfold Header.render
  rw [List.append_assoc, List.append_assoc, ← List.append_assoc, Line.isTerminated_append,
    if_neg (by simp [hvisible])]

/-- A line without a header stays as it is. -/
lemma preparedLines_of_parse?_eq_none {l : Text} (hp : Header.parse? l = none) :
    preparedLines drop guard l = [l] := by
  unfold preparedLines
  rw [hp]

/-- To guard a header twice is to guard it once, if it is asked for either time. -/
lemma guardedIf_guardedIf (h : Header) (first second : Bool) :
    (h.guardedIf first).guardedIf second = h.guardedIf (first || second) := by
  unfold Header.guardedIf
  rw [Bool.or_assoc]

/-- Where nothing is dropped, what takes the place of a line is prepared. -/
lemma preparedLines_of_mem {l m : Text} (hm : m ∈ preparedLines false guard l) :
    preparedLines false guard m = [m] := by
  unfold preparedLines at hm
  cases hp : Header.parse? l with
  | none =>
    rw [hp] at hm
    rw [List.mem_singleton.1 hm]
    exact preparedLines_of_parse?_eq_none hp
  | some p =>
    rw [hp] at hm
    have hsame : m = (p.1.guardedIf guard).render ++ p.2 := List.mem_singleton.1 hm
    have hparse : Header.parse? m = some (p.1.guardedIf guard, p.2) :=
      hsame ▸ parse?_guardedIf hp
    unfold preparedLines
    rw [hparse, hsame]
    simp only [guardedIf_guardedIf, Bool.or_self]
    rfl

/-- At least one line takes the place of a line. -/
lemma preparedLines_ne_nil (l : Text) : preparedLines drop guard l ≠ [] := by
  unfold preparedLines
  cases Header.parse? l with
  | none => exact List.cons_ne_nil l []
  | some p => exact List.append_ne_nil_of_right_ne_nil _ (List.cons_ne_nil _ [])

/-- The prepared text of a line consists of these lines. -/
lemma substituteLine_prepared (l : Text) :
    substituteLine (Header.prepared drop guard) l = ofLines (preparedLines drop guard l) := by
  unfold substituteLine preparedLines Header.prepared
  cases Header.parse? l with
  | none => exact (ofLines_singleton l).symm
  | some p =>
    cases drop with
    | false => simp
    | true => simp [ofLines_cons]

/-- A statement that drops an object is one line if the name of the object is. -/
lemma isLine_dropStatement {h : Header} (hname : IsLine h.name) : IsLine h.dropStatement := by
  have hkind : IsLine h.kind.keyword := by cases h.kind <;> decide
  unfold IsLine at hname hkind ⊢
  unfold Header.dropStatement
  simp [hname, hkind]

/-- A statement that drops an object creates none. -/
lemma opening_dropStatement (h : Header) : Line.opening h.dropStatement = .inner :=
  Line.opening_eq_inner_iff.2 rfl

/-- A statement that drops an object ends. -/
lemma isTerminated_dropStatement (h : Header) : Line.isTerminated h.dropStatement = true := by
  have hsplit : h.dropStatement =
      ("DROP ".toList ++ (h.kind.keyword ++ ' ' :: h.name)) ++ [';'] := by
    simp [Header.dropStatement]
  rw [hsplit, Line.isTerminated_concat _ (by decide)]
  decide

/-- What takes the place of a line consists of lines. -/
lemma isLine_of_mem_preparedLines {l m : Text} (hl : IsLine l)
    (hm : m ∈ preparedLines drop guard l) : IsLine m := by
  unfold preparedLines at hm
  cases hp : Header.parse? l with
  | none =>
    rw [hp] at hm
    rwa [List.mem_singleton.1 hm]
  | some p =>
    obtain ⟨hopening, hname, hrest⟩ := Header.isLine_of_parse? hl hp
    have hrender : IsLine ((p.1.guardedIf guard).render ++ p.2) := by
      have hguard : IsLine (Header.optional (p.1.guardedIf guard).guarded Header.guardKeyword) := by
        unfold Header.optional
        split <;> decide
      unfold IsLine at hguard hopening hname hrest ⊢
      unfold Header.render
      simp only [List.mem_append, not_or]
      exact ⟨⟨hopening, hguard, hname⟩, hrest⟩
    rw [hp] at hm
    rcases List.mem_append.1 hm with hm | hm
    · split at hm
      · rcases List.mem_cons.1 hm with rfl | hm
        · exact isLine_dropStatement hname
        · rw [List.mem_singleton.1 hm]
          exact isLine_nil
      · exact absurd hm List.not_mem_nil
    · rwa [List.mem_singleton.1 hm]

end Prepare

/-- Headers are prepared line by line. -/
theorem prepareHeaders_ofLines (flags : Flags) {ls : List Text} (hls : ∀ l ∈ ls, IsLine l) :
    prepareHeaders flags (ofLines ls) =
      ofLines (ls.flatMap (preparedLines (flags.isOn .dropTable) (flags.isOn .ifNotExists))) := by
  unfold prepareHeaders
  rw [substituteHeaders_ofLines hls, ofLines_flatMap fun l => preparedLines_ne_nil l]
  exact congrArg ofLines (List.map_congr_left fun l _ => substituteLine_prepared l)

end DdlDump
