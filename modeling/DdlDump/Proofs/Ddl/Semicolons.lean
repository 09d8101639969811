import DdlDump.Proofs.Ddl.JointStriking

/-!
# The semicolons of a replayable script

Where a script is cut into statements depends on its semicolons alone. In a script whose lines have
a semicolon at their end or nowhere (`EndsOnly`), making it replayable keeps the number of
semicolons, but for one more for each object that is dropped first (`count_prepare`): what is struck
of a line leaves a semicolon exactly when the line has one, and names in quotes bring none.
-/

namespace DdlDump

open Text

/-- A line with a semicolon where a statement ends in it, and with no other. -/
def EndsOnly (l : Text) : Prop :=
  l.count ';' = if Line.isTerminated l then 1 else 0

/-- The number of lines of a script that start with a header. -/
def headerCount (ls : List Text) : Nat :=
  ls.countP fun l => (Statement.parse l).header?.isSome

/-- The headers of two groups of lines. -/
lemma headerCount_append (ls ms : List Text) :
    headerCount (ls ++ ms) = headerCount ls + headerCount ms :=
  List.countP_append

/-- The header of the first line, and those of the others. -/
lemma headerCount_cons (l : Text) (ls : List Text) :
    headerCount (l :: ls) = headerCount [l] + headerCount ls :=
  headerCount_append [l] ls

/-- The semicolons of a text are those of its lines. -/
lemma count_ofLines (ls : List Text) : (ofLines ls).count ';' = ls.flatten.count ';' := by
  induction ls with
  | nil => rfl
  | cons l ls ih =>
    rcases eq_or_ne ls [] with rfl | hne
    · simp
    · have hnewline : List.count ';' ('\n' :: ofLines ls) = List.count ';' (ofLines ls) :=
        List.count_cons_of_ne (by decide)
      rw [ofLines_cons hne, List.count_append, hnewline, ih, List.flatten_cons, List.count_append]

/-! ### Passes -/

/-- The semicolons of two groups of lines. -/
lemma count_flatten_append (ls ms : List Text) :
    (ls ++ ms).flatten.count ';' = ls.flatten.count ';' + ms.flatten.count ';' := by
  rw [List.flatten_append, List.count_append]

/-- Striking keeps the number of semicolons where they end statements. -/
lemma count_keptLines (opens : Text → Bool) {ls : List Text} (hls : ∀ l ∈ ls, EndsOnly l) :
    (keptLines opens ls).flatten.count ';' = ls.flatten.count ';' := by
  refine Pass.additive_emit (f := fun ls => ls.flatten.count ';') count_flatten_append
    (fun r l hl => ?_) hls .start
  unfold EndsOnly at hl
  rw [List.flatten_singleton]
  rcases striking_cases opens r l with h | ⟨hends, h⟩ | ⟨hopen, h⟩
  · rw [h]
    simp
  · rw [h, hl, hends]
    decide
  · rw [h, hl, hopen]
    decide

/-- A name in quotes has the semicolons of the name. -/
lemma count_quoteName (l : Text) : (Column.quoteName l).count ';' = l.count ';' := by
  have hquote : Column.quote ≠ ';' := by decide
  rcases Column.quoteName_cases l with h | ⟨indent, name, rest, hnames, h⟩
  · rw [h]
  · rw [h, hnames.cut, List.count_append, List.count_cons_of_ne hquote, List.count_append,
      List.count_cons_of_ne hquote, List.count_append, List.count_append]

/-- Quoting keeps the number of semicolons. -/
lemma count_quotedLines (ls : List Text) :
    (quotedLines ls).flatten.count ';' = ls.flatten.count ';' := by
  refine Pass.additive_emit (f := fun ls => ls.flatten.count ';') (P := fun _ => True)
    count_flatten_append (fun r l _ => ?_) (fun _ _ => trivial) .start
  rcases Column.quoting_cases r l with h | ⟨-, -, -, h⟩
  · rw [h]
    simp
  · rw [h]
    simp [count_quoteName]

/-! ### Headers -/

section Headers

variable {drop guard : Bool} {l rest : Text} {h : Header}

/-- Keywords hold no semicolon. -/
lemma count_dropStatement (hname : ';' ∉ h.name) : h.dropStatement.count ';' = 1 := by
  have hkind : List.count ';' h.kind.keyword = 0 := by cases h.kind <;> decide
  have hdrop : List.count ';' "DROP ".toList = 0 := by decide
  unfold Header.dropStatement
  rw [List.count_append, hdrop, List.count_append, hkind, List.count_cons_of_ne (by decide),
    List.count_append, List.count_eq_zero.2 hname]
  decide

/-- A guard brings no semicolon. -/
lemma count_guardedIf (guard : Bool) (hp : Header.parse? l = some (h, rest)) :
    ((h.guardedIf guard).render ++ rest).count ';' = l.count ';' := by
  have hguard : ∀ guarded, List.count ';' (Header.optional guarded Header.guardKeyword) = 0 := by
    decide
  rw [← (Header.render_append_of_parse? hp).1]
  unfold Header.render
  simp only [List.count_append, hguard]
  rfl

/-- The lines in the place of a line have its semicolons, and one more where an object is
dropped. -/
lemma count_preparedLines
    (hname : ∀ h rest, Header.parse? l = some (h, rest) → ';' ∉ h.name) :
    (preparedLines drop guard l).flatten.count ';' =
      l.count ';' + if drop then headerCount [l] else 0 := by
  unfold preparedLines headerCount Statement.parse
  cases hp : Header.parse? l with
  | none => cases drop <;> simp [hp]
  | some p =>
    have hguarded := count_guardedIf guard hp
    cases drop with
    | false => simpa using hguarded
    | true =>
      have hdropped := count_dropStatement (hname p.1 p.2 hp)
      have hone : List.countP (fun k => ((Header.parse? k).map Prod.fst).isSome) [l] = 1 := by
        simp [hp]
      simp only [if_true, List.cons_append, List.nil_append, List.flatten_cons, List.flatten_nil,
        List.append_nil, List.count_append, hdropped]
      rw [← List.count_append, hguarded, hone]
      exact Nat.add_comm 1 _

/-- Where a line has a semicolon at its end or nowhere, this holds of the lines in its place. -/
lemma endsOnly_of_mem_preparedLines (hl : EndsOnly l)
    (hname : ∀ h rest, Header.parse? l = some (h, rest) → ';' ∉ h.name) {m : Text}
    (hm : m ∈ preparedLines drop guard l) : EndsOnly m := by
  unfold preparedLines at hm
  cases hp : Header.parse? l with
  | none =>
    rw [hp] at hm
    rwa [List.mem_singleton.1 hm]
  | some p =>
    rw [hp] at hm
    rcases List.mem_append.1 hm with hm | hm
    · split at hm
      · rcases List.mem_cons.1 hm with rfl | hm
        · unfold EndsOnly
          rw [count_dropStatement (hname p.1 p.2 hp), isTerminated_dropStatement]
          rfl
        · rw [List.mem_singleton.1 hm]
          rfl
      · exact absurd hm List.not_mem_nil
    · have hends : Line.isTerminated ((p.1.guardedIf guard).render ++ p.2) =
          Line.isTerminated l := by
        rw [isTerminated_render_append (parse?_guardedIf hp)]
        conv_rhs => rw [← (Header.render_append_of_parse? hp).1]
        rw [isTerminated_render_append hp]
        rfl
      unfold EndsOnly at hl ⊢
      rw [List.mem_singleton.1 hm, count_guardedIf guard hp, hends, hl]

/-- Preparing headers brings one semicolon for each object that is dropped. -/
lemma count_headerLines (flags : Flags) {ls : List Text}
    (hnames : ∀ l ∈ ls, ∀ h rest, Header.parse? l = some (h, rest) → ';' ∉ h.name) :
    (headerLines flags ls).flatten.count ';' =
      ls.flatten.count ';' + if flags.isOn .dropTable then headerCount ls else 0 := by
  induction ls with
  | nil => cases flags.isOn .dropTable <;> rfl
  | cons l ls ih =>
    rw [List.forall_mem_cons] at hnames
    have hcons : headerLines flags (l :: ls) =
        preparedLines (flags.isOn .dropTable) (flags.isOn .ifNotExists) l ++
          headerLines flags ls := List.flatMap_cons
    rw [hcons, List.flatten_append, List.count_append, ih hnames.2, count_preparedLines hnames.1,
      List.flatten_cons, List.count_append, headerCount_cons l ls]
    cases flags.isOn .dropTable with
    | false => simp
    | true =>
      simp only [if_true]
      omega

end Headers

/-! ### Whole scripts -/

/-- A script with semicolons at the ends of lines alone has as many when it is made replayable, and
one more for each object that is dropped first. -/
theorem count_prepare (flags : Flags) {script : Text}
    (hends : ∀ l ∈ lines script, EndsOnly l)
    (hnames : ∀ l ∈ lines script, ∀ h rest, Header.parse? l = some (h, rest) → ';' ∉ h.name) :
    (prepare flags script).count ';' =
      script.count ';' + if flags.isOn .dropTable then headerCount (lines script) else 0 := by
  have hprepared : ∀ m ∈ headerLines flags (lines script), EndsOnly m := by
    intro m hm
    obtain ⟨l, hl, hml⟩ := List.mem_flatMap.1 hm
    exact endsOnly_of_mem_preparedLines (hends l hl) (hnames l hl) hml
  have hscript : script.count ';' = (lines script).flatten.count ';' := by
    rw [← count_ofLines, ofLines_lines]
  rw [prepare_eq_ofLines, count_ofLines, hscript]
  unfold replayableLines
  rw [count_quotedLines, keptByAll_eq_keptLines (struckClauses_subset flags),
    count_keptLines _ hprepared, count_headerLines flags hnames]

end DdlDump
