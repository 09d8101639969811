import DdlDump.Ddl.Scan
import DdlDump.Proofs.Ddl.Line

/-!
# What a pass puts out

The lines that a pass puts out for some lines depend on what it remembers when it meets the first of
them (`Pass.emit`). Everything that is proved about whole scripts rests on the one step below: a
line is either copied, as part of a copied statement, or treated by the pass in its region. A pass
that copies is in no region (`Cursor.Coherent`), so that nothing of a copied statement is left over
when it ends.
-/

namespace DdlDump

open Text

namespace Cursor

/-- A pass that copies a statement is in no region of it. -/
def Coherent (c : Cursor) : Prop :=
  c.skipping = true → c.region = .passing

/-- Before the first line nothing is copied. -/
lemma coherent_start : start.Coherent :=
  fun _ => rfl

/-- Where nothing is copied, the region is free. -/
lemma coherent_of_not_skipping {c : Cursor} (hc : c.skipping = false) : c.Coherent := by
  intro hskip
  rw [hc] at hskip
  exact absurd hskip (by decide)

/-- Copying begins in no region. -/
lemma Coherent.enter {c : Cursor} (hc : c.Coherent) (l : Text) : (c.enter l).Coherent := by
  unfold Cursor.enter
  cases Line.opening l with
  | recognised => exact coherent_of_not_skipping rfl
  | unrecognised => exact fun _ => rfl
  | inner => exact hc

/-- Noticing how a line opens changes the region only where copying begins. -/
lemma region_enter {c : Cursor} {l : Text} (h : (c.enter l).skipping = false) :
    (c.enter l).region = c.region := by
  unfold Cursor.enter at h ⊢
  cases hl : Line.opening l with
  | recognised => rfl
  | unrecognised => simp [hl] at h
  | inner => rfl

/-- Whether copying begins or ends with a line does not depend on the region. -/
lemma skipping_enter_eq (r s : Region) (copying : Bool) (l : Text) :
    (enter ⟨r, copying⟩ l).skipping = (enter ⟨s, copying⟩ l).skipping := by
  unfold enter
  cases Line.opening l <;> rfl

/-- Copying ends in front of a header and nowhere else. -/
lemma opening_of_skipping_enter {c : Cursor} {l : Text} (hc : c.skipping = true)
    (h : (c.enter l).skipping = false) : Line.opening l = .recognised := by
  unfold enter at h
  cases hl : Line.opening l with
  | recognised => rfl
  | unrecognised => simp [hl] at h
  | inner => simp [hl, hc] at h

/-- An inner line is noticed by no one. -/
lemma enter_of_inner {c : Cursor} {l : Text} (hl : Line.opening l = .inner) : c.enter l = c := by
  unfold Cursor.enter
  rw [hl]

/-- After a line that is not an unrecognised CREATE line, a pass that copied nothing goes on so. -/
lemma skipping_enter {c : Cursor} {l : Text} (hc : c.skipping = false)
    (hl : Line.opening l ≠ .unrecognised) : (c.enter l).skipping = false := by
  unfold Cursor.enter
  cases ho : Line.opening l with
  | recognised => rfl
  | unrecognised => exact absurd ho hl
  | inner => exact hc

end Cursor

namespace Pass

variable {pass : Pass} {c : Cursor}

/-! ### One line -/

/-- A line of a copied statement is put out as it is. -/
lemma visit_of_skipping {l : Text} (h : (c.enter l).skipping = true) :
    pass.visit c l = ⟨l, some l, ⟨(c.enter l).region, !Line.isTerminated l⟩⟩ := by
  unfold visit
  simp only [h, if_true]

/-- Any other line is treated by the pass, in its region. -/
lemma visit_of_not_skipping {l : Text} (h : (c.enter l).skipping = false) :
    pass.visit c l = ⟨l, (pass c.region l).1, ⟨(pass c.region l).2, false⟩⟩ := by
  unfold visit
  simp only [h, Cursor.region_enter h, Bool.false_eq_true, if_false]

/-- A pass that copies nothing treats a line, unless copying begins there. -/
lemma visit_of_opening {l : Text} {r : Region} (hl : Line.opening l ≠ .unrecognised) :
    pass.visit ⟨r, false⟩ l = ⟨l, (pass r l).1, ⟨(pass r l).2, false⟩⟩ :=
  visit_of_not_skipping (Cursor.skipping_enter rfl hl)

/-- One line leaves a pass coherent. -/
lemma coherent_visit (hc : c.Coherent) (l : Text) : (pass.visit c l).cursor.Coherent := by
  cases h : (c.enter l).skipping with
  | false =>
    rw [visit_of_not_skipping h]
    exact Cursor.coherent_of_not_skipping rfl
  | true =>
    rw [visit_of_skipping h]
    exact fun _ => hc.enter l h

/-- Copying goes on behind a line that is copied, unless a statement ends there. This is the same
for all passes. -/
lemma skipping_visit (l : Text) :
    (pass.visit c l).cursor.skipping = ((c.enter l).skipping && !Line.isTerminated l) := by
  cases h : (c.enter l).skipping with
  | false =>
    rw [visit_of_not_skipping h]
    rfl
  | true =>
    rw [visit_of_skipping h]
    rfl

/-- A line that begins a copied statement is put out whatever went before. -/
lemma visit_of_unrecognised {l : Text} (hl : Line.opening l = .unrecognised) :
    pass.visit c l = ⟨l, some l, ⟨.passing, !Line.isTerminated l⟩⟩ := by
  have henter : c.enter l = ⟨.passing, true⟩ := by
    unfold Cursor.enter
    rw [hl]
  rw [visit_of_skipping (by rw [henter]), henter]

/-- A coherent pass that copies a line is in no region afterwards. -/
lemma visit_of_copied (hc : c.Coherent) {l : Text} (h : (c.enter l).skipping = true) :
    pass.visit c l = ⟨l, some l, ⟨.passing, !Line.isTerminated l⟩⟩ := by
  rw [visit_of_skipping h, hc.enter l h]

/-- A line inside a copied statement is put out. -/
lemma visit_of_inner {l : Text} (hl : Line.opening l = .inner) :
    pass.visit ⟨.passing, true⟩ l = ⟨l, some l, ⟨.passing, !Line.isTerminated l⟩⟩ := by
  have henter := Cursor.enter_of_inner (c := ⟨.passing, true⟩) hl
  rw [visit_of_skipping (by rw [henter]), henter]

/-! ### Many lines -/

/-- The lines that a pass puts out for lines. -/
def emit (pass : Pass) (c : Cursor) (ls : List Text) : List Text :=
  outputs (pass.visits c ls)

@[simp]
lemma emit_nil : pass.emit c [] = [] :=
  rfl

/-- The first line, and what is put out for the others. -/
lemma emit_cons (l : Text) (ls : List Text) :
    pass.emit c (l :: ls) =
      (pass.visit c l).output?.toList ++ pass.emit (pass.visit c l).cursor ls := by
  unfold emit outputs
  rw [visits, List.filterMap_cons]
  cases (pass.visit c l).output? <;> rfl

@[simp]
lemma after_nil : pass.after c [] = c :=
  rfl

@[simp]
lemma after_cons (l : Text) (ls : List Text) :
    pass.after c (l :: ls) = pass.after (pass.visit c l).cursor ls :=
  rfl

/-- Meeting more lines goes on from what is remembered after the first ones. -/
lemma after_append (ls ms : List Text) :
    pass.after c (ls ++ ms) = pass.after (pass.after c ls) ms := by
  unfold after
  rw [List.foldl_append]

/-- What is put out for two groups of lines. -/
lemma emit_append (ls ms : List Text) :
    pass.emit c (ls ++ ms) = pass.emit c ls ++ pass.emit (pass.after c ls) ms := by
  unfold emit outputs
  rw [visits_append, List.filterMap_append]

/-- Lines that a pass leaves as they are, in the region in which it begins, leave the pass as it was
in the beginning. -/
lemma emit_of_passing {ls : List Text} (hopening : ∀ l ∈ ls, Line.opening l ≠ .unrecognised)
    (hpass : ∀ l ∈ ls, pass .passing l = (some l, .passing)) :
    pass.emit .start ls = ls ∧ pass.after .start ls = .start := by
  induction ls with
  | nil => exact ⟨rfl, rfl⟩
  | cons l ls ih =>
    obtain ⟨hemit, hafter⟩ := ih (fun k hk => hopening k (List.mem_cons_of_mem l hk))
      fun k hk => hpass k (List.mem_cons_of_mem l hk)
    have hvisit : pass.visit .start l = ⟨l, some l, .start⟩ := by
      rw [Cursor.start, visit_of_opening (hopening l List.mem_cons_self),
        hpass l List.mem_cons_self]
    rw [emit_cons, after_cons, hvisit]
    exact ⟨congrArg (l :: ·) hemit, hafter⟩

/-- What holds of the lines that a pass meets, and of what it puts out for such lines, holds of all
that it puts out. -/
lemma forall_mem_emit {P : Text → Prop} (hpass : ∀ {r l m}, P l → (pass r l).1 = some m → P m)
    {ls : List Text} (hls : ∀ l ∈ ls, P l) : ∀ m ∈ pass.emit c ls, P m := by
  induction ls generalizing c with
  | nil => exact fun m hm => absurd hm List.not_mem_nil
  | cons l ls ih =>
    rw [List.forall_mem_cons] at hls
    intro m hm
    rw [emit_cons, List.mem_append, Option.mem_toList] at hm
    rcases hm with hm | hm
    · cases h : (c.enter l).skipping with
      | false =>
        rw [visit_of_not_skipping h] at hm
        exact hpass hls.1 hm
      | true =>
        rw [visit_of_skipping h, Option.some.injEq] at hm
        exact hm ▸ hls.1
    · exact ih hls.2 m hm

/-- What can be counted line by line is kept by a pass that keeps it for every line. -/
lemma additive_emit {f : List Text → Nat} {P : Text → Prop}
    (hadd : ∀ ls ms, f (ls ++ ms) = f ls + f ms)
    (hpass : ∀ r l, P l → f (pass r l).1.toList = f [l])
    {ls : List Text} (hls : ∀ l ∈ ls, P l) (c : Cursor) : f (pass.emit c ls) = f ls := by
  induction ls generalizing c with
  | nil => rfl
  | cons l ls ih =>
    rw [List.forall_mem_cons] at hls
    have hfirst : f (pass.visit c l).output?.toList = f [l] := by
      cases hskip : (c.enter l).skipping with
      | true =>
        rw [visit_of_skipping hskip]
        rfl
      | false =>
        rw [visit_of_not_skipping hskip]
        exact hpass c.region l hls.1
    rw [emit_cons, hadd, hfirst, ih hls.2]
    exact (hadd [l] ls).symm

/-- No more lines are put out than are met. -/
lemma length_emit_le (ls : List Text) : (pass.emit c ls).length ≤ ls.length := by
  unfold emit outputs
  have hvisits : (pass.visits c ls).length = ls.length := by
    rw [← List.length_map, map_line_visits]
  exact hvisits ▸ List.length_filterMap_le _ _

/-- A pass leaves lines as they are when it puts out the first one and leaves the others. -/
lemma emit_cons_eq_self_iff {l : Text} {ls : List Text} :
    pass.emit c (l :: ls) = l :: ls ↔
      (pass.visit c l).output? = some l ∧ pass.emit (pass.visit c l).cursor ls = ls := by
  rw [emit_cons]
  constructor
  · intro h
    cases hout : (pass.visit c l).output? with
    | none =>
      have hlength : (pass.emit (pass.visit c l).cursor ls).length ≤ ls.length :=
        length_emit_le ls
      rw [hout, Option.toList_none, List.nil_append] at h
      rw [h, List.length_cons] at hlength
      omega
    | some m =>
      rw [hout, Option.toList_some, List.singleton_append, List.cons.injEq] at h
      exact ⟨congrArg some h.1, h.2⟩
  · rintro ⟨hout, hrest⟩
    rw [hout, hrest]
    rfl

/-- What one pass puts out is left as it is by another one, when this holds line by line and a
relation between what the two remember is kept. A line of which the first puts out nothing is not
met by the other. -/
theorem emit_emit_of_step {first second : Pass} {R : Cursor → Cursor → Prop}
    (hnothing : ∀ {c d l}, R c d → (first.visit c l).output? = none →
      R (first.visit c l).cursor d)
    (hline : ∀ {c d l m}, R c d → (first.visit c l).output? = some m →
      (second.visit d m).output? = some m ∧ R (first.visit c l).cursor (second.visit d m).cursor)
    {c d : Cursor} (hcd : R c d) (ls : List Text) :
    second.emit d (first.emit c ls) = first.emit c ls ∧
      R (first.after c ls) (second.after d (first.emit c ls)) := by
  induction ls generalizing c d with
  | nil => exact ⟨rfl, hcd⟩
  | cons l ls ih =>
    rw [emit_cons, after_cons]
    cases hout : (first.visit c l).output? with
    | none => exact ih (hnothing hcd hout)
    | some m =>
      obtain ⟨hm, hkept⟩ := hline hcd hout
      obtain ⟨hrest, hafter⟩ := ih hkept
      rw [Option.toList_some, List.singleton_append, after_cons]
      exact ⟨emit_cons_eq_self_iff.2 ⟨hm, hrest⟩, hafter⟩

/-- Lines leave a pass coherent. -/
lemma coherent_after (hc : c.Coherent) (ls : List Text) : (pass.after c ls).Coherent := by
  induction ls generalizing c with
  | nil => exact hc
  | cons l ls ih => exact ih (coherent_visit hc l)

/-! ### Whole scripts -/

/-- What passes have in common: they put out an empty line where a script starts with one, and they
put out lines for lines. -/
structure Regular (pass : Pass) : Prop where
  blank : (pass .passing []).1 = some []
  isLine : ∀ {r l m}, IsLine l → (pass r l).1 = some m → IsLine m

/-- A regular pass puts out lines. -/
lemma Regular.isLine_of_mem_emit (hpass : pass.Regular) {ls : List Text} (hls : ∀ l ∈ ls, IsLine l)
    {m : Text} (hm : m ∈ pass.emit c ls) : IsLine m :=
  forall_mem_emit hpass.isLine hls m hm

/-- What a regular pass makes of a script, line by line. No lines at all make the same text as an
empty line, and are treated in the same way. -/
theorem Regular.run_ofLines (hpass : pass.Regular) {ls : List Text} (hls : ∀ l ∈ ls, IsLine l) :
    pass.run (ofLines ls) = ofLines (pass.emit .start ls) := by
  unfold run trace
  rcases eq_or_ne ls [] with rfl | hne
  · have hblank : pass.emit .start [[]] = [[]] := by
      have hopening : Line.opening [] ≠ .unrecognised := by simp
      rw [emit_cons, Cursor.start, visit_of_opening hopening, hpass.blank, emit_nil]
      rfl
    have hempty : lines (ofLines []) = [[]] := List.splitOn_nil '\n'
    rw [hempty]
    exact (congrArg ofLines hblank).trans (ofLines_singleton [])
  · rw [lines_ofLines hne hls]
    rfl

end Pass

end DdlDump
