import Mathlib.Data.List.Nodup

/-!
# Lists with repetitions, and lists that can be refused

Taking the repetitions out of a list keeps every element at the place where it first comes up.

Where every element of a list is worked on and may be refused, the whole is refused at the first
element that is, for the reason that this element gives.
-/

namespace DdlDump

section Distinct

variable {α : Type} [BEq α] [LawfulBEq α]

/-- A list without its repetitions has no repetitions. -/
lemma nodup_eraseDups (xs : List α) : xs.eraseDups.Nodup := by
  cases xs with
  | nil => exact List.nodup_nil
  | cons x xs =>
    -- behind its first element the list goes on without that element
    rw [List.eraseDups_cons, List.nodup_cons]
    exact ⟨by simp, nodup_eraseDups _⟩
termination_by xs.length
decreasing_by exact Nat.lt_succ_of_le (List.length_filter_le _ xs)

/-- An element at the end stays when it does not come up before. -/
lemma eraseDups_concat (xs : List α) (x : α) :
    (xs ++ [x]).eraseDups = if x ∈ xs then xs.eraseDups else xs.eraseDups ++ [x] := by
  rw [List.eraseDups_append]
  unfold List.removeAll
  split
  · next h => simp [h]
  · next h => simp [h, List.eraseDups_cons]

/-- A list without repetitions stays as it is. -/
lemma eraseDups_of_nodup {xs : List α} (hxs : xs.Nodup) : xs.eraseDups = xs := by
  induction xs with
  | nil => rfl
  | cons x xs ih =>
    rw [List.nodup_cons] at hxs
    have hothers : xs.filter (fun y => !y == x) = xs :=
      List.filter_eq_self.2 fun y hy => by simpa using ne_of_mem_of_not_mem hy hxs.1
    rw [List.eraseDups_cons, hothers, ih hxs.2]

end Distinct

section Refusal

variable {α β ε : Type} {f : α → Except ε β} {x : α} {xs : List α}

/-- A result goes in front of the results of the other elements. -/
lemma mapM_cons_of_ok {y : β} (hx : f x = .ok y) :
    (x :: xs).mapM f = (xs.mapM f).map (y :: ·) := by
  rw [List.mapM_cons, hx]
  cases xs.mapM f <;> rfl

/-- Behind a refused element nothing counts. -/
lemma mapM_cons_of_error {e : ε} (hx : f x = .error e) : (x :: xs).mapM f = .error e := by
  rw [List.mapM_cons, hx]
  rfl

/-- The whole has results exactly when the first element has one and the others have theirs. -/
lemma mapM_cons_eq_ok_iff {ys : List β} :
    (x :: xs).mapM f = .ok ys ↔ ∃ z zs, ys = z :: zs ∧ f x = .ok z ∧ xs.mapM f = .ok zs := by
  cases hx : f x with
  | error e => simp [mapM_cons_of_error hx]
  | ok y =>
    rw [mapM_cons_of_ok hx]
    cases xs.mapM f with
    | error e => simp [Except.map]
    | ok zs => simp [Except.map, eq_comm]

/-- There are as many results as elements. -/
lemma length_of_mapM_eq_ok {ys : List β} (h : xs.mapM f = .ok ys) : ys.length = xs.length := by
  induction xs generalizing ys with
  | nil =>
    rw [← Except.ok.inj h]
    rfl
  | cons x xs ih =>
    obtain ⟨z, zs, rfl, -, hzs⟩ := mapM_cons_eq_ok_iff.1 h
    rw [List.length_cons, List.length_cons, ih hzs]

/-- Every result is the result of an element. -/
lemma exists_mem_of_mem_mapM {ys : List β} (h : xs.mapM f = .ok ys) {y : β} (hy : y ∈ ys) :
    ∃ x ∈ xs, f x = .ok y := by
  induction xs generalizing ys with
  | nil =>
    rw [← Except.ok.inj h] at hy
    exact absurd hy List.not_mem_nil
  | cons x xs ih =>
    obtain ⟨z, zs, rfl, hz, hzs⟩ := mapM_cons_eq_ok_iff.1 h
    rcases List.mem_cons.1 hy with rfl | hy
    · exact ⟨x, List.mem_cons_self, hz⟩
    · obtain ⟨x', hx', hfx'⟩ := ih hzs hy
      exact ⟨x', List.mem_cons_of_mem x hx', hfx'⟩

/-- The whole is refused exactly when an element is refused that only accepted ones precede. -/
lemma mapM_eq_error_iff {e : ε} :
    xs.mapM f = .error e ↔
      ∃ before y after, xs = before ++ y :: after ∧ (∀ b ∈ before, ∃ z, f b = .ok z) ∧
        f y = .error e := by
  induction xs with
  | nil =>
    constructor
    · intro h
      exact absurd h (by simp [pure, Except.pure])
    · rintro ⟨before, y, after, hxs, -⟩
      simp at hxs
  | cons x xs ih =>
    cases hx : f x with
    | error d =>
      rw [mapM_cons_of_error hx]
      constructor
      · intro h
        rw [Except.error.injEq] at h
        exact ⟨[], x, xs, rfl, by simp, h ▸ hx⟩
      · rintro ⟨before, y, after, hxs, hbefore, hy⟩
        rcases List.cons_eq_append_iff.1 hxs with ⟨rfl, hfirst⟩ | ⟨before, rfl, -⟩
        · rw [(List.cons.inj hfirst).1, hx, Except.error.injEq] at hy
          rw [hy]
        · obtain ⟨z, hz⟩ := hbefore x List.mem_cons_self
          exact absurd (hx.symm.trans hz) (by simp)
    | ok z =>
      have hrest : (xs.mapM f).map (z :: ·) = .error e ↔ xs.mapM f = .error e := by
        cases xs.mapM f <;> simp [Except.map]
      rw [mapM_cons_of_ok hx, hrest, ih]
      constructor
      · rintro ⟨before, y, after, rfl, hbefore, hy⟩
        exact ⟨x :: before, y, after, rfl, List.forall_mem_cons.2 ⟨⟨z, hx⟩, hbefore⟩, hy⟩
      · rintro ⟨before, y, after, hxs, hbefore, hy⟩
        rcases List.cons_eq_append_iff.1 hxs with ⟨rfl, hfirst⟩ | ⟨before, rfl, rfl⟩
        · rw [(List.cons.inj hfirst).1, hx] at hy
          exact absurd hy (by simp)
        · exact ⟨before, y, after, rfl, (List.forall_mem_cons.1 hbefore).2, hy⟩

end Refusal

end DdlDump
