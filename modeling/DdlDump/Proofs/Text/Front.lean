import DdlDump.Proofs.Text.Lines
import Mathlib.Data.List.TakeWhile

/-!
# Taking text off the front of a text

Readers take runs of characters and keywords off the front of a text. A run is known by its
characters and by the character behind it. What is taken off the front of a line does not depend on
the lines behind it, since a line feed neither belongs to a keyword nor satisfies the tests by which
characters are taken.
-/

namespace DdlDump

namespace Text

/-! ### Runs of characters -/

section Run

variable {p : Char → Bool} {run rest : Text}

/-- A run is taken as a whole, and nothing of what is behind it. -/
lemma takeWhile_run_append (hrun : ∀ c ∈ run, p c = true) (hrest : ∀ c ∈ rest.head?, p c = false) :
    (run ++ rest).takeWhile p = run := by
  rw [List.takeWhile_append_of_pos hrun]
  cases rest with
  | nil => exact List.append_nil run
  | cons c rest => rw [List.takeWhile_cons_of_neg (by simp [hrest c rfl]), List.append_nil]

/-- What is behind a run is what is left. -/
lemma dropWhile_run_append (hrun : ∀ c ∈ run, p c = true) (hrest : ∀ c ∈ rest.head?, p c = false) :
    (run ++ rest).dropWhile p = rest := by
  rw [List.dropWhile_append_of_pos hrun]
  cases rest with
  | nil => rfl
  | cons c rest => exact List.dropWhile_cons_of_neg (by simp [hrest c rfl])

/-- What is left does not go on with the run. -/
lemma head?_dropWhile_eq_false (t : Text) : ∀ c ∈ (t.dropWhile p).head?, p c = false := by
  intro c hc
  have hhead := List.head?_dropWhile_not p t
  rw [Option.mem_def] at hc
  rw [hc] at hhead
  simpa using hhead

/-- What stands in front of the first `c` of a text, and what stands behind it. -/
lemma append_cons_inj {c : Char} {a b s t : Text} (ha : c ∉ a) (hb : c ∉ b)
    (h : a ++ c :: s = b ++ c :: t) : a = b ∧ s = t := by
  have hfront : ∀ {a s : Text}, c ∉ a → (a ++ c :: s).takeWhile (· != c) = a := fun ha =>
    takeWhile_run_append (fun d hd => bne_iff_ne.2 (ne_of_mem_of_not_mem hd ha)) (by simp)
  have hsame : a = b := by rw [← hfront ha, h, hfront hb]
  rw [hsame] at h
  exact ⟨hsame, List.cons_inj_right c |>.1 (List.append_cancel_left h)⟩

/-- What is taken off the end of a text is a run. -/
lemma exists_dropRightWhile_append (p : Char → Bool) (t : Text) :
    ∃ tail, (∀ c ∈ tail, p c = true) ∧ t = t.dropRightWhile p ++ tail := by
  refine ⟨(t.reverse.takeWhile p).reverse, fun c hc => ?_, ?_⟩
  · exact List.mem_takeWhile_imp (List.mem_reverse.1 hc)
  · unfold dropRightWhile
    rw [← List.reverse_append, List.takeWhile_append_dropWhile, List.reverse_reverse]

end Run

/-- What holds of the last characters of two texts holds of that of both together. -/
lemma forall_getLast?_append {P : Char → Prop} {s t : Text} (hs : ∀ c ∈ s.getLast?, P c)
    (ht : ∀ c ∈ t.getLast?, P c) : ∀ c ∈ (s ++ t).getLast?, P c := by
  rw [List.getLast?_append]
  cases hlast : t.getLast? with
  | none => exact hs
  | some d => exact fun c hc => ht c (by rwa [hlast])

/-- What holds of the last characters of texts holds of that of all together. -/
lemma forall_getLast?_flatMap {α : Type} {P : Char → Prop} {f : α → Text} {xs : List α}
    (h : ∀ x ∈ xs, ∀ c ∈ (f x).getLast?, P c) : ∀ c ∈ (xs.flatMap f).getLast?, P c := by
  induction xs with
  | nil => simp
  | cons x xs ih =>
    rw [List.forall_mem_cons] at h
    rw [List.flatMap_cons]
    exact forall_getLast?_append h.1 (ih h.2)

/-! ### Keywords -/

/-- A keyword is taken off a text that starts with it. -/
@[simp]
lemma after?_append (k r : Text) : after? (k ++ r) k = some r :=
  after?_eq_some_iff.2 rfl

/-! ### Texts inside a text -/

/-- What stands in a text with a `c` inside stands in front of the `c` or behind it, unless it holds
one itself. -/
lemma isInfix_append_cons {k a b : Text} {c : Char} (hc : c ∉ k) (h : k <:+: a ++ c :: b) :
    k <:+: a ∨ k <:+: b := by
  obtain ⟨s, t, hst⟩ := h
  rw [List.append_assoc] at hst
  rcases List.append_eq_append_iff.1 hst with ⟨d, rfl, hd⟩ | ⟨d, rfl, hd⟩
  · rcases List.append_eq_append_iff.1 hd with ⟨e, rfl, -⟩ | ⟨e, rfl, he⟩
    · exact Or.inl ⟨s, e, by simp⟩
    · cases e with
      | nil => exact Or.inl ⟨s, [], by simp⟩
      | cons x e =>
        rw [List.cons_append, List.cons.injEq] at he
        exact absurd (by simp [he.1]) hc
  · cases d with
    | nil =>
      cases k with
      | nil => exact Or.inl (List.nil_infix)
      | cons x k =>
        rw [List.nil_append, List.cons_append, List.cons.injEq] at hd
        exact absurd (by simp [hd.1]) hc
    | cons x d =>
      rw [List.cons_append, List.cons.injEq] at hd
      exact Or.inr ⟨d, t, by rw [hd.2, List.append_assoc]⟩

/-- What does not start with a character of a run stands behind the run, if it stands in the text at
all. -/
lemma isInfix_of_run_append {p : Char → Bool} {c : Char} {k a b : Text} (hc : p c = false)
    (ha : ∀ d ∈ a, p d = true) (h : c :: k <:+: a ++ b) : c :: k <:+: b := by
  induction a with
  | nil => exact h
  | cons d a ih =>
    rw [List.forall_mem_cons] at ha
    rcases List.infix_cons_iff.1 h with hfront | hbehind
    · have hsame : c = d := (List.cons_prefix_cons.1 hfront).1
      rw [← hsame, hc] at ha
      exact absurd ha.1 Bool.false_ne_true
    · exact ih ha.2 hbehind

/-- What stands in texts in a row stands in one of them, when the last character of each is not one
of its own. -/
lemma exists_isInfix_of_flatten {k : Text} (hk : k ≠ []) {ls : List Text}
    (hls : ∀ l ∈ ls, ∃ front c, l = front ++ [c] ∧ c ∉ k) (h : k <:+: ls.flatten) :
    ∃ l ∈ ls, k <:+: l := by
  induction ls with
  | nil => exact absurd (List.infix_nil.1 h) hk
  | cons l ls ih =>
    rw [List.forall_mem_cons] at hls
    obtain ⟨front, c, rfl, hc⟩ := hls.1
    rw [List.flatten_cons, List.append_assoc, List.singleton_append] at h
    rcases isInfix_append_cons hc h with hfront | hbehind
    · exact ⟨front ++ [c], List.mem_cons_self, hfront.trans (List.prefix_append front [c]).isInfix⟩
    · obtain ⟨m, hm, hin⟩ := ih hls.2 hbehind
      exact ⟨m, List.mem_cons_of_mem _ hm, hin⟩

/-! ### The front of a line -/

/-- A run of characters ends at any character that does not count among them. -/
lemma takeWhile_append_cons {p : Char → Bool} {d : Char} (hd : p d = false) (l m : Text) :
    (l ++ d :: m).takeWhile p = l.takeWhile p := by
  induction l with
  | nil => simp [hd]
  | cons c l ih => simp only [List.cons_append, List.takeWhile_cons, ih]

/-- What follows such a run goes on behind that character. -/
lemma dropWhile_append_cons {p : Char → Bool} {d : Char} (hd : p d = false) (l m : Text) :
    (l ++ d :: m).dropWhile p = l.dropWhile p ++ d :: m := by
  induction l with
  | nil => simp [hd]
  | cons c l ih =>
    simp only [List.cons_append, List.dropWhile_cons, ih]
    split
    · rfl
    · exact List.cons_append

/-- A keyword without line feeds is found on the first line or not at all. -/
lemma after?_append_newline {k : Text} (hk : IsLine k) (l m : Text) :
    after? (l ++ '\n' :: m) k = (after? l k).map (· ++ '\n' :: m) := by
  induction k generalizing l with
  | nil => simp [after?]
  | cons c k ih =>
    unfold IsLine at hk ih
    rw [List.mem_cons, not_or] at hk
    cases l with
    | nil => simp [after?, Ne.symm hk.1]
    | cons d l =>
      simp only [List.cons_append, after?]
      split
      · exact ih hk.2 l
      · rfl

end Text

end DdlDump
