import DdlDump.Proofs.Partition.ListedPairs

/-!
# Partitions that are told apart by their statements

In the statement that adds a partition, values stand in quotes and nothing is escaped, although a
value may hold quotes, commas and spaces itself. For arbitrary pairs the statement is therefore
ambiguous. For pairs that a row can list it is not (`eq_of_render_eq`): a value that seems to go on
behind its quote would have to go on with a comma, a space and the key of the next pair. But there
is no equals sign behind the space, so that the value would end inside the key, in front of another
quote and another space, and no key holds a space.
-/

namespace DdlDump

open Text

namespace Partition

/-- The pairs behind the first one, as they stand in a statement. -/
def renderOthers (pairs : List (Text × Text)) : Text :=
  pairs.flatMap fun pair => ", ".toList ++ renderPair pair

section Others

variable {pair pair' : Text × Text} {ps qs : List (Text × Text)} {front rest value : Text}

/-- The first pair of a statement, and the others. -/
lemma render_cons (pair : Text × Text) (others : List (Text × Text)) :
    render ⟨pair :: others⟩ = renderPair pair ++ renderOthers others := by
  rw [render, List.map_cons, intercalate_cons_eq_flatMap, List.flatMap_map]
  rfl

/-- The other pairs are a statement of their own, behind a comma and a space. -/
lemma renderOthers_eq_append_render (pair : Text × Text) (others : List (Text × Text)) :
    renderOthers (pair :: others) = ", ".toList ++ render ⟨pair :: others⟩ := by
  simp only [render_cons, renderOthers, List.flatMap_cons, List.append_assoc]

/-- Each starts with a comma, a space, its key, an equals sign and the quoted value. -/
lemma renderOthers_cons (pair : Text × Text) (others : List (Text × Text)) :
    renderOthers (pair :: others) =
      ',' :: ' ' :: (pair.1 ++ '=' :: '\'' :: (pair.2 ++ '\'' :: renderOthers others)) := by
  simp [renderOthers, renderPair]

/-- Any other character behind a pair stands behind a comma, a space and the start of a pair. -/
lemma exists_of_renderOthers_eq {c : Char} (hcomma : c ≠ ',') (hspace : c ≠ ' ')
    (h : renderOthers ps = front ++ c :: rest) :
    ∃ pair ∈ ps, ∃ start behind, front = ',' :: ' ' :: start ∧
      pair.1 ++ '=' :: behind = start ++ c :: rest := by
  cases ps with
  | nil => exact absurd h.symm (by simp [renderOthers])
  | cons pair ps =>
    rw [renderOthers_cons] at h
    match front, h with
    | [], h => exact absurd (List.cons.inj h).1.symm hcomma
    | [_], h => exact absurd (List.cons.inj (List.cons.inj h).2).1.symm hspace
    | d :: e :: start, h =>
      simp only [List.cons_append, List.cons.injEq] at h
      obtain ⟨rfl, rfl, hkey⟩ := h
      exact ⟨pair, List.mem_cons_self, start, _, rfl, hkey⟩

/-- There is no equals sign behind a separator of a value. -/
lemma not_mem_of_mem_dropWhile {c : Char} (hc : isSeparator c = true)
    (hvalue : '=' ∉ (front ++ c :: rest).dropWhile (!isSeparator ·)) : '=' ∉ rest := by
  intro hmem
  apply hvalue
  rw [List.dropWhile_append, List.dropWhile_cons_of_neg (by simp [hc])]
  split
  · exact List.mem_cons_of_mem c hmem
  · exact List.mem_append_right _ (List.mem_cons_of_mem c hmem)

/-- A value does not go on behind the quote that ends it. -/
lemma eq_nil_of_value_append (hps : ∀ pair ∈ ps, IsListable pair)
    (hvalue : '=' ∉ (value ++ front).dropWhile (!isSeparator ·))
    (h : '\'' :: renderOthers ps = front ++ '\'' :: renderOthers qs) : front = [] := by
  cases front with
  | nil => rfl
  | cons c front =>
    rw [List.cons_append, List.cons.injEq] at h
    obtain ⟨rfl, hothers⟩ := h
    obtain ⟨pair, hpair, start, behind, rfl, hkey⟩ :=
      exists_of_renderOthers_eq (by decide) (by decide) hothers
    have hstart : '=' ∉ start := by
      have hsplit : value ++ '\'' :: ',' :: ' ' :: start =
          (value ++ ['\'', ',']) ++ ' ' :: start := by simp
      rw [hsplit] at hvalue
      exact not_mem_of_mem_dropWhile (by decide) hvalue
    -- the value would end inside the next key, since it does not reach the equals sign
    rcases List.append_eq_append_iff.1 hkey with ⟨e, rfl, he⟩ | ⟨e, hsplit, he⟩
    · cases e with
      | nil => exact absurd (List.cons.inj he).1 (by decide)
      | cons d e =>
        obtain ⟨rfl, -⟩ := List.cons.inj he
        exact absurd (by simp) hstart
    · cases e with
      | nil => exact absurd (List.cons.inj he).1 (by decide)
      | cons d e =>
        obtain ⟨-, -, _, -, rfl, -⟩ :=
          exists_of_renderOthers_eq (by decide) (by decide) (List.cons.inj he).2
        have hspace : ' ' ∈ pair.1 := by simp [hsplit]
        exact absurd ((hps pair hpair).key ' ' hspace).2 (by decide)

/-- The first pair of a statement can be told, and so can what stands behind it. -/
lemma eq_of_renderPair_append_eq (hpair : IsListable pair) (hpair' : IsListable pair')
    (hps : ∀ pair ∈ ps, IsListable pair) (hqs : ∀ pair ∈ qs, IsListable pair)
    (h : renderPair pair ++ renderOthers ps = renderPair pair' ++ renderOthers qs) :
    pair = pair' ∧ renderOthers ps = renderOthers qs := by
  have hequal : ∀ {pair}, IsListable pair → '=' ∉ pair.1 :=
    fun hpair hmem => (hpair.key '=' hmem).1 rfl
  simp only [renderPair, List.append_assoc, List.cons_append, List.nil_append] at h
  obtain ⟨hkey, hquoted⟩ := append_cons_inj (hequal hpair) (hequal hpair') h
  have hvalues := (List.cons.inj hquoted).2
  have hvalue : pair.2 = pair'.2 := by
    rcases List.append_eq_append_iff.1 hvalues with
      ⟨front, hsplit, hfront⟩ | ⟨front, hsplit, hfront⟩
    · have hnil := eq_nil_of_value_append hps (hsplit ▸ hpair'.rest) hfront
      rw [hsplit, hnil, List.append_nil]
    · have hnil := eq_nil_of_value_append hqs (hsplit ▸ hpair.rest) hfront
      rw [hsplit, hnil, List.append_nil]
  rw [hvalue] at hvalues
  exact ⟨Prod.ext hkey hvalue, (List.cons.inj (List.append_cancel_left hvalues)).2⟩

/-- The pairs behind the first one can be told. -/
lemma eq_of_renderOthers_eq (hps : ∀ pair ∈ ps, IsListable pair)
    (hqs : ∀ pair ∈ qs, IsListable pair) (h : renderOthers ps = renderOthers qs) : ps = qs := by
  induction ps generalizing qs with
  | nil =>
    cases qs with
    | nil => rfl
    | cons pair' qs =>
      rw [renderOthers_cons] at h
      exact absurd h (by simp [renderOthers])
  | cons pair ps ih =>
    cases qs with
    | nil =>
      rw [renderOthers_cons] at h
      exact absurd h (by simp [renderOthers])
    | cons pair' qs =>
      rw [List.forall_mem_cons] at hps hqs
      simp only [renderOthers, List.flatMap_cons, List.append_assoc,
        List.append_cancel_left_eq] at h
      obtain ⟨rfl, hothers⟩ := eq_of_renderPair_append_eq hps.1 hqs.1 hps.2 hqs.2 h
      rw [ih hps.2 hqs.2 hothers]

/-- Pairs that a row can list can be told from their statement. -/
theorem eq_of_render_eq (hps : ∀ pair ∈ ps, IsListable pair) (hqs : ∀ pair ∈ qs, IsListable pair)
    (h : render ⟨ps⟩ = render ⟨qs⟩) : ps = qs := by
  have hne : ∀ pair (others : List (Text × Text)), render ⟨pair :: others⟩ ≠ render ⟨[]⟩ := by
    intro pair others
    rw [render_cons]
    simp [renderPair, render]
  cases ps with
  | nil =>
    cases qs with
    | nil => rfl
    | cons pair' qs => exact absurd h.symm (hne pair' qs)
  | cons pair ps =>
    cases qs with
    | nil => exact absurd h (hne pair ps)
    | cons pair' qs =>
      apply eq_of_renderOthers_eq hps hqs
      rw [renderOthers_eq_append_render, renderOthers_eq_append_render, h]

end Others

/-- Rows with different pairs never amount to the same pairs in a statement, nor to the same
statement for a table. -/
theorem render_parse_eq_iff (table row row' : Text) :
    ((parse row).render = (parse row').render ↔ parse row = parse row') ∧
      (addStatement table (parse row) = addStatement table (parse row') ↔
        parse row = parse row') := by
  have hrender : (parse row).render = (parse row').render ↔ parse row = parse row' := by
    refine ⟨fun h => ?_, congrArg render⟩
    have hvalues : (parse row).values = (parse row').values :=
      eq_of_render_eq isListable_of_mem_parse isListable_of_mem_parse h
    exact congrArg Partition.mk hvalues
  refine ⟨hrender, fun h => hrender.1 ?_, congrArg (addStatement table)⟩
  have hbehind := List.append_cancel_left (List.append_cancel_left h)
  exact List.append_cancel_right (List.append_cancel_left hbehind)

/-- A value that no row can list imitates a second pair. -/
example :
    render ⟨[("a".toList, "1', b='2".toList)]⟩ =
      render ⟨[("a".toList, "1".toList), ("b".toList, "2".toList)]⟩ ∧
    ¬ IsListable ("a".toList, "1', b='2".toList) := by
  decide

end Partition

end DdlDump
