import DdlDump.Ddl.Statement
import DdlDump.Proofs.Text.Front

/-!
# The texts that start with a header

A text starts with a header exactly when it is the printed header and a rest that does not go on
with its name, where a header without guard must not be one whose name could be read as the guard
(`Header.parse?_eq_some_iff`). Printing and reading are thus inverse to each other.
-/

namespace DdlDump

open Text

namespace Header

/-- A name has at least one character, and none that ends a name. -/
def IsName (n : Text) : Prop :=
  n ≠ [] ∧ ∀ c ∈ n, isNameChar c = true

/-- A text in front of which a name is complete. -/
def EndsName (rest : Text) : Prop :=
  ∀ c ∈ rest.head?, isNameChar c = false

/-- A text that does not start with the guard and a name behind it. -/
def GuardFree (t : Text) : Prop :=
  (after? t guardKeyword).bind parseName? = none

/-- A parenthesis ends a name. -/
lemma endsName_parenthesis (rest : Text) : EndsName ('(' :: rest) := by
  intro c hc
  rw [← Option.some.inj hc]
  decide

/-- A name is not read as the guard, unless a space follows it. -/
lemma guardFree_append {n rest : Text} (hn : ∀ c ∈ n, isNameChar c = true) (hrest : EndsName rest)
    (hspace : rest.head? ≠ some ' ') : GuardFree (n ++ rest) := by
  unfold GuardFree
  cases hafter : after? (n ++ rest) guardKeyword with
  | none => rfl
  | some r =>
    -- the first word of the guard would be the name, with a space behind it
    have hcut := congrArg (List.dropWhile isNameChar) (after?_eq_some_iff.1 hafter)
    rw [dropWhile_run_append hn hrest] at hcut
    exact absurd (congrArg List.head? hcut) hspace

/-! ### Part by part -/

/-- A name is taken up to the first character that ends it. -/
lemma parseName?_eq_some_iff {t n rest : Text} :
    parseName? t = some (n, rest) ↔ t = n ++ rest ∧ IsName n ∧ EndsName rest := by
  constructor
  · intro h
    obtain ⟨hsplit, hne⟩ := append_eq_of_parseName? h
    have hname : n = t.takeWhile isNameChar ∧ rest = t.dropWhile isNameChar := by
      unfold parseName? at h
      split at h
      · exact absurd h.symm (Option.some_ne_none _)
      · next c m hm =>
        rw [Option.some.injEq, Prod.mk.injEq] at h
        exact ⟨h.1.symm.trans hm.symm, h.2.symm⟩
    refine ⟨hsplit.symm, ⟨hne, ?_⟩, ?_⟩
    · intro c hc
      exact List.mem_takeWhile_imp (hname.1 ▸ hc)
    · unfold EndsName
      rw [hname.2]
      exact head?_dropWhile_eq_false t
  · rintro ⟨rfl, ⟨hne, hname⟩, hrest⟩
    obtain ⟨c, m, rfl⟩ := List.exists_cons_of_ne_nil hne
    unfold parseName?
    rw [takeWhile_run_append hname hrest, dropWhile_run_append hname hrest]

/-- The guard is taken where a name follows it. -/
lemma parseGuardedName?_eq_some_iff {t n rest : Text} {guarded : Bool} :
    parseGuardedName? t = some (guarded, n, rest) ↔
      t = optional guarded guardKeyword ++ (n ++ rest) ∧ IsName n ∧ EndsName rest ∧
        (guarded = false → GuardFree (n ++ rest)) := by
  unfold parseGuardedName? GuardFree
  constructor
  · intro h
    cases hbehind : (after? t guardKeyword).bind parseName? with
    | some p =>
      rw [hbehind, Option.some.injEq, Prod.mk.injEq, Prod.mk.injEq] at h
      obtain ⟨rfl, rfl, rfl⟩ := h
      obtain ⟨r, hr, hp⟩ := Option.bind_eq_some_iff.1 hbehind
      obtain ⟨rfl, hname, hrest⟩ := parseName?_eq_some_iff.1 hp
      exact ⟨after?_eq_some_iff.1 hr, hname, hrest, by simp⟩
    | none =>
      rw [hbehind] at h
      obtain ⟨p, hp, he⟩ := Option.map_eq_some_iff.1 h
      rw [Prod.mk.injEq, Prod.mk.injEq] at he
      obtain ⟨rfl, rfl, rfl⟩ := he
      obtain ⟨rfl, hname, hrest⟩ := parseName?_eq_some_iff.1 hp
      exact ⟨rfl, hname, hrest, fun _ => hbehind⟩
  · rintro ⟨rfl, hname, hrest, hguard⟩
    have hparse : parseName? (n ++ rest) = some (n, rest) :=
      parseName?_eq_some_iff.2 ⟨rfl, hname, hrest⟩
    cases guarded with
    | true =>
      have hbehind : (after? (optional true guardKeyword ++ (n ++ rest)) guardKeyword).bind
          parseName? = some (n, rest) := by
        unfold optional
        rw [if_pos rfl, after?_append, Option.bind_some, hparse]
      rw [hbehind]
    | false =>
      have hplain : optional false guardKeyword ++ (n ++ rest) = n ++ rest := rfl
      rw [hplain, hguard rfl, hparse]
      rfl

/-- The kind of an object is told by its keyword. -/
lemma parseKind?_eq_some_iff {t rest : Text} {kind : ObjectKind} :
    ObjectKind.parse? t = some (kind, rest) ↔ t = kind.keyword ++ ' ' :: rest := by
  constructor
  · intro h
    exact (keyword_append_of_parseKind? h).symm
  · rintro rfl
    cases kind <;> rfl

/-- The keyword of external tables is taken where it stands. -/
lemma takeOptional_external (external : Bool) (kind : ObjectKind) (r : Text) :
    takeOptional externalKeyword (optional external externalKeyword ++ (kind.keyword ++ r)) =
      (external, kind.keyword ++ r) := by
  cases external <;> cases kind <;> rfl

/-! ### The whole header -/

/-- The texts that start with a header. -/
theorem parse?_eq_some_iff {t rest : Text} {h : Header} :
    parse? t = some (h, rest) ↔
      t = h.render ++ rest ∧ (∀ c ∈ h.indent, isIndent c = true) ∧ IsName h.name ∧
        EndsName rest ∧ (h.guarded = false → GuardFree (h.name ++ rest)) := by
  constructor
  · intro hp
    have hrender := (render_append_of_parse? hp).1.symm
    unfold parse? at hp
    obtain ⟨body, -, hp⟩ := Option.bind_eq_some_iff.1 hp
    obtain ⟨⟨kind, body'⟩, -, hp⟩ := Option.bind_eq_some_iff.1 hp
    obtain ⟨⟨guarded, name, rest'⟩, hname, hp⟩ := Option.bind_eq_some_iff.1 hp
    rw [Option.pure_def, Option.some.injEq, Prod.mk.injEq] at hp
    obtain ⟨rfl, rfl⟩ := hp
    obtain ⟨-, hname, hrest, hguard⟩ := parseGuardedName?_eq_some_iff.1 hname
    exact ⟨hrender, fun c hc => List.mem_takeWhile_imp hc, hname, hrest, hguard⟩
  · rintro ⟨rfl, hindent, hname, hrest, hguard⟩
    obtain ⟨indent, external, kind, guarded, name⟩ := h
    have hbody : ∀ c ∈ (createKeyword ++ (optional external externalKeyword ++
        (kind.keyword ++ ' ' :: (optional guarded guardKeyword ++ (name ++ rest))))).head?,
        isIndent c = false := by
      intro c hc
      have hfirst : 'C' = c := Option.some.inj hc
      rw [← hfirst]
      decide
    have hkind : ObjectKind.parse?
        (kind.keyword ++ ' ' :: (optional guarded guardKeyword ++ (name ++ rest))) =
          some (kind, optional guarded guardKeyword ++ (name ++ rest)) :=
      parseKind?_eq_some_iff.2 rfl
    have hguarded := parseGuardedName?_eq_some_iff.2 ⟨rfl, hname, hrest, hguard⟩
    have hassoc : render ⟨indent, external, kind, guarded, name⟩ ++ rest =
        indent ++ (createKeyword ++ (optional external externalKeyword ++
          (kind.keyword ++ ' ' :: (optional guarded guardKeyword ++ (name ++ rest))))) := by
      simp [render, opening]
    rw [hassoc]
    unfold parse?
    rw [takeWhile_run_append hindent hbody, dropWhile_run_append hindent hbody, after?_append]
    simp only [Option.bind_eq_bind, Option.bind_some, takeOptional_external, hkind, hguarded,
      Option.pure_def]

end Header

end DdlDump
