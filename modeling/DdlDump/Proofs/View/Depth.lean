import DdlDump.Text.Basic
import Mathlib.Data.Fintype.Card
import Mathlib.Data.Set.Finite.Basic
import Mathlib.Logic.Relation

/-!
# How deep a name stands

Names read from names. A name that reads from nothing has depth zero; any other stands one deeper
than the deepest name that it reads from (`IsDepth`). Among finitely many names there are such
depths unless names read from each other in a circle (`exists_isDepth`).
-/

namespace DdlDump

/-- Whether one name reads from another. -/
def ReadsFrom (sources : Text → List Text) (t s : Text) : Prop :=
  s ∈ sources t

/-- Whether a name reads from itself, directly or by way of other names. -/
def HasCircle (sources : Text → List Text) : Prop :=
  ∃ t, Relation.TransGen (ReadsFrom sources) t t

/-- Zero for a name that reads from nothing, and otherwise one more than the greatest depth of a
name that it reads from. -/
def IsDepth (sources : Text → List Text) (depth : Text → Nat) : Prop :=
  ∀ t, depth t = ((sources t).map depth).max?.elim 0 (· + 1)

section Depth

variable {sources : Text → List Text} {depth : Text → Nat}

/-- A name stands within the first levels when all that it reads from stands in earlier ones. -/
lemma IsDepth.le_iff (h : IsDepth sources depth) {t : Text} {k : Nat} :
    depth t ≤ k ↔ ∀ s ∈ sources t, depth s < k := by
  rw [h t]
  cases hmax : ((sources t).map depth).max? with
  | none =>
    rw [List.max?_eq_none_iff, List.map_eq_nil_iff] at hmax
    simp [hmax]
  | some m =>
    obtain ⟨hmem, hle⟩ := List.max?_eq_some_iff.1 hmax
    obtain ⟨s, hs, hdepth⟩ := List.mem_map.1 hmem
    rw [Option.elim_some]
    constructor
    · intro hk r hr
      have hr' := hle _ (List.mem_map_of_mem hr)
      omega
    · intro hall
      have hs' := hall s hs
      omega

/-- A name stands deeper than what it reads from. -/
lemma IsDepth.lt (h : IsDepth sources depth) {t s : Text} (hs : s ∈ sources t) :
    depth s < depth t :=
  h.le_iff.1 (Nat.le_refl (depth t)) s hs

/-- Names that read only from names below them do not read from each other in a circle. -/
lemma not_hasCircle_of_forall_lt (depth : Text → Nat)
    (h : ∀ t, ∀ s ∈ sources t, depth s < depth t) : ¬ HasCircle sources := by
  have hlt : ∀ {t s}, Relation.TransGen (ReadsFrom sources) t s → depth s < depth t := by
    intro t s hts
    induction hts with
    | single hs => exact h _ _ hs
    | tail _ hs ih => exact (h _ _ hs).trans ih
  rintro ⟨t, ht⟩
  exact absurd (hlt ht) (Nat.lt_irrefl _)

/-- Names that have depths do not read from each other in a circle. -/
lemma IsDepth.not_hasCircle (h : IsDepth sources depth) : ¬ HasCircle sources :=
  not_hasCircle_of_forall_lt depth fun _ _ => h.lt

/-- Among finitely many names without a circle, no name reads from names without end. -/
lemma wellFounded_of_not_hasCircle {names : List Text}
    (hnames : ∀ t, ∀ s ∈ sources t, s ∈ names) (hcircle : ¬ HasCircle sources) :
    WellFounded fun s t => s ∈ sources t := by
  let below : {t // t ∈ names} → {t // t ∈ names} → Prop :=
    fun s t => Relation.TransGen (ReadsFrom sources) t.1 s.1
  have hfinite : Finite {t // t ∈ names} := names.finite_toSet.to_subtype
  have htrans : IsTrans _ below := ⟨fun _ _ _ hrs hst => hst.trans hrs⟩
  have hirrefl : Std.Irrefl below := ⟨fun t ht => hcircle ⟨t.1, ht⟩⟩
  have hbelow : WellFounded below := Finite.wellFounded_of_trans_of_irrefl below
  have hacc : ∀ t : {t // t ∈ names}, Acc (fun s t => s ∈ sources t) t.1 := by
    intro t
    induction t using hbelow.induction with
    | h t ih =>
      refine Acc.intro t.1 fun s hs => ?_
      exact ih ⟨s, hnames t.1 s hs⟩ (Relation.TransGen.single hs)
  exact ⟨fun t => Acc.intro t fun s hs => hacc ⟨s, hnames t s hs⟩⟩

/-- Finitely many names without a circle have depths. -/
theorem exists_isDepth {names : List Text} (hnames : ∀ t, ∀ s ∈ sources t, s ∈ names)
    (hcircle : ¬ HasCircle sources) : ∃ depth, IsDepth sources depth := by
  have hwf := wellFounded_of_not_hasCircle hnames hcircle
  let step : ∀ t, (∀ s, s ∈ sources t → Nat) → Nat :=
    fun t below => ((sources t).attach.map fun s => below s.1 s.2).max?.elim 0 (· + 1)
  refine ⟨hwf.fix step, fun t => ?_⟩
  rw [hwf.fix_eq step t]
  simp only [step, List.map_attach_eq_pmap, List.pmap_eq_map]

end Depth

end DdlDump
