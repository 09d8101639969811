import DdlDump.Proofs.View.Depth
import DdlDump.View.Order

/-!
# Putting names in levels

Names are put in levels by taking away, again and again, those that read from nothing that is still
there (`Levelled`). Where names have depths, the names that are taken first have depth zero, those
taken next have depth one, and so on (`Levelled.listsDepths`). Where names read from each other in a
circle, none of them is ever taken (`Levelled.error_of_circle`).
-/

namespace DdlDump

namespace Dependent

/-- What putting names in levels comes to. A level holds the names of what is ready, and the levels
behind it are those of what is blocked; where nothing is ready, there is a circle. -/
inductive Levelled : List Dependent → Except Text (List (List Text)) → Prop
  | done : Levelled [] (.ok [])
  | circle {pending : List Dependent} (reason : Text) (hne : pending ≠ [])
      (hready : ready pending = []) : Levelled pending (.error reason)
  | level {pending : List Dependent} {level : List Text}
      {behind : Except Text (List (List Text))} (hready : ready pending ≠ [])
      (hlevel : ∀ t, t ∈ level ↔ ∃ d ∈ ready pending, d.name = t)
      (hbehind : Levelled (blocked pending) behind) : Levelled pending (behind.map (level :: ·))

/-- Names that are distinct, and read from each other alone and not from themselves. -/
structure IsGraph (pending : List Dependent) : Prop where
  nodup : (pending.map name).Nodup
  closed : ∀ d ∈ pending, ∀ s ∈ d.sources, s ≠ d.name ∧ ∃ e ∈ pending, e.name = s

/-- What is asked of a way of putting names in levels. -/
def IsTopological (levels : Levelling) : Prop :=
  ∀ pending, IsGraph pending → Levelled pending (levels pending)

/-- Taking ready names away level by level does so. -/
theorem isTopological_levels : IsTopological levels := by
  have hlevels : ∀ pending, Levelled pending (levels pending) := by
    intro pending
    induction pending using levels.induct with
    | case1 =>
      rw [levels, if_pos rfl]
      exact .done
    | case2 pending hne hready =>
      rw [levels, if_neg hne, dif_pos hready]
      exact .circle _ hne hready
    | case3 pending hne hready ih =>
      rw [levels, if_neg hne, dif_neg hready]
      refine .level hready (fun t => ?_) ih
      exact List.mem_map
  exact fun pending _ => hlevels pending

section Steps

variable {pending : List Dependent} {d : Dependent}

/-- A definition is ready when nothing that it reads from is pending. -/
lemma isReady_iff : isReady pending d = true ↔ ∀ s ∈ d.sources, ∀ e ∈ pending, e.name ≠ s := by
  unfold isReady
  simp only [List.all_eq_true, Bool.not_eq_true', List.any_eq_false, beq_iff_eq, ne_eq]

/-- It is blocked when something that it reads from is pending. -/
lemma mem_blocked_iff :
    d ∈ blocked pending ↔ d ∈ pending ∧ ∃ s ∈ d.sources, ∃ e ∈ pending, e.name = s := by
  unfold blocked
  rw [List.mem_filter, Bool.not_eq_true', ← Bool.not_eq_true, isReady_iff]
  simp only [not_forall, ne_eq, not_not, exists_prop]

end Steps

/-! ### Circles -/

/-- Names of which each reads from another are never ready, so that the levels end in a circle. -/
theorem Levelled.error_of_circle {pending : List Dependent}
    {result : Except Text (List (List Text))} (h : Levelled pending result)
    {inCircle : Text → Prop} (hne : ∃ t, inCircle t)
    (hcircle : ∀ t, inCircle t → ∃ d ∈ pending, d.name = t ∧ ∃ s ∈ d.sources, inCircle s) :
    ∃ reason, result = .error reason := by
  induction h with
  | done =>
    obtain ⟨t, ht⟩ := hne
    obtain ⟨d, hd, -⟩ := hcircle t ht
    exact absurd hd List.not_mem_nil
  | circle reason _ _ => exact ⟨reason, rfl⟩
  | @level pending level behind hready hlevel hbehind ih =>
    have hblocked : ∀ t, inCircle t →
        ∃ d ∈ blocked pending, d.name = t ∧ ∃ s ∈ d.sources, inCircle s := by
      intro t ht
      obtain ⟨d, hd, hname, s, hs, hcs⟩ := hcircle t ht
      obtain ⟨e, he, hename, -⟩ := hcircle s hcs
      exact ⟨d, mem_blocked_iff.2 ⟨hd, s, hs, e, he, hename⟩, hname, s, hs, hcs⟩
    obtain ⟨reason, hreason⟩ := ih hblocked
    exact ⟨reason, by rw [hreason]; rfl⟩

/-! ### Depths -/

/-- Levels that hold the names of each depth, from one depth on. -/
def ListsDepths (graph : List Dependent) (depth : Text → Nat) : Nat → List (List Text) → Prop
  | k, [] => ∀ d ∈ graph, depth d.name < k
  | k, level :: ls =>
    (∀ t, t ∈ level ↔ ∃ d ∈ graph, d.name = t ∧ depth t = k) ∧ ListsDepths graph depth (k + 1) ls

/-- The definitions of a graph that stand at a depth or deeper. -/
def fromDepth (graph : List Dependent) (depth : Text → Nat) (k : Nat) : List Dependent :=
  graph.filter fun d => k ≤ depth d.name

/-- The depths of the names of a graph: a name stands within the first levels when all that it reads
from stands in earlier ones. -/
def HasDepths (graph : List Dependent) (depth : Text → Nat) : Prop :=
  ∀ d ∈ graph, ∀ k, depth d.name ≤ k ↔ ∀ s ∈ d.sources, depth s < k

section Depths

variable {graph : List Dependent} {depth : Text → Nat} (hgraph : IsGraph graph)
  (hdepths : HasDepths graph depth)

include hgraph hdepths

/-- Of the definitions from one depth on, those of just this depth are ready. -/
lemma isReady_fromDepth {k : Nat} {d : Dependent} (hd : d ∈ graph) :
    isReady (fromDepth graph depth k) d = true ↔ depth d.name ≤ k := by
  rw [isReady_iff, hdepths d hd]
  unfold fromDepth
  constructor
  · intro h s hs
    obtain ⟨-, e, he, hname⟩ := hgraph.closed d hd s hs
    by_contra hk
    refine h s hs e (List.mem_filter.2 ⟨he, ?_⟩) hname
    rw [hname, decide_eq_true_eq]
    omega
  · intro h s hs e he hname
    have hk := (List.mem_filter.1 he).2
    rw [hname, decide_eq_true_eq] at hk
    have hs' := h s hs
    omega

/-- Those that are ready stand at this depth. -/
lemma mem_ready_fromDepth {k : Nat} {d : Dependent} :
    d ∈ ready (fromDepth graph depth k) ↔ d ∈ graph ∧ depth d.name = k := by
  unfold ready
  rw [List.mem_filter]
  constructor
  · rintro ⟨hd, hready⟩
    obtain ⟨hgraphd, hk⟩ := List.mem_filter.1 hd
    have hle := (isReady_fromDepth hgraph hdepths hgraphd).1 hready
    have hge : k ≤ depth d.name := of_decide_eq_true hk
    exact ⟨hgraphd, by omega⟩
  · rintro ⟨hd, hk⟩
    refine ⟨List.mem_filter.2 ⟨hd, ?_⟩, (isReady_fromDepth hgraph hdepths hd).2 (by omega)⟩
    rw [decide_eq_true_eq]
    omega

/-- Those that are blocked stand deeper. -/
lemma blocked_fromDepth (k : Nat) :
    blocked (fromDepth graph depth k) = fromDepth graph depth (k + 1) := by
  have hblocked : ∀ d ∈ fromDepth graph depth k,
      (!isReady (fromDepth graph depth k) d) = decide (k + 1 ≤ depth d.name) := by
    intro d hd
    have hready := isReady_fromDepth hgraph hdepths (k := k) (List.mem_filter.1 hd).1
    rw [Bool.eq_iff_iff, Bool.not_eq_true', ← Bool.not_eq_true, hready, decide_eq_true_eq]
    omega
  unfold blocked
  rw [List.filter_congr hblocked]
  unfold fromDepth
  rw [List.filter_filter]
  refine List.filter_congr fun d _ => ?_
  rw [← Bool.decide_and, decide_eq_decide]
  omega

/-- Something is ready as long as something is pending. -/
lemma ready_fromDepth_ne_nil {k : Nat} (hne : fromDepth graph depth k ≠ []) :
    ready (fromDepth graph depth k) ≠ [] := by
  intro hready
  have hdeep : ∀ n, ∀ d ∈ fromDepth graph depth k, depth d.name ≠ n := by
    intro n
    induction n using Nat.strong_induction_on with
    | _ n ih =>
      intro d hd hn
      have hgraphd := (List.mem_filter.1 hd).1
      have hblocked : ¬ depth d.name ≤ k := by
        intro hle
        have hmem : d ∈ ready (fromDepth graph depth k) :=
          List.mem_filter.2 ⟨hd, (isReady_fromDepth hgraph hdepths hgraphd).2 hle⟩
        rw [hready] at hmem
        exact absurd hmem List.not_mem_nil
      rw [hdepths d hgraphd] at hblocked
      push Not at hblocked
      obtain ⟨s, hs, hk⟩ := hblocked
      obtain ⟨-, e, he, hname⟩ := hgraph.closed d hgraphd s hs
      have hlt : depth s < depth d.name := (hdepths d hgraphd _).1 (Nat.le_refl _) s hs
      refine ih (depth s) (hn ▸ hlt) e (List.mem_filter.2 ⟨he, ?_⟩) (by rw [hname])
      rw [hname, decide_eq_true_eq]
      exact hk
  obtain ⟨d, hd⟩ := List.exists_mem_of_ne_nil _ hne
  exact hdeep _ d hd rfl

/-- Names are put in levels by their depths. -/
theorem Levelled.listsDepths {pending : List Dependent}
    {result : Except Text (List (List Text))} (h : Levelled pending result) {k : Nat}
    (hpending : pending = fromDepth graph depth k) :
    ∃ ls, result = .ok ls ∧ ListsDepths graph depth k ls := by
  induction h generalizing k with
  | done =>
    refine ⟨[], rfl, fun d hd => ?_⟩
    by_contra hk
    have hmem : d ∈ fromDepth graph depth k := List.mem_filter.2 ⟨hd, by simpa using hk⟩
    rw [← hpending] at hmem
    exact absurd hmem List.not_mem_nil
  | circle reason hne hready =>
    subst hpending
    exact absurd hready (ready_fromDepth_ne_nil hgraph hdepths hne)
  | @level pending level behind hready hlevel hbehind ih =>
    subst hpending
    obtain ⟨ls, hls, hlists⟩ := ih (blocked_fromDepth hgraph hdepths k)
    refine ⟨level :: ls, by rw [hls]; rfl, fun t => ?_, hlists⟩
    rw [hlevel]
    constructor
    · rintro ⟨d, hd, hname⟩
      obtain ⟨hgraphd, hk⟩ := (mem_ready_fromDepth hgraph hdepths).1 hd
      exact ⟨d, hgraphd, hname, hname ▸ hk⟩
    · rintro ⟨d, hd, hname, hk⟩
      exact ⟨d, (mem_ready_fromDepth hgraph hdepths).2 ⟨hd, hname ▸ hk⟩, hname⟩

end Depths

end Dependent

end DdlDump
