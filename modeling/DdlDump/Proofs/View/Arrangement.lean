import DdlDump.Dump.Session
import DdlDump.Proofs.View.Levels
import Mathlib.Data.List.Nodup

/-!
# Views behind what they read from

The definitions of a database are sorted by how deep they stand, those that stand equally deep in
the order of listing (`Session.arrangeBy_spec`). So nothing is lost, and every view stands behind
whatever it reads from. Where views read from each other in a circle, the listing stays as it is.
-/

namespace DdlDump

namespace Definition

/-! ### What a view reads from -/

/-- Definitions of distinct names are settled. -/
lemma settled_of_nodup {ds : List Definition} (hnames : (ds.map name).Nodup) : settled ds = ds := by
  induction ds with
  | nil => rfl
  | cons d ds ih =>
    rw [List.map_cons, List.nodup_cons] at hnames
    have hnew : (ds.any fun e => e.name == d.name) = false := by
      rw [List.any_eq_false]
      intro e he hname
      rw [beq_iff_eq] at hname
      exact hnames.1 (hname ▸ List.mem_map_of_mem he)
    unfold settled
    rw [hnew, if_neg (by decide), ih hnames.2]

/-- What is settled is listed. -/
lemma mem_of_mem_settled {ds : List Definition} {d : Definition} (hd : d ∈ settled ds) :
    d ∈ ds := by
  induction ds with
  | nil => exact hd
  | cons e ds ih =>
    unfold settled at hd
    split at hd
    · exact List.mem_cons_of_mem e (ih hd)
    · rcases List.mem_cons.1 hd with rfl | hd
      · exact List.mem_cons_self
      · exact List.mem_cons_of_mem e (ih hd)

/-- Among distinct names, a view reads from the objects that its definition names, but for itself,
and anything else reads from nothing. -/
lemma sources_of_mem (db : Text) {ds : List Definition} (hnames : (ds.map name).Nodup)
    {d : Definition} (hd : d ∈ ds) :
    sources db ds d.name =
      if d.isView then
        (objectsRead db (fun key => (index ds).lookup key) d.ddl).filter (· != d.name)
      else [] := by
  unfold sources
  rw [List.findRev?_eq_find?_reverse]
  cases hfind : ds.reverse.find? fun e => e.name == d.name && e.isView with
  | some e =>
    have he : e ∈ ds := List.mem_reverse.1 (List.mem_of_find?_eq_some hfind)
    have hmatch := List.find?_some hfind
    rw [Bool.and_eq_true, beq_iff_eq] at hmatch
    have hsame : e = d := List.inj_on_of_nodup_map hnames he hd hmatch.1
    subst hsame
    rw [if_pos hmatch.2]
  | none =>
    have hview := List.find?_eq_none.1 hfind d (List.mem_reverse.2 hd)
    rw [beq_self_eq_true, Bool.true_and] at hview
    rw [if_neg hview]

/-- What is found in the listing is listed. -/
lemma mem_of_lookup_index {ds : List Definition} {key s : Text}
    (h : (index ds).lookup key = some s) : ∃ e ∈ ds, e.name = s := by
  obtain ⟨before, after, hindex, -⟩ := List.lookup_eq_some_iff.1 h
  have hmem : (key, s) ∈ index ds := by
    rw [hindex]
    exact List.mem_append_right before List.mem_cons_self
  unfold index at hmem
  obtain ⟨e, he, hpair⟩ := List.mem_map.1 (List.mem_reverse.1 hmem)
  exact ⟨e, he, congrArg Prod.snd hpair⟩

/-- Among names that differ in more than case, each is found by its own. -/
lemma lookup_index {ds : List Definition} (hnames : (ds.map fun d => d.name.lower).Nodup)
    {e : Definition} (he : e ∈ ds) : (index ds).lookup e.name.lower = some e.name := by
  obtain ⟨front, back, rfl⟩ := List.append_of_mem he
  rw [List.map_append, List.map_cons, List.nodup_append, List.nodup_cons] at hnames
  rw [List.lookup_eq_some_iff]
  refine ⟨(back.map fun d => (d.name.lower, d.name)).reverse,
    (front.map fun d => (d.name.lower, d.name)).reverse, by simp [index], ?_⟩
  intro p hp
  obtain ⟨d, hd, rfl⟩ := List.mem_map.1 (List.mem_reverse.1 hp)
  rw [bne_iff_ne]
  intro hsame
  exact hnames.2.1.1 (hsame ▸ List.mem_map_of_mem (f := fun d : Definition => d.name.lower) hd)

/-- What is read from is listed, and is another object. -/
lemma exists_of_mem_sources {db : Text} {ds : List Definition} {t s : Text}
    (hs : s ∈ sources db ds t) : s ≠ t ∧ ∃ e ∈ ds, e.name = s := by
  unfold sources at hs
  split at hs
  · next d _ =>
    obtain ⟨hread, hother⟩ := List.mem_filter.1 hs
    unfold objectsRead at hread
    obtain ⟨r, -, hr⟩ := List.mem_filterMap.1 (List.mem_eraseDups.1 hread)
    refine ⟨by simpa using hother, ?_⟩
    split at hr
    · exact mem_of_lookup_index hr
    · exact absurd hr.symm (Option.some_ne_none s)
  · exact absurd hs List.not_mem_nil

/-- What reads from something is listed. -/
lemma exists_of_sources {db : Text} {ds : List Definition} {t s : Text}
    (hs : s ∈ sources db ds t) : ∃ d ∈ ds, d.name = t := by
  unfold sources at hs
  rw [List.findRev?_eq_find?_reverse] at hs
  split at hs
  · next d hfind =>
    have hmatch := List.find?_some hfind
    rw [Bool.and_eq_true, beq_iff_eq] at hmatch
    exact ⟨d, List.mem_reverse.1 (List.mem_of_find?_eq_some hfind), hmatch.1⟩
  · exact absurd hs List.not_mem_nil

/-- Definitions that read only from names below them do not read from each other in a circle. -/
lemma not_hasCircle_sources {db : Text} {ds : List Definition} (depth : Text → Nat)
    (h : ∀ d ∈ ds, ∀ s ∈ sources db ds d.name, depth s < depth d.name) :
    ¬ HasCircle (sources db ds) := by
  refine not_hasCircle_of_forall_lt depth fun t s hs => ?_
  obtain ⟨d, hd, rfl⟩ := exists_of_sources hs
  exact h d hd s hs

/-- The names of the dependents are those of the listing. -/
lemma map_name_dependents {db : Text} {ds : List Definition} (hnames : (ds.map name).Nodup) :
    (dependents db ds).map Dependent.name = ds.map name := by
  unfold dependents
  rw [settled_of_nodup hnames, List.map_map]
  rfl

/-- What is handed over to be put in levels is a graph. -/
lemma isGraph_dependents {db : Text} {ds : List Definition} (hnames : (ds.map name).Nodup) :
    Dependent.IsGraph (dependents db ds) where
  nodup := by rwa [map_name_dependents hnames]
  closed := by
    intro d hd s hs
    unfold dependents at hd
    rw [settled_of_nodup hnames] at hd
    obtain ⟨e, -, rfl⟩ := List.mem_map.1 hd
    obtain ⟨hother, f, hf, hname⟩ := exists_of_mem_sources hs
    have hlisted : s ∈ (dependents db ds).map Dependent.name := by
      rw [map_name_dependents hnames, ← hname]
      exact List.mem_map_of_mem hf
    exact ⟨hother, List.mem_map.1 hlisted⟩

/-- The depths of names are depths of the graph. -/
lemma hasDepths_dependents {db : Text} {ds : List Definition} {depth : Text → Nat}
    (hdepth : IsDepth (sources db ds) depth) :
    Dependent.HasDepths (dependents db ds) depth := by
  intro d hd k
  obtain ⟨e, -, rfl⟩ := List.mem_map.1 hd
  exact hdepth.le_iff

/-! ### Sorting by depth -/

/-- Definitions sorted by depth, and by their places in the listing where they stand equally deep.
-/
structure IsSortedByDepth (ds : List Definition) (depth : Text → Nat)
    (arranged : List Definition) : Prop where
  perm : arranged.Perm ds
  sorted : arranged.Pairwise fun d e =>
    depth d.name < depth e.name ∨ (depth d.name = depth e.name ∧ ds.idxOf d < ds.idxOf e)

/-- The places of different definitions in a listing are in its order. -/
lemma pairwise_idxOf {ds : List Definition} (hds : ds.Nodup) :
    ds.Pairwise fun d e => ds.idxOf d < ds.idxOf e := by
  rw [List.pairwise_iff_getElem]
  intro i j hi hj hij
  rwa [hds.idxOf_getElem, hds.idxOf_getElem]

section Levels

variable {ds : List Definition} {graph : List Dependent} {depth : Text → Nat}

/-- A level holds the definitions of one depth. -/
lemma ofLevel_eq_filter (hgraph : graph.map Dependent.name = ds.map name) {level : List Text}
    {k : Nat} (hlevel : ∀ t, t ∈ level ↔ ∃ d ∈ graph, d.name = t ∧ depth t = k) :
    ofLevel ds level = ds.filter fun d => depth d.name = k := by
  unfold ofLevel
  refine List.filter_congr fun d hd => ?_
  have hlisted : d.name ∈ graph.map Dependent.name := by
    rw [hgraph]
    exact List.mem_map_of_mem hd
  rw [Bool.eq_iff_iff, List.contains_iff_mem, hlevel, decide_eq_true_eq]
  constructor
  · rintro ⟨-, -, -, hk⟩
    exact hk
  · intro hk
    obtain ⟨e, he, hname⟩ := List.mem_map.1 hlisted
    exact ⟨e, he, hname, hk⟩

/-- Levels of growing depth hold the definitions from one depth on, sorted. -/
lemma sorted_flatMap_ofLevel (hgraph : graph.map Dependent.name = ds.map name) (hds : ds.Nodup)
    {k : Nat} {ls : List (List Text)} (h : Dependent.ListsDepths graph depth k ls) :
    (ls.flatMap (ofLevel ds)).Perm (ds.filter fun d => k ≤ depth d.name) ∧
    (ls.flatMap (ofLevel ds)).Pairwise fun d e =>
      depth d.name < depth e.name ∨ (depth d.name = depth e.name ∧ ds.idxOf d < ds.idxOf e) := by
  induction ls generalizing k with
  | nil =>
    have hnone : (ds.filter fun d => k ≤ depth d.name) = [] := by
      rw [List.filter_eq_nil_iff]
      intro d hd hk
      have hlisted : d.name ∈ graph.map Dependent.name := by
        rw [hgraph]
        exact List.mem_map_of_mem hd
      obtain ⟨e, he, hname⟩ := List.mem_map.1 hlisted
      have hlt := h e he
      rw [hname] at hlt
      rw [decide_eq_true_eq] at hk
      omega
    rw [hnone]
    exact ⟨.nil, .nil⟩
  | cons level ls ih =>
    obtain ⟨hlevel, hbehind⟩ := h
    obtain ⟨hperm, hsorted⟩ := ih hbehind
    rw [List.flatMap_cons, ofLevel_eq_filter hgraph hlevel]
    constructor
    · have hsplit := List.filter_append_perm (fun d : Definition => depth d.name = k)
        (ds.filter fun d => k ≤ depth d.name)
      have hfirst : (ds.filter fun d => k ≤ depth d.name).filter (fun d => depth d.name = k) =
          ds.filter fun d => depth d.name = k := by
        rw [List.filter_filter]
        refine List.filter_congr fun d _ => ?_
        rw [← Bool.decide_and, decide_eq_decide]
        omega
      have hothers : (ds.filter fun d => k ≤ depth d.name).filter (fun d => !depth d.name = k) =
          ds.filter fun d => k + 1 ≤ depth d.name := by
        rw [List.filter_filter]
        refine List.filter_congr fun d _ => ?_
        rw [← decide_not, ← Bool.decide_and, decide_eq_decide]
        omega
      rw [hfirst, hothers] at hsplit
      exact (hperm.append_left _).trans hsplit
    · rw [List.pairwise_append]
      refine ⟨?_, hsorted, ?_⟩
      · have hplaces := (pairwise_idxOf hds).filter fun d => depth d.name = k
        refine hplaces.imp_of_mem fun {d e} hd he hlt => Or.inr ⟨?_, hlt⟩
        have hdk := of_decide_eq_true (List.mem_filter.1 hd).2
        have hek := of_decide_eq_true (List.mem_filter.1 he).2
        exact hdk.trans hek.symm
      · intro d hd e he
        have hdk := of_decide_eq_true (List.mem_filter.1 hd).2
        have hek := of_decide_eq_true (List.mem_filter.1 (hperm.subset he)).2
        exact Or.inl (by omega)

end Levels

/-- What stands less deep stands further in front. -/
lemma IsSortedByDepth.idxOf_lt {ds arranged : List Definition} {depth : Text → Nat}
    (h : IsSortedByDepth ds depth arranged) {d e : Definition} (hd : d ∈ ds) (he : e ∈ ds)
    (hlt : depth e.name < depth d.name) : arranged.idxOf e < arranged.idxOf d := by
  have hdmem : d ∈ arranged := h.perm.mem_iff.2 hd
  have hemem : e ∈ arranged := h.perm.mem_iff.2 he
  by_contra hle
  rcases Nat.lt_or_eq_of_le (Nat.le_of_not_lt hle) with hbefore | hsame
  · have hsorted := List.pairwise_iff_getElem.1 h.sorted _ _ (List.idxOf_lt_length_iff.2 hdmem)
      (List.idxOf_lt_length_iff.2 hemem) hbefore
    rw [List.getElem_idxOf, List.getElem_idxOf] at hsorted
    omega
  · rw [List.idxOf_inj hdmem] at hsame
    rw [hsame] at hlt
    exact absurd hlt (Nat.lt_irrefl _)

end Definition

open Definition

section Session

variable {levels : Levelling} {db : Text} {ds : List Definition}

/-- Whatever the order, no definition is put in that is not listed. -/
lemma Session.mem_of_mem_arrangeBy {d : Definition} (hd : d ∈ (arrangeBy levels db ds).value) :
    d ∈ ds := by
  unfold arrangeBy Definition.arrangeBy at hd
  cases hlevels : levels (dependents db ds) with
  | error reason =>
    rw [hlevels] at hd
    exact hd
  | ok ls =>
    rw [hlevels] at hd
    obtain ⟨level, -, hlevel⟩ := List.mem_flatMap.1 hd
    exact mem_of_mem_settled (List.mem_filter.1 hlevel).1

/-- Where names have depths, the definitions are sorted by them. -/
lemma Session.isSortedByDepth_arrangeBy (hlevels : Dependent.IsTopological levels)
    (hnames : (ds.map Definition.name).Nodup) {depth : Text → Nat}
    (hdepth : IsDepth (sources db ds) depth) :
    IsSortedByDepth ds depth (arrangeBy levels db ds).value := by
  have hgraph : Dependent.IsGraph (dependents db ds) := isGraph_dependents hnames
  have hall : dependents db ds = Dependent.fromDepth (dependents db ds) depth 0 := by
    unfold Dependent.fromDepth
    simp
  obtain ⟨ls, hls, hlists⟩ :=
    (hlevels _ hgraph).listsDepths hgraph (hasDepths_dependents hdepth) hall
  have hvalue : (arrangeBy levels db ds).value = ls.flatMap (ofLevel ds) := by
    unfold arrangeBy Definition.arrangeBy
    rw [hls, settled_of_nodup hnames]
    rfl
  obtain ⟨hperm, hsorted⟩ := sorted_flatMap_ofLevel (map_name_dependents hnames)
    (hnames.of_map _) hlists
  have hfilter : (ds.filter fun d => 0 ≤ depth d.name) = ds := by simp
  rw [hfilter] at hperm
  rw [hvalue]
  exact ⟨hperm, hsorted⟩

/-- Where names read from each other in a circle, the definitions stay as they are listed. -/
lemma Session.arrangeBy_of_hasCircle (hlevels : Dependent.IsTopological levels)
    (hnames : (ds.map Definition.name).Nodup) (hcircle : HasCircle (sources db ds)) :
    (arrangeBy levels db ds).value = ds := by
  have hmembers : ∀ t, Relation.TransGen (ReadsFrom (sources db ds)) t t →
      ∃ d ∈ dependents db ds, d.name = t ∧
        ∃ s ∈ d.sources, Relation.TransGen (ReadsFrom (sources db ds)) s s := by
    intro t ht
    obtain ⟨s, hs, hback⟩ := Relation.TransGen.head'_iff.1 ht
    obtain ⟨d, hd, hname⟩ := exists_of_sources hs
    refine ⟨⟨d.name, sources db ds d.name⟩, ?_, hname, s, hname ▸ hs,
      Relation.TransGen.tail' hback hs⟩
    unfold dependents
    rw [settled_of_nodup hnames]
    exact List.mem_map_of_mem hd
  obtain ⟨reason, hreason⟩ :=
    (hlevels _ (isGraph_dependents hnames)).error_of_circle hcircle hmembers
  unfold arrangeBy Definition.arrangeBy
  rw [hreason]
  rfl

/-- Names that do not read from each other in a circle have depths. -/
lemma Session.exists_isDepth_sources (hcircle : ¬ HasCircle (sources db ds)) :
    ∃ depth, IsDepth (sources db ds) depth := by
  have hlisted : ∀ t, ∀ s ∈ sources db ds t, s ∈ ds.map Definition.name := by
    intro t s hs
    obtain ⟨-, e, he, rfl⟩ := exists_of_mem_sources hs
    exact List.mem_map_of_mem he
  exact exists_isDepth hlisted hcircle

/-- Whether or not there is a circle, nothing is lost and nothing is put in twice. -/
lemma Session.perm_arrangeBy (hlevels : Dependent.IsTopological levels)
    (hnames : (ds.map Definition.name).Nodup) : (arrangeBy levels db ds).value.Perm ds := by
  by_cases hcircle : HasCircle (sources db ds)
  · rw [Session.arrangeBy_of_hasCircle hlevels hnames hcircle]
  · obtain ⟨depth, hdepth⟩ := Session.exists_isDepth_sources hcircle
    exact (Session.isSortedByDepth_arrangeBy hlevels hnames hdepth).perm

/-- Without a circle, what a definition reads from stands in front of it. -/
lemma Session.idxOf_lt_of_mem_sources (hlevels : Dependent.IsTopological levels)
    (hnames : (ds.map Definition.name).Nodup) (hcircle : ¬ HasCircle (sources db ds))
    {d e : Definition} (hd : d ∈ ds) (he : e ∈ ds) (hread : e.name ∈ sources db ds d.name) :
    (arrangeBy levels db ds).value.idxOf e < (arrangeBy levels db ds).value.idxOf d := by
  obtain ⟨depth, hdepth⟩ := Session.exists_isDepth_sources hcircle
  have harranged := Session.isSortedByDepth_arrangeBy hlevels hnames hdepth
  exact harranged.idxOf_lt hd he (hdepth.lt hread)

end Session

/-- For whatever way of putting names in levels, the definitions of a database are sorted by depth,
with every view behind what it reads from, unless views read from each other in a circle, and then
the listing stays as it is. -/
theorem Session.arrangeBy_spec {levels : Levelling} (hlevels : Dependent.IsTopological levels)
    (db : Text) {ds : List Definition} (hnames : (ds.map Definition.name).Nodup) :
    (∀ d ∈ ds, sources db ds d.name =
      if d.isView then
        (objectsRead db (fun key => (index ds).lookup key) d.ddl).filter (· != d.name)
      else []) ∧
    (¬ HasCircle (sources db ds) → ∃ depth, IsDepth (sources db ds) depth ∧
      IsSortedByDepth ds depth (arrangeBy levels db ds).value ∧
      ∀ d ∈ ds, ∀ s ∈ sources db ds d.name, ∃ e ∈ ds, e.name = s ∧
        (arrangeBy levels db ds).value.idxOf e < (arrangeBy levels db ds).value.idxOf d) ∧
    (HasCircle (sources db ds) → (arrangeBy levels db ds).value = ds) := by
  refine ⟨fun d hd => sources_of_mem db hnames hd, fun hcircle => ?_,
    Session.arrangeBy_of_hasCircle hlevels hnames⟩
  have hlisted : ∀ t, ∀ s ∈ sources db ds t, s ∈ ds.map Definition.name := by
    intro t s hs
    obtain ⟨-, e, he, rfl⟩ := exists_of_mem_sources hs
    exact List.mem_map_of_mem he
  obtain ⟨depth, hdepth⟩ := exists_isDepth hlisted hcircle
  have harranged := Session.isSortedByDepth_arrangeBy hlevels hnames hdepth
  refine ⟨depth, hdepth, harranged, fun d hd s hs => ?_⟩
  obtain ⟨-, e, he, rfl⟩ := exists_of_mem_sources hs
  exact ⟨e, he, rfl, harranged.idxOf_lt hd he (hdepth.lt hs)⟩

/-- A view that is listed in front of the view that it reads from, and both in front of a table. -/
def listedBackwards : List Definition :=
  [⟨"v".toList, "CREATE VIEW v AS SELECT * FROM W JOIN t;".toList⟩,
    ⟨"w".toList, "CREATE VIEW w AS SELECT * FROM d.t;".toList⟩,
    ⟨"t".toList, "CREATE TABLE t(a int);".toList⟩]

/-- The depths of these names. -/
def depthBackwards (t : Text) : Nat :=
  if t = "v".toList then 2 else if t = "w".toList then 1 else 0

/-- Such views are put behind the table, in the order in which they read from each other. -/
theorem Session.arrangeBy_levels_listedBackwards :
    let reads := sources "d".toList listedBackwards
    let arranged := (arrangeBy Dependent.levels "d".toList listedBackwards).value
    Dependent.IsTopological Dependent.levels ∧ (listedBackwards.map Definition.name).Nodup ∧
    ¬ HasCircle reads ∧
    (∃ depth, IsDepth reads depth ∧ IsSortedByDepth listedBackwards depth arranged) ∧
    arranged.map Definition.name = ["t", "w", "v"].map String.toList := by
  intro reads arranged
  have hnames : (listedBackwards.map Definition.name).Nodup := by decide
  have hdepth : IsDepth reads depthBackwards := by
    intro t
    by_cases ht : t ∈ listedBackwards.map Definition.name
    · have hlisted : ∀ t ∈ listedBackwards.map Definition.name,
          depthBackwards t = ((reads t).map depthBackwards).max?.elim 0 (· + 1) := by
        decide +kernel
      exact hlisted t ht
    · have hnone : reads t = [] := by
        by_contra hne
        obtain ⟨s, hs⟩ := List.exists_mem_of_ne_nil _ hne
        obtain ⟨d, hd, rfl⟩ := exists_of_sources hs
        exact ht (List.mem_map_of_mem hd)
      have hv : t ≠ "v".toList := fun h => ht (h ▸ by decide)
      have hw : t ≠ "w".toList := fun h => ht (h ▸ by decide)
      unfold depthBackwards
      rw [hnone, if_neg hv, if_neg hw]
      rfl
  obtain ⟨-, harranged, -⟩ := arrangeBy_spec Dependent.isTopological_levels "d".toList hnames
  obtain ⟨depth, hdepth', hsorted, -⟩ := harranged hdepth.not_hasCircle
  exact ⟨Dependent.isTopological_levels, hnames, hdepth.not_hasCircle, ⟨depth, hdepth', hsorted⟩,
    by decide +kernel⟩

end DdlDump
