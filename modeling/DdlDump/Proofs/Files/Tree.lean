import DdlDump.Files.Tree
import Mathlib.Tactic.Common

/-!
# What changes to a tree of files leave alone

Making directories and writing files never takes a directory away, and touches no file but the one
that is written. So a path that leads somewhere leads there afterwards, too (`Spares.locate`). This
is carried by one relation between a tree and a later one (`FileTree.Spares`), which is kept from
one change to the next.
-/

namespace DdlDump

namespace FileTree

/-- Between two trees, no directory has gone, and only at the given places may a file be another
one, or be new or gone. -/
structure Spares (places : Location → Prop) (before after : FileTree) : Prop where
  home : after.home = before.home
  directory : ∀ l, before.node? l = some .directory → after.node? l = some .directory
  file : ∀ l, ¬ places l → ∀ text,
    after.node? l = some (.file text) ↔ before.node? l = some (.file text)

section Spares

variable {places : Location → Prop} {before after : FileTree}

/-- Where nothing is changed, everything is spared. -/
lemma Spares.refl (places : Location → Prop) (tree : FileTree) : tree.Spares places tree :=
  ⟨rfl, fun _ h => h, fun _ _ _ => Iff.rfl⟩

/-- Changes one after the other. -/
lemma Spares.trans {later : FileTree} (h : before.Spares places after)
    (h' : after.Spares places later) : before.Spares places later where
  home := h'.home.trans h.home
  directory l hl := h'.directory l (h.directory l hl)
  file l hl text := (h'.file l hl text).trans (h.file l hl text)

/-- What is spared outside some places is spared outside more of them. -/
lemma Spares.mono {more : Location → Prop} (h : before.Spares places after)
    (hmore : ∀ l, places l → more l) : before.Spares more after where
  home := h.home
  directory := h.directory
  file l hl := h.file l fun hplace => hl (hmore l hplace)

/-- The steps of a path lead through directories, which are all there. -/
lemma Spares.walk (h : before.Spares places after) {l k : Location} {steps : List Text}
    (hwalk : before.walk l steps = .ok k) : after.walk l steps = .ok k := by
  induction steps generalizing l with
  | nil => exact hwalk
  | cons step steps ih =>
    unfold FileTree.walk at hwalk ⊢
    cases hnode : before.node? l with
    | none => simp [hnode] at hwalk
    | some node =>
      cases node with
      | file text => simp [hnode] at hwalk
      | directory =>
        rw [h.directory l hnode]
        simp only [hnode] at hwalk ⊢
        split at hwalk
        · exact absurd hwalk (by simp)
        · next hshort =>
          rw [if_neg hshort]
          exact ih hwalk

/-- A path that leads somewhere goes on to lead there. -/
lemma Spares.locate (h : before.Spares places after) {path : Text} {l : Location}
    (hpath : before.locate path = .ok l) : after.locate path = .ok l := by
  unfold FileTree.locate at hpath ⊢
  cases hfault : Path.fault? path with
  | some e => simp [hfault] at hpath
  | none =>
    simp only [hfault] at hpath ⊢
    rw [h.home]
    exact h.walk hpath

end Spares

/-! ### Single changes -/

/-- What is at a place once a node is put somewhere. -/
lemma node?_put (tree : FileTree) {l : Location} (hl : l ≠ []) (n : Node) (k : Location) :
    (tree.put l n).node? k = if k = l then some n else tree.node? k := by
  by_cases hk : k = l
  · rw [if_pos hk, hk, node?_put_self tree hl]
  · rw [if_neg hk, node?_put_of_ne tree hk]

/-- The root is a directory. -/
lemma node?_root (tree : FileTree) : tree.node? [] = some .directory := by
  unfold node?
  rw [if_pos rfl]

section Write

variable {tree written : FileTree} {path text : Text}

/-- A file is written where its path leads, unless there is a directory. -/
lemma write_eq_ok_iff :
    tree.write path text = .ok written ↔
      ∃ l, tree.locate path = .ok l ∧ tree.node? l ≠ some .directory ∧
        written = tree.put l (.file text) := by
  unfold write
  cases tree.locate path with
  | error e => simp [bind, Except.bind]
  | ok l =>
    simp only [bind, Except.bind, Except.ok.injEq, exists_eq_left']
    cases hnode : tree.node? l with
    | none => simp [pure, Except.pure, eq_comm]
    | some node =>
      cases node with
      | file old => simp [pure, Except.pure, eq_comm]
      | directory => simp

/-- Writing a file changes nothing elsewhere. -/
lemma spares_write (h : tree.write path text = .ok written) :
    tree.Spares (fun l => tree.locate path = .ok l) written := by
  obtain ⟨l, hl, hnode, rfl⟩ := write_eq_ok_iff.1 h
  have hroot : l ≠ [] := by
    rintro rfl
    exact hnode tree.node?_root
  constructor
  · rfl
  · intro k hk
    have hne : k ≠ l := by
      rintro rfl
      exact hnode hk
    rwa [node?_put_of_ne tree hne]
  · intro k hk new
    have hne : k ≠ l := by
      rintro rfl
      exact hk hl
    rw [node?_put_of_ne tree hne]

/-- What was written is found under its path. -/
lemma at?_write (h : tree.write path text = .ok written) :
    written.at? path = some (.file text) := by
  have hspares := spares_write h
  obtain ⟨l, hl, hnode, rfl⟩ := write_eq_ok_iff.1 h
  have hroot : l ≠ [] := by
    rintro rfl
    exact hnode tree.node?_root
  unfold at?
  rw [hspares.locate hl]
  exact node?_put_self tree hroot _

end Write

/-! ### Making directories -/

section Make

variable (tree : FileTree) (path : Text)

/-- A directory is made where its path leads, unless something is there. -/
lemma makeDirectory_eq_ok_iff {made : FileTree} :
    tree.makeDirectory path = .ok made ↔
      ∃ l, tree.locateNew path = .ok l ∧ tree.node? l = none ∧ made = tree.put l .directory := by
  unfold makeDirectory
  cases tree.locateNew path with
  | error e => simp [bind, Except.bind]
  | ok l =>
    simp only [bind, Except.bind, Except.ok.injEq, exists_eq_left']
    cases hnode : tree.node? l with
    | none => simp [pure, Except.pure, eq_comm]
    | some node => simp

/-- A directory is made only where nothing is. -/
lemma spares_makeDirectory {made : FileTree} (h : tree.makeDirectory path = .ok made) :
    tree.Spares (fun _ => False) made := by
  obtain ⟨l, -, hnode, rfl⟩ := (tree.makeDirectory_eq_ok_iff path).1 h
  have hroot : l ≠ [] := by
    rintro rfl
    rw [tree.node?_root] at hnode
    exact absurd hnode (by simp)
  constructor
  · rfl
  · intro k hk
    rw [node?_put tree hroot]
    split
    · rfl
    · exact hk
  · intro k _ text
    rw [node?_put tree hroot]
    split
    · next hk => simp [hk, hnode]
    · rfl

/-- So making sure of one spares everything, whether or not it succeeds. -/
lemma spares_ensureDirectory : tree.Spares (fun _ => False) (tree.ensureDirectory path).tree := by
  unfold ensureDirectory
  cases hmade : tree.makeDirectory path with
  | error e => exact .refl _ tree
  | ok made => exact tree.spares_makeDirectory path hmade

/-- And so does making one after those above it. -/
lemma spares_makeBelow (missing : List Text) :
    tree.Spares (fun _ => False) (tree.makeBelow path missing).tree := by
  induction missing generalizing path with
  | nil => exact tree.spares_ensureDirectory path
  | cons nearest missing ih =>
    have habove := ih nearest
    unfold makeBelow
    simp only
    split
    · exact habove
    · split
      · exact habove
      · exact habove.trans (spares_ensureDirectory _ path)

/-- Making sure of a directory without emptying it spares everything. -/
lemma spares_prepareDirectory :
    tree.Spares (fun _ => False) (tree.prepareDirectory path false).tree := by
  unfold prepareDirectory makeDirectories
  simp only [Bool.false_and, Bool.false_eq_true, if_false]
  split
  · exact tree.spares_makeBelow path _
  · exact .refl _ tree

end Make

end FileTree

end DdlDump
