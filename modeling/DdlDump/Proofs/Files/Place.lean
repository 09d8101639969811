import DdlDump.Proofs.Files.Tree
import DdlDump.Proofs.Text.Front

/-!
# The places of paths

Since there are no links, the place of a path does not depend on what is in the tree: it is found by
following the steps of the path from the root or from the home directory, whether or not anything is
there (`FileTree.place`). A path that leads somewhere leads to its place (`place_of_locate`).

With places it can be told exactly what the changes to a tree do. Making directories makes nothing
but directories at the places of a path and of the paths above it (`onlyMakes_makeDirectories`),
and renewing a directory takes away what is below its place and nothing else
(`node?_renewDirectory`).
-/

namespace DdlDump

namespace Path

/-! ### The steps of paths -/

/-- The steps on both sides of a slash. -/
lemma steps_append_slash (p q : Text) : steps (p ++ '/' :: q) = steps p ++ steps q := by
  unfold steps
  rw [List.splitOn_append_cons_self, List.filter_append]

/-- A path without slashes is one step. -/
lemma steps_of_not_mem {p : Text} (hne : p ≠ []) (hslash : '/' ∉ p) : steps p = [p] := by
  unfold steps
  rw [List.splitOn_eq_singleton hslash]
  simp [hne]

/-- Slashes at the end of a path add no steps. -/
lemma steps_append_of_slashes {tail : Text} (htail : ∀ c ∈ tail, (c == '/') = true) (p : Text) :
    steps (p ++ tail) = steps p := by
  induction tail generalizing p with
  | nil => rw [List.append_nil]
  | cons c tail ih =>
    rw [List.forall_mem_cons] at htail
    obtain rfl : c = '/' := beq_iff_eq.1 htail.1
    have hnil : steps tail = [] := ih htail.2 []
    rw [steps_append_slash, hnil, List.append_nil]

section Join

variable {dir name : Text}

/-- A name without slashes is put behind a directory, with a slash in between if there is none. -/
lemma join_eq (dir : Text) (hslash : '/' ∉ name) :
    join dir name = dir ++ (if dir = [] ∨ dir.getLast? = some '/' then name else '/' :: name) := by
  have hrelative : name.head? ≠ some '/' := fun hhead => hslash (List.mem_of_mem_head? hhead)
  unfold join
  rw [if_neg (by simpa using hrelative)]
  by_cases hdir : dir = [] ∨ dir.getLast? = some '/'
  · rw [if_pos hdir, if_pos (by simpa using hdir)]
  · rw [if_neg hdir, if_neg (by simpa using hdir)]

/-- The name is one more step. -/
lemma steps_join (dir : Text) (hne : name ≠ []) (hslash : '/' ∉ name) :
    steps (join dir name) = steps dir ++ [name] := by
  rw [join_eq dir hslash]
  split
  · next hdir =>
    rcases hdir with rfl | hlast
    · exact steps_of_not_mem hne hslash
    · obtain ⟨front, rfl⟩ := List.getLast?_eq_some_iff.1 hlast
      rw [List.append_assoc, List.singleton_append, steps_append_slash,
        steps_of_not_mem hne hslash, steps_append_of_slashes (by simp) front]
  · rw [steps_append_slash, steps_of_not_mem hne hslash]

/-- The path starts where that of the directory does. -/
lemma isAbsolute_join (dir : Text) (hslash : '/' ∉ name) :
    isAbsolute (join dir name) = isAbsolute dir := by
  rw [join_eq dir hslash]
  cases dir with
  | nil =>
    have hrelative : name.head? ≠ some '/' := fun hhead => hslash (List.mem_of_mem_head? hhead)
    simp [isAbsolute, hrelative]
  | cons c dir => rfl

end Join

end Path

namespace FileTree

/-! ### Places -/

/-- Where the steps of a path lead, whatever is there. -/
def place (tree : FileTree) (path : Text) : Location :=
  (Path.steps path).foldl next (if Path.isAbsolute path then [] else tree.home)

section Place

variable {tree : FileTree} {path : Text} {l : Location}

/-- Places depend only on the home directory. -/
lemma place_congr {other : FileTree} (h : other.home = tree.home) (path : Text) :
    other.place path = tree.place path := by
  unfold place
  rw [h]

/-- A step that is a name leads into what is there of that name. -/
lemma next_of_name {step : Text} (hstep : step ≠ [] ∧ step ≠ Path.stay ∧ step ≠ Path.up)
    (l : Location) : next l step = l ++ [step] := by
  unfold next
  simp [hstep.1, hstep.2.1, hstep.2.2]

/-- Empty steps lead nowhere. -/
lemma foldl_next_filter (steps : List Text) (l : Location) :
    (steps.filter fun step => !step.isEmpty).foldl next l = steps.foldl next l := by
  induction steps generalizing l with
  | nil => rfl
  | cons step steps ih =>
    cases step with
    | nil => exact ih l
    | cons c step => exact ih (next l (c :: step))

/-- A walk ends where its steps lead. -/
lemma eq_foldl_of_walk {steps : List Text} {k : Location} (h : tree.walk l steps = .ok k) :
    k = steps.foldl next l := by
  induction steps generalizing l with
  | nil => exact (Except.ok.inj h).symm
  | cons step steps ih =>
    unfold walk at h
    split at h
    · exact absurd h (by simp)
    · exact absurd h (by simp)
    · split at h
      · exact absurd h (by simp)
      · exact ih h

/-- A path that leads somewhere leads to its place. -/
lemma place_of_locate (h : tree.locate path = .ok l) : l = tree.place path := by
  unfold locate at h
  split at h
  · exact absurd h (by simp)
  · unfold place Path.steps
    rw [foldl_next_filter]
    exact eq_foldl_of_walk h

/-- Slashes at the end of a path do not change its place, as long as there is anything else. -/
lemma place_dropRightWhile (hne : path.dropRightWhile (· == '/') ≠ []) :
    tree.place (path.dropRightWhile (· == '/')) = tree.place path := by
  obtain ⟨tail, htail, hsplit⟩ := Text.exists_dropRightWhile_append (· == '/') path
  generalize path.dropRightWhile (· == '/') = bare at *
  obtain ⟨c, front, rfl⟩ := List.exists_cons_of_ne_nil hne
  rw [hsplit]
  unfold place
  rw [Path.steps_append_of_slashes htail]
  rfl

/-- A new directory is made at the place of its path. -/
lemma place_of_locateNew (h : tree.locateNew path = .ok l) : l = tree.place path := by
  unfold locateNew at h
  split at h
  · exact absurd h (by simp)
  · simp only at h
    split at h
    · exact place_of_locate h
    · next hne =>
      rw [← place_dropRightWhile (by simpa using hne)]
      exact place_of_locate h

end Place

/-! ### Writing files -/

section Write

variable {tree written : FileTree} {path text : Text}

/-- A file is written at the place of its path, and nothing changes elsewhere. -/
lemma node?_of_write (h : tree.write path text = .ok written) :
    written.locate path = .ok (tree.place path) ∧
      written.node? (tree.place path) = some (.file text) ∧
      ∀ l, l ≠ tree.place path → written.node? l = tree.node? l := by
  obtain ⟨l, hl, hnode, hput⟩ := write_eq_ok_iff.1 h
  have hplace := (spares_write h).locate hl
  obtain rfl := place_of_locate hl
  have hroot : tree.place path ≠ [] := by
    intro hempty
    rw [hempty] at hnode
    exact hnode tree.node?_root
  subst hput
  exact ⟨hplace, node?_put_self tree hroot _, fun k hk => node?_put_of_ne tree hk _⟩

end Write

/-! ### Making directories -/

/-- Nothing has changed between two trees, but for new directories at some of the given places. -/
structure OnlyMakes (places : Location → Prop) (before after : FileTree) : Prop where
  home : after.home = before.home
  node : ∀ l, after.node? l = before.node? l ∨
    places l ∧ before.node? l = none ∧ after.node? l = some .directory

section OnlyMakes

variable {places : Location → Prop} {before after : FileTree}

/-- Where nothing is changed, nothing is made. -/
lemma OnlyMakes.refl (places : Location → Prop) (tree : FileTree) : tree.OnlyMakes places tree :=
  ⟨rfl, fun _ => Or.inl rfl⟩

/-- What is made one after the other. -/
lemma OnlyMakes.trans {later : FileTree} (h : before.OnlyMakes places after)
    (h' : after.OnlyMakes places later) : before.OnlyMakes places later where
  home := h'.home.trans h.home
  node l := by
    rcases h.node l with hsame | ⟨hplace, hnone, hmade⟩
    · rw [← hsame]
      exact h'.node l
    · rcases h'.node l with hsame' | ⟨-, hnone', -⟩
      · exact Or.inr ⟨hplace, hnone, hsame'.trans hmade⟩
      · rw [hmade] at hnone'
        exact absurd hnone' (by simp)

/-- What is made at some places is made at some of more places. -/
lemma OnlyMakes.mono {more : Location → Prop} (h : before.OnlyMakes places after)
    (hmore : ∀ l, places l → more l) : before.OnlyMakes more after where
  home := h.home
  node l := (h.node l).imp_right fun hmade => ⟨hmore l hmade.1, hmade.2⟩

end OnlyMakes

section Make

variable (tree : FileTree) (path : Text)

/-- A directory is made at the place of its path, where nothing is. -/
lemma eq_put_of_makeDirectory {made : FileTree} (h : tree.makeDirectory path = .ok made) :
    tree.place path ≠ [] ∧ tree.node? (tree.place path) = none ∧
      made = tree.put (tree.place path) .directory := by
  obtain ⟨l, hl, hnode, hmade⟩ := (tree.makeDirectory_eq_ok_iff path).1 h
  obtain rfl := place_of_locateNew hl
  refine ⟨fun hroot => ?_, hnode, hmade⟩
  rw [hroot, tree.node?_root] at hnode
  exact absurd hnode (by simp)

/-- So making sure of a directory makes at most this one. -/
lemma onlyMakes_ensureDirectory :
    tree.OnlyMakes (fun l => l = tree.place path) (tree.ensureDirectory path).tree := by
  unfold ensureDirectory
  cases hmade : tree.makeDirectory path with
  | error e => exact .refl _ tree
  | ok made =>
    obtain ⟨hroot, hnone, rfl⟩ := tree.eq_put_of_makeDirectory path hmade
    refine ⟨rfl, fun l => ?_⟩
    rw [node?_put tree hroot]
    split
    · next hl => exact Or.inr ⟨hl, hl ▸ hnone, rfl⟩
    · exact Or.inl rfl

/-- Making one after those above it makes at most these. -/
lemma onlyMakes_makeBelow (missing : List Text) :
    tree.OnlyMakes (fun l => ∃ p ∈ path :: missing, l = tree.place p)
      (tree.makeBelow path missing).tree := by
  induction missing generalizing path with
  | nil =>
    exact (tree.onlyMakes_ensureDirectory path).mono fun l hl => ⟨path, List.mem_cons_self, hl⟩
  | cons nearest missing ih =>
    have habove : tree.OnlyMakes (fun l => ∃ p ∈ path :: nearest :: missing, l = tree.place p)
        (tree.makeBelow nearest missing).tree :=
      (ih nearest).mono fun l ⟨p, hp, hl⟩ => ⟨p, List.mem_cons_of_mem path hp, hl⟩
    unfold makeBelow
    simp only
    split
    · exact habove
    · split
      · exact habove
      · refine habove.trans ((onlyMakes_ensureDirectory _ path).mono fun l hl => ?_)
        exact ⟨path, List.mem_cons_self, hl.trans (place_congr habove.home path)⟩

/-- Making a directory with those above it that are missing makes at most these. -/
lemma onlyMakes_makeDirectories :
    tree.OnlyMakes (fun l => ∃ p ∈ path :: Path.above path, l = tree.place p)
      (tree.makeDirectories path).tree := by
  unfold makeDirectories
  simp only
  split
  · refine (tree.onlyMakes_makeBelow path _).mono fun l ⟨p, hp, hl⟩ => ⟨p, ?_, hl⟩
    rcases List.mem_cons.1 hp with rfl | hp
    · exact List.mem_cons_self
    · exact List.mem_cons_of_mem path ((List.takeWhile_sublist _).mem hp)
  · exact .refl _ tree

end Make

/-! ### Emptying directories -/

/-- A place is inside another one when its way leads through that one and goes on. -/
def IsInside (d l : Location) : Prop :=
  d <+: l ∧ l ≠ d

/-- Of a list with keys, what is found once entries are dropped by their keys. -/
lemma lookup_filter_key (keep : Nat × Location → Bool) (es : List ((Nat × Location) × Node))
    (k : Nat × Location) :
    (es.filter fun e => keep e.1).lookup k = if keep k then es.lookup k else none := by
  induction es with
  | nil => simp
  | cons e es ih =>
    obtain ⟨key, node⟩ := e
    by_cases hkey : k = key
    · subst hkey
      cases hkeep : keep k with
      | true => simp [hkeep]
      | false =>
        rw [hkeep] at ih
        simpa [hkeep] using ih
    · have hbeq : (k == key) = false := beq_eq_false_iff_ne.2 hkey
      have hcons : List.lookup k ((key, node) :: es) = List.lookup k es := by
        rw [List.lookup_cons, hbeq]
      rw [hcons, ← ih]
      cases hkeep : keep key with
      | true => rw [List.filter_cons_of_pos (by simpa using hkeep), List.lookup_cons, hbeq]
      | false => rw [List.filter_cons_of_neg (by simp [hkeep])]

section Renew

variable {tree : FileTree} {path : Text}

/-- A directory is taken away with everything below it, and nothing else is. -/
lemma node?_remove (tree : FileTree) (l : Location) {k : Location} (hk : k ≠ []) :
    (tree.remove l).node? k = if l <+: k then none else tree.node? k := by
  have hlookup := lookup_filter_key (fun e => !decide (l <+: e.2)) tree.nodes (Location.key k)
  unfold node? remove
  rw [if_neg hk, if_neg hk]
  refine hlookup.trans ?_
  by_cases hbelow : l <+: k
  · simp [hbelow]
  · simp [hbelow]

/-- Where a directory is taken away, its path leads to one. -/
lemma eq_remove_of_removeDirectory (h : (tree.removeDirectory path).error? = none) :
    tree.node? (tree.place path) = some .directory ∧
      (tree.removeDirectory path).tree = tree.remove (tree.place path) := by
  unfold removeDirectory at h ⊢
  cases hl : tree.locate path with
  | error e => simp [hl] at h
  | ok l =>
    obtain rfl := place_of_locate hl
    simp only [hl] at h ⊢
    cases hnode : tree.node? (tree.place path) with
    | none => simp [hnode] at h
    | some node =>
      cases node with
      | file text => simp [hnode] at h
      | directory =>
        simp only [hnode] at h ⊢
        cases hcleared : (tree.clear (tree.place path)).locate path with
        | error e => simp [hcleared] at h
        | ok m =>
          simp only [hcleared] at h ⊢
          split at h
          · next hname => exact ⟨trivial, by rw [if_pos hname]⟩
          · exact absurd h (by simp)

/-- A directory that is renewed was there, and nothing is below it then. -/
lemma eq_put_of_renewDirectory (h : (tree.renewDirectory path).error? = none) :
    tree.place path ≠ [] ∧ tree.node? (tree.place path) = some .directory ∧
      (tree.renewDirectory path).tree =
        (tree.remove (tree.place path)).put (tree.place path) .directory := by
  unfold renewDirectory at h ⊢
  simp only at h ⊢
  cases hremoved : (tree.removeDirectory path).error? with
  | some e => simp [hremoved] at h
  | none =>
    obtain ⟨hdirectory, htree⟩ := eq_remove_of_removeDirectory hremoved
    simp only [hremoved, htree] at h ⊢
    cases hmade : (tree.remove (tree.place path)).makeDirectory path with
    | error e => simp [hmade] at h
    | ok made =>
      obtain ⟨hroot, -, hput⟩ := eq_put_of_makeDirectory _ path hmade
      have hplace : (tree.remove (tree.place path)).place path = tree.place path :=
        place_congr rfl path
      rw [hplace] at hroot hput
      exact ⟨hroot, hdirectory, hput⟩

/-- Renewing a directory takes away what is inside it and nothing else. -/
theorem node?_renewDirectory (h : (tree.renewDirectory path).error? = none) (l : Location) :
    (IsInside (tree.place path) l → (tree.renewDirectory path).tree.node? l = none) ∧
    (¬ IsInside (tree.place path) l →
      (tree.renewDirectory path).tree.node? l = tree.node? l) := by
  obtain ⟨hroot, hdirectory, htree⟩ := eq_put_of_renewDirectory h
  rw [htree, node?_put _ hroot]
  by_cases hl : l = tree.place path
  · rw [if_pos hl, hl, hdirectory]
    exact ⟨fun hinside => absurd rfl hinside.2, fun _ => rfl⟩
  · rw [if_neg hl]
    by_cases hempty : l = []
    · rw [hempty, node?_root, node?_root]
      exact ⟨fun hinside => absurd (List.prefix_nil.1 hinside.1) hroot, fun _ => rfl⟩
    · constructor
      · intro hinside
        rw [node?_remove tree _ hempty, if_pos hinside.1]
      · intro hbeside
        rw [node?_remove tree _ hempty, if_neg fun hbelow => hbeside ⟨hbelow, hl⟩]

/-- A prepared directory is emptied when that is asked for and its path leads somewhere. Otherwise
nothing has changed but for new directories at its place and at the places of the paths above. -/
theorem node?_prepareDirectory {clean : Bool}
    (h : (tree.prepareDirectory path clean).error? = none) :
    (tree.prepareDirectory path clean).tree.home = tree.home ∧
    (clean = true ∧ (tree.at? path).isSome = true → ∀ l,
      (IsInside (tree.place path) l → (tree.prepareDirectory path clean).tree.node? l = none) ∧
      (¬ IsInside (tree.place path) l →
        (tree.prepareDirectory path clean).tree.node? l = tree.node? l)) ∧
    (¬ (clean = true ∧ (tree.at? path).isSome = true) →
      tree.OnlyMakes (fun l => ∃ p ∈ path :: Path.above path, l = tree.place p)
        (tree.prepareDirectory path clean).tree) := by
  unfold prepareDirectory at h ⊢
  simp only [Bool.and_eq_true] at h ⊢
  by_cases hrenewed : clean = true ∧ (tree.at? path).isSome = true
  · rw [if_pos hrenewed] at h ⊢
    obtain ⟨-, -, htree⟩ := eq_put_of_renewDirectory h
    exact ⟨by rw [htree]; rfl, fun _ => node?_renewDirectory h, fun hnot => absurd hrenewed hnot⟩
  · rw [if_neg hrenewed]
    have hmakes := tree.onlyMakes_makeDirectories path
    exact ⟨hmakes.home, fun hclean => absurd hclean hrenewed, fun _ => hmakes⟩

end Renew

end FileTree

end DdlDump
