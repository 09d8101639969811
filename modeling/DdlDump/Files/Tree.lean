import DdlDump.Files.Path

/-!
# A tree of files

The files that a dump reads and writes are a value: which locations there are, and what is there. A
location is the list of names that leads to it from the root, which is always a directory. There are
no links, so two paths lead to the same place only through `.` and `..`.

A path is followed step by step, and every place that is passed has to be a directory, also one that
`.` or `..` leaves again. Operations that fail say why; of two faults, the one that is met first
counts.
-/

namespace DdlDump

/-- What can be at a location. -/
inductive Node
  | file (text : Text)
  | directory
  deriving DecidableEq

/-- The names that lead to a place from the root. -/
abbrev Location := List Text

/-- A location as nodes are filed under it: the number of its names goes first, so that deep
locations are told apart without comparing all their names. -/
abbrev Location.key (l : Location) : Nat × Location :=
  (l.length, l)

/-- A tree of files, with the directory from which relative paths start. -/
structure FileTree where
  home : Location
  nodes : List ((Nat × Location) × Node)

/-- What an operation that may fail half-way leaves: the tree, and why it failed, if it did. -/
structure Changed where
  tree : FileTree
  error? : Option FileError

namespace FileTree

/-- A tree that holds nothing but the way to its home directory. -/
def ofHome (home : Location) : FileTree :=
  ⟨home, (List.range home.length).map fun n => (Location.key (home.take (n + 1)), .directory)⟩

/-- What is at a location. -/
def node? (tree : FileTree) (l : Location) : Option Node :=
  if l = [] then some .directory else tree.nodes.lookup (Location.key l)

/-- Puts a node at a location. -/
def put (tree : FileTree) (l : Location) (n : Node) : FileTree :=
  { tree with nodes := tree.nodes.filter (fun e => e.1 != Location.key l) ++ [(Location.key l, n)] }

/-- A node is where it was put. -/
theorem node?_put_self (tree : FileTree) {l : Location} (h : l ≠ []) (n : Node) :
    (tree.put l n).node? l = some n := by
  have hgone : (tree.nodes.filter fun e => e.1 != l.key).lookup l.key = none := by
    rw [List.lookup_eq_none_iff]
    intro e he
    have hne : e.1 ≠ l.key := bne_iff_ne.1 (List.mem_filter.1 he).2
    exact bne_iff_ne.2 (Ne.symm hne)
  unfold node? put
  rw [if_neg h, List.lookup_append, hgone, List.lookup_cons_self, Option.none_or]

/-- Putting a node leaves all other locations alone. -/
theorem node?_put_of_ne (tree : FileTree) {l k : Location} (h : k ≠ l) (n : Node) :
    (tree.put l n).node? k = tree.node? k := by
  have hkey : k.key ≠ l.key := fun he => h (Prod.mk.inj he).2
  have hkept : (tree.nodes.filter fun e => e.1 != l.key).lookup k.key =
      tree.nodes.lookup k.key := by
    induction tree.nodes with
    | nil => rfl
    | cons e es ih =>
      by_cases hm : e.1 = l.key
      · have hk : (k.key == e.1) = false := beq_eq_false_iff_ne.2 (hm ▸ hkey)
        rw [List.filter_cons_of_neg (by simpa using hm), ih, List.lookup_cons, hk]
      · rw [List.filter_cons_of_pos (by simpa using hm), List.lookup_cons, List.lookup_cons, ih]
  have hlast : [(l.key, n)].lookup k.key = none := by
    rw [List.lookup_cons, beq_eq_false_iff_ne.2 hkey]
    rfl
  unfold node? put
  rw [List.lookup_append, hkept, hlast, Option.or_none]

/-- Takes away what is below a location. -/
def clear (tree : FileTree) (l : Location) : FileTree :=
  { tree with nodes := tree.nodes.filter fun e => e.1.2 == l || !decide (l <+: e.1.2) }

/-- Takes away a location and what is below it. -/
def remove (tree : FileTree) (l : Location) : FileTree :=
  { tree with nodes := tree.nodes.filter fun e => !decide (l <+: e.1.2) }

/-- The location that one step leads to. -/
def next (l : Location) (step : Text) : Location :=
  if step.isEmpty || step == Path.stay then l
  else if step == Path.up then l.dropLast
  else l ++ [step]

/-- Follows steps from a location. -/
def walk (tree : FileTree) (l : Location) : List Text → Except FileError Location
  | [] => .ok l
  | step :: steps =>
    match tree.node? l with
    | none => .error .notFound
    | some (.file _) => .error .notADirectory
    | some .directory =>
      if Path.longestName < step.byteLength then .error .tooLong
      else walk tree (next l step) steps

/-- The location that a path leads to. A slash at the end asks for a directory. -/
def locate (tree : FileTree) (path : Text) : Except FileError Location :=
  match Path.fault? path with
  | some e => .error e
  | none => tree.walk (if Path.isAbsolute path then [] else tree.home) (path.splitOn '/')

/-- What a path leads to, if anything. -/
def at? (tree : FileTree) (path : Text) : Option Node :=
  match tree.locate path with
  | .ok l => tree.node? l
  | .error _ => none

/-- Whether a path leads to a directory. -/
def isDirectory (tree : FileTree) (path : Text) : Bool :=
  tree.at? path == some .directory

/-- The tree in which the file at `path` holds `text`. The directory has to be there. -/
def write (tree : FileTree) (path text : Text) : Except FileError FileTree := do
  let l ← tree.locate path
  match tree.node? l with
  | some .directory => .error .isADirectory
  | _ => return tree.put l (.file text)

/-- The location of a new directory; slashes at the end of its path do not count. -/
def locateNew (tree : FileTree) (path : Text) : Except FileError Location :=
  match Path.fault? path with
  | some e => .error e
  | none =>
    let bare := path.dropRightWhile (· == '/')
    tree.locate (if bare.isEmpty then path else bare)

/-- The tree with a new directory. The directory above has to be there. -/
def makeDirectory (tree : FileTree) (path : Text) : Except FileError FileTree := do
  let l ← tree.locateNew path
  match tree.node? l with
  | some _ => .error .alreadyExists
  | none => return tree.put l .directory

/-- Makes sure of a directory. It is no fault if it is there already. -/
def ensureDirectory (tree : FileTree) (path : Text) : Changed :=
  match tree.makeDirectory path with
  | .ok made => ⟨made, none⟩
  | .error e => ⟨tree, if tree.isDirectory path then none else some e⟩

/-- Makes a directory after the `missing` ones above it, of which the nearest comes first. When its
path ends in a single dot, nothing is left to do once the directory above is made. -/
def makeBelow (tree : FileTree) (path : Text) : List Text → Changed
  | [] => tree.ensureDirectory path
  | nearest :: missing =>
    let made := tree.makeBelow nearest missing
    if made.error?.any (· != .alreadyExists) then made
    else if Path.last? path == some Path.stay then ⟨made.tree, none⟩
    else made.tree.ensureDirectory path

/-- The greatest number of directories that are made for one path. -/
def deepest : Nat := 990

/-- Makes the directory that a path leads to, with all those above it that are missing. -/
def makeDirectories (tree : FileTree) (path : Text) : Changed :=
  let missing := (Path.above path).takeWhile fun p => (tree.at? p).isNone
  if missing.length < deepest then tree.makeBelow path missing else ⟨tree, some .tooDeep⟩

/-- Takes away a directory with everything in it. What is in it goes first; then the directory
itself goes under its path. That fails if the path passes through what is already gone, as `a/b/..`
does for the directory `a`, or if it does not end in a name. The directory is then left empty. -/
def removeDirectory (tree : FileTree) (path : Text) : Changed :=
  match tree.locate path with
  | .error e => ⟨tree, some e⟩
  | .ok l =>
    match tree.node? l with
    | none => ⟨tree, some .notFound⟩
    | some (.file _) => ⟨tree, some .notADirectory⟩
    | some .directory =>
      let cleared := tree.clear l
      match cleared.locate path with
      | .error e => ⟨cleared, some e⟩
      | .ok _ => if Path.endsInName path then ⟨tree.remove l, none⟩ else ⟨cleared, some .invalid⟩

/-- Puts an empty directory in the place of the one that a path leads to. -/
def renewDirectory (tree : FileTree) (path : Text) : Changed :=
  let removed := tree.removeDirectory path
  match removed.error? with
  | some _ => removed
  | none =>
    match removed.tree.makeDirectory path with
    | .ok made => ⟨made, none⟩
    | .error e => ⟨removed.tree, some e⟩

/-- Makes sure that a path leads to a directory; with `clean`, to an empty one. -/
def prepareDirectory (tree : FileTree) (path : Text) (clean : Bool) : Changed :=
  if clean && (tree.at? path).isSome then tree.renewDirectory path else tree.makeDirectories path

/-- Everything below the home directory, by its way from there. -/
def contents (tree : FileTree) : List (Location × Node) :=
  tree.nodes.filterMap fun ((_, l), n) =>
    match tree.home.isPrefixOf? l with
    | some (name :: rest) => some (name :: rest, n)
    | _ => none

end FileTree

end DdlDump
