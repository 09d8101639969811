import DdlDump.CommandLine.Run
import DdlDump.Proofs.Dump.SideBySide
import DdlDump.Proofs.Files.Place

/-!
# What a refused dump leaves of its files

A run that writes one file for each database ends with the first database whose dump is refused. The
databases before it have their files by then, and those behind it are not reached, so that nothing
happens to their files (`Session.writeAll_of_refused`). The file of the refused database itself is
not spared: it is opened before the database is dumped, and opening it empties it
(`Session.writeAll_empties_refused`). A run that writes one file for all databases opens it behind
the dump and leaves it as it was.

What a run has done once the dumps of some databases are written is told by one relation between the
tree before and the tree after (`Session.HoldsDumps`), which grows with each database. The warehouse
is taken to answer in the same way all the time, so that a database has one dump.
-/

namespace DdlDump

namespace Session

open FileTree Dumping

/-! ### The files of databases -/

/-- The names of the databases that are dumped: those asked for, or all that are listed. -/
def databaseNames (s : Session) (asked : List Text) : List Text :=
  if asked.isEmpty then answered (s.catalog []).databases else asked

/-- Databases that are asked for by name, or listed, have names. -/
lemma value_databases {s : Session} {asked : List Text} {dbs : List DatabaseName}
    (h : ((s.databases (asked.map .given)).after []).value = .ok dbs) :
    dbs = (s.databaseNames asked).map .given := by
  unfold databases at h
  unfold databaseNames
  cases asked with
  | nil =>
    obtain ⟨names, hnames, rfl⟩ := comes_bind_pure_iff.1 (comes_of_value h)
    rw [(s.comes_lookUp hnames).2]
    rfl
  | cons name asked => exact (Except.ok.inj h).symm

/-- The listing of databases can end a run only when it cannot be made. -/
lemma eq_nullCharacter_of_databases {s : Session} {asked : List DatabaseName} {e : DumpError}
    (h : ((s.databases asked).after []).value = .error e) : e = .nullCharacter := by
  unfold databases at h
  split at h
  · refine Eq.symm ?_
    exact ((s.endsOnly_lookUp (fun _ => rfl) fun _ => rfl).bind fun _ => endsOnly_pure _) [] e h
  · exact absurd h nofun

/-- The place of a database's file: in the directory, under the name of the database. -/
def filePlace (tree : FileTree) (dir db : Text) : Location :=
  tree.place dir ++ [db ++ ".sql".toList]

/-- It depends only on the home directory. -/
lemma filePlace_congr {tree other : FileTree} (h : other.home = tree.home) (dir : Text) :
    filePlace other dir = filePlace tree dir := by
  funext db
  unfold filePlace
  rw [place_congr h dir]

/-- Different databases have their files at different places. -/
lemma filePlace_injective (tree : FileTree) (dir : Text) :
    Function.Injective (filePlace tree dir) := by
  intro db other h
  have hfile : db ++ ".sql".toList = other ++ ".sql".toList := by
    simpa [filePlace] using h
  exact List.append_cancel_right hfile

/-- This is where the path of the file leads. -/
lemma place_databaseFile (tree : FileTree) (dir : Text) {db : Text} (hdb : '/' ∉ db) :
    tree.place (databaseFile dir db) = filePlace tree dir db := by
  have hslash : '/' ∉ db ++ ".sql".toList := by
    simp only [List.mem_append, not_or]
    exact ⟨hdb, by decide⟩
  have hlong : 4 ≤ (db ++ ".sql".toList).length := by simp
  have hname : db ++ ".sql".toList ≠ [] ∧ db ++ ".sql".toList ≠ Path.stay ∧
      db ++ ".sql".toList ≠ Path.up := by
    refine ⟨?_, ?_, ?_⟩
    all_goals
      intro h
      rw [h] at hlong
      exact absurd hlong (by decide)
  unfold databaseFile filePlace FileTree.place
  rw [Path.steps_join dir hname.1 hslash, Path.isAbsolute_join dir hslash, List.foldl_append]
  exact next_of_name hname _

/-- The file of a database has its name. -/
lemma getLast?_of_locate_databaseFile {tree : FileTree} {dir db : Text} {l : Location}
    (hdb : '/' ∉ db) (hl : tree.locate (databaseFile dir db) = .ok l) :
    l.getLast? = some (db ++ ".sql".toList) := by
  rw [place_of_locate hl, place_databaseFile tree dir hdb]
  exact List.getLast?_concat

/-- Different databases have different files. -/
lemma ne_of_locate_databaseFile {tree later : FileTree} {dir db other : Text} {l k : Location}
    (hdb : '/' ∉ db) (hother : '/' ∉ other) (hne : db ≠ other)
    (hl : tree.locate (databaseFile dir db) = .ok l)
    (hk : later.locate (databaseFile dir other) = .ok k) : l ≠ k := by
  rintro rfl
  have hlast := getLast?_of_locate_databaseFile hdb hl
  rw [getLast?_of_locate_databaseFile hother hk, Option.some.injEq, List.append_left_inj] at hlast
  exact hne hlast.symm

variable {s : Session} {dir : Text} {e : DumpError}

/-! ### What writing leaves -/

/-- Between two trees the files of databases have been written, and nothing else has happened. -/
structure HoldsDumps (s : Session) (dir : Text) (names : List Text) (before after : FileTree) :
    Prop where
  /-- No directory has gone, and no file but these is another one. -/
  spares : before.Spares (fun l => ∃ db ∈ names, l = filePlace before dir db) after
  dumped : ∀ db ∈ names, ∃ script, ((s.dump (.given db)).after []).value = .ok script ∧
    after.locate (databaseFile dir db) = .ok (filePlace before dir db) ∧
    after.node? (filePlace before dir db) = some (.file script)
  elsewhere : ∀ l, (∀ db ∈ names, l ≠ filePlace before dir db) → after.node? l = before.node? l

section HoldsDumps

variable {before after : FileTree}

/-- Without databases nothing happens. -/
lemma HoldsDumps.nil (s : Session) (dir : Text) (tree : FileTree) :
    HoldsDumps s dir [] tree tree :=
  ⟨.refl _ tree, by simp, fun _ _ => rfl⟩

/-- One group of databases after the other. A database of both has the dump that was written
last, which is the same. -/
lemma HoldsDumps.append {first second : List Text} {later : FileTree}
    (h : HoldsDumps s dir first before after) (h' : HoldsDumps s dir second after later) :
    HoldsDumps s dir (first ++ second) before later := by
  have hplace : filePlace after dir = filePlace before dir := filePlace_congr h.spares.home dir
  refine ⟨?_, fun db hdb => ?_, fun l hl => ?_⟩
  · refine (h.spares.mono fun l hl => ?_).trans (h'.spares.mono fun l hl => ?_)
    · obtain ⟨db, hdb, rfl⟩ := hl
      exact ⟨db, List.mem_append_left second hdb, rfl⟩
    · obtain ⟨db, hdb, rfl⟩ := hl
      exact ⟨db, List.mem_append_right first hdb, congrFun hplace db⟩
  · by_cases hagain : db ∈ second
    · rw [← hplace]
      exact h'.dumped db hagain
    · have hfirst : db ∈ first := (List.mem_append.1 hdb).resolve_right hagain
      obtain ⟨script, hscript, hlocate, hnode⟩ := h.dumped db hfirst
      have hother : ∀ other ∈ second, filePlace before dir db ≠ filePlace after dir other := by
        intro other hother hsame
        rw [hplace] at hsame
        rw [filePlace_injective before dir hsame] at hagain
        exact hagain hother
      exact ⟨script, hscript, h'.spares.locate hlocate, (h'.elsewhere _ hother).trans hnode⟩
  · rw [h'.elsewhere l, h.elsewhere l]
    · exact fun db hdb => hl db (List.mem_append_left second hdb)
    · rw [hplace]
      exact fun db hdb => hl db (List.mem_append_right first hdb)

end HoldsDumps

/-- Opening a file and writing the dump of its database leaves that dump. -/
lemma holdsDumps_of_write {tree opened next : FileTree} {db script : Text} (hdb : '/' ∉ db)
    (hscript : ((s.dump (.given db)).after []).value = .ok script)
    (hopened : tree.write (databaseFile dir db) [] = .ok opened)
    (hnext : opened.write (databaseFile dir db) script = .ok next) :
    HoldsDumps s dir [db] tree next := by
  have hspares := spares_write hopened
  have hplace : opened.place (databaseFile dir db) = filePlace tree dir db := by
    rw [place_congr hspares.home, place_databaseFile tree dir hdb]
  obtain ⟨hlocate, hnode, helsewhere⟩ := node?_of_write hnext
  obtain ⟨-, -, hbefore⟩ := node?_of_write hopened
  rw [hplace] at hlocate hnode helsewhere
  rw [place_databaseFile tree dir hdb] at hbefore
  refine ⟨?_, ?_, fun l hl => ?_⟩
  · refine (hspares.mono fun l hl => ?_).trans ((spares_write hnext).mono fun l hl => ?_)
    · exact ⟨db, List.mem_singleton.2 rfl,
        (place_of_locate hl).trans (place_databaseFile tree dir hdb)⟩
    · exact ⟨db, List.mem_singleton.2 rfl, (place_of_locate hl).trans hplace⟩
  · rw [List.forall_mem_singleton]
    exact ⟨script, hscript, hlocate, hnode⟩
  · rw [List.forall_mem_singleton] at hl
    rw [helsewhere l hl, hbefore l hl]

/-! ### One database after another -/

section WriteEach

variable (hsteady : s.IsSteady)

include hsteady

/-- What becomes of the first database of a run: its file cannot be opened, or not be written in
the end; or it is opened, and the dump is refused; or the dump is written, and the run goes on. -/
lemma writeEach_cons_cases (dir : Text) (tree : FileTree) (db : DatabaseName)
    (dbs : List DatabaseName) (before : List LookUp) :
    (∃ left fault, ((s.writeEach dir tree (db :: dbs)).after before).value =
      ⟨.error (.file fault), left⟩) ∨
    (∃ opened cause, tree.write (databaseFile dir db.text) [] = .ok opened ∧
      ((s.dump db).after []).value = .error cause ∧
      ((s.writeEach dir tree (db :: dbs)).after before).value =
        ⟨.error (.dump cause), opened⟩) ∨
    ∃ opened script next later, tree.write (databaseFile dir db.text) [] = .ok opened ∧
      ((s.dump db).after []).value = .ok script ∧
      opened.write (databaseFile dir db.text) script = .ok next ∧
      ((s.writeEach dir tree (db :: dbs)).after before).value =
        { ((s.writeEach dir next dbs).after later).value with
          result := ((s.writeEach dir next dbs).after later).value.result.map
            (databaseFile dir db.text :: ·) } := by
  rw [writeEach]
  cases hopened : tree.write (databaseFile dir db.text) [] with
  | error fault => exact Or.inl ⟨tree, fault, rfl⟩
  | ok opened =>
    have hdump : ((s.dump db).run.after before).value = ((s.dump db).after []).value :=
      congrArg Recorded.value (hsteady.after_dump db before)
    simp only [Asking.after_bind, Recorded.value_bind, hdump]
    cases hvalue : ((s.dump db).after []).value with
    | error cause => exact Or.inr (Or.inl ⟨opened, cause, rfl, rfl, rfl⟩)
    | ok script =>
      simp only
      cases hnext : opened.write (databaseFile dir db.text) script with
      | error fault => exact Or.inl ⟨opened, fault, rfl⟩
      | ok next => exact Or.inr (Or.inr ⟨opened, script, next, _, rfl, rfl, hnext, rfl⟩)

/-- A run ends with a refused dump when the file of the first database can be opened and its dump is
refused, or when its dump is written and the run ends so with one of the others. -/
lemma writeEach_cons_of_refused {tree : FileTree} {db : DatabaseName} {dbs : List DatabaseName}
    {before : List LookUp}
    (h : ((s.writeEach dir tree (db :: dbs)).after before).value.result = .error (.dump e)) :
    ∃ opened, tree.write (databaseFile dir db.text) [] = .ok opened ∧
      (((s.dump db).after []).value = .error e ∧
        ((s.writeEach dir tree (db :: dbs)).after before).value.tree = opened ∨
      ∃ script next later, ((s.dump db).after []).value = .ok script ∧
        opened.write (databaseFile dir db.text) script = .ok next ∧
        ((s.writeEach dir next dbs).after later).value.result = .error (.dump e) ∧
        ((s.writeEach dir tree (db :: dbs)).after before).value.tree =
          ((s.writeEach dir next dbs).after later).value.tree) := by
  rcases writeEach_cons_cases hsteady dir tree db dbs before with
    ⟨left, fault, hvalue⟩ | ⟨opened, cause, hopened, hcause, hvalue⟩ |
      ⟨opened, script, next, later, hopened, hscript, hnext, hvalue⟩
  · rw [hvalue] at h
    exact absurd h (by simp)
  · rw [hvalue] at h ⊢
    simp only [Except.error.injEq, WriteError.dump.injEq] at h
    exact ⟨opened, hopened, Or.inl ⟨hcause.trans (congrArg Except.error h), rfl⟩⟩
  · rw [hvalue] at h ⊢
    refine ⟨opened, hopened, Or.inr ⟨script, next, later, hscript, hnext, ?_, rfl⟩⟩
    cases hothers : ((s.writeEach dir next dbs).after later).value.result with
    | ok files =>
      rw [hothers] at h
      exact absurd h (by simp [Except.map])
    | error cause =>
      rw [hothers] at h
      exact h

/-- A run that ends with a refused dump has written the dumps of some databases and has opened the
file of the next one. -/
lemma exists_opened_of_refused {names : List Text} (hnames : ∀ db ∈ names, '/' ∉ db)
    {tree : FileTree} {before : List LookUp}
    (h : ((s.writeEach dir tree (names.map .given)).after before).value.result =
      .error (.dump e)) :
    ∃ done name rest written, names = done ++ name :: rest ∧
      ((s.dump (.given name)).after []).value = .error e ∧ HoldsDumps s dir done tree written ∧
      written.write (databaseFile dir name) [] =
        .ok ((s.writeEach dir tree (names.map .given)).after before).value.tree := by
  induction names generalizing tree before with
  | nil => exact absurd h nofun
  | cons db names ih =>
    rw [List.forall_mem_cons] at hnames
    rw [List.map_cons] at h ⊢
    obtain ⟨opened, hopened, ⟨hrefused, hleft⟩ |
        ⟨script, next, later, hscript, hnext, hrest, hleft⟩⟩ :=
      writeEach_cons_of_refused hsteady h
    · rw [hleft]
      exact ⟨[], db, names, tree, rfl, hrefused, .nil s dir tree, hopened⟩
    · obtain ⟨done, name, rest, written, rfl, hrefused, hdumps, hlast⟩ := ih hnames.2 hrest
      rw [hleft]
      exact ⟨db :: done, name, rest, written, rfl, hrefused,
        (holdsDumps_of_write hnames.1 hscript hopened hnext).append hdumps, hlast⟩

/-- What a run that ends with a refused dump leaves: the databases before the refused one have their
files, the file of the refused one is empty, and no other file has changed. -/
lemma writeEach_of_refused {names : List Text} (hnames : ∀ db ∈ names, '/' ∉ db)
    {tree left : FileTree} {before : List LookUp}
    (h : ((s.writeEach dir tree (names.map .given)).after before).value =
      ⟨.error (.dump e), left⟩) :
    ∃ done name rest, names = done ++ name :: rest ∧
      ((s.dump (.given name)).after []).value = .error e ∧
      (∀ db ∈ done, ∃ script, ((s.dump (.given db)).after []).value = .ok script ∧
        left.at? (databaseFile dir db) = some (.file script)) ∧
      left.at? (databaseFile dir name) = some (.file []) ∧
      tree.Spares (fun l => ∃ db ∈ done ++ [name], left.locate (databaseFile dir db) = .ok l)
        left := by
  obtain ⟨done, name, rest, written, rfl, hrefused, hdumps, hopened⟩ :=
    exists_opened_of_refused hsteady hnames (congrArg Written.result h)
  rw [h] at hopened
  have hname : '/' ∉ name := hnames name (List.mem_append_right done List.mem_cons_self)
  have hspares := spares_write hopened
  have hplace : written.place (databaseFile dir name) = filePlace tree dir name := by
    rw [place_congr hdumps.spares.home, place_databaseFile tree dir hname]
  obtain ⟨hlocate, -, helsewhere⟩ := node?_of_write hopened
  rw [hplace] at hlocate helsewhere
  have hlocated : ∀ db ∈ done, left.locate (databaseFile dir db) = .ok (filePlace tree dir db) := by
    intro db hdb
    obtain ⟨-, -, hwritten, -⟩ := hdumps.dumped db hdb
    exact hspares.locate hwritten
  refine ⟨done, name, rest, rfl, hrefused, fun db hdb => ?_, at?_write hopened, ?_⟩
  · obtain ⟨script, hscript, -, hnode⟩ := hdumps.dumped db hdb
    refine ⟨script, hscript, ?_⟩
    have hne : filePlace tree dir db ≠ filePlace tree dir name := by
      intro hsame
      rw [filePlace_injective tree dir hsame, hrefused] at hscript
      exact nomatch hscript
    unfold at?
    rw [hlocated db hdb]
    exact (helsewhere _ hne).trans hnode
  · refine (hdumps.spares.mono fun l hl => ?_).trans (hspares.mono fun l hl => ?_)
    · obtain ⟨db, hdb, rfl⟩ := hl
      exact ⟨db, List.mem_append_left [name] hdb, hlocated db hdb⟩
    · exact ⟨name, List.mem_append_right done (List.mem_singleton.2 rfl), hspares.locate hl⟩

end WriteEach

/-! ### Whole runs -/

/-- A run comes to writing the files of databases once its directory is prepared and the databases
are known. Otherwise it ends with a fault of the directory, or because it cannot ask for the
databases. -/
lemma value_writeAll (s : Session) (dir : Text) (asked : List Text) (clean : Bool)
    (tree : FileTree) :
    (∃ fault, ((s.writeAll dir (asked.map .given) clean tree).after []).value.result =
      .error (.file fault)) ∨
    ((s.writeAll dir (asked.map .given) clean tree).after []).value.result =
      .error (.dump .nullCharacter) ∨
    (tree.prepareDirectory dir clean).error? = none ∧
      ((s.databases (asked.map .given)).after []).value =
        .ok ((s.databaseNames asked).map .given) ∧
      ∃ before, ((s.writeAll dir (asked.map .given) clean tree).after []).value =
        ((s.writeEach dir (tree.prepareDirectory dir clean).tree
          ((s.databaseNames asked).map .given)).after before).value := by
  unfold writeAll
  cases hfault : (tree.prepareDirectory dir clean).error? with
  | some fault =>
    left
    exact ⟨fault, by simp only [hfault]; rfl⟩
  | none =>
    right
    simp only [hfault, Asking.after_bind, Recorded.value_bind]
    cases hvalue : ((s.databases (asked.map .given)).run.after []).value with
    | error e =>
      left
      rw [eq_nullCharacter_of_databases hvalue]
      rfl
    | ok dbs =>
      right
      obtain rfl := value_databases hvalue
      exact ⟨trivial, hvalue, _, rfl⟩

/-- A run into one file does not touch it when its dump is refused. -/
lemma tree_runIntoFile_of_refused {a : Arguments} {before : List LookUp}
    (h : ((s.dumpAll a.databases).after before).value = .error e) (homes : Path.Homes)
    (tree : FileTree) : ((s.runIntoFile homes a tree).after before).value.tree = tree := by
  have hrun : ((s.dumpAll a.databases).run.after before).value = .error e := h
  unfold runIntoFile
  rw [Asking.after_bind, Recorded.value_bind, hrun]
  cases e <;> rfl

/-- When a dump is refused in a run that writes one file for each database, the databases before it
have their dumps, the files of those behind it hold what they held, and so does every other file but
one: the file of the refused database is there and empty. A refused run into one file leaves that,
and everything else, as it was. -/
theorem writeAll_of_refused (hsteady : s.IsSteady) {asked : List Text} {tree : FileTree}
    (hnames : ∀ db ∈ s.databaseNames asked, '/' ∉ db) (he : e ≠ .nullCharacter)
    (h : ((s.writeAll dir (asked.map .given) false tree).after []).value.result =
      .error (.dump e)) :
    (∃ left done name rest,
      ((s.writeAll dir (asked.map .given) false tree).after []).value.tree = left ∧
      s.databaseNames asked = done ++ name :: rest ∧
      ((s.dump (.given name)).after []).value = .error e ∧
      (∀ db ∈ done, ∃ script, ((s.dump (.given db)).after []).value = .ok script ∧
        left.at? (databaseFile dir db) = some (.file script)) ∧
      left.at? (databaseFile dir name) = some (.file []) ∧
      (∀ db ∈ rest, db ∉ done ++ [name] → ∀ l, left.locate (databaseFile dir db) = .ok l →
        ∀ text, left.node? l = some (.file text) ↔ tree.node? l = some (.file text)) ∧
      tree.Spares (fun l => ∃ db ∈ done ++ [name], left.locate (databaseFile dir db) = .ok l)
        left) ∧
    ∀ (homes : Path.Homes) (a : Arguments),
      ((s.dumpAll a.databases).after []).value = .error e →
        ((s.runIntoFile homes a tree).after []).value.tree = tree := by
  refine ⟨?_, fun homes a ha => tree_runIntoFile_of_refused ha homes tree⟩
  rcases s.value_writeAll dir asked false tree with
    ⟨fault, hfault⟩ | hunlisted | ⟨-, -, before, hvalue⟩
  · exact absurd (hfault.symm.trans h) nofun
  · rw [hunlisted] at h
    obtain rfl : DumpError.nullCharacter = e := WriteError.dump.inj (Except.error.inj h)
    exact absurd rfl he
  rw [hvalue] at h ⊢
  obtain ⟨done, name, rest, hsplit, hrefused, hdone, hempty, hspares⟩ :=
    writeEach_of_refused hsteady hnames (congrArg (Written.mk · _) h)
  generalize ((s.writeEach dir _ _).after before).value.tree = left at *
  have hothers : tree.Spares (fun l => ∃ db ∈ done ++ [name],
      left.locate (databaseFile dir db) = .ok l) left :=
    ((tree.spares_prepareDirectory dir).mono fun _ hl => hl.elim).trans hspares
  refine ⟨left, done, name, rest, rfl, hsplit, hrefused, hdone, hempty, ?_, hothers⟩
  intro db hdb hnew l hl
  refine hothers.file l ?_
  rintro ⟨other, hother, hk⟩
  have hslash : ∀ d ∈ done ++ name :: rest, '/' ∉ d := hsplit ▸ hnames
  have hreached : other ∈ done ++ name :: rest := by
    rw [List.append_cons]
    exact List.mem_append_left rest hother
  have hunreached : db ∈ done ++ name :: rest :=
    List.mem_append_right done (List.mem_cons_of_mem name hdb)
  have hne : db ≠ other := by
    rintro rfl
    exact hnew hother
  exact ne_of_locate_databaseFile (hslash db hunreached) (hslash other hreached) hne hl hk rfl

/-- A catalog of which one database has a table with an unrecognised statement. -/
def unrecognisedCatalog : Catalog (Except Fault) where
  databases := .ok []
  tables db := if db = "b".toList then .ok ["t".toList] else .ok []
  ddl _ _ := .ok "create table t(\n  x int)".toList
  partitions _ _ := .ok []

/-- A directory with the files of three databases. -/
def filesOfBefore : FileTree :=
  (["a.sql", "b.sql", "c.sql"].map String.toList).foldl
    (fun tree name => tree.put ["out".toList, name] (.file "before".toList))
    ((FileTree.ofHome []).put ["out".toList] .directory)

/-- The second of three databases is refused: the first has its new file, and the third its old
one. -/
theorem writeAll_of_refused_second :
    let s := answering unrecognisedCatalog (Flags.ofList [.strict])
    let names := ["a", "b", "c"].map String.toList
    let run := ((s.writeAll "out".toList (names.map .given) false filesOfBefore).after []).value
    let e := DumpError.script (.unrecognisedCreate "create table t(  x int)".toList)
    s.IsSteady ∧ (∀ db ∈ s.databaseNames names, '/' ∉ db) ∧ e ≠ .nullCharacter ∧
    run.result = .error (.dump e) ∧
    (∃ left done name rest, run.tree = left ∧ names = done ++ name :: rest ∧
      ((s.dump (.given name)).after []).value = .error e ∧
      left.at? (databaseFile "out".toList name) = some (.file [])) ∧
    run.tree.at? "out/a.sql".toList = some (.file "use a;\n\n\n".toList) ∧
    run.tree.at? "out/c.sql".toList = some (.file "before".toList) := by
  intro s names run e
  have hnames : ∀ db ∈ s.databaseNames names, '/' ∉ db := by decide
  have hsteady : s.IsSteady := isSteady_answering _ _
  have he : e ≠ .nullCharacter := nofun
  have hrefused : run.result = .error (.dump e) := by decide +kernel
  obtain ⟨⟨left, done, name, rest, hleft, hsplit, hname, -, hempty, -⟩, -⟩ :=
    writeAll_of_refused hsteady hnames he hrefused
  exact ⟨hsteady, hnames, he, hrefused, ⟨left, done, name, rest, hleft, hsplit, hname, hempty⟩,
    by decide +kernel, by decide +kernel⟩

/-- The file of the refused database is lost, although nothing takes its place. A run into that one
file, refused for the same reason, keeps it. -/
theorem writeAll_empties_refused :
    let s := answering unrecognisedCatalog (Flags.ofList [.strict])
    let run := ((s.writeAll "out".toList [.given "b".toList] false filesOfBefore).after []).value
    let a : Arguments := { databases := [.given "b".toList], outputFile := "out/b.sql".toList }
    let single := ((s.runIntoFile ⟨[], []⟩ a filesOfBefore).after []).value
    run.result =
      .error (.dump (.script (.unrecognisedCreate "create table t(  x int)".toList))) ∧
    filesOfBefore.at? "out/b.sql".toList = some (.file "before".toList) ∧
    run.tree.at? "out/b.sql".toList = some (.file []) ∧
    single.tree.at? "out/b.sql".toList = some (.file "before".toList) := by
  decide +kernel

end Session

end DdlDump
