import DdlDump.Proofs.Dump.Files

/-!
# The files of a finished run

A run that writes one file for each database leaves each file with the dump of its database, and the
files together hold what a dump of all databases into one script does. Nothing else changes but the
directory itself (`Session.writeAll_files`): it is emptied when that is asked for and its path leads
somewhere, and otherwise it is made together with those above it that are missing.

A path can lead nowhere only because it passes through a directory that is missing. Once this one is
made, the path may lead to a directory that was there all along, which is then not emptied
(`Session.writeAll_files_throughMissing`).
-/

namespace DdlDump

namespace Session

open FileTree Dumping

variable {s : Session} {dir : Text}

section Steady

variable (hsteady : s.IsSteady)

include hsteady

/-! ### One database after another -/

/-- A run goes to its end when the file of the first database is opened, its dump is written, and
the run goes to its end with the others. -/
lemma writeEach_cons_of_ok {tree : FileTree} {db : DatabaseName} {dbs : List DatabaseName}
    {before : List LookUp} {files : List Text}
    (h : ((s.writeEach dir tree (db :: dbs)).after before).value.result = .ok files) :
    ∃ opened script next later others,
      tree.write (databaseFile dir db.text) [] = .ok opened ∧
      ((s.dump db).after []).value = .ok script ∧
      opened.write (databaseFile dir db.text) script = .ok next ∧
      ((s.writeEach dir next dbs).after later).value.result = .ok others ∧
      files = databaseFile dir db.text :: others ∧
      ((s.writeEach dir tree (db :: dbs)).after before).value.tree =
        ((s.writeEach dir next dbs).after later).value.tree := by
  rcases writeEach_cons_cases hsteady dir tree db dbs before with
    ⟨left, fault, hvalue⟩ | ⟨opened, cause, -, -, hvalue⟩ |
      ⟨opened, script, next, later, hopened, hscript, hnext, hvalue⟩
  · rw [hvalue] at h
    exact nomatch h
  · rw [hvalue] at h
    exact nomatch h
  · rw [hvalue] at h ⊢
    cases hothers : ((s.writeEach dir next dbs).after later).value.result with
    | error cause =>
      rw [hothers] at h
      exact nomatch h
    | ok others =>
      rw [hothers] at h
      exact ⟨opened, script, next, later, others, hopened, hscript, hnext, hothers,
        (Except.ok.inj h).symm, rfl⟩

/-- What a run leaves that goes to its end. -/
lemma writeEach_of_ok {names : List Text} (hnames : ∀ db ∈ names, '/' ∉ db) {tree : FileTree}
    {before : List LookUp} {files : List Text}
    (h : ((s.writeEach dir tree (names.map .given)).after before).value.result = .ok files) :
    files = names.map (databaseFile dir) ∧
      HoldsDumps s dir names tree
        ((s.writeEach dir tree (names.map .given)).after before).value.tree := by
  induction names generalizing tree before files with
  | nil => exact ⟨(Except.ok.inj h).symm, HoldsDumps.nil s dir tree⟩
  | cons db names ih =>
    rw [List.forall_mem_cons] at hnames
    rw [List.map_cons] at h
    obtain ⟨opened, script, next, later, others, hopened, hscript, hnext, hrest, rfl, hleft⟩ :=
      writeEach_cons_of_ok hsteady h
    obtain ⟨rfl, hdumps⟩ := ih hnames.2 hrest
    refine ⟨rfl, ?_⟩
    rw [List.map_cons, hleft]
    exact (holdsDumps_of_write hnames.1 hscript hopened hnext).append hdumps

/-- The files of databases hold what dumps of these databases come to, one after another. -/
lemma exists_scripts_of_files {names : List Text} {left : FileTree}
    (h : ∀ db ∈ names, ∃ script, ((s.dump (.given db)).after []).value = .ok script ∧
      left.at? (databaseFile dir db) = some (.file script)) (before : List LookUp) :
    ∃ scripts made, Comes ((names.map .given).mapM s.dump) before made scripts ∧
      (names.map (databaseFile dir)).map left.at? =
        scripts.map fun script => some (.file script) := by
  induction names generalizing before with
  | nil => exact ⟨[], [], comes_pure_iff.2 ⟨rfl, rfl⟩, rfl⟩
  | cons db names ih =>
    rw [List.forall_mem_cons] at h
    obtain ⟨script, hscript, hfile⟩ := h.1
    rw [← hsteady.after_dump _ before] at hscript
    have hdump := comes_of_value hscript
    obtain ⟨scripts, made, hscripts, hfiles⟩ :=
      ih h.2 (before ++ ((s.dump (.given db)).after before).lookUps)
    refine ⟨script :: scripts, ((s.dump (.given db)).after before).lookUps ++ made, ?_, ?_⟩
    · rw [List.map_cons, List.mapM_cons]
      exact hdump.bind (comes_bind_pure_iff.2 ⟨scripts, hscripts, rfl⟩)
    · rw [List.map_cons, List.map_cons, List.map_cons, hfile, hfiles]

end Steady

/-! ### Whole runs -/

/-- A run goes to its end when its directory is prepared, its databases are known, and all its files
are written. -/
lemma writeEach_of_writeAll_ok {asked : List Text} {clean : Bool} {tree : FileTree}
    {files : List Text}
    (h : ((s.writeAll dir (asked.map .given) clean tree).after []).value.result = .ok files) :
    (tree.prepareDirectory dir clean).error? = none ∧
      ((s.databases (asked.map .given)).after []).value =
        .ok ((s.databaseNames asked).map .given) ∧
      ∃ before, ((s.writeAll dir (asked.map .given) clean tree).after []).value =
        ((s.writeEach dir (tree.prepareDirectory dir clean).tree
          ((s.databaseNames asked).map .given)).after before).value := by
  rcases s.value_writeAll dir asked clean tree with ⟨fault, hfault⟩ | hunlisted | hvalue
  · exact absurd (hfault.symm.trans h) nofun
  · exact absurd (hunlisted.symm.trans h) nofun
  · exact hvalue

/-- A run that goes to its end gives back the path of one file for each database, in order, and each
file holds the dump of its database. At all other places, what was inside the directory is gone and
the rest is as it was, when the directory is to be emptied and its path leads somewhere; otherwise
everything is as it was, but for new directories at the places of the path and of those above it.
The contents of the files, one line feed between each two of them, are what a dump of the databases
into one script gives. -/
theorem writeAll_files (hsteady : s.IsSteady) {asked : List Text} {clean : Bool} {tree : FileTree}
    {files : List Text} (hnames : ∀ db ∈ s.databaseNames asked, '/' ∉ db)
    (h : ((s.writeAll dir (asked.map .given) clean tree).after []).value.result = .ok files) :
    ∃ left, ((s.writeAll dir (asked.map .given) clean tree).after []).value.tree = left ∧
      files = (s.databaseNames asked).map (databaseFile dir) ∧
      (∀ db ∈ s.databaseNames asked, ∃ script,
        ((s.dump (.given db)).after []).value = .ok script ∧
        left.locate (databaseFile dir db) = .ok (filePlace tree dir db) ∧
        left.at? (databaseFile dir db) = some (.file script)) ∧
      (∀ l, (∀ db ∈ s.databaseNames asked, l ≠ filePlace tree dir db) →
        (clean = true ∧ (tree.at? dir).isSome = true →
          (IsInside (tree.place dir) l → left.node? l = none) ∧
          (¬ IsInside (tree.place dir) l → left.node? l = tree.node? l)) ∧
        (¬ (clean = true ∧ (tree.at? dir).isSome = true) →
          left.node? l = tree.node? l ∨ (∃ p ∈ dir :: Path.above dir, l = tree.place p) ∧
            tree.node? l = none ∧ left.node? l = some .directory)) ∧
      ∃ scripts, ((s.dumpAll (asked.map .given)).after []).value = .ok (Text.ofLines scripts) ∧
        files.map left.at? = scripts.map fun script => some (.file script) := by
  obtain ⟨hprepared, hdatabases, before, hvalue⟩ := writeEach_of_writeAll_ok h
  obtain ⟨hhome, hemptied, hmade⟩ := node?_prepareDirectory hprepared
  have hwritten := congrArg Written.result hvalue
  rw [h] at hwritten
  obtain ⟨hfiles, hdumps⟩ := writeEach_of_ok hsteady hnames hwritten.symm
  rw [hvalue]
  have hdumped := hdumps.dumped
  have helsewhere := hdumps.elsewhere
  rw [filePlace_congr hhome dir] at hdumped helsewhere
  generalize ((s.writeEach dir _ _).after before).value.tree = left at hdumped helsewhere ⊢
  have hheld : ∀ db ∈ s.databaseNames asked, ∃ script,
      ((s.dump (.given db)).after []).value = .ok script ∧
      left.locate (databaseFile dir db) = .ok (filePlace tree dir db) ∧
      left.at? (databaseFile dir db) = some (.file script) := by
    intro db hdb
    obtain ⟨script, hscript, hlocate, hnode⟩ := hdumped db hdb
    refine ⟨script, hscript, hlocate, ?_⟩
    unfold at?
    rw [hlocate]
    exact hnode
  refine ⟨left, rfl, hfiles, hheld, fun l hl => ?_, ?_⟩
  · rw [helsewhere l hl]
    exact ⟨fun hclean => hemptied hclean l, fun hnot => (hmade hnot).node l⟩
  · have hlisted := comes_of_value hdatabases
    obtain ⟨scripts, made, hscripts, hcontents⟩ := exists_scripts_of_files hsteady
      (fun db hdb => (hheld db hdb).imp fun script hscript => ⟨hscript.1, hscript.2.2⟩)
      ([] ++ ((s.databases (asked.map .given)).after []).lookUps)
    have hall : Comes (s.dumpAll (asked.map .given)) [] _ (Text.ofLines scripts) :=
      hlisted.bind (comes_bind_pure_iff.2 ⟨scripts, hscripts, rfl⟩)
    exact ⟨scripts, hall.value, hfiles ▸ hcontents⟩

/-- Two databases are dumped into a directory with the files of three, which is emptied first: the
third file is gone. -/
theorem writeAll_files_emptied :
    let s := answering unrecognisedCatalog (Flags.ofList [])
    let names := ["a", "b"].map String.toList
    let files := ["out/a.sql", "out/b.sql"].map String.toList
    let run := ((s.writeAll "out".toList (names.map .given) true filesOfBefore).after []).value
    let third : Location := ["out".toList, "c.sql".toList]
    (s.IsSteady ∧ (∀ db ∈ s.databaseNames names, '/' ∉ db) ∧ run.result = .ok files) ∧
    filesOfBefore.node? third = some (.file "before".toList) ∧ run.tree.node? third = none ∧
    ∃ scripts, ((s.dumpAll (names.map .given)).after []).value = .ok (Text.ofLines scripts) ∧
      files.map run.tree.at? = scripts.map fun script => some (.file script) := by
  intro s names files run third
  have hnames : ∀ db ∈ s.databaseNames names, '/' ∉ db := by decide
  have hsteady : s.IsSteady := isSteady_answering _ _
  have hfinished : run.result = .ok files := by decide +kernel
  obtain ⟨left, rfl, -, -, hothers, hscripts⟩ := writeAll_files hsteady hnames hfinished
  have hclean : true = true ∧ (filesOfBefore.at? "out".toList).isSome = true := by decide +kernel
  have hthird : ∀ db ∈ s.databaseNames names, third ≠ filePlace filesOfBefore "out".toList db := by
    decide +kernel
  have hinside : IsInside (filesOfBefore.place "out".toList) third :=
    ⟨⟨["c.sql".toList], by decide +kernel⟩, by decide +kernel⟩
  exact ⟨⟨hsteady, hnames, hfinished⟩, by decide +kernel,
    ((hothers third hthird).1 hclean).1 hinside, hscripts⟩

/-- The path `new/../out` leads nowhere as long as `new` is missing, so that nothing is emptied.
`new` is made then, and the path leads to the directory `out` with the files of before. -/
theorem writeAll_files_throughMissing :
    let s := answering unrecognisedCatalog (Flags.ofList [])
    let dir := "new/../out".toList
    let run := ((s.writeAll dir [.given "a".toList] true filesOfBefore).after []).value
    (filesOfBefore.at? dir = none ∧ filesOfBefore.place dir = ["out".toList]) ∧
    run.result = .ok ["new/../out/a.sql".toList] ∧
    run.tree.at? dir = some .directory ∧
    run.tree.at? "new/../out/c.sql".toList = some (.file "before".toList) := by
  decide +kernel

end Session

end DdlDump
