import DdlDump.Proofs.Dump.Schedule
import DdlDump.Proofs.Dump.SideBySide

/-!
# Definitions fetched side by side

Several workers fetch the definitions of a database in whatever order they get to them. What they
may come to is what the schedules of a pool allow (`Session.Fetches`), and this is the same
definitions in the order of the tables as a single worker fetches, by the same look-ups in another
order. A dump makes nothing of the order of its look-ups, so that it does not show in the script, or
in the reason for which there is none, how many workers there were.

All this is about a catalog that answers in the same way all the time. Where an answer depends on
what was asked before, it depends on the order of asking, and so does the dump.
-/

namespace DdlDump

open Dumping

namespace Session

variable (s : Session)

/-! ### Ways of fetching -/

/-- The session with a single worker. -/
def alone : Session :=
  { s with workers := 1 }

/-- The task of fetching a definition, for workers that share the tables. -/
def task (db table : Text) : Recorded (Except DumpError Definition) :=
  (s.definition db table).after []

/-- What it may come to when the definitions of tables are fetched: with several workers and several
tables, what some schedule comes to, and otherwise one definition after another. -/
def Fetches (db : Text) (tables : List Text) (x : Recorded (Except DumpError (List Definition))) :
    Prop :=
  if 1 < s.workers ∧ 1 < tables.length then
    ∃ results, Pool.IsOutcome s.workers.toNat (tables.map (s.task db)) results ∧
      x = ⟨results.value.mapM id, results.events⟩
  else
    x = (tables.mapM (s.definition db)).after []

/-- The definitions of the tables in order, where they are what they were fetched as. -/
def arrangedFetched (db : DatabaseName) (fetched : Recorded (Except DumpError (List Definition))) :
    Dumping (List Definition) := do
  let _ ← s.tables db.text
  s.putInOrder db (← ExceptT.mk (Asking.of fetched))

/-- A dump of these definitions. -/
def dumpFetched (db : DatabaseName) (fetched : Recorded (Except DumpError (List Definition))) :
    Dumping Text := do
  s.note (.tablesBegun db.text)
  s.script db.text (← s.arrangedFetched db fetched)

section Steady

variable {s} (hsteady : s.IsSteady)

include hsteady

/-- Workers that get each definition done once, one after another in any order, fetch the
definitions. -/
lemma fetches_definitions (db : Text) (tables : List Text) :
    s.Fetches db tables ((s.definitions db tables).after []) := by
  unfold Fetches definitions
  split
  · next hmany =>
    have htasks : (tables.map fun table => (s.definition db table).run) =
        (tables.map (s.task db)).map Asking.of := by
      rw [List.map_map]
      exact List.map_congr_left fun table _ =>
        congrArg Asking.mk (funext (hsteady.after_definition db table))
    have horder : (s.order.positions tables.length).Perm
        (List.range (tables.map (s.task db)).length) := by
      rw [List.length_map]
      exact s.order.perm tables.length
    refine ⟨_, Pool.isOutcome_run (by omega) horder [], ?_⟩
    rw [htasks]
    exact congrArg (Recorded.mk _) (List.append_nil _)
  · rfl

/-- A dump is made of the tables that are listed and of the definitions that were fetched of
them. -/
lemma alike_dumpFetched {c : Comparison} {t : Session} (h : Alike c s t) {db : DatabaseName}
    {x : Recorded (Except DumpError (List Definition))}
    (hx : Dumping.Alike c (ExceptT.mk (Asking.of x))
      (t.definitions db.text (answered ((s.catalog []).tables db.text)))) :
    Dumping.Alike c (s.dumpFetched db x) (t.dump db) := by
  refine (alike_lift (h.note _)).bind fun _ => Dumping.Alike.bind ?_ fun ds => h.script _ ds
  refine (h.tables _).bind_of_value fun tables b htables => ?_
  obtain ⟨-, rfl⟩ := comes_tables (comes_of_value htables)
  rw [hsteady b]
  exact hx.bind fun ds => h.putInOrder db ds

/-- The definitions of the tables are those that the session fetches. -/
lemma after_dumpFetched_definitions (db : DatabaseName) :
    (s.dumpFetched db ((s.definitions db.text
      (answered ((s.catalog []).tables db.text))).after [])).after [] = (s.dump db).after [] := by
  have hx : Dumping.Alike .exactly
      (ExceptT.mk (Asking.of ((s.definitions db.text
        (answered ((s.catalog []).tables db.text))).after [])))
      (s.definitions db.text (answered ((s.catalog []).tables db.text))) := by
    intro _ b _
    have hsame := hsteady.after_definitions db.text (answered ((s.catalog []).tables db.text)) b
    exact ⟨(congrArg Recorded.value hsame).symm, (congrArg Recorded.events hsame).symm⟩
  have h := @alike_dumpFetched s hsteady _ _ hsteady.alike db _ hx [] [] trivial
  exact congrArg₂ Recorded.mk h.value h.events

variable (honly : s.OnlyFails)

include honly

omit hsteady in
/-- A task comes to its definition by one look-up. -/
lemma task_eq (db table : Text) :
    (s.task db table).value = .ok (s.fetched db [] table) ∧
      (s.task db table).lookUps = [.ddl db table] := by
  have hends : (s.definition db table).EndsOnly fun _ => False :=
    endsOnly_definition (absurd honly) table
  obtain ⟨d, hd⟩ := hends.exists_eq_ok []
  obtain ⟨hmade, rfl⟩ := comes_definition (comes_of_value hd)
  exact ⟨hd, hmade⟩

/-- A single worker fetches one definition after another. -/
lemma after_mapM_definition (db : Text) (tables : List Text) (before : List LookUp) :
    (tables.mapM (s.definition db)).after before =
      ⟨.ok (tables.map (s.fetched db [])),
        tables.flatMap fun table => (s.task db table).events⟩ := by
  refine after_mapM_of_steady (fun table b => ?_) tables before
  rw [hsteady.after_definition]
  exact congrArg (Recorded.mk · _) (task_eq honly db table).1

section Fetches

variable {db : Text} {tables : List Text} {x : Recorded (Except DumpError (List Definition))}

/-- However definitions are fetched, it differs from this in order only. -/
lemma Fetches.alike (h : s.Fetches db tables x) :
    x.Alike .upToOrder
      ⟨.ok (tables.map (s.fetched db [])),
        tables.flatMap fun table => (s.task db table).events⟩ := by
  unfold Fetches at h
  split at h
  · obtain ⟨results, houtcome, rfl⟩ := h
    refine ⟨?_, ?_⟩
    · have hvalues : results.value = (tables.map (s.fetched db [])).map .ok := by
        rw [houtcome.value_eq, List.map_map, List.map_map]
        exact List.map_congr_left fun table _ => (task_eq honly db table).1
      change results.value.mapM id = _
      rw [hvalues, List.mapM_map]
      exact (List.mapM_pure (m := Except DumpError) (f := id)).trans
        (congrArg Except.ok (List.map_id _))
    · have hevents := houtcome.events_perm
      rwa [List.flatMap_map] at hevents
  · rw [h, after_mapM_definition hsteady honly]
    exact ⟨rfl, .refl _⟩

/-- It has the definitions of the tables in their order, and asks for each of them once. -/
lemma Fetches.value_eq (h : s.Fetches db tables x) :
    x.value = .ok (tables.map (s.fetched db [])) ∧
      x.lookUps.Perm (tables.map (LookUp.ddl db)) := by
  have halike := h.alike hsteady honly
  have hlookUps : (tables.flatMap fun table => (s.task db table).events).filterMap Event.lookUp? =
      tables.map (LookUp.ddl db) := by
    rw [List.filterMap_flatMap, List.map_eq_flatMap]
    exact List.flatMap_congr fun table _ => (task_eq honly db table).2
  refine ⟨halike.value, ?_⟩
  rw [← hlookUps]
  exact halike.events.filterMap Event.lookUp?

/-- It is what a single worker fetches, in another order. -/
lemma Fetches.alike_alone (h : s.Fetches db tables x) :
    Dumping.Alike .upToOrder (ExceptT.mk (Asking.of x)) (s.alone.definitions db tables) := by
  intro _ b _
  have halone : (s.alone.definitions db tables).run.after b =
      ⟨.ok (tables.map (s.fetched db [])),
        tables.flatMap fun table => (s.task db table).events⟩ := by
    rw [definitions_of_oneWorker (Int.le_refl 1)]
    exact after_mapM_definition hsteady honly db tables b
  rw [halone]
  exact h.alike hsteady honly

end Fetches

/-- The session is like one with a single worker, but for the order of fetching. -/
lemma alike_alone : Alike .upToOrder s s.alone where
  flags := rfl
  levelling := rfl
  note _ := ⟨rfl, .refl _⟩
  told _ := ⟨rfl, .refl _⟩
  databases asked := (hsteady.alike.databases asked).upToOrder
  tables db := (hsteady.alike.tables db).upToOrder
  definitions db tables := by
    intro b b' hb
    have hfetches := fetches_definitions hsteady db tables
    have hsame : (s.definitions db tables).run.after b = (s.definitions db tables).after [] :=
      hsteady.after_definitions db tables b
    rw [hsame]
    exact hfetches.alike_alone hsteady honly hb
  partitionRows hlisted db table := (hsteady.alike.partitionRows hlisted db table).upToOrder

end Steady

/-- Fetching definitions side by side shows nowhere in a dump. Whatever schedule the workers keep
to, they fetch what a single worker fetches, in the order of the tables, and ask for every table
once for each time it is listed; no schedule keeps them from coming to an end. A dump of what they
fetch has the same result as one by a single worker, and makes the same look-ups in some order. So
the number of workers makes no difference to the result. -/
theorem dump_fetchedSideBySide {s : Session} (hsteady : s.IsSteady) (honly : s.OnlyFails) :
    (∀ (db : Text) (tables : List Text) (x : Recorded (Except DumpError (List Definition))),
      s.Fetches db tables x →
        x.value = ((s.alone.definitions db tables).after []).value ∧
        (∃ ds, x.value = .ok ds ∧ ds.map Definition.name = tables) ∧
        x.lookUps.Perm (tables.map (LookUp.ddl db))) ∧
    (∀ (db : Text) (tables : List Text) (schedule : List Nat)
      (state : Pool.State (Except DumpError Definition)), 1 < s.workers →
      Pool.follow? s.workers.toNat schedule (Pool.start (tables.map (s.task db))) = some state →
        ∃ (rest : List Nat) (x : Recorded (List (Except DumpError Definition))),
          Pool.follow? s.workers.toNat (schedule ++ rest) (Pool.start (tables.map (s.task db))) =
            some ⟨x.value.map .done, x.events⟩) ∧
    (∀ db x, s.Fetches db.text (answered ((s.catalog []).tables db.text)) x →
      ((s.dumpFetched db x).after []).value = ((s.alone.dump db).after []).value ∧
      ((s.dumpFetched db x).after []).lookUps.Perm ((s.alone.dump db).after []).lookUps) ∧
    (∀ db tables, s.Fetches db tables ((s.definitions db tables).after [])) ∧
    (∀ db, (s.dumpFetched db ((s.definitions db.text
      (answered ((s.catalog []).tables db.text))).after [])).after [] = (s.dump db).after []) ∧
    ∀ (db : DatabaseName) (workers : Int),
      (({ s with workers := workers }.dump db).after []).value = ((s.dump db).after []).value := by
  refine ⟨fun db tables x hx => ?_, fun db tables schedule state hmany hfollow => ?_,
    fun db x hx => ?_, fetches_definitions hsteady, after_dumpFetched_definitions hsteady,
    fun db workers => ?_⟩
  · obtain ⟨hvalue, hlookUps⟩ := hx.value_eq hsteady honly
    have halone := @Fetches.alike_alone s hsteady honly db tables x hx [] [] trivial
    refine ⟨halone.value, ⟨_, hvalue, ?_⟩, hlookUps⟩
    rw [List.map_map]
    exact List.map_id tables
  · exact Pool.exists_isOutcome (by omega) hfollow
  · have halike := alike_dumpFetched hsteady (alike_alone hsteady honly)
      (hx.alike_alone hsteady honly)
    have h := @halike [] [] trivial
    exact ⟨h.value, h.events.filterMap Event.lookUp?⟩
  · have hone : ∀ r : Session, r.IsSteady → r.OnlyFails →
        ((r.dump db).after []).value = ((r.alone.dump db).after []).value := by
      intro r hr hfails
      exact (@Alike.dump _ _ _ (alike_alone hr hfails) db [] [] trivial).value
    exact (hone { s with workers := workers } hsteady honly).trans (hone s hsteady honly).symm

/-- A catalog that lists a table twice and, in between, one without a statement. -/
def gappedCatalog : Catalog (Except Fault) where
  databases := .ok []
  tables _ := .ok [['b'], ['a'], ['b']]
  ddl _ table :=
    match table with
    | ['a'] => .error (.failed (.refused "locked".toList))
    | _ => .ok "create table b(\n  x int)".toList
  partitions _ _ := .ok []

/-- Two workers take turns within their tasks, and the one without a statement is the last to be
done. -/
theorem dump_fetchedSideBySide_interleaved :
    let s : Session :=
      { catalog := fun _ => gappedCatalog
        flags := Flags.ofList []
        levelling := Dependent.levels
        workers := 2
        order := ⟨fun n => (List.range n).reverse, fun _ => List.reverse_perm _⟩ }
    let db : DatabaseName := .given ['d']
    let x : Recorded (Except DumpError (List Definition)) :=
      ⟨.ok [s.fetched ['d'] [] ['b'], s.fetched ['d'] [] ['a'], s.fetched ['d'] [] ['b']],
        [.noted (.tableBegun ['d'] ['a']), .noted (.tableBegun ['d'] ['b']),
          .asked (.ddl ['d'] ['b']), .asked (.ddl ['d'] ['a']), .noted (.tableBegun ['d'] ['b']),
          .asked (.ddl ['d'] ['b']),
          .noted (.ddlUnavailable ['d'] ['a'] (.refused "locked".toList))]⟩
    (s.IsSteady ∧ s.OnlyFails) ∧ s.Fetches db.text (answered ((s.catalog []).tables db.text)) x ∧
    x.value = ((s.alone.definitions ['d'] [['b'], ['a'], ['b']]).after []).value ∧
    ((s.dumpFetched db x).after []).value = ((s.alone.dump db).after []).value ∧
    (({ s with workers := 7 }.dump db).after []).value = ((s.dump db).after []).value := by
  intro s db x
  have hsteady : s.IsSteady := fun _ => rfl
  have honly : s.OnlyFails := by
    refine onlyFails_of_answers (fun _ => nofun) (fun _ _ => nofun) (fun _ _ table => ?_)
      fun _ _ _ => nofun
    change gappedCatalog.ddl _ table ≠ _
    unfold gappedCatalog
    simp only
    split
    · exact nofun
    · exact nofun
  have hfetches : s.Fetches db.text (answered ((s.catalog []).tables db.text)) x := by
    unfold Fetches
    rw [if_pos ⟨by decide, by decide⟩]
    have hb : s.task ['d'] ['b'] =
        ⟨.ok (s.fetched ['d'] [] ['b']),
          [.noted (.tableBegun ['d'] ['b']), .asked (.ddl ['d'] ['b'])]⟩ := rfl
    have ha : s.task ['d'] ['a'] =
        ⟨.ok (s.fetched ['d'] [] ['a']), [.noted (.tableBegun ['d'] ['a']),
          .asked (.ddl ['d'] ['a']),
          .noted (.ddlUnavailable ['d'] ['a'] (.refused "locked".toList))]⟩ := rfl
    have htasks : (answered ((s.catalog []).tables db.text)).map (s.task db.text) =
        [s.task ['d'] ['b'], s.task ['d'] ['a'], s.task ['d'] ['b']] := rfl
    refine ⟨⟨[.ok (s.fetched ['d'] [] ['b']), .ok (s.fetched ['d'] [] ['a']),
      .ok (s.fetched ['d'] [] ['b'])], x.events⟩,
      ⟨[1, 0, 1, 0, 0, 1, 0, 2, 2, 2, 1, 2, 1], ?_⟩, rfl⟩
    rw [htasks, hb, ha]
    rfl
  obtain ⟨hfetch, -, hdump, -, -, hworkers⟩ := dump_fetchedSideBySide hsteady honly
  exact ⟨⟨hsteady, honly⟩, hfetches, (hfetch _ _ x hfetches).1, (hdump db x hfetches).1,
    hworkers db 7⟩

end Session

end DdlDump
