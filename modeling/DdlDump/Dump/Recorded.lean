import DdlDump.Ddl.Replay
import DdlDump.View.Order
import DdlDump.Warehouse.Catalog

/-!
# What happens during a dump

A dump is not only its result. On the way there it asks the warehouse and tells the user how it gets
on. Both are kept as data: a recorded value comes with the events that led to it, in order.

What the warehouse answers to a look-up may be another thing each time. A step of a dump is
therefore a function of the look-ups that were made before it (`Asking`), and steps are put together
by handing on what was asked in front of each. Most of them may also end the dump (`Dumping`); what
happened up to there has happened all the same.

Several workers may share a list of tasks. In which order the tasks get done is then up to chance,
but every result is put where its task stands in the list (`Pool.run`), so that the order of the
results does not depend on it.
-/

namespace DdlDump

/-- What a dump tells the user. -/
inductive Notice
  | databasesUnlisted (cause : Failure)
  | tablesBegun (db : Text)
  | tablesUnlisted (db : Text) (cause : Failure)
  | tableBegun (db table : Text)
  | ddlUnavailable (db table : Text) (cause : Failure)
  | viewsCircular (db reason : Text)
  | partitionsSkipped
  | partitionsBegun (db : Text)
  | partitionsUnlisted (db table : Text) (cause : Failure)
  | fileWritten (file : Text)

namespace Notice

/-- The text of a notice. -/
def text : Notice → Text
  | databasesUnlisted cause => "Unable to list databases: ".toList ++ cause.message
  | tablesBegun db => "Processing tables of ".toList ++ db ++ "...".toList
  | tablesUnlisted db cause =>
    "Unable to list tables of ".toList ++ db ++ ": ".toList ++ cause.message
  | tableBegun db table => db ++ '.' :: table
  | ddlUnavailable db table cause =>
    "Unable to fetch ddl of ".toList ++ db ++ '.' :: table ++ ": ".toList ++ cause.message
  | viewsCircular db reason =>
    "Circular view dependencies in ".toList ++ db ++ ", keeping listing order: ".toList ++ reason
  | partitionsSkipped => "Skipping partitions...".toList
  | partitionsBegun db => "Processing partitions of ".toList ++ db ++ "...".toList
  | partitionsUnlisted db table cause =>
    "Unable to list partitions of ".toList ++ db ++ '.' :: table ++ ": ".toList ++ cause.message
  | fileWritten file => "Wrote ".toList ++ file

end Notice

/-- One thing that happens during a dump. -/
inductive Event
  | asked (l : LookUp)
  | noted (n : Notice)

/-- The look-up, if one is made. -/
def Event.lookUp? : Event → Option LookUp
  | asked l => some l
  | noted _ => none

/-- The notice, if one is given. -/
def Event.notice? : Event → Option Notice
  | asked _ => none
  | noted n => some n

/-- A value, and what happened on the way to it. -/
structure Recorded (α : Type) where
  value : α
  events : List Event

namespace Recorded

instance : Monad Recorded where
  map f x := ⟨f x.value, x.events⟩
  pure a := ⟨a, []⟩
  bind x f := ⟨(f x.value).value, x.events ++ (f x.value).events⟩

/-- Nothing happens on the way to a pure value. -/
@[simp]
theorem pure_eq {α : Type} (a : α) : (pure a : Recorded α) = ⟨a, []⟩ := rfl

/-- The events of two steps stand one after the other. -/
@[simp]
theorem bind_eq {α β : Type} (x : Recorded α) (f : α → Recorded β) :
    x >>= f = ⟨(f x.value).value, x.events ++ (f x.value).events⟩ := rfl

/-- Steps can be grouped at will, since only the order of events counts. -/
instance : LawfulMonad Recorded :=
  LawfulMonad.mk' Recorded (fun _ => rfl) (fun _ _ => by simp) (fun _ _ _ => by simp)
    (fun _ _ => rfl) (fun _ _ => rfl) (fun _ _ => rfl)
    (fun _ x => congrArg (Recorded.mk _) (List.append_nil x.events))

/-- Records one event. -/
def tell (e : Event) : Recorded Unit :=
  ⟨(), [e]⟩

/-- Records a notice. -/
def note (n : Notice) : Recorded Unit :=
  tell (.noted n)

/-- The look-ups that were made, in order. -/
def lookUps {α : Type} (x : Recorded α) : List LookUp :=
  x.events.filterMap Event.lookUp?

/-- The notices that were given, in order. -/
def notices {α : Type} (x : Recorded α) : List Notice :=
  x.events.filterMap Event.notice?

end Recorded

/-! ### Steps -/

/-- A step of a dump: what it comes to behind the look-ups that were made before. -/
structure Asking (α : Type) where
  after : List LookUp → Recorded α

namespace Asking

instance : Monad Asking where
  map f x := ⟨fun before => f <$> x.after before⟩
  pure a := ⟨fun _ => pure a⟩
  bind x f := ⟨fun before =>
    let first := x.after before
    first >>= fun a => (f a).after (before ++ first.lookUps)⟩

/-- A step that comes to the same whatever was asked before. -/
def of {α : Type} (x : Recorded α) : Asking α :=
  ⟨fun _ => x⟩

instance : MonadLift Recorded Asking where
  monadLift := of

/-- Nothing is asked on the way to a pure value. -/
@[simp]
theorem after_pure {α : Type} (a : α) (before : List LookUp) :
    (pure a : Asking α).after before = pure a := rfl

/-- The second step comes behind what the first one asked. -/
@[simp]
theorem after_bind {α β : Type} (x : Asking α) (f : α → Asking β) (before : List LookUp) :
    (x >>= f).after before =
      x.after before >>= fun a => (f a).after (before ++ (x.after before).lookUps) := rfl

/-- Steps can be grouped at will. -/
instance : LawfulMonad Asking :=
  LawfulMonad.mk' Asking (fun _ => rfl)
    (fun a f => congrArg Asking.mk (funext fun before => by simp [Recorded.lookUps]))
    (fun x f g => congrArg Asking.mk (funext fun before => by
      simp [Recorded.lookUps, List.append_assoc]))
    (fun _ _ => rfl) (fun _ _ => rfl) (fun _ _ => rfl)
    (fun f x => congrArg Asking.mk (funext fun before => bind_pure_comp f (x.after before)))

/-- Makes a look-up, of which the answer may depend on those before. -/
def ask {α : Type} (l : LookUp) (answer : List LookUp → α) : Asking α :=
  ⟨fun before => ⟨answer before, [.asked l]⟩⟩

end Asking

/-- Why a dump ends early. -/
inductive DumpError
  | script (e : ScriptError)
  /-- A view of a nameless database reads from a database by name. -/
  | nameless
  /-- There is the null character in a look-up. -/
  | nullCharacter
  deriving DecidableEq

/-- A step that may end the dump. -/
abbrev Dumping := ExceptT DumpError Asking

/-- What such a step comes to behind the look-ups that were made before. -/
def Dumping.after {α : Type} (x : Dumping α) (before : List LookUp) :
    Recorded (Except DumpError α) :=
  Asking.after x.run before

/-! ### Doing tasks in any order -/

namespace Pool

/-- An order in which so many tasks get done, each of them once. -/
structure Order where
  positions : Nat → List Nat
  perm : ∀ n, (positions n).Perm (List.range n)

/-- One task after the other as they are listed. -/
def Order.listed : Order :=
  ⟨List.range, fun n => .refl (List.range n)⟩

/-- Does the tasks at the given positions, one after another, and puts every result into the slot of
its position. -/
def fill {α : Type} (tasks : List (Asking α)) :
    List Nat → List (Option α) → Asking (List (Option α))
  | [], slots => pure slots
  | i :: order, slots =>
    match tasks[i]? with
    | some task => do
      let a ← task
      fill tasks order (slots.set i (some a))
    | none => fill tasks order slots

/-- Does every task once, in the order in which `order` names their positions, and gives the results
in the order of the tasks. -/
def run {α : Type} (order : List Nat) (tasks : List (Asking α)) : Asking (List α) := do
  let slots ← fill tasks order (tasks.map fun _ => none)
  return slots.filterMap id

end Pool

end DdlDump
