import DdlDump.Settings

/-!
# Flags of a dump

What a dump does to the statements that it collects is decided by nine flags. They are settled once,
before the dump begins, and nothing changes them afterwards. A flag is on when a bag of settings
affirms it or when it is asked for directly.
-/

namespace DdlDump

/-- The choices that a dump leaves open. -/
inductive Flag
  /-- Guard every header against objects that exist already. -/
  | ifNotExists
  /-- Drop every object before it is created. -/
  | dropTable
  /-- Strike the clause that says where data is kept. -/
  | suppressLocation
  /-- Leave the partitions out. -/
  | suppressPartitionInfo
  /-- Strike the table properties. -/
  | suppressTblproperties
  /-- Strike the clauses on file formats. -/
  | suppressStoredAs
  /-- Strike the clauses on row formats. -/
  | suppressRowFormat
  /-- Refuse scripts with unrecognised CREATE statements. -/
  | strict
  /-- Put views behind what they read from. -/
  | orderByDependency
  deriving DecidableEq, Repr

namespace Flag

/-- All flags, in the order in which they are shown. -/
def all : List Flag :=
  [ifNotExists, dropTable, suppressLocation, suppressPartitionInfo, suppressTblproperties,
    suppressStoredAs, suppressRowFormat, strict, orderByDependency]

/-- The list of all flags is complete. -/
theorem mem_all (f : Flag) : f ∈ all := by
  cases f <;> decide

/-- The key of a flag in a bag of settings. -/
def key : Flag → Text
  | ifNotExists => "if_not_exists".toList
  | dropTable => "drop_table".toList
  | suppressLocation => "suppress_location".toList
  | suppressPartitionInfo => "suppress_partition_info".toList
  | suppressTblproperties => "suppress_tblproperties".toList
  | suppressStoredAs => "suppress_stored_as".toList
  | suppressRowFormat => "suppress_row_format".toList
  | strict => "strict".toList
  | orderByDependency => "order_by_dependency".toList

/-- The flag with a key. -/
def ofKey? (key : Text) : Option Flag :=
  all.find? fun f => f.key == key

/-- The clauses that a flag strikes, by the text that their first lines start with. -/
def struckClauses : Flag → List Text
  | suppressLocation => ["LOCATION".toList]
  | suppressTblproperties => ["TBLPROPERTIES".toList]
  | suppressStoredAs => ["STORED AS".toList, "INPUTFORMAT".toList, "OUTPUTFORMAT".toList]
  | suppressRowFormat => ["ROW FORMAT".toList, "WITH SERDEPROPERTIES".toList]
  | _ => []

end Flag

/-- The flags of a dump. -/
structure Flags where
  isOn : Flag → Bool

namespace Flags

/-- The flags that are on, in the order of `Flag.all`. -/
def enabled (flags : Flags) : List Flag :=
  Flag.all.filter flags.isOn

/-- The flags of a list are on and all others are off. -/
def ofList (fs : List Flag) : Flags :=
  ⟨fs.contains⟩

/-- Flags are the same when the same ones are on. -/
theorem eq_of_enabled_eq {a b : Flags} (h : a.enabled = b.enabled) : a = b := by
  cases a with | mk f =>
  cases b with | mk g =>
  refine congrArg Flags.mk (funext fun x => ?_)
  have hx : x ∈ Flag.all.filter f ↔ x ∈ Flag.all.filter g := by
    rw [show Flag.all.filter f = Flag.all.filter g from h]
  rw [List.mem_filter, List.mem_filter] at hx
  exact Bool.eq_iff_iff.2
    ⟨fun hf => (hx.1 ⟨Flag.mem_all x, hf⟩).2, fun hg => (hx.2 ⟨Flag.mem_all x, hg⟩).2⟩

instance : DecidableEq Flags := fun a b =>
  decidable_of_iff (a.enabled = b.enabled) ⟨eq_of_enabled_eq, fun h => h ▸ rfl⟩

/-- A flag is on when the settings affirm it or the overrides ask for it. -/
def ofSettings (settings : Settings) (overrides : Flags) : Flags :=
  ⟨fun f => settings.isAffirmed f.key || overrides.isOn f⟩

/-- The flags that are on, by their keys, for a reader. -/
def describe (flags : Flags) : Text :=
  "DumpOptions(".toList ++ (", ".toList.intercalate (flags.enabled.map Flag.key) ++ [')'])

/-- The clauses that are struck, in the order of striking. -/
def struckClauses (flags : Flags) : List Text :=
  flags.enabled.flatMap Flag.struckClauses

end Flags

/-- Attempts on flags that have been settled. -/
inductive FlagChange
  | assign (name : Text)
  | delete (name : Text)

/-- The answer to an attempt to change flags: it is always refused. -/
def FlagChange.refusal : FlagChange → Text
  | assign name => "DumpOptions is immutable, cannot set ".toList ++ name
  | delete name => "DumpOptions is immutable, cannot delete ".toList ++ name

end DdlDump
