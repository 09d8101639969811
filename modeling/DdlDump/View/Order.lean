import DdlDump.View.Reference

/-!
# Views behind what they read from

A script has to create an object before a view that reads from it. The definitions of a database are
therefore put in levels: a level holds what reads only from earlier levels, and inside a level the
order of listing is kept. Views that read from each other in a circle fit into no level; then there
is no such order, and the listing stays as it is.
-/

namespace DdlDump

/-- An object of a database with the statement that creates it. -/
structure Definition where
  name : Text
  ddl : Text
  deriving DecidableEq

namespace Definition

/-- Whether a definition creates a view. -/
def isView (d : Definition) : Bool :=
  (Statement.parse d.ddl).header?.any fun h => h.kind == .view

/-- Whether a definition creates a view that reads from a database by name. -/
def readsByDatabase (d : Definition) : Bool :=
  d.isView && (Reference.scan false d.ddl).any fun r => r.schema?.isSome

/-- Every name once, with its last definition and at the place of that. -/
def settled : List Definition → List Definition
  | [] => []
  | d :: ds => if ds.any fun e => e.name == d.name then settled ds else d :: settled ds

/-- The listed objects by their names in lower case, the last one first. -/
def index (ds : List Definition) : List (Text × Text) :=
  (ds.map fun d => (d.name.lower, d.name)).reverse

/-- The other listed objects that an object reads from, as its last definition as a view says. Of
objects whose names differ in case alone, the last is meant. -/
def sources (db : Text) (ds : List Definition) (name : Text) : List Text :=
  match ds.findRev? fun d => d.name == name && d.isView with
  | some d =>
    let index := index ds
    (objectsRead db (fun key => index.lookup key) d.ddl).filter (· != name)
  | none => []

end Definition

/-- The name of an object with the names of what it has to stand behind. -/
structure Dependent where
  name : Text
  sources : List Text
  deriving DecidableEq

/-- A way of putting names in levels, of which each holds what reads only from earlier levels. Where
there is a circle, there are no levels but a text about it. In which order the names of one level
are given is left open. -/
abbrev Levelling := List Dependent → Except Text (List (List Text))

namespace Dependent

/-- Whether nothing that an object reads from is still pending. -/
def isReady (pending : List Dependent) (d : Dependent) : Bool :=
  d.sources.all fun s => !pending.any fun e => e.name == s

/-- The pending definitions that are ready. -/
def ready (pending : List Dependent) : List Dependent :=
  pending.filter (isReady pending)

/-- The pending definitions that are not ready. -/
def blocked (pending : List Dependent) : List Dependent :=
  pending.filter fun d => !isReady pending d

/-- As soon as something is ready, fewer definitions are blocked than were pending. -/
theorem length_blocked_lt {pending : List Dependent} (h : ready pending ≠ []) :
    (blocked pending).length < pending.length := by
  obtain ⟨d, hd⟩ := List.exists_mem_of_ne_nil _ h
  obtain ⟨hmem, hready⟩ := List.mem_filter.1 hd
  exact List.length_filter_lt_length_iff_exists.2 ⟨d, hmem, by simp [hready]⟩

/-- Puts pending definitions in levels. When no pending definition is ready, those that remain are
named. -/
def levels (pending : List Dependent) : Except Text (List (List Text)) :=
  if pending = [] then .ok []
  else if _h : ready pending = [] then .error (", ".toList.intercalate (pending.map name))
  else (levels (blocked pending)).map ((ready pending).map name :: ·)
termination_by pending.length
decreasing_by exact length_blocked_lt _h

end Dependent

namespace Definition

/-- The settled definitions of a database, with what they have to stand behind. -/
def dependents (db : Text) (ds : List Definition) : List Dependent :=
  (settled ds).map fun d => ⟨d.name, sources db ds d.name⟩

/-- The listed definitions of the objects of a level, in the order of listing. -/
def ofLevel (listing : List Definition) (level : List Text) : List Definition :=
  listing.filter fun d => level.contains d.name

/-- The definitions of a database, level after level, unless there is a circle among them. -/
def arrangeBy (levels : Levelling) (db : Text) (ds : List Definition) :
    Except Text (List Definition) :=
  (levels (dependents db ds)).map fun ls => ls.flatMap (ofLevel (settled ds))

end Definition

end DdlDump
