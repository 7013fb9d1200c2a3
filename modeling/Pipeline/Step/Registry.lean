import Pipeline.Step
import Pipeline.Log

/-!
# Registries of steps

The step records of a configuration in order (specification, section 2). A name stands for its first
definition, and a name that is defined more than once is reported once, where it comes for the
second time (section 11, duplicate names).
-/

namespace Pipeline

/-- The step records of a configuration. -/
structure Registry where
  records : List StepRecord
  deriving DecidableEq, Repr

namespace Registry

/-- The records of step entries, or what is wrong with the first entry that has none. -/
def ofEntries (entries : List StepEntry) : Except ConfigError Registry :=
  (entries.mapM StepRecord.ofEntry).map Registry.mk

/-- The first record of a name. -/
def find? (r : Registry) (name : String) : Option StepRecord :=
  r.records.find? fun record => record.name == name

/-- The number of records, repeated names included. -/
def size (r : Registry) : Nat :=
  r.records.length

/-- Whether there are no records. -/
def isEmpty (r : Registry) : Bool :=
  r.records.isEmpty

/-- What is known of the names of the records that have been gone through. -/
structure Index where
  /-- Each name with the position of its first record. -/
  positions : List (String × Nat) := []
  /-- The names that have been reported. -/
  reported : List String := []
  /-- What has been reported, in order. -/
  log : List LogEntry := []
  deriving DecidableEq, Repr

/-- The warning about a name that is defined more than once. -/
def repeatedWarning (name : String) : LogEntry :=
  .warn ("Step name \"" ++ name ++ "\" is defined more than once; the first definition is used")

namespace Index

/-- The position of the first record of a name. -/
def position? (x : Index) (name : String) : Option Nat :=
  x.positions.lookup name

/-- The index with one record more: a new name gets the record's position, and a name that comes
again is reported unless it has been. -/
def add (x : Index) (position : Nat) (name : String) : Index :=
  match x.position? name with
  | none => { x with positions := (name, position) :: x.positions }
  | some _ =>
    if x.reported.contains name then x
    else { x with reported := name :: x.reported, log := x.log ++ [repeatedWarning name] }

/-- The index with the records from a position on. -/
def addAll (x : Index) (position : Nat) : List StepRecord → Index
  | [] => x
  | record :: records => (x.add position record.name).addAll (position + 1) records

end Index

/-- The index of the names of a registry, made in one pass over its records. -/
def index (r : Registry) : Index :=
  Index.addAll {} 0 r.records

/-- A warning for each name that is defined more than once. -/
def warnings (r : Registry) : List LogEntry :=
  r.index.log

end Registry

namespace Config

/-- The registry of a configuration's step entries. -/
def registry (c : Config) : Except ConfigError Registry :=
  Registry.ofEntries c.steps

end Config

end Pipeline
