import RouteDocs.Notice
import RouteDocs.Schema.Node

/-!
# The schema table

The table holds every registered schema under its name, and for every error union which variants
answer with which status.
-/

namespace RouteDocs.Schema

/-- What an error union says about one status: the schemas of its variants are
alternatives. -/
structure ErrorResponse where
  status : Int
  description : String
  schemas : List String
deriving DecidableEq

/-- The statuses of an error union in order of first use. -/
abbrev StatusMap := OrderedMap Int ErrorResponse

def StatusMap.same (first second : StatusMap) : Bool := OrderedMap.sameEntries (· == ·) first second

class Storable (σ : Type) where
  ofNode : Node -> σ
  same : σ -> σ -> Bool
  /-- Whether something stored counts as no definition. -/
  isVacant : σ -> Bool

/-- A node is stored as it is, and always counts as a definition. -/
instance : Storable Node where
  ofNode := id
  same := Node.same
  isVacant _ := false

/-- Registered schemas, status maps, and what was noticed about them. -/
structure Table (σ : Type := Node) where
  schemas : OrderedMap String σ := ∅
  statusMaps : OrderedMap String StatusMap := ∅
  /-- Names with two definitions, in order of discovery. -/
  conflicts : List String := []
  warnings : List String := []
  frozen : Bool := false
deriving Inhabited

namespace Table
variable {σ : Type} (table : Table σ)

def get? (name : String) : Option σ := table.schemas.get? name
def contains (name : String) : Bool := table.schemas.contains name
def size : Nat := table.schemas.size
def statusMap? (name : String) : Option StatusMap := table.statusMaps.get? name

def recordConflict (name : String) : Table σ :=
  if name ∈ table.conflicts then table
  else { table with conflicts := table.conflicts ++ [name] }

def warn (message : String) : Table σ := { table with warnings := table.warnings ++ [message] }
def freeze : Table σ := { table with frozen := true }

/-- Register a schema. A name that has a schema keeps it; the clash is reported
if the new schema is a different one. -/
def define [Storable σ] (table : Table σ) (name : String) (schema : σ) : Table σ × Option Clash :=
  match (table.get? name).filter fun known => !Storable.isVacant known with
  | none => ({ table with schemas := table.schemas.insert name schema }, none)
  | some known =>
    if Storable.same known schema then (table, none)
    else (table.recordConflict name, some .twoShapes)

theorem define_node (table : Table) (name : String) (node : Node) : table.define name node =
      match table.get? name with
      | none => ({ table with schemas := table.schemas.insert name node }, none)
      | some known =>
        if known.same node then (table, none)
        else (table.recordConflict name, some .twoShapes) := by
  unfold define
  cases table.get? name <;> rfl

/-- Set the status map of an error union, in the same way. -/
def defineStatuses (name : String) (statuses : StatusMap) : Table σ × Option Clash :=
  match table.statusMap? name with
  | none => ({ table with statusMaps := table.statusMaps.insert name statuses }, none)
  | some known =>
    if known.same statuses then (table, none)
    else (table.recordConflict name, some .twoStatusMaps)
end Table
end RouteDocs.Schema
