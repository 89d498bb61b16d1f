import EndpointDocs.Text.Basic

/-!
# Tables

A finite map from names to values, as a list of entries in the order in which the names were first
put in.
-/

namespace EndpointDocs

/-- Entries under pairwise different names. -/
abbrev Table (α : Type) := List (Text × α)

namespace Table

variable {α : Type}

def get? (table : Table α) (name : Text) : Option α :=
  table.lookup name

/-- Puts a value under a name: in the place of the value there, else at the end. -/
def put (table : Table α) (name : Text) (value : α) : Table α :=
  match table with
  | [] => [(name, value)]
  | (other, v) :: entries =>
    if other = name then (name, value) :: entries else (other, v) :: put entries name value

def erase (table : Table α) (name : Text) : Table α :=
  table.filter fun entry ↦ entry.1 != name

/-- The table of entries put in one after the other. -/
def ofEntries (entries : List (Text × α)) : Table α :=
  entries.foldl (fun table (name, value) ↦ put table name value) []

end Table

end EndpointDocs
