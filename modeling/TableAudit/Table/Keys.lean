import Std.Data.HashMap
import Std.Data.HashSet
import TableAudit.Table.Basic

/-!
# Keys, groups and joins

The key of a row is the list of its texts in some columns. Rows with equal keys form a group, a
missing text being equal to itself. In a join, a key with a missing text matches nothing.
-/

namespace TableAudit

abbrev Key := List (Option String)

def Row.key (r : Row) (columns : List Nat) : Key := columns.map r.text?

/-- A key without missing texts. -/
def Key.complete? : Key → Option (List String)
  | [] => some []
  | none :: _ => none
  | some s :: k => (Key.complete? k).map (s :: ·)

/-- For every key the positions at which it occurs, in order. -/
def positions (keys : List Key) : Std.HashMap Key (List Nat) :=
  keys.zipIdx.foldr (fun (k, i) m => m.insert k (i :: m.getD k [])) ∅

/-- The positions of equal keys, ordered by the first of each group. -/
def groups (keys : List Key) : List (List Nat) :=
  let found := positions keys
  keys.zipIdx.filterMap fun (k, i) =>
    let group := found.getD k []
    if group.head? = some i then some group else none

def occurrences (keys : List Key) : List Nat :=
  let found := positions keys
  keys.map fun k => (found.getD k []).length

namespace Table

def keys (t : Table) (names : List String) : Except TableError (List Key) :=
  (t.fields.columns names).map fun is => t.rows.map (·.key is)

def groupBy (t : Table) (names : List String) : Except TableError (List (List Nat)) :=
  (t.keys names).map groups

def groupCounts (t : Table) (names : List String) : Except TableError (List Nat) :=
  (t.keys names).map occurrences

/-- Which rows find no partner in another table. -/
def unmatched (t other : Table) (on otherOn : List String) : Except TableError (List Bool) := do
  if on.length ≠ otherOn.length then
    throw (.keyArity on.length otherOn.length)
  let otherKeys ← other.keys otherOn
  let present := Std.HashSet.ofList (otherKeys.filterMap Key.complete?)
  let keys ← t.keys on
  return keys.map fun k =>
    match k.complete? with
    | some k => !present.contains k
    | none => true

/-- The rows that find no partner in another table. -/
def antiJoin (t other : Table) (on otherOn : List String) : Except TableError Table :=
  (t.unmatched other on otherOn).map t.select

end Table

end TableAudit
