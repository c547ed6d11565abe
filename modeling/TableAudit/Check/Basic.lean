import TableAudit.Finding
import TableAudit.Store.Load

/-!
# Row checks

Most checks judge each row on its own. Such a check is prepared from the schema of the table, where
it may fail for want of a column, and then says of a row whether it is tested and whether it fails.
-/

namespace TableAudit

inductive CheckError
  | table (e : TableError)
  | referenceUnavailable (name reason : String)
  | invalidReferenceDate (value format : String)
  | invalidExpression (expression reason : String)
  /-- A sum does not fit 64 bits. This ends a run. -/
  | overflow
deriving DecidableEq, Repr

def CheckError.message : CheckError → String
  | table e => e.message
  | referenceUnavailable name reason => s!"reference dataset {name} is unavailable: {reason}"
  | invalidReferenceDate value format => s!"invalid literal date `{value}` for format {format}"
  | invalidExpression expression reason => s!"invalid expression `{expression}`: {reason}"
  | overflow => "attempt to add with overflow"

/-- What checks know beside the table: the tables they compare with, or why those are not there, and
today's date. -/
structure Context where
  references : List (Source × Except LoadError Table)
  runDate : Calendar.Date

def Context.reference (ctx : Context) (source : Source) : Except CheckError Table :=
  match ctx.references.find? (·.1 == source) with
  | some (_, .ok t) => .ok t
  | some (_, .error e) => .error (.referenceUnavailable source.displayName e.message)
  | none => .error (.referenceUnavailable source.displayName "not loaded")

structure RowCheck where
  tested : Row → Bool
  fails : Row → Bool
  /-- Whether the verdict on a row cannot be computed. -/
  overflows : Row → Bool := fun _ => false

namespace RowCheck

def ofEvery (fails : Row → Bool) : RowCheck := { tested := fun _ => true, fails }

def judge (c : RowCheck) (rows : List Row) : Except CheckError Finding :=
  if rows.any c.overflows then .error .overflow
  else .ok (.ofEligible (rows.map c.tested) (rows.map c.fails))

end RowCheck

/-- What a check comes to once the columns it needs are found. -/
abbrev Prepared := Except CheckError RowCheck

def findColumn (s : Schema) (name : String) : Except CheckError Nat :=
  (s.column name).mapError .table

/-- A check of one column that passes over missing texts. -/
def textCheck (s : Schema) (field : String) (fails : String → Bool) : Prepared := do
  let i ← findColumn s field
  return .ofEvery fun row => (row.text? i).any fails

end TableAudit
