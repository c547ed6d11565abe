import TableAudit.Decimal.Layout
import TableAudit.Rule.Comparison
import TableAudit.Text.Case

/-!
# Row filters

A filter says something about the cell of one column; a condition says how several filters go
together.
-/

namespace TableAudit

inductive FilterTest
  /-- The cell is one of the values. -/
  | isIn (values : List String)
  /-- The cell is there and is none of the values. -/
  | notIn (values : List String)
  | isNull
  | isNotNull
  | compare (op : Comparison) (literal : Float)

structure RowFilter where
  column : String
  test : FilterTest

def RowFilter.text (f : RowFilter) : String :=
  f.column ++
    match f.test with
    | .isIn values => " in " ++ ",".intercalate values
    | .notIn values => " not in " ++ ",".intercalate values
    | .isNull => " is Null"
    | .isNotNull => " is NotNull"
    | .compare op literal => " " ++ op.symbol ++ " " ++ Decimal.plain literal

inductive Condition
  /-- Only the first filter counts. -/
  | first
  | all
  | any
deriving DecidableEq, Repr

namespace Condition

def list : List Condition := [first, all, any]

def name : Condition → String
  | first => "No"
  | all => "And"
  | any => "Or"

def ofName? (name : String) : Option Condition := list.find? (·.name == name)

@[simp] theorem ofName?_name (c : Condition) : ofName? c.name = some c := by cases c <;> rfl

def ofText? (raw : String) : Option Condition :=
  match Text.upper (Text.trim raw) with
  | "NO" | "" => some first
  | "AND" => some all
  | "OR" => some any
  | _ => none

end Condition

end TableAudit
