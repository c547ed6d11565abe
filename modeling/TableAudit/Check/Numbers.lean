import TableAudit.Check.Basic
import TableAudit.Rule.Expression

/-!
# Checks of numbers

Ranges whose limits are numbers or columns, and the comparison of a column with an expression.
-/

namespace TableAudit.RowCheck

def limit (s : Schema) : Option RangeLimit → Except CheckError (Row → Option Float)
  | none => .ok fun _ => none
  | some (.number x) => .ok fun _ => some x
  | some (.column name) => (findColumn s name).map fun i row => row.number? i

/-- A value that may be absent, against bounds; an absent one passes. -/
def withinBounds (s : Schema) (value : Row → Option Float) (b : RangeBounds) : Prepared := do
  let min ← limit s b.min
  let max ← limit s b.max
  return .ofEvery fun row => (value row).any fun x => b.violates x (min row) (max row)

def range (s : Schema) (field : String) (b : RangeBounds) : Prepared := do
  let i ← findColumn s field
  withinBounds s (·.number? i) b

/-- Whether a number stands in no right relation to the result of an expression. Equality allows a
relative error, for any other comparison the row fails if it holds. -/
def disagrees (operator : Comparison) (tolerance value result : Float) : Bool :=
  if !Decimal.isFinite result then true
  else if operator = .eq then
    if result == 0 then value != 0 else (1 - value / result).abs > tolerance
  else operator.holds value result

def operation (s : Schema) (field : String) (operator : Comparison) (operand : String)
    (tolerance : Float) : Prepared := do
  let e ← (Expression.read operand).mapError (.invalidExpression operand)
  let i ← findColumn s field
  let _ ← (s.columns e.columns).mapError .table
  let value (row : Row) : Operand → Option Float
    | .number x => some x
    | .column name => (s.index? name).bind row.number?
  return .ofEvery fun row =>
    match row.number? i, e.eval (value row) with
    | some x, some result => disagrees operator tolerance x result
    | _, _ => true

end TableAudit.RowCheck
