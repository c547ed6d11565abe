import TableAudit.Decimal.Layout
import TableAudit.Decimal.Reading

/-!
# Ranges

A limit is a number or the name of a column that holds it. Bounds either describe the range that
values must lie in, or, if they are not inclusive, a band that values must stay out of.
-/

namespace TableAudit

inductive RangeLimit
  | number (x : Float)
  | column (name : String)

namespace RangeLimit

/-- What reads as a number is one; all else names a column. -/
def ofText (raw : String) : RangeLimit :=
  match Decimal.readFloat (Text.trim raw) with
  | some x => .number x
  | none => .column (Text.trim raw)

def text : RangeLimit → String
  | .number x => Decimal.plain x
  | .column name => name

end RangeLimit

structure RangeBounds where
  min : Option RangeLimit
  max : Option RangeLimit
  includeLeft : Bool
  includeRight : Bool
  inclusive : Bool

namespace RangeBounds

/-- Whether a value violates the bounds, given the numbers that the limits stand for. A limit that
is absent is never violated, and a band without both limits is no band. -/
def violates (b : RangeBounds) (value : Float) (min max : Option Float) : Bool :=
  let below := min.any fun limit => if b.includeLeft then value < limit else value ≤ limit
  let above := max.any fun limit => if b.includeRight then value > limit else value ≥ limit
  if b.inclusive then below || above
  else min.isSome && max.isSome && !below && !above

end RangeBounds

end TableAudit
