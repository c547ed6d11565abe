import TableAudit.Check.Basic

/-!
# Checks of rows among rows

Repeated keys, and numbers far from the mean of their group.
-/

namespace TableAudit.GroupCheck

/-- Rows whose key occurs more than once fail. -/
def unique (t : Table) (fields : List String) : Except CheckError Finding := do
  let counts ← (t.groupCounts fields).mapError .table
  return .full (counts.map (· > 1))

/-- The sum from left to right; the empty one is negative zero, which adds nothing to any number. -/
def sum (xs : List Float) : Float := xs.foldl (· + ·) (-0.0)

def mean (xs : List Float) : Float := sum xs / Decimal.ofInt xs.length

/-- Mean and standard deviation of a sample of at least two numbers. -/
def meanAndDeviation (xs : List Float) : Option (Float × Float) :=
  if xs.length < 2 then none
  else
    let m := mean xs
    let squares := xs.map fun x => (x - m) * (x - m)
    some (m, (sum squares / (Decimal.ofInt xs.length - 1)).sqrt)

/-- The verdict on the values of one group. A group without a band passes; beside a band, missing
values fail. -/
def trendVerdicts (method : TrendMethod) (values : List (Option Float)) : List Bool :=
  match meanAndDeviation (values.filterMap id) with
  | none => values.map fun _ => false
  | some (m, deviation) =>
    let width := method.bandWidth * deviation
    values.map fun value => value.all fun x => x < m - width || x > m + width

/-- The verdicts on positions that are grouped, put back into their order; a position in no group
passes. -/
def scatter (height : Nat) (verdicts : List (List (Nat × Bool))) : List Bool :=
  let failing := Std.HashSet.ofList (verdicts.flatten.filterMap fun (i, bad) =>
    if bad then some i else none)
  (List.range height).map failing.contains

def trend (t : Table) (field : String) (groupFields : List String) (method : TrendMethod) :
    Except CheckError Finding := do
  let values ← (t.numbers field).mapError .table
  let groups ←
    if groupFields.isEmpty then pure [List.range t.height]
    else (t.groupBy groupFields).mapError .table
  let values := values.toArray
  let verdicts := groups.map fun group =>
    group.zip (trendVerdicts method (group.map fun i => (values[i]?).join))
  return .full (scatter t.height verdicts)

end TableAudit.GroupCheck
