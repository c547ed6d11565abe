import TableAudit.Check.Groups

/-!
# Profiles of columns

Mean, deviation, extremes, percentiles and the most frequent value. Only a column whose texts are
all numbers has numeric measures; the extremes of any other are those of its texts.
-/

namespace TableAudit

def percentiles : List (String × Float) :=
  [("P1", 0.01), ("P5", 0.05), ("P10", 0.10), ("P25", 0.25), ("MEDIANA", 0.50), ("P75", 0.75),
   ("P90", 0.90), ("P95", 0.95)]

structure Profile where
  field : String
  mean : Option Float
  deviation : Option Float
  min : Option String
  percentiles : List (Option Float)
  max : Option String
  mode : Option String

/-- The place of a float in the total order that puts negative zero before zero and NaN last. -/
def orderKey (x : Float) : Int :=
  let bits := x.toBits.toNat
  if bits < 1 <<< 63 then bits else -((bits - 1 <<< 63 : Nat) : Int) - 1

def sorted (xs : List Float) : List Float :=
  xs.mergeSort fun a b => orderKey a ≤ orderKey b

/-- The value at a quantile, between the two nearest ranks of ascending numbers. -/
def percentile (xs : Array Float) (quantile : Float) : Option Float := do
  let place := quantile * Decimal.ofInt (xs.size - 1 : Nat)
  let rank := Decimal.wordBelow place
  let low ← xs[rank]?
  let high ← xs[Decimal.wordAbove place]?
  return low + (high - low) * (place - Decimal.ofInt rank)

/-- Distinct values with their counts, and for each value its slot among them. -/
structure Census where
  slots : Std.HashMap String Nat
  counts : Array (String × Nat)

namespace Census

def empty : Census := ⟨∅, #[]⟩

/-- Counts a value: in its slot, or in a new one behind the others. -/
def add (c : Census) (value : String) : Census :=
  match c.slots[value]? with
  | some slot => { c with counts := c.counts.modify slot fun entry => (entry.1, entry.2 + 1) }
  | none => ⟨c.slots.insert value c.counts.size, c.counts.push (value, 1)⟩

/-- The leading entry after one more; it takes a greater count to replace the leader. -/
def lead (best : Option (String × Nat)) (entry : String × Nat) : Option (String × Nat) :=
  match best with
  | none => some entry
  | some leader => if entry.2 > leader.2 then some entry else some leader

end Census

/-- The most frequent value; of several, the one seen first. -/
def mode (values : List String) : Option String :=
  let census := values.foldl Census.add .empty
  (census.counts.foldl Census.lead none).map (·.1)

/-- The least of some texts by a strict order. -/
def extreme (before : String → String → Bool) : List String → Option String
  | [] => none
  | s :: rest =>
    match extreme before rest with
    | some other => some (if before other s then other else s)
    | none => some s

namespace Profile

def ofValues (field : String) (texts : List String) (numbers : List Float) : Profile :=
  if !texts.isEmpty && numbers.length == texts.length then
    let xs := sorted numbers
    let array := xs.toArray
    { field
      mean := some (GroupCheck.mean xs)
      deviation := (GroupCheck.meanAndDeviation xs).map (·.2)
      min := xs.head?.map Decimal.cellText
      percentiles := TableAudit.percentiles.map fun (_, q) => percentile array q
      max := xs.getLast?.map Decimal.cellText
      mode := TableAudit.mode texts }
  else
    { field
      mean := none
      deviation := none
      min := extreme (fun a b => decide (a < b)) texts
      percentiles := TableAudit.percentiles.map fun _ => none
      max := extreme (fun a b => decide (b < a)) texts
      mode := TableAudit.mode texts }

def ofColumn (t : Table) (field : String) : Except TableError Profile := do
  let texts ← t.texts field
  let numbers ← t.numbers field
  return ofValues field (texts.filterMap id) (numbers.filterMap id)

def headings : List String :=
  ["CAMPOS", "MEDIA", "DESVIACION ESTANDAR", "MIN"] ++ TableAudit.percentiles.map (·.1) ++
    ["MAX", "MODA"]

def cells (p : Profile) : List (Option String) :=
  [some p.field, p.mean.map Decimal.cellText, p.deviation.map Decimal.cellText, p.min] ++
    p.percentiles.map (·.map Decimal.cellText) ++ [p.max, p.mode]

end Profile

/-- The profiles of some columns, one in a row. -/
def profileTable (t : Table) (fields : List String) : Except TableError Table := do
  let profiles ← fields.mapM (Profile.ofColumn t)
  Table.ofColumns <| Profile.headings.zipIdx.map fun (name, i) =>
    (⟨name, .text⟩, profiles.map fun p => ((p.cells[i]?).join).map Cell.text)

end TableAudit
