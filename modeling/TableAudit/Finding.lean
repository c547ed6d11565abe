import TableAudit.Rule.Basic
import TableAudit.Table.Keys

/-!
# Findings and outcomes

A finding is the verdict on each row; an outcome is what reports say about it. Rates follow from the
counts.
-/

namespace TableAudit

/-- How many rows were eligible, and for each row of the table whether it fails. -/
structure Finding where
  tested : Nat
  failed : List Bool
deriving DecidableEq, Repr

namespace Finding

/-- Every row is eligible. -/
def full (failed : List Bool) : Finding := ⟨failed.length, failed⟩

/-- Only eligible rows are tested, and only they can fail. -/
def ofEligible (eligible failed : List Bool) : Finding :=
  ⟨eligible.count true, failed.zipWith (· && ·) eligible⟩

def failedCount (f : Finding) : Nat := f.failed.count true

end Finding

/-- The percentage of tested rows that pass; all of them if none was tested. -/
def successRate (tested failed : Nat) : Float :=
  if tested = 0 then 100
  else Decimal.ofInt (tested - failed : Nat) / Decimal.ofInt tested * 100

structure Outcome where
  code : String
  kind : RuleKind
  /-- The columns that were tested. -/
  label : String
  functionCode : String
  ruleCode : String
  requirement : String
  threshold : Float
  group : String
  property : String
  tested : Nat
  failed : Nat
  writes : Bool
  /-- The failing rows, kept if they are to be written and there are any. -/
  violating : Option Table

namespace Outcome

def passed (o : Outcome) : Nat := o.tested - o.failed

def successRate (o : Outcome) : Float := TableAudit.successRate o.tested o.failed

def failRate (o : Outcome) : Float := 100 - o.successRate

end Outcome

def rateText (x : Float) : String := Decimal.fixed 2 x

end TableAudit
