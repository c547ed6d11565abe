import TableAudit.Finding

/-!
# The error table

All failing rows that are to be written, outcome by outcome, each with the requirement that it
fails and the time of the run.
-/

namespace TableAudit

def errorColumn : String := "error"
def runTimeColumn : String := "run_time"

/-- Rows with the two columns that say why and when. -/
def tagged (rows : Table) (requirement runTime : String) : Table :=
  (rows.withConstant errorColumn requirement).withConstant runTimeColumn runTime

namespace Outcome

/-- The rows of an outcome that go into the error table. -/
def written? (o : Outcome) : Option Table :=
  if o.writes && o.failed > 0 then o.violating else none

end Outcome

/-- The error table of outcomes about a table; without rows it still has all its columns. -/
def errorTable (outcomes : List Outcome) (subject : Table) (runTime : String) :
    Except TableError Table :=
  outcomes.foldlM (fun errors o =>
      match o.written? with
      | some rows => errors.stack (tagged rows o.requirement runTime)
      | none => .ok errors)
    (tagged subject.cleared "" runTime)

/-- Outcomes and the error table that they make up. -/
structure Aggregate where
  results : List Outcome
  errors : Table

/-- Sums outcomes about a table up; they stay in their order. -/
def aggregate (outcomes : List Outcome) (subject : Table) (runTime : String) :
    Except TableError Aggregate :=
  (errorTable outcomes subject runTime).map fun errors => ⟨outcomes, errors⟩

/-- The rows whose key is not in the error table. -/
def cleanTable (subject errors : Table) (keys : List String) : Except TableError Table :=
  subject.antiJoin errors keys keys

end TableAudit
