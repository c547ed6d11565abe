import TableAudit.Audit.Run
import TableAudit.Json.Writer

/-!
# Reports

A report has one row for each outcome, in 22 columns of which three hold counts. The metadata of the
run stand in every row in capitals.
-/

namespace TableAudit

open Json (Value)

structure ReportRow where
  dataDate : String
  country : String
  project : String
  entity : String
  testedFields : String
  domain : String
  subDomain : String
  segment : String
  area : String
  auditDate : String
  functionCode : String
  ruleCode : String
  requirement : String
  threshold : String
  group : String
  property : String
  tested : Nat
  passed : Nat
  successRate : String
  failed : Nat
  failRate : String
  version : String
deriving DecidableEq, Repr

abbrev Report := List ReportRow

/-- The version that every row is stamped with. -/
def version : String := "0.1.0"

/-- What stands in the place of date and country where prerequisites are not met. -/
def missingValue : String := "-"

/-- A column of the report: its name and what it shows of a row. -/
inductive ReportColumn
  | text (name : String) (of : ReportRow → String)
  | count (name : String) (of : ReportRow → Nat)

namespace ReportColumn

def name : ReportColumn → String
  | text name _ => name
  | count name _ => name

def all : List ReportColumn :=
  [text "DataDate" (·.dataDate), text "CountryId" (·.country), text "Project" (·.project),
   text "Entity" (·.entity), text "TestedFields" (·.testedFields), text "Domain" (·.domain),
   text "SubDomain" (·.subDomain), text "Segment" (·.segment), text "Area" (·.area),
   text "AuditDate" (·.auditDate), text "FunctionCode" (·.functionCode),
   text "RuleCode" (·.ruleCode), text "DataRequirement" (·.requirement),
   text "Threshold" (·.threshold), text "RuleGroup" (·.group), text "RuleProperty" (·.property),
   count "TestedRegisterAmount" (·.tested), count "PassedRegistersAmount" (·.passed),
   text "SuccessRate" (·.successRate), count "FailedRegistersAmount" (·.failed),
   text "FailRate" (·.failRate), text "LibraryVersion" (·.version)]

def toTable (c : ReportColumn) (rows : Report) : Field × List (Option Cell) :=
  match c with
  | text name of => (⟨name, .text⟩, rows.map fun r => some (.text (of r)))
  | count name of => (⟨name, .uint64⟩, rows.map fun r => some (.int (of r)))

end ReportColumn

namespace ReportRow

/-- An outcome as a row; the time of the audit is given as text. -/
def ofOutcome (o : Outcome) (m : Metadata) (auditDate dataDate country : String) : ReportRow :=
  { dataDate
    country := Text.upper country
    project := Text.upper m.project
    entity := Text.upper m.entity
    testedFields := Text.upper o.label
    domain := Text.upper m.domain
    subDomain := Text.upper m.subDomain
    segment := Text.upper m.segment
    area := Text.upper m.area
    auditDate
    functionCode := o.functionCode
    ruleCode := o.ruleCode
    requirement := o.requirement
    threshold := Decimal.cellText o.threshold
    group := o.group
    property := o.property
    tested := o.tested
    passed := o.passed
    successRate := rateText o.successRate
    failed := o.failed
    failRate := rateText o.failRate
    version := TableAudit.version }

/-- The texts of a row, in the order of the columns. -/
def texts (r : ReportRow) : List String :=
  [r.dataDate, r.country, r.project, r.entity, r.testedFields, r.domain, r.subDomain, r.segment,
   r.area, r.auditDate, r.functionCode, r.ruleCode, r.requirement, r.threshold, r.group,
   r.property, Decimal.digitText r.tested, Decimal.digitText r.passed, r.successRate,
   Decimal.digitText r.failed, r.failRate, r.version]

def toJson (r : ReportRow) : Value :=
  .object <| ReportColumn.all.map fun
    | .text name of => (name, .text (of r))
    | .count name of => (name, .ofNat (of r))

end ReportRow

namespace Report

def ofOutcomes (outcomes : List Outcome) (m : Metadata) (time : Calendar.Moment) : Report :=
  outcomes.map fun o => .ofOutcome o m time.fileText m.dataDate m.country

/-- The report of prerequisites that are not met. -/
def ofFailure (o : Outcome) (m : Metadata) (time : Calendar.Moment) : Report :=
  [.ofOutcome o m time.fileText missingValue missingValue]

def ofAudit (a : Audit) (m : Metadata) : Report :=
  match a.status, a.results with
  | .prerequisitesFailed, failure :: _ => ofFailure failure m a.runTime
  | _, results => ofOutcomes results m a.runTime

def columnNames : List String := ReportColumn.all.map ReportColumn.name

def toTable (r : Report) : Except TableError Table :=
  Table.ofColumns (ReportColumn.all.map (·.toTable r))

def toDelimited (r : Report) (options : Delimited.Options) : String :=
  Delimited.write options columnNames (r.map ReportRow.texts)

/-- One object for each row, over several lines. -/
def toJsonText (r : Report) : String :=
  (Value.list (r.map ReportRow.toJson)).pretty 0 ++ "\n"

end Report

/-- A table as delimited text; a missing cell is empty. -/
def Table.toDelimited (t : Table) (options : Delimited.Options) : String :=
  Delimited.write options t.names
    (t.rows.map fun row => row.map fun c => (c.map Cell.toText).getD "")

end TableAudit
