import TableAudit.Audit.Errors
import TableAudit.Audit.Gate
import TableAudit.Audit.Plan
import TableAudit.Audit.Profile
import TableAudit.Check.Evaluate
import TableAudit.Config.Basic

/-!
# Running an audit

The rules are read, the gate is checked, the global filter is applied, reference tables are loaded
and every planned instance is evaluated. A problem with a part of this leaves that part out and is
reported. Only a sum that overflows ends the run, whatever came of the other parts.
-/

namespace TableAudit

/-- A table of profiles that a rule asked for, and where it is to be written. -/
structure Profiling where
  code : String
  output : Option String
  table : Table

inductive Verdict
  | outcome (o : Outcome)
  | profiling (p : Profiling)

abbrev Resolver := Source → Except LoadError Table

namespace Instance

/-- The outcome of an instance with these counts. -/
def outcome (i : Instance) (entity : String) (tested failed : Nat) (violating : Option Table) :
    Outcome :=
  let h := i.head
  { code := h.code
    kind := h.kind
    label := i.label
    functionCode := h.kind.code
    ruleCode := s!"{h.kind.code}/{entity}/{i.label}"
    requirement := s!"{h.kind.label} - {i.label}"
    threshold := h.threshold
    group := h.kind.group
    property := h.kind.property
    tested
    failed
    writes := h.writes
    violating }

/-- Evaluates a scored rule and keeps the failing rows if they are wanted. -/
def score (i : Instance) (t : Table) (ctx : Context) (entity : String) :
    Except CheckError Outcome := do
  let finding ← i.rule.evaluate i.fields ctx t
  let failed := finding.failedCount
  if i.head.writes && failed > 0 then
    let rows ← (t.keep finding.failed).mapError .table
    return i.outcome entity finding.tested failed (some rows)
  else
    return i.outcome entity finding.tested failed none

def evaluate (i : Instance) (t : Table) (ctx : Context) (entity : String) :
    Except CheckError Verdict :=
  match i.rule with
  | .plain h (.statistics output) =>
    match profileTable t i.fields with
    | .ok table => .ok (.profiling ⟨h.code, output, table⟩)
    | .error e => .error (.table e)
  | _ => (i.score t ctx entity).map .outcome

/-- The diagnostic of an instance that could not be evaluated. -/
def skipped (i : Instance) (e : CheckError) : Diagnostic :=
  ⟨i.head.code, s!"{i.label}: {e.message}"⟩

end Instance

/-- The tables that rules compare with, each loaded once, in the order of first use. -/
def loadReferences (rules : List Rule) (resolve : Resolver) :
    List (Source × Except LoadError Table) :=
  (rules.filterMap Rule.source?).eraseDups.map fun s => (s, resolve s)

/-- A guarding rule, the columns it requires, and what its gate says. -/
structure Guard where
  head : RuleHead
  required : List String
  gate : Gate

def Guard.of (rule : Rule) (subject : Table) : Guard :=
  let required := rule.head.target.resolve subject.names
  ⟨rule.head, required, .check subject required⟩

/-- The outcome that stops the run, if the gate is not satisfied. -/
def Guard.failure? (g : Guard) (rows : Nat) (entity : String) : Option Outcome :=
  g.gate.message?.map fun message => gateFailure g.head g.required message rows entity

/-- What is audited, and how it came about. -/
structure Scope where
  /-- The entries of the global filter. -/
  filters : List (Except RecordError RowFilter)
  /-- What the filter left, if there is one. -/
  filtered : Option (Except TableError Table)
  /-- The audited table: the filtered one if filtering succeeded. -/
  table : Table

def Scope.of (c : Config) (subject : Table) : Scope :=
  let filters := c.filters
  match Config.filtersOf filters with
  | [] => ⟨filters, none, subject⟩
  | fs =>
    let filtered := subject.filterBy .all fs
    ⟨filters, some filtered, filtered.toOption.getD subject⟩

def Scope.diagnostics (s : Scope) : List Diagnostic :=
  Config.filterDiagnosticsOf s.filters ++
    match s.filtered with
    | some (.error e) => [⟨"filter", e.message⟩]
    | _ => []

structure Evaluation where
  scope : Scope
  references : List (Source × Except LoadError Table)
  items : List (Instance × Except CheckError Verdict)

namespace Evaluation

def of (c : Config) (rules : List Rule) (subject : Table) (resolve : Resolver)
    (runTime : Calendar.Moment) : Evaluation :=
  let scope := Scope.of c subject
  let references := loadReferences rules resolve
  let ctx : Context := ⟨references, runTime.date⟩
  let entity := c.input.metadata.entityCode
  let items := (plan rules scope.table.names).map fun i =>
    (i, i.evaluate scope.table ctx entity)
  ⟨scope, references, items⟩

def outcomes (e : Evaluation) : List Outcome :=
  e.items.filterMap fun
    | (_, .ok (.outcome o)) => some o
    | _ => none

def profilings (e : Evaluation) : List Profiling :=
  e.items.filterMap fun
    | (_, .ok (.profiling p)) => some p
    | _ => none

def diagnostics (e : Evaluation) : List Diagnostic :=
  e.scope.diagnostics ++ e.items.filterMap fun
    | (i, .error err) => some (i.skipped err)
    | _ => none

def overflows (e : Evaluation) : Bool := e.items.any fun
  | (_, .error .overflow) => true
  | _ => false

end Evaluation

inductive RunError
  | table (e : TableError)
  | overflow
deriving DecidableEq, Repr

def RunError.message : RunError → String
  | table e => e.message
  | overflow => CheckError.overflow.message

inductive Status
  | completed
  | prerequisitesFailed
deriving DecidableEq, Repr

structure Audit where
  status : Status
  results : List Outcome
  errors : Table
  profilings : List Profiling
  /-- The clean copy, or why there is none, if one was wanted. -/
  projection : Option (Except TableError Table)
  diagnostics : List Diagnostic
  runTime : Calendar.Moment
  testedRows : Nat

namespace Audit

def clean (a : Audit) : Option Table := a.projection.bind Except.toOption

/-- The audit of a table whose prerequisites are not met. -/
def stopped (failure : Outcome) (subject : Table) (diagnostics : List Diagnostic)
    (runTime : Calendar.Moment) : Except TableError Audit := do
  let sum ← aggregate [failure] subject runTime.text
  return {
    status := .prerequisitesFailed
    results := sum.results
    errors := sum.errors
    profilings := []
    projection := none
    diagnostics
    runTime
    testedRows := subject.height }

/-- The clean copy that a configuration asks for. -/
def project (c : Config) (table errors : Table) : Option (Except TableError Table) :=
  match c.data with
  | some d => if c.wantsClean then some (cleanTable table errors d.fields) else none
  | none => none

def completed (c : Config) (e : Evaluation) (diagnostics : List Diagnostic)
    (runTime : Calendar.Moment) : Except TableError Audit := do
  let table := e.scope.table
  let sum ← aggregate e.outcomes table runTime.text
  let projection := project c table sum.errors
  let failed := match projection with
    | some (.error err) => [⟨"data", err.message⟩]
    | _ => []
  return {
    status := .completed
    results := sum.results
    errors := sum.errors
    profilings := e.profilings
    projection
    diagnostics := diagnostics ++ e.diagnostics ++ failed
    runTime
    testedRows := table.height }

end Audit

/-- How far a run got: to the gate, or to the end. -/
inductive Stage
  | stopped (failure : Outcome)
  | evaluated (e : Evaluation)

/-- The course of a run: the records read, the gate if there is one, and what came of it. -/
structure Course where
  parsed : List (String × Except RecordError (Option Rule))
  guard : Option Guard
  stage : Stage

namespace Course

def of (c : Config) (subject : Table) (resolve : Resolver) (runTime : Calendar.Moment) :
    Course :=
  let parsed := c.parsed
  let rules := Config.rulesOf parsed
  let guard := (Config.prerequisites? rules).map (Guard.of · subject)
  match guard.bind (·.failure? subject.height c.input.metadata.entityCode) with
  | some failure => ⟨parsed, guard, .stopped failure⟩
  | none => ⟨parsed, guard, .evaluated (.of c rules subject resolve runTime)⟩

def audit (course : Course) (c : Config) (subject : Table) (runTime : Calendar.Moment) :
    Except RunError Audit :=
  let diagnostics := Config.diagnosticsOf course.parsed
  match course.stage with
  | .stopped failure => (Audit.stopped failure subject diagnostics runTime).mapError .table
  | .evaluated e =>
    if e.overflows then .error .overflow
    else (Audit.completed c e diagnostics runTime).mapError .table

end Course

namespace Audit

def run (c : Config) (subject : Table) (resolve : Resolver) (runTime : Calendar.Moment) :
    Except RunError Audit :=
  (Course.of c subject resolve runTime).audit c subject runTime

end Audit

end TableAudit
