import TableAudit.Config.Reading
import TableAudit.Report.Writing

/-!
# From a configuration to its outputs

A configuration is read, its data are loaded and audited, and the report, the errors, the clean copy
and the profiles are written, in this order. The first failure ends the work; what has been written
by then stays.
-/

namespace TableAudit

structure Written where
  table : String
  path : String
  rows : Nat
  /-- Whether it was written as a report. -/
  asReport : Bool
deriving DecidableEq, Repr

inductive PipelineError
  | configFile (path : String) (e : FileError)
  | config (path : String) (e : Json.ReadError)
  | load (e : LoadError)
  | audit (e : RunError)
  | writeReport (e : WriteError)
  | write (table : String) (e : WriteError)
deriving DecidableEq, Repr

namespace PipelineError

/-- A message and the cause that it ends with, which is then said again. -/
def chain (message : String) (cause? : Option String) : String :=
  match cause? with
  | some cause => message ++ ": " ++ cause
  | none => message

def context : PipelineError → String
  | configFile path _ | config path _ => s!"load configuration {path}"
  | load _ => "load subject dataset"
  | audit _ => "run audit"
  | writeReport _ => "write report"
  | write table _ => s!"write {table} table"

def detail : PipelineError → String
  | configFile _ e => chain s!"io error: {e.message}" (some e.message)
  | config _ e => chain s!"invalid configuration: {e.message}" (some e.message)
  | load e => chain e.message e.cause?
  | audit e => e.message
  | writeReport e => chain e.message e.cause?
  | write _ e => chain e.message e.cause?

def message (e : PipelineError) : String := e.context ++ ": " ++ e.detail

end PipelineError

inductive Output
  | report (sink : Sink) (report : Report)
  | table (sink : Sink) (name : String) (t : Table)

namespace Output

def create (f : Files) (name path : String) (rows : Nat) (content : Content) (asReport : Bool) :
    Except WriteError (Written × Files) := do
  return (⟨name, path, rows, asReport⟩, ← f.create path content)

def write (base : String) (f : Files) : Output → Except PipelineError (Written × Files)
  | .report sink r => Except.mapError .writeReport do
    let path ← sink.target "report" (some base)
    let (content, asReport) ← sink.reportContent r path
    create f "report" path r.length content asReport
  | .table sink name t => Except.mapError (.write name) do
    let path ← sink.target name (some base)
    create f name path t.height (← sink.content t path) false

end Output

/-- The outputs of an audit, in the order in which they are written. -/
def outputs (c : Config) (a : Audit) (report : Report) : List Output :=
  (c.output.map fun sink => Output.report sink report).toList ++
  (c.error.map fun sink => Output.table sink "errors" a.errors).toList ++
  (match a.clean, c.data with
    | some t, some d => [.table d.sink "clean" t]
    | _, _ => []) ++
  a.profilings.filterMap fun p =>
    p.output.map fun path => .table ⟨some path, none, none, none⟩ s!"statistics:{p.code}" p.table

/-- What came of writing: the tables written, the failure that ended it, and the files. -/
structure Writing where
  written : List Written
  failure : Option PipelineError
  files : Files

def writeAll (base : String) (f : Files) : List Output → Writing
  | [] => ⟨[], none, f⟩
  | o :: os =>
    match o.write base f with
    | .error e => ⟨[], some e, f⟩
    | .ok (w, f) =>
      let rest := writeAll base f os
      { rest with written := w :: rest.written }

structure PipelineOptions where
  config : String
  /-- Where relative paths lie; the directory of the configuration if it is not given. -/
  base : Option String
  /-- Whether nothing is to be written. -/
  dryRun : Bool

def PipelineOptions.directory (o : PipelineOptions) : String :=
  o.base.getD ((Path.parent? o.config).getD "")

structure AuditResult where
  audit : Audit
  report : Report
  written : List Written

/-- How far a pipeline got, for those who want to tell. -/
structure Trail where
  config : Option Config
  subject : Option Table
  course : Option Course
  audit : Option Audit
  writing : Option Writing

def Trail.none : Trail := ⟨.none, .none, .none, .none, .none⟩

/-- What a pipeline leaves behind: its result, the way there, and the files. -/
structure PipelineRun where
  result : Except PipelineError AuditResult
  trail : Trail
  files : Files

def loadConfig (f : Files) (path : String) : Except PipelineError Config := do
  let text ← (f.readText path).mapError (.configFile path)
  (Config.read text).mapError (.config path)

def runPipeline (o : PipelineOptions) (f : Files) (runTime : Calendar.Moment) : PipelineRun :=
  match loadConfig f o.config with
  | .error e => ⟨.error e, .none, f⟩
  | .ok c =>
    let trail := { Trail.none with config := some c }
    let base := o.directory
    let resolve := f.resolve (some base)
    match resolve c.input.source with
    | .error e => ⟨.error (.load e), trail, f⟩
    | .ok subject =>
      let course := Course.of c subject resolve runTime
      let trail := { trail with subject := some subject, course := some course }
      match course.audit c subject runTime with
      | .error e => ⟨.error (.audit e), trail, f⟩
      | .ok a =>
        let report := Report.ofAudit a c.input.metadata
        let trail := { trail with audit := some a }
        if o.dryRun then ⟨.ok ⟨a, report, []⟩, trail, f⟩
        else
          let writing := writeAll base f (outputs c a report)
          let result := match writing.failure with
            | some e => .error e
            | none => .ok ⟨a, report, writing.written⟩
          ⟨result, { trail with writing := some writing }, writing.files⟩

end TableAudit
