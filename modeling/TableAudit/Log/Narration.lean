import TableAudit.Log.Filter
import TableAudit.Log.Line
import TableAudit.Pipeline

/-!
# What a pipeline has to tell

The log of a run is told from its trail: what was loaded, which rules were left out, how the gate,
the filter and the instances came out, and what was written. Nothing of it can change the run.
-/

namespace TableAudit

open Log (Event Level FieldValue)

namespace Log

def event (level : Level) (target message : String) (fields : List (String × FieldValue)) :
    Event :=
  ⟨level, target, message, fields, true⟩

def loader : String := "dq_ingest::source"

def reader : String := "dq_model::config"

def engine : String := "dq_validate::engine"

def guard : String := "dq_validate::prerequisites"

def profiler : String := "dq_validate::statistics"

def cleaner : String := "dq_validate::clean"

def writer : String := "dq_report::writer"

def pipeline : String := "dq_cli::pipeline"

end Log

open Log

namespace Source

/-- Loading is told of once it is clear what is to be loaded. -/
def events (s : Source) (base : Option String) (loaded : Except LoadError Table) : List Event :=
  match s.request base with
  | .error _ => []
  | .ok r =>
    event .info loader "loading dataset" [("path", .shown r.path), ("format", .shown r.format.name)]
      :: match loaded with
        | .ok t =>
          [event .debug loader "dataset loaded"
            [("rows", .count t.height), ("columns", .count t.fields.length)]]
        | .error _ => []

end Source

/-- Records that are no rules, or that are switched off. -/
def recordEvents (parsed : List (String × Except RecordError (Option Rule))) : List Event :=
  parsed.filterMap fun
    | (code, .error e) =>
      some (event .warn reader "skipping rule" [("code", .shown code), ("error", .shown e.message)])
    | (code, .ok none) =>
      some (event .debug reader "rule disabled by its fields" [("code", .shown code)])
    | (_, .ok (some _)) => none

def Guard.event (g : Guard) (rows : Nat) : Event :=
  match g.gate with
  | .satisfied =>
    Log.event .info guard "prerequisites satisfied"
      [("fields", .count g.required.length), ("rows", .count rows)]
  | .missingColumns names =>
    Log.event .warn guard "prerequisite columns missing"
      [("fields", .shown (",".intercalate names))]
  | .noRows => Log.event .warn guard "subject dataset has no rows" []

def Scope.events (s : Scope) (rows : Nat) : List Event :=
  (s.filters.filterMap fun
    | .error e => some (event .warn reader "ignoring malformed global filter"
        [("error", .shown e.message)])
    | .ok _ => none) ++
  match s.filtered with
  | some (.ok t) =>
    [event .info engine "applied global filter" [("kept", .count t.height), ("total", .count rows)]]
  | some (.error e) => [event .warn engine "global filter skipped" [("error", .shown e.message)]]
  | none => []

def referenceEvents (base : Option String) (s : Source) (loaded : Except LoadError Table) :
    List Event :=
  s.events base loaded ++
    match loaded with
    | .ok _ => []
    | .error e =>
      [event .warn engine "reference unavailable"
        [("reference", .shown s.displayName), ("error", .shown e.message)]]

/-- How an instance came out; nothing is told of one that overflows. Instances are evaluated side by
side, outside the span of the audit, unless there is only one. -/
def Instance.event? (i : Instance) (verdict : Except CheckError Verdict) (alone : Bool) :
    Option Event :=
  let e? := match verdict with
    | .ok (.profiling p) =>
      some (Log.event .debug profiler "profiled columns" [("fields", .count p.table.height)])
    | .ok (.outcome o) =>
      some (Log.event .debug engine "rule evaluated"
        [("code", .shown i.head.code), ("fields", .shown o.label), ("tested", .count o.tested),
         ("failed", .count o.failed), ("elapsed_us", .elapsed false)])
    | .error .overflow => none
    | .error e =>
      some (Log.event .warn engine "rule skipped"
        [("code", .shown i.head.code), ("fields", .shown i.label), ("error", .shown e.message)])
  e?.map fun e => { e with inSpan := alone }

def Evaluation.events (e : Evaluation) (base : Option String) (rows : Nat) : List Event :=
  e.scope.events rows ++
  e.references.flatMap (fun (s, loaded) => referenceEvents base s loaded) ++
  e.items.filterMap fun (i, verdict) => i.event? verdict (e.items.length == 1)

namespace Course

def events (c : Course) (config : Config) (base : Option String) (rows : Nat) : List Event :=
  recordEvents c.parsed ++
  [event .info engine "starting audit run"
    [("entity", .shown config.input.metadata.entityCode),
     ("rules", .count (Config.rulesOf c.parsed).length), ("rows", .count rows)]] ++
  (c.guard.map (·.event rows)).toList ++
  match c.stage with
  | .stopped _ => []
  | .evaluated e => e.events base rows

end Course

namespace Audit

/-- The end of a run that the gate did not stop. -/
def events (a : Audit) : List Event :=
  match a.status with
  | .prerequisitesFailed => []
  | .completed =>
    (match a.projection with
      | some (.ok t) =>
        [event .debug cleaner "projected clean dataset"
          [("kept", .count t.height), ("dropped", .count (a.testedRows - t.height))]]
      | some (.error e) =>
        [event .warn engine "clean dataset projection failed" [("error", .shown e.message)]]
      | none => []) ++
    [event .info engine "audit run finished"
      [("outcomes", .count a.results.length), ("error_rows", .count a.errors.height),
       ("diagnostics", .count a.diagnostics.length), ("elapsed_ms", .elapsed false)]]

def diagnosticEvents (a : Audit) : List Event :=
  a.diagnostics.map fun d => event .warn pipeline d.message [("code", .shown d.code)]

end Audit

def Written.event (w : Written) : Event :=
  if w.asReport then
    Log.event .info writer "wrote report" [("path", .shown w.path), ("rows", .count w.rows)]
  else
    Log.event .info writer "wrote table"
      [("table", .quoted w.table), ("path", .shown w.path), ("rows", .count w.rows)]

/-- All that a pipeline has to tell, in order. -/
def PipelineRun.events (r : PipelineRun) (o : PipelineOptions) : List Event :=
  match r.trail.config with
  | none => []
  | some c =>
    let base := some o.directory
    let source := c.input.source
    let rows := (r.trail.subject.map Table.height).getD 0
    let loaded := match r.trail.subject with
      | some t => .ok t
      | none => .error (.missingPath source.displayName)
    source.events base loaded ++
    (r.trail.course.map (·.events c base rows)).getD [] ++
    (r.trail.audit.map fun a => a.events ++ a.diagnosticEvents).getD [] ++
    (if o.dryRun && r.trail.audit.isSome then
        [event .info pipeline "dry run, skipping outputs" []]
      else []) ++
    (r.trail.writing.map fun w => w.written.map Written.event).getD [] ++
    match r.result with
    | .ok result =>
      [event .info pipeline "audit finished"
        [("results", .count result.report.length), ("written", .count result.written.length),
         ("elapsed_ms", .elapsed true)]]
    | .error _ => []

end TableAudit
