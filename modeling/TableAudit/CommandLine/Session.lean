import TableAudit.CommandLine.Settings
import TableAudit.Console.Summary
import TableAudit.Log.Narration

/-!
# A call of the program

From the arguments, the files and the time to the work that is done, and from that to what is
printed, the files afterwards and the exit status: zero, one if the prerequisites are not met or
there can be no log, two if anything is wrong with the arguments or the audit, and 101 if a sum
overflows.
-/

namespace TableAudit.CommandLine

structure Call where
  arguments : List String
  /-- The filter configured outside. -/
  filter : Option String
  files : Files
  now : Calendar.Moment

inductive Work
  /-- There is nothing to run. -/
  | none (stop : Stop)
  /-- There can be no log. -/
  | unlogged (e : FileError)
  /-- The kinds of rules are listed. -/
  | listing (files : Files)
  | audit (settings : Settings) (options : PipelineOptions) (run : PipelineRun)

/-- What a call of the program leaves behind. -/
structure Response where
  status : Nat
  output : String
  errors : String
  files : Files

def unlines (lines : List String) : String := String.join (lines.map (· ++ "\n"))

/-- Makes sure that there is a file to append to. -/
def touch (f : Files) (path : String) : Except FileError Files :=
  match f.read path with
  | .ok _ => .ok f
  | .error .notFound => f.write path (.bytes [])
  | .error e => .error e

def append (f : Files) (path text : String) : Files :=
  let place := Path.resolve path
  match f.content? place with
  | some (.bytes bytes) => f.put place (.bytes (bytes ++ Text.encodeUtf8 text))
  | _ => f

/-- The lines of events that pass a filter. The span of the audit shows if it passes itself. -/
def logLines (filter : Log.Filter) (style : Log.Style) (config : String) (times : Log.Times)
    (events : List Log.Event) : List String :=
  let name := "audit"
  let span? : Option Log.Span :=
    if filter.shows name Log.pipeline .info then some ⟨name, "config", config⟩ else none
  let passes (e : Log.Event) : Bool :=
    filter.allows e.target e.level ||
      e.inSpan && filter.allowsWithin name Log.pipeline .info e.level
  (events.filter passes).map (·.line style span? times)

def Settings.work (s : Settings) (f : Files) (now : Calendar.Moment) : Work :=
  match s.task with
  | .rules => .listing f
  | .run config base dryRun =>
    let o : PipelineOptions := ⟨config, base, dryRun⟩
    .audit s o (runPipeline o f now)

/-- The settings, and the files once there is one for the log. -/
def Call.prepare (c : Call) : Except Work (Settings × Files) := do
  let s ← (Settings.ofArguments c.arguments).mapError .none
  match s.logFile with
  | some path => return (s, ← (touch c.files path).mapError .unlogged)
  | none => return (s, c.files)

def Call.work (c : Call) : Work :=
  match c.prepare with
  | .ok (s, files) => s.work files c.now
  | .error w => w

/-- What is printed if there is nothing to run. -/
def Stop.response (s : Stop) (f : Files) : Response :=
  match s with
  | .help page => ⟨0, page.text, "", f⟩
  | .version => ⟨0, programName ++ " " ++ TableAudit.version ++ "\n", "", f⟩
  | .idle => ⟨2, "", (HelpPage.mk .program false).text, f⟩
  | .complaint c => ⟨2, "", c.text, f⟩

/-- What is printed about an audit, and its log. -/
def auditResponse (c : Call) (times : Log.Times) (s : Settings) (o : PipelineOptions)
    (run : PipelineRun) : Response :=
  let log := unlines (logLines (s.filter c.filter) s.style o.config times (run.events o))
  let (errors, files) := match s.logFile with
    | some path => ("", append run.files path log)
    | none => (log, run.files)
  match run.result with
  | .ok r =>
    let status := if r.audit.status = .prerequisitesFailed then 1 else 0
    ⟨status, unlines r.summary, errors ++ unlines r.skipped, files⟩
  | .error (.audit .overflow) => ⟨101, "", errors ++ RunError.overflow.message ++ "\n", files⟩
  | .error e => ⟨2, "", errors ++ "error: " ++ e.message ++ "\n", files⟩

def Work.response (w : Work) (c : Call) (times : Log.Times) : Response :=
  match w with
  | .none stop => stop.response c.files
  | .unlogged e => ⟨1, "", s!"error: failed to initialize logging: {e.message}\n", c.files⟩
  | .listing files => ⟨0, RuleKind.grid.text ++ "\n", "", files⟩
  | .audit s o run => auditResponse c times s o run

/-- What a call leaves behind; the times are those of the log. -/
def Call.response (c : Call) (times : Log.Times) : Response := c.work.response c times

end TableAudit.CommandLine
