import TableAudit.CommandLine.Scan
import TableAudit.Log.Filter

/-!
# Settings

What the arguments ask for. What stands behind the command wins over what stands before it.
-/

namespace TableAudit.CommandLine

inductive Task
  | run (config : String) (base : Option String) (dryRun : Bool)
  | rules
deriving DecidableEq, Repr

structure Settings where
  task : Task
  verbose : Nat
  quiet : Nat
  level : Option Log.Level
  style : Log.Style
  logFile : Option String
deriving DecidableEq, Repr

namespace Reading

def value? (r : Reading) (p : Parameter) : Option String := (r.inner.value? p).or (r.outer.value? p)

def count (r : Reading) (p : Parameter) : Nat :=
  if r.inner.has p then r.inner.count p else r.outer.count p

def task (r : Reading) : Task :=
  match r.command with
  | .run => .run ((r.value? .config).getD "") (r.value? .baseDir) (r.inner.has .dryRun)
  | .rules => .rules

def form (r : Reading) : Log.Form :=
  match r.value? .logFormat with
  | some "compact" => .compact
  | some "json" => .json
  | _ => .pretty

def settings (r : Reading) : Settings where
  task := r.task
  verbose := r.count .verbose
  quiet := r.count .quiet
  level := (r.value? .logLevel).bind fun name => Log.Level.all.find? (·.name == name)
  style := ⟨r.form, r.value? .color == some "always"⟩
  logFile := r.value? .logFile

end Reading

namespace Settings

/-- Warnings pass, and as many levels more or fewer as was asked for; a level that is named counts
instead. -/
def threshold (s : Settings) : Log.Threshold :=
  match s.level with
  | some level => .upTo level
  | none => .ofRank (Log.Level.warn.rank + s.verbose - s.quiet)

/-- The filter of the log: the one configured outside, if it is one and the arguments say nothing
about levels. -/
def filter (s : Settings) (configured : Option String) : Log.Filter :=
  let own := Log.Filter.ofThreshold s.threshold
  if s.verbose = 0 && s.quiet = 0 && s.level.isNone then
    (configured.bind Log.Filter.parse?).getD own
  else own

end Settings

def Settings.ofArguments (arguments : List String) : Except Stop Settings :=
  (Reading.ofArguments arguments).map Reading.settings

end TableAudit.CommandLine
