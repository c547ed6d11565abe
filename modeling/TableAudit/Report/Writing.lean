import TableAudit.Report.Basic

/-!
# Writing tables

A sink says where a table goes and in which format. Directories on the way are made as needed. What
was written before a failure stays written.
-/

namespace TableAudit

inductive WriteError
  | missingPath (table : String)
  | file (path : String) (e : FileError)
  | format (e : LoadError)
  | table (e : TableError)
deriving DecidableEq, Repr

namespace WriteError

def message : WriteError → String
  | missingPath name => s!"no output path configured for the {name} table"
  | file path e => s!"write {path}: {e.message}"
  | format e => e.message
  | table e => s!"polars error: {e.detail}"

/-- What the error is about in itself, where it has a cause. -/
def cause? : WriteError → Option String
  | file _ e => some e.message
  | format e => e.cause?
  | table e => some e.detail
  | missingPath _ => none

end WriteError

/-- Writes a file, making the directories on the way to it. -/
def Files.create (f : Files) (path : String) (c : Content) : Except WriteError Files := do
  let parent := (Path.parent? path).getD ""
  let f ← if parent == "" then pure f else (f.makeDirectory parent).mapError (.file parent)
  (f.write path c).mapError (.file path)

namespace Sink

/-- The path of a sink; a relative one lies below the base directory. -/
def target (s : Sink) (table : String) (base : Option String) : Except WriteError String :=
  match s.path.filter (Text.trim · != "") with
  | some path => .ok ((base.map (Path.join · path)).getD path)
  | none => .error (.missingPath table)

def format (s : Sink) (path : String) : Except WriteError FileFormat :=
  (FileFormat.resolve s.type path).mapError fun e => .format (.unsupportedFormat e)

def options (s : Sink) : Except WriteError Delimited.Options :=
  (Delimited.Options.ofConfig s.delimiter s.header).mapError fun e =>
    .format (.invalidDelimiter e)

def content (s : Sink) (t : Table) (path : String) : Except WriteError Content := do
  match ← s.format path with
  | .delimited => return .ofText (t.toDelimited (← s.options))
  | .parquet => return .table t

/-- Whether a report goes out as JSON: if the sink is of that type or, having none, its path
ends like that. -/
def isJson (s : Sink) (path : String) : Bool :=
  match s.type with
  | some type => Text.sameIgnoringAsciiCase (Text.trim type) "json"
  | none => (Path.extension? path).any (Text.sameIgnoringAsciiCase · "json")

/-- The file of a report, and whether it is written as a report rather than as a table. -/
def reportContent (s : Sink) (r : Report) (path : String) : Except WriteError (Content × Bool) := do
  if s.isJson path then return (.ofText r.toJsonText, true)
  match ← s.format path with
  | .delimited => return (.ofText (r.toDelimited (← s.options)), true)
  | .parquet => return (.table (← r.toTable.mapError .table), false)

def write (s : Sink) (t : Table) (table : String) (base : Option String) (f : Files) :
    Except WriteError (String × Files) := do
  let path ← s.target table base
  return (path, ← f.create path (← s.content t path))

end Sink

end TableAudit
