import TableAudit.Rule.Basic
import TableAudit.Store.Delimited
import TableAudit.Store.Files

/-!
# Loading tables

From a source to a table: the path has to be configured, the format known and the delimiter a single
byte; then the file is read. A format is configured by name or, without one, told by the extension
of the file.
-/

namespace TableAudit

inductive FileFormat
  | delimited
  | parquet
deriving DecidableEq, Repr

namespace FileFormat

def name : FileFormat → String
  | delimited => "Csv"
  | parquet => "Parquet"

def ofExtension (path : String) : FileFormat :=
  match Path.extension? path with
  | some ext => if Text.sameIgnoringAsciiCase ext "parquet" then parquet else delimited
  | none => delimited

/-- The format of a file. A configured name that is unknown is the error, in small letters. -/
def resolve (configured : Option String) (path : String) : Except String FileFormat :=
  match configured with
  | none => .ok (ofExtension path)
  | some raw =>
    let name := Text.lower (Text.trim raw)
    if name == "" || "csv".toList.isSuffixOf name.toList then .ok delimited
    else if "parquet".toList.isSuffixOf name.toList then .ok parquet
    else .error name

end FileFormat

inductive LoadError
  | missingPath (name : String)
  | unsupportedFormat (format : String)
  | invalidDelimiter (delimiter : String)
  /-- A delimited file that cannot be read. -/
  | delimited (path detail : String)
  | file (path : String) (e : FileError)
  | table (e : TableError)
  /-- A file that is no Parquet file. -/
  | parquet (detail : String)
deriving DecidableEq, Repr

namespace LoadError

/-- What the error is about in itself, where it has a cause. -/
def cause? : LoadError → Option String
  | delimited _ detail => some detail
  | file _ e => some e.message
  | table e => some e.detail
  | parquet detail => some detail
  | _ => none

def message : LoadError → String
  | missingPath name => s!"no path configured for {name}"
  | unsupportedFormat format => s!"unsupported source type `{format}`"
  | invalidDelimiter delimiter => s!"invalid delimiter `{delimiter}`: expected a single byte"
  | delimited path detail => s!"read csv {path}: {detail}"
  | file path e => s!"read {path}: {e.message}"
  | table e => s!"polars error: {e.detail}"
  | parquet detail => s!"polars error: {detail}"

end LoadError

/-- A file to be read: where it is and how it is to be read. -/
structure Request where
  path : String
  format : FileFormat
  options : Delimited.Options
deriving DecidableEq, Repr

namespace Source

/-- What a source asks for; a relative path lies below the base directory. -/
def request (s : Source) (base : Option String) : Except LoadError Request := do
  let some path := s.path | throw (.missingPath s.displayName)
  let path := match base with
    | some b => Path.join b path
    | none => path
  let format ← (FileFormat.resolve s.type path).mapError .unsupportedFormat
  let options ← (Delimited.Options.ofConfig s.delimiter s.header).mapError .invalidDelimiter
  return ⟨path, format, options⟩

end Source

def notParquet (bytes : List UInt8) : String :=
  "parquet: File out of specification: " ++
    if bytes.length < 12 then
      "A parquet file must containt a header and footer with at least 12 bytes"
    else "The file must end with PAR1"

namespace Files

def loadDelimited (f : Files) (path : String) (options : Delimited.Options) :
    Except LoadError Table :=
  match f.read path with
  | .error e => .error (.delimited path e.message)
  | .ok (.table _) => .error (.delimited path FileError.notText.message)
  | .ok (.bytes bytes) =>
    match Delimited.Sheet.read options bytes with
    | .error e => .error (.delimited path e.message)
    | .ok sheet => sheet.toTable.mapError .table

def loadParquet (f : Files) (path : String) : Except LoadError Table :=
  match f.read path with
  | .error e => .error (.file path e)
  | .ok (.table t) => .ok t
  | .ok (.bytes bytes) => .error (.parquet (notParquet bytes))

def load (f : Files) (r : Request) : Except LoadError Table :=
  match r.format with
  | .delimited => f.loadDelimited r.path r.options
  | .parquet => f.loadParquet r.path

def resolve (f : Files) (base : Option String) (s : Source) : Except LoadError Table := do
  f.load (← s.request base)

end Files

end TableAudit
