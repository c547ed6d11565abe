import TableAudit.Table.Basic
import TableAudit.Text.Utf8

/-!
# Delimited text files

Records of fields between delimiters, one record on a line. A field may stand between double
quotes; it may then hold delimiters and line ends, and a quote inside it is written twice.
-/

namespace TableAudit.Delimited

structure Options where
  delimiter : UInt8
  header : Bool
deriving DecidableEq, Repr

/-- Commas, and a header line. -/
def Options.standard : Options := ⟨44, true⟩

/-- The delimiter that a configuration names: one byte, or the name of the tab. An empty text counts
as none. -/
def delimiterOf? (raw : String) : Option UInt8 :=
  match raw with
  | "" => some 44
  | "\\t" => some 9
  | _ =>
    match Text.encodeUtf8 raw with
    | [b] => some b
    | _ => none

/-- Options as configured; the delimiter itself is the error if it is more than a byte. -/
def Options.ofConfig (delimiter : Option String) (header : Option Bool) :
    Except String Options :=
  let raw := delimiter.getD ""
  match delimiterOf? raw with
  | some d => .ok ⟨d, header.getD true⟩
  | none => .error raw

/-- A record and where it starts: its number, its line and its byte. The start is where the record
before it ended, so line ends in between count as part of it. -/
structure Record where
  number : Nat
  line : Nat
  byte : Nat
  fields : List (List UInt8)

inductive Mode
  | startRecord
  | startField
  | inField
  | inQuotes
  /-- Behind a quote inside quotes, which ends them or is the first of two. -/
  | afterQuote
  /-- Behind a carriage return that ended a record, to which a line feed may belong. -/
  | afterReturn
deriving DecidableEq, Repr

def quote : UInt8 := 34
def lineFeed : UInt8 := 10
def carriageReturn : UInt8 := 13

def isLineEnd (b : UInt8) : Bool := b == lineFeed || b == carriageReturn

/-- What the reader knows: the records so far, the fields of the current one and the bytes of the
current field, all of them last first, and its place in the file. -/
structure Reader where
  mode : Mode
  records : List Record
  fields : List (List UInt8)
  field : List UInt8
  /-- Start of the current record. -/
  line : Nat
  byte : Nat
  /-- Place of the next byte. -/
  nextLine : Nat
  nextByte : Nat

namespace Reader

def start (byte : Nat) : Reader := ⟨.startRecord, [], [], [], 1, 0, 1, byte⟩

def copy (r : Reader) (b : UInt8) (mode : Mode) : Reader :=
  { r with mode := mode, field := b :: r.field }

def endField (r : Reader) : Reader :=
  { r with mode := .startField, fields := r.field.reverse :: r.fields, field := [] }

/-- Ends the record; the next one starts behind the byte that ended it. -/
def endRecord (r : Reader) (mode : Mode) : Reader :=
  let fields := (r.field.reverse :: r.fields).reverse
  { r with
    mode := mode
    records := ⟨r.records.length, r.line, r.byte, fields⟩ :: r.records
    fields := []
    field := []
    line := r.nextLine
    byte := r.nextByte }

/-- A byte outside quotes, at the start of a field or later in it. -/
def plainByte (r : Reader) (delimiter b : UInt8) : Reader :=
  if b == delimiter then r.endField
  else if isLineEnd b then
    r.endRecord (if b == carriageReturn then .afterReturn else .startRecord)
  else r.copy b .inField

def fieldStart (r : Reader) (delimiter b : UInt8) : Reader :=
  if b == quote then { r with mode := .inQuotes } else r.plainByte delimiter b

/-- Empty lines before a record are passed over. -/
def recordStart (r : Reader) (delimiter b : UInt8) : Reader :=
  if isLineEnd b then { r with mode := .startRecord } else r.fieldStart delimiter b

def step (delimiter : UInt8) (r : Reader) (b : UInt8) : Reader :=
  let r := { r with
    nextByte := r.nextByte + 1
    nextLine := if b == lineFeed then r.nextLine + 1 else r.nextLine }
  match r.mode with
  | .startRecord => r.recordStart delimiter b
  | .afterReturn =>
    if b == lineFeed then { r with mode := .startRecord } else r.recordStart delimiter b
  | .startField => r.fieldStart delimiter b
  | .inField => r.plainByte delimiter b
  | .inQuotes => if b == quote then { r with mode := .afterQuote } else r.copy b .inQuotes
  | .afterQuote => if b == quote then r.copy b .inQuotes else r.plainByte delimiter b

/-- The end of the file ends a record that has begun. -/
def finish (r : Reader) : List Record :=
  match r.mode with
  | .startRecord | .afterReturn => r.records.reverse
  | _ => (r.endRecord .startRecord).records.reverse

end Reader

/-- A byte-order mark at the start of a file. -/
def dropMark : List UInt8 → Nat × List UInt8
  | 0xef :: 0xbb :: 0xbf :: rest => (3, rest)
  | bytes => (0, bytes)

def records (delimiter : UInt8) (bytes : List UInt8) : List Record :=
  let (skipped, bytes) := dropMark bytes
  (bytes.foldl (Reader.step delimiter) (Reader.start skipped)).finish

structure BadField where
  record : Record
  field : Nat
  position : Nat

def BadField.message (e : BadField) : String :=
  s!"CSV parse error: record {e.record.number} (line {e.record.line}, field: {e.field}, " ++
    s!"byte: {e.record.byte}): invalid utf-8: invalid UTF-8 in field {e.field} " ++
    s!"near byte index {e.position}"

def isMark (c : Char) : Bool := c.toNat == 0xfeff

/-- A cell without the blanks around it, and then without byte-order marks around that. -/
def cleanCell (raw : String) : String :=
  String.ofList (Text.stripEnds isMark (Text.stripEnds Text.isBlank raw.toList))

/-- A column name: a clean cell with single spaces between its words. -/
def cleanHeader (raw : String) : String := " ".intercalate (Text.words (cleanCell raw))

def decodeFields (r : Record) : Nat → List (List UInt8) → Except BadField (List String)
  | _, [] => .ok []
  | n, f :: fs =>
    match Text.decodeUtf8 f with
    | .error position => .error ⟨r, n, position⟩
    | .ok s => (decodeFields r (n + 1) fs).map (cleanCell s :: ·)

/-- The column names of a file and its rows, all of them of the same width. -/
structure Sheet where
  headers : List String
  rows : List (List String)

/-- A row cut or filled up with empty cells to a width. -/
def fitted (width : Nat) (row : List String) : List String :=
  row.take width ++ List.replicate (width - row.length) ""

/-- Reads a file. Records of empty cells alone are left out; without a header line, columns are
numbered. -/
def Sheet.read (options : Options) (bytes : List UInt8) : Except BadField Sheet := do
  let rows ← (records options.delimiter bytes).mapM fun r => decodeFields r 0 r.fields
  let rows := rows.filter fun row => row.any (· != "")
  if options.header then
    match rows with
    | [] => return ⟨[], []⟩
    | names :: rows =>
      return ⟨names.map cleanHeader, rows.map (fitted names.length)⟩
  else
    let width := (rows.map List.length).foldl max 0
    return ⟨(List.range width).map fun i => s!"_c{i}", rows.map (fitted width)⟩

/-- The cell of a text; an empty one is missing. -/
def cellOf (s : String) : Option Cell := if s == "" then none else some (.text s)

def Sheet.column (s : Sheet) (i : Nat) : List (Option Cell) :=
  s.rows.map fun row => cellOf (row.getD i "")

def Sheet.toTable (s : Sheet) : Except TableError Table :=
  Table.ofColumns (s.headers.zipIdx.map fun (name, i) => (⟨name, .text⟩, s.column i))

/-- A field as it is written: between quotes if it could be misread, or if `alone` says that it
would otherwise be an empty line. -/
def writeField (delimiter : Char) (alone : Bool) (field : String) : String :=
  let special := field.toList.any fun c => c == delimiter || c == '"' || c == '\r' || c == '\n'
  if special || (alone && field == "") then
    let doubled := field.toList.flatMap fun c => if c == '"' then ['"', '"'] else [c]
    String.ofList ('"' :: doubled ++ ['"'])
  else field

/-- A record and its line end. A record without fields is written as one empty field. -/
def writeRecord (delimiter : Char) (fields : List String) : String :=
  let fields := if fields.isEmpty then [""] else fields
  let alone := fields.length == 1
  delimiter.toString.intercalate (fields.map (writeField delimiter alone)) ++ "\n"

def write (options : Options) (header : List String) (rows : List (List String)) : String :=
  let delimiter := Char.ofNat options.delimiter.toNat
  String.join ((if options.header then header :: rows else rows).map (writeRecord delimiter))

end TableAudit.Delimited
