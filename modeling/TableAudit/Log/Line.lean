import TableAudit.Json.Writer
import TableAudit.Log.Event
import TableAudit.Text.Quoted

/-!
# Log lines

An event is one line: with its span in front, with the span's field at the end, or as JSON. Lines
may be coloured; JSON never is.
-/

namespace TableAudit.Log

inductive Form
  | pretty
  | compact
  | json
deriving DecidableEq, Repr

structure Style where
  form : Form
  colored : Bool
deriving DecidableEq, Repr

/-- The texts of the times in a line: when it was written, and how long something took. -/
structure Times where
  now : String
  elapsed : String

/-- The span that events belong to: its name and its one field. -/
structure Span where
  name : String
  field : String
  value : String

/-- A text between the terminal's codes for an appearance and for none. -/
def painted (colored : Bool) (code : String) (text : String) : String :=
  if colored then "\x1b[" ++ code ++ "m" ++ text ++ "\x1b[0m" else text

def bold (colored : Bool) : String → String := painted colored "1"

def dimmed (colored : Bool) : String → String := painted colored "2"

def italic (colored : Bool) : String → String := painted colored "3"

def Level.color : Level → String
  | error => "31"
  | warn => "33"
  | info => "32"
  | debug => "34"
  | trace => "35"

/-- A level as the start of a line, five columns wide. -/
def Level.tag (l : Level) (colored : Bool) : String :=
  let label := String.ofList (List.replicate (5 - l.label.length) ' ') ++ l.label
  painted colored l.color label

/-- A character of a message. Those that could steer a terminal are spelled out. -/
def safeChar (c : Char) : String :=
  match c with
  | '\x1b' => "\\x1b"
  | '\x07' => "\\x07"
  | '\x08' => "\\x08"
  | '\x0c' => "\\x0c"
  | '\x7f' => "\\x7f"
  | c =>
    if 0x80 ≤ c.toNat && c.toNat ≤ 0x9f then
      "\\u\x7b" ++ String.ofList (Nat.toDigits 16 c.toNat) ++ "\x7d"
    else String.singleton c

def safe (s : String) : String := String.join (s.toList.map safeChar)

namespace FieldValue

def text (t : Times) : FieldValue → String
  | shown s => s
  | quoted s => Text.quoted s
  | count n => Decimal.digitText n
  | elapsed _ => t.elapsed

def json (t : Times) : FieldValue → String
  | shown s | quoted s => Json.quoted s
  | count n => Decimal.digitText n
  | elapsed wide => if wide then "\"" ++ t.elapsed ++ "\"" else t.elapsed

end FieldValue

def fieldText (colored : Bool) (name value : String) : String :=
  italic colored name ++ dimmed colored "=" ++ value

def fieldJson (name value : String) : String := Json.quoted name ++ ":" ++ value

def objectJson (fields : List String) : String := "\x7b" ++ ",".intercalate fields ++ "\x7d"

namespace Span

def json (s : Span) : String :=
  objectJson [fieldJson s.field (Json.quoted s.value), fieldJson "name" (Json.quoted s.name)]

end Span

namespace Event

def body (e : Event) (colored : Bool) (t : Times) : String :=
  " ".intercalate
    (safe e.message :: e.fields.map fun (name, value) => fieldText colored name (value.text t))

def prettyLine (e : Event) (colored : Bool) (span? : Option Span) (t : Times) : String :=
  let start := match span? with
    | some s =>
      bold colored s.name ++ bold colored "\x7b" ++ fieldText colored s.field s.value ++
        bold colored "\x7d" ++ dimmed colored ":" ++ " "
    | none => ""
  e.level.tag colored ++ " " ++ start ++ e.body colored t

def compactLine (e : Event) (colored : Bool) (span? : Option Span) (t : Times) : String :=
  let (start, rest) := match span? with
    | some s =>
      (bold colored s.name ++ ": ", " " ++ dimmed colored (fieldText colored s.field s.value))
    | none => ("", "")
  e.level.tag colored ++ " " ++ start ++ e.body colored t ++ rest

def jsonLine (e : Event) (span? : Option Span) (t : Times) : String :=
  let fields := fieldJson "message" (Json.quoted e.message) ::
    e.fields.map fun (name, value) => fieldJson name (value.json t)
  let spans := match span? with
    | some s => [fieldJson "span" s.json, fieldJson "spans" ("[" ++ s.json ++ "]")]
    | none => []
  objectJson ([fieldJson "timestamp" (Json.quoted t.now),
    fieldJson "level" (Json.quoted e.level.label), fieldJson "fields" (objectJson fields)] ++ spans)

/-- The line of an event; `span?` is the span of the audit if it is shown at all. -/
def line (e : Event) (style : Style) (span? : Option Span) (t : Times) : String :=
  let span? := if e.inSpan then span? else none
  match style.form with
  | .pretty => e.prettyLine style.colored span? t
  | .compact => e.compactLine style.colored span? t
  | .json => e.jsonLine span? t

end Event

end TableAudit.Log
