import TableAudit.Calendar.Date
import TableAudit.Decimal.Reading

/-!
# Cells

A cell is a text or a typed value. Rules look at cells as text or as numbers: every cell has a
text, and text cells count as numbers if they spell a finite one.
-/

namespace TableAudit

inductive CellType
  | text
  | bool
  | int8
  | int16
  | int32
  | int64
  | uint32
  | uint64
  | float32
  | float64
  | day
  | instant
  | time
  | duration
  | binary
  | null
deriving DecidableEq, Repr

inductive Cell
  | text (s : String)
  | bool (b : Bool)
  | int (n : Int)
  /-- A number of single or double precision; the former is a special case of the latter. -/
  | float (x : Float)
  /-- Days since 1970-01-01. -/
  | day (days : Int)
  /-- Milliseconds since 1970-01-01. -/
  | instant (ms : Int)
  | binary (bytes : List UInt8)

namespace Cell

def intText (n : Int) : String := Decimal.sign (n < 0) ++ Decimal.digitText n.natAbs

/-- Whether a byte is a visible ASCII character. -/
def isVisible (b : UInt8) : Bool := 0x21 ≤ b && b < 0x7f

def byteText (b : UInt8) : String :=
  if isVisible b then String.singleton (Char.ofNat b.toNat)
  else "\\x" ++ String.ofList ((Nat.toDigits 16 (b.toNat / 16)).map Char.toUpper) ++
    String.ofList ((Nat.toDigits 16 (b.toNat % 16)).map Char.toUpper)

def binaryText (bytes : List UInt8) : String :=
  "b\"" ++ String.join ((bytes.take 30).map byteText) ++
    if bytes.length > 30 then "\"…" else "\""

def toText : Cell → String
  | .text s => s
  | .bool b => if b then "true" else "false"
  | .int n => intText n
  | .float x => Decimal.cellText x
  | .day d => (Calendar.Date.ofDays d).text
  | .instant ms => Calendar.instantText ms
  | .binary bytes => binaryText bytes

def toNumber? : Cell → Option Float
  | .text s => Decimal.cellNumber s
  | .int n => some (Decimal.ofInt n)
  | .float x => some x
  | _ => none

end Cell

end TableAudit
