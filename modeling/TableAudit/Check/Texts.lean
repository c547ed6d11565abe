import TableAudit.Check.Basic

/-!
# Checks of texts

Presence, length, forbidden parts, composition from other columns, characters at a position, digits
around a separator, and the type that a text spells.
-/

namespace TableAudit.RowCheck

/-- A missing or empty text fails. -/
def present (s : Schema) (field : String) : Prepared := do
  let i ← findColumn s field
  return .ofEvery fun row => ((row.text? i).all (· == ""))

def lengthWithin (s : Schema) (field : String) (min max : Option UInt64) : Prepared :=
  textCheck s field fun text =>
    min.any (fun n => text.length < n.toNat) || max.any (fun n => text.length > n.toNat)

def occursIn (part text : List Char) : Bool :=
  part.isPrefixOf text ||
    match text with
    | [] => false
    | _ :: rest => occursIn part rest

def withoutTokens (s : Schema) (field : String) (tokens : List String) : Prepared :=
  let tokens := tokens.filter (· != "")
  textCheck s field fun text => tokens.any fun token => occursIn token.toList text.toList

/-- The text has to be that of its parts, joined; parts that are missing are left out. -/
def composedOf (s : Schema) (field : String) (parts : List String) (delimiter : String) :
    Prepared := do
  let i ← findColumn s field
  let js ← (s.columns parts).mapError .table
  return .ofEvery fun row =>
    (row.text? i).any fun text => text != delimiter.intercalate (js.filterMap row.text?)

/-- The characters from position `first` to position `last`, which count from one. They are counted
by the number after the last position, which has to fit 64 bits itself. -/
def span (first last : UInt64) (text : String) : Option String :=
  let start := if first = 0 then 1 else first
  let next := last.toNat + 1
  if next < UInt64.size then
    some (String.ofList ((text.toList.drop (first.toNat - 1)).take (next - start.toNat)))
  else none

def atPosition (s : Schema) (field : String) (first last : UInt64) (expected : List String) :
    Prepared := do
  let i ← findColumn s field
  return {
    tested := fun _ => true
    fails := fun row => ((row.text? i).bind (span first last)).any (!expected.contains ·)
    overflows := fun row => (row.text? i).any fun text => (span first last text).isNone }

/-- Whether a number is written with digits alone, and not too many on either side. -/
def fitsDigits (integerDigits decimalDigits : Nat) (separator : Char) (text : String) : Bool :=
  let (whole, fraction) := (Text.cut (· == separator) text.toList).getD (text.toList, [])
  whole.all Char.isDigit && fraction.all Char.isDigit &&
    whole.length ≤ integerDigits && fraction.length ≤ decimalDigits

def numericFormat (s : Schema) (field : String) (integerDigits decimalDigits : UInt64)
    (separator : Char) : Prepared :=
  textCheck s field fun text =>
    !fitsDigits integerDigits.toNat decimalDigits.toNat separator (Text.trim text)

open Calendar in
/-- A date, and a date with a time, as types know them. -/
def dayPattern : Calendar.Pattern := Format.pattern .yearMonthDayDashed

open Calendar in
def stampPatterns : List Calendar.Pattern :=
  [Format.pattern .stampDashed, Format.pattern .stampWithT,
   Format.pattern .stampDashed ++ [.fraction]]

def truthWords : List String := ["true", "false", "t", "f", "y", "n", "yes", "no", "1", "0"]

def spells (type : ValueType) (text : String) : Bool :=
  match type with
  | .integer => (Decimal.readInt (-0x80000000) 0x7fffffff text).isSome
  | .long => (Decimal.readInt (-0x8000000000000000) 0x7fffffffffffffff text).isSome
  | .double | .decimal => (Decimal.readFloat text).any Decimal.isFinite
  | .boolean => truthWords.contains (Text.lower text)
  | .date => (dayPattern.read text).isSome
  | .timestamp => (dayPattern.read text).isSome || stampPatterns.any fun p => (p.read text).isSome
  | .string => true

def typed (s : Schema) (field : String) (type : ValueType) : Prepared :=
  textCheck s field fun text => !spells type (Text.trim text)

end TableAudit.RowCheck
