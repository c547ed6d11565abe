import TableAudit.Calendar.Date
import TableAudit.Decimal.Reading

/-!
# Reading dates with a pattern

A pattern is a list of items. Numbers are read greedily up to their width, after blanks; a year may
carry a sign and is then of any length. The whole text has to be used up.
-/

namespace TableAudit.Calendar

inductive Item
  | year
  | month
  | day
  | hour
  | minute
  | second
  /-- An optional fraction of a second: a point and digits. -/
  | fraction
  /-- Any amount of blank space, none included. -/
  | blanks
  | literal (c : Char)
deriving DecidableEq, Repr

def Item.directive : Item → String
  | .year => "%Y"
  | .month => "%m"
  | .day => "%d"
  | .hour => "%H"
  | .minute => "%M"
  | .second => "%S"
  | .fraction => "%.f"
  | .blanks => " "
  | .literal c => c.toString

abbrev Pattern := List Item

def Pattern.directives (p : Pattern) : String := String.join (p.map Item.directive)

/-- Up to `width` digits, of which there must be one. -/
def readNumber (width : Nat) (cs : List Char) : Option (Nat × List Char) :=
  let digits := (cs.take width).takeWhile Char.isDigit
  if digits.isEmpty then none
  else some (Decimal.digitsValue digits, cs.drop digits.length)

def readYear (cs : List Char) : Option (Int × List Char) :=
  match cs with
  | '-' :: rest => (readNumber rest.length rest).map fun (n, rest) => (-(n : Int), rest)
  | '+' :: rest => (readNumber rest.length rest).map fun (n, rest) => ((n : Int), rest)
  | _ => (readNumber 4 cs).map fun (n, rest) => ((n : Int), rest)

/-- A number of at most two digits between two bounds. -/
def readBounded (low high : Nat) (cs : List Char) : Option (Nat × List Char) :=
  (readNumber 2 cs).filter fun (n, _) => low ≤ n && n ≤ high

/-- Reads one item into the moment read so far. -/
def Item.read (item : Item) (m : Moment) (cs : List Char) : Option (Moment × List Char) :=
  let bare := cs.dropWhile Text.isBlank
  match item with
  | .year => (readYear bare).map fun (n, rest) =>
      (⟨⟨n, m.date.month, m.date.day⟩, m.hour, m.minute, m.second⟩, rest)
  | .month => (readBounded 1 12 bare).map fun (n, rest) =>
      (⟨⟨m.date.year, n, m.date.day⟩, m.hour, m.minute, m.second⟩, rest)
  | .day => (readBounded 1 31 bare).map fun (n, rest) =>
      (⟨⟨m.date.year, m.date.month, n⟩, m.hour, m.minute, m.second⟩, rest)
  | .hour => (readBounded 0 23 bare).map fun (n, rest) =>
      (⟨m.date, n, m.minute, m.second⟩, rest)
  | .minute => (readBounded 0 59 bare).map fun (n, rest) =>
      (⟨m.date, m.hour, n, m.second⟩, rest)
  -- a leap second is the sixtieth
  | .second => (readBounded 0 60 bare).map fun (n, rest) =>
      (⟨m.date, m.hour, m.minute, n⟩, rest)
  | .fraction =>
    match cs with
    | '.' :: rest =>
      if (rest.takeWhile Char.isDigit).isEmpty then none
      else some (m, rest.dropWhile Char.isDigit)
    | _ => some (m, cs)
  | .blanks => some (m, bare)
  | .literal c =>
    match cs with
    | d :: rest => if d == c then some (m, rest) else none
    | [] => none

def Pattern.readFrom : Pattern → Moment → List Char → Option (Moment × List Char)
  | [], m, cs => some (m, cs)
  | item :: items, m, cs =>
    match item.read m cs with
    | some (m, rest) => Pattern.readFrom items m rest
    | none => none

/-- What items that are absent from a pattern leave behind: month and day are then no date. -/
def Moment.unread : Moment := ⟨⟨0, 0, 0⟩, 0, 0, 0⟩

def Pattern.read (p : Pattern) (text : String) : Option Moment :=
  match p.readFrom .unread text.toList with
  | some (m, []) => if m.date.isValid then some m else none
  | _ => none

/-- Writes a moment in a pattern, every number padded to its width. -/
def Item.write (m : Moment) : Item → List Char
  | .year => (padded 4 m.date.year.toNat).toList
  | .month => (padded 2 m.date.month).toList
  | .day => (padded 2 m.date.day).toList
  | .hour => (padded 2 m.hour).toList
  | .minute => (padded 2 m.minute).toList
  | .second => (padded 2 m.second).toList
  | .fraction => []
  | .blanks => [' ']
  | .literal c => [c]

def Pattern.write (p : Pattern) (m : Moment) : String :=
  String.ofList (p.flatMap (Item.write m))

end TableAudit.Calendar
