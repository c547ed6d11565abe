import TableAudit.Check.Numbers

/-!
# Checks of dates

The format of dates, and the time between a date and a reference.
-/

namespace TableAudit.RowCheck

/-- Texts have to be dates of the format; missing ones are not tested. -/
def dateFormat (s : Schema) (field : String) (format : Calendar.Format) : Prepared := do
  let i ← findColumn s field
  return {
    tested := fun row => (row.text? i).isSome
    fails := fun row => (row.text? i).any fun text => (format.readDate text).isNone }

/-- Whether a reference means the date of the run. -/
def meansToday (reference : String) : Bool :=
  Text.sameIgnoringAsciiCase reference "hoy" || Text.sameIgnoringAsciiCase reference "today"

/-- The reference date of a row: a column comes before a word for today, and that before a date. -/
def referenceDate (s : Schema) (reference : String) (format : Calendar.Format)
    (today : Calendar.Date) : Except CheckError (Row → Option Calendar.Date) :=
  match s.index? reference with
  | some i => .ok fun row => (row.text? i).bind format.readDate
  | none =>
    if meansToday reference then .ok fun _ => some today
    else
      match format.readDate reference with
      | some date => .ok fun _ => some date
      | none => .error (.invalidReferenceDate reference format.name)

/-- The time from the date to the reference has to lie within bounds; rows without both dates
pass. -/
def timeRange (s : Schema) (field reference : String) (format : Calendar.Format)
    (unit : TimeUnit) (bounds : RangeBounds) (today : Calendar.Date) : Prepared := do
  let referenceOf ← referenceDate s reference format today
  let i ← findColumn s field
  let elapsed (row : Row) : Option Float := do
    let date ← (row.text? i).bind format.readDate
    let other ← referenceOf row
    return unit.ofDays (other.toDays - date.toDays)
  withinBounds s elapsed bounds

end TableAudit.RowCheck
