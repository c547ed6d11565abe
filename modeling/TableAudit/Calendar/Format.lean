import TableAudit.Calendar.Pattern

/-!
# Date formats that rules may name

The allowed formats, each with its name as configurations write it. A format without a day reads
the first of the month.
-/

namespace TableAudit.Calendar

inductive Precision
  | month
  | day
  | second
deriving DecidableEq, Repr

inductive Format
  | yearMonthDayDashed
  | yearMonthDaySlashed
  | dayMonthYearDashed
  | dayMonthYearSlashed
  | monthDayYearDashed
  | monthDayYearSlashed
  | yearMonthDayPlain
  | dayMonthYearPlain
  | yearMonthDashed
  | yearMonthPlain
  | stampDashed
  | stampSlashed
  | stampDayFirst
  | stampWithT
  | stampPlain
deriving DecidableEq, Repr

namespace Format

def all : List Format :=
  [yearMonthDayDashed, yearMonthDaySlashed, dayMonthYearDashed, dayMonthYearSlashed,
   monthDayYearDashed, monthDayYearSlashed, yearMonthDayPlain, dayMonthYearPlain, yearMonthDashed,
   yearMonthPlain, stampDashed, stampSlashed, stampDayFirst, stampWithT, stampPlain]

def name : Format → String
  | yearMonthDayDashed => "yyyy-MM-dd"
  | yearMonthDaySlashed => "yyyy/MM/dd"
  | dayMonthYearDashed => "dd-MM-yyyy"
  | dayMonthYearSlashed => "dd/MM/yyyy"
  | monthDayYearDashed => "MM-dd-yyyy"
  | monthDayYearSlashed => "MM/dd/yyyy"
  | yearMonthDayPlain => "yyyyMMdd"
  | dayMonthYearPlain => "ddMMyyyy"
  | yearMonthDashed => "yyyy-MM"
  | yearMonthPlain => "yyyyMM"
  | stampDashed => "yyyy-MM-dd HH:mm:ss"
  | stampSlashed => "yyyy/MM/dd HH:mm:ss"
  | stampDayFirst => "dd/MM/yyyy HH:mm:ss"
  | stampWithT => "yyyy-MM-dd'T'HH:mm:ss"
  | stampPlain => "yyyyMMddHHmmss"

/-- Three numbers with a character between them. -/
def separated (a b c : Item) (sep : Char) : Pattern := [a, .literal sep, b, .literal sep, c]

def clock : Pattern := separated .hour .minute .second ':'

/-- What a format reads. The formats without a day read one all the same. -/
def pattern : Format → Pattern
  | yearMonthDayDashed | yearMonthDashed => separated .year .month .day '-'
  | yearMonthDaySlashed => separated .year .month .day '/'
  | dayMonthYearDashed => separated .day .month .year '-'
  | dayMonthYearSlashed => separated .day .month .year '/'
  | monthDayYearDashed => separated .month .day .year '-'
  | monthDayYearSlashed => separated .month .day .year '/'
  | yearMonthDayPlain | yearMonthPlain => [.year, .month, .day]
  | dayMonthYearPlain => [.day, .month, .year]
  | stampDashed => separated .year .month .day '-' ++ [.blanks] ++ clock
  | stampSlashed => separated .year .month .day '/' ++ [.blanks] ++ clock
  | stampDayFirst => separated .day .month .year '/' ++ [.blanks] ++ clock
  | stampWithT => separated .year .month .day '-' ++ [.literal 'T'] ++ clock
  | stampPlain => [.year, .month, .day, .hour, .minute, .second]

def precision : Format → Precision
  | yearMonthDashed | yearMonthPlain => .month
  | stampDashed | stampSlashed | stampDayFirst | stampWithT | stampPlain => .second
  | _ => .day

/-- The first of the month, as it is put behind a text without a day. -/
def daySuffix : Format → String
  | yearMonthDashed => "-01"
  | yearMonthPlain => "01"
  | _ => ""

def hasTime (f : Format) : Bool := f.precision == .second

/-- The format of a name. Blanks around the name do not matter. -/
def ofName? (name : String) : Option Format :=
  all.find? fun f => f.name == Text.trim name

@[simp] theorem ofName?_name (f : Format) : ofName? f.name = some f := by cases f <;> rfl

/-- The date that a text names in a format; the time of day is read and forgotten. -/
def readDate (f : Format) (text : String) : Option Date :=
  (f.pattern.read (Text.trim text ++ f.daySuffix)).map (·.date)

end Format

end TableAudit.Calendar
