import TableAudit.Calendar.Format
import TableAudit.Rule.Bounds
import TableAudit.Rule.Filter
import TableAudit.Rule.Kind
import TableAudit.Rule.Types

/-!
# Rules

A rule is a head, which says what it applies to and how it is reported, and a check. A conditional
rule applies another rule to the rows that pass its filters.
-/

namespace TableAudit

/-- Where a table comes from. Nothing is required; loading decides what is missing. -/
structure Source where
  entity : Option String
  path : Option String
  type : Option String
  delimiter : Option String
  header : Option Bool
deriving DecidableEq, Repr

def Source.displayName (s : Source) : String :=
  (s.entity.or s.path).getD "reference"

inductive Target
  /-- Every column of the table at hand. -/
  | all
  | columns (names : List String)
deriving DecidableEq, Repr

namespace Target

/-- A list that starts with an asterisk stands for all columns. -/
def ofList (names : List String) : Target :=
  if (names.head?.map Text.trim) == some "*" then .all else .columns names

def resolve (t : Target) (present : List String) : List String :=
  match t with
  | .all => present
  | .columns names => names

def isWildcard : Target → Bool
  | .all => true
  | .columns _ => false

end Target

/-- The unit in which time between dates is measured. -/
inductive TimeUnit
  | days
  | months
  | years
deriving DecidableEq, Repr

namespace TimeUnit

def all : List TimeUnit := [days, months, years]

def name : TimeUnit → String
  | days => "Days"
  | months => "Months"
  | years => "Years"

def ofName? (name : String) : Option TimeUnit := all.find? (·.name == name)

@[simp] theorem ofName?_name (u : TimeUnit) : ofName? u.name = some u := by cases u <;> rfl

def ofText? (raw : String) : Option TimeUnit :=
  match Text.upper (Text.trim raw) with
  | "DAY" | "DAYS" => some days
  | "MONTH" | "MONTHS" => some months
  | "YEAR" | "YEARS" => some years
  | _ => none

/-- A number of days in this unit: months have 30 days and years 365. -/
def ofDays (u : TimeUnit) (n : Int) : Float :=
  match u with
  | days => Decimal.ofInt n
  | months => Decimal.ofInt n / 30
  | years => Decimal.ofInt n / 365

end TimeUnit

/-- How wide a band around the mean a trend allows. -/
inductive TrendMethod
  | chebyshev
  | standardDeviation
deriving DecidableEq, Repr

namespace TrendMethod

def all : List TrendMethod := [chebyshev, standardDeviation]

def name : TrendMethod → String
  | chebyshev => "Chebyshev"
  | standardDeviation => "StandardDeviation"

def ofName? (name : String) : Option TrendMethod := all.find? (·.name == name)

@[simp] theorem ofName?_name (m : TrendMethod) : ofName? m.name = some m := by cases m <;> rfl

def ofText (raw : String) : TrendMethod :=
  if Text.sameIgnoringAsciiCase (Text.trim raw) "chebyshev" then chebyshev else standardDeviation

def word : TrendMethod → String
  | chebyshev => "chebyshev"
  | standardDeviation => "stddev"

/-- Half the width of the band in standard deviations. -/
def bandWidth : TrendMethod → Float
  | chebyshev => 2
  | standardDeviation => 1

end TrendMethod

/-- What a rule demands of its columns. Counts and positions are 64-bit numbers. -/
inductive Check
  /-- Kinds that need no more than their columns. -/
  | fields
  | statistics (output : Option String)
  | referential (reference : Source) (referenceFields : List String)
  | catalog (allowed : List String)
  | range (bounds : RangeBounds)
  | forbidden (tokens : List String)
  | type (expected : ValueType)
  | composition (parts : List String) (delimiter : String)
  | length (min max : Option UInt64)
  | storageType (expected : StorageType)
  | numericFormat (integerDigits decimalDigits : UInt64) (separator : Char)
  | numericOperation (operator : Comparison) (operand : String) (tolerance : Float)
  | dateFormat (format : Calendar.Format)
  /-- The reference is a column, `hoy` or `today`, or a date in the format. -/
  | timeRange (reference : String) (format : Calendar.Format) (unit : TimeUnit)
      (bounds : RangeBounds)
  /-- Positions count from one, and both ends belong to the span. -/
  | positionValue (first last : UInt64) (expected : List String)
  | email (reference : Source) (domainField : String) (forbidden : List String)
  | valueTrend (referenceFields : List String) (method : TrendMethod)

structure RuleHead where
  /-- The code as configured; it starts with the digits of the kind. -/
  code : String
  kind : RuleKind
  target : Target
  /-- The percentage of rows that should pass; it is reported, not enforced. -/
  threshold : Float
  /-- Whether the failing rows go into the error table. -/
  writes : Bool

inductive Rule
  | plain (head : RuleHead) (check : Check)
  | conditional (head : RuleHead) (condition : Condition) (filters : List RowFilter)
      (inner : Rule)

namespace Rule

def head : Rule → RuleHead
  | plain h _ => h
  | conditional h _ _ _ => h

def source? : Rule → Option Source
  | plain _ (.referential s _) => some s
  | plain _ (.email s _ _) => some s
  | plain _ _ => none
  | conditional _ _ _ inner => inner.source?

end Rule

end TableAudit
