import TableAudit.Rule.Record

/-!
# Rules as JSON

Every part of a rule as a JSON value and back. A structure is an object of its fields, or a list of
them in order. Of several forms, one without data is its name alone and any other an object with
its name as the only key.
-/

namespace TableAudit

open Json (Value)

namespace Serial

/-- The fields of a structure. An object may lack some; a list may not. -/
def parts? (names : List String) (v : Value) : Option (List (Option Value)) :=
  match v with
  | .object _ => some (names.map v.get?)
  | .list items => if items.length = names.length then some (items.map some) else none
  | _ => none

def form? : Value → Option (String × Option Value)
  | .text name => some (name, none)
  | .object [(name, data)] => some (name, some data)
  | _ => none

def plainForm? {α : Type} (ofName? : String → Option α) (v : Value) : Option α :=
  match form? v with
  | some (name, none) => ofName? name
  | some (name, some .null) => ofName? name
  | _ => none

/-- The fields of a form with named data, which is always an object. -/
def formParts? (names : List String) (data : Option Value) : Option (List (Option Value)) :=
  match data with
  | some (.object entries) => some (names.map (Value.object entries).get?)
  | _ => none

def form (name : String) (data : Value) : Value := .object [(name, data)]

def text? (v : Option Value) : Option String := v.bind Value.text?

def texts? (v : Option Value) : Option (List String) :=
  match v with
  | some (.list items) => items.mapM Value.text?
  | _ => none

def bool? (v : Option Value) : Option Bool :=
  match v with
  | some (.bool b) => some b
  | _ => none

def float? (v : Option Value) : Option Float :=
  match v with
  | some (.number n) => some n.toFloat
  | _ => none

def word? (v : Option Value) : Option UInt64 :=
  match v with
  | some (.number (.int n)) =>
    if 0 ≤ n && n ≤ 0xffffffffffffffff then some (UInt64.ofNat n.toNat) else none
  | _ => none

def char? (v : Option Value) : Option Char :=
  match v with
  | some (.text s) =>
    match s.toList with
    | [c] => some c
    | _ => none
  | _ => none

def optional? {α : Type} (read : Option Value → Option α) (v : Option Value) :
    Option (Option α) :=
  match v with
  | none => some none
  | some .null => some none
  | some v => (read (some v)).map some

def word (n : UInt64) : Value := .ofNat n.toNat

/-- A date format by its name; the error says what is wrong with the value. -/
def format (v : Value) : Except String Calendar.Format :=
  match v with
  | .text name =>
    match Calendar.Format.ofName? name with
    | some f => .ok f
    | none => .error s!"unrecognized date format `{name}`"
  | _ => .error (v.wrongType "a string")

end Serial

open Serial

namespace Source

def toJson (s : Source) : Value :=
  .object [
    ("entity", .ofOption .text s.entity),
    ("path", .ofOption .text s.path),
    ("type", .ofOption .text s.type),
    ("delimiter", .ofOption .text s.delimiter),
    ("header", .ofOption .bool s.header)]

end Source

namespace Target

def toJson : Target → Value
  | .all => .text "All"
  | .columns names => form "Columns" (.texts names)

def ofJson? (v : Value) : Option Target :=
  match form? v with
  | some ("All", none) => some .all
  | some ("All", some .null) => some .all
  | some ("Columns", data) => (texts? data).map .columns
  | _ => none

end Target

namespace RangeLimit

def toJson : RangeLimit → Value
  | .number x => form "Number" (.ofFloat x)
  | .column name => form "Column" (.text name)

def ofJson? (v : Value) : Option RangeLimit :=
  match form? v with
  | some ("Number", data) => (float? data).map .number
  | some ("Column", data) => (text? data).map .column
  | _ => none

end RangeLimit

namespace RangeBounds

def toJson (b : RangeBounds) : Value :=
  .object [
    ("min", .ofOption RangeLimit.toJson b.min),
    ("max", .ofOption RangeLimit.toJson b.max),
    ("include_left", .bool b.includeLeft),
    ("include_right", .bool b.includeRight),
    ("inclusive", .bool b.inclusive)]

def partNames : List String := ["min", "max", "include_left", "include_right", "inclusive"]

def ofParts? : Option (List (Option Value)) → Option RangeBounds
  | some [min, max, left, right, inclusive] => do
    let min ← optional? (·.bind RangeLimit.ofJson?) min
    let max ← optional? (·.bind RangeLimit.ofJson?) max
    return ⟨min, max, ← bool? left, ← bool? right, ← bool? inclusive⟩
  | _ => none

def ofJson? (v : Value) : Option RangeBounds := ofParts? (parts? partNames v)

end RangeBounds

namespace FilterTest

def toJson : FilterTest → Value
  | .isIn values => form "In" (.texts values)
  | .notIn values => form "NotIn" (.texts values)
  | .isNull => .text "IsNull"
  | .isNotNull => .text "IsNotNull"
  | .compare op literal => form "Compare" (.list [.text op.name, .ofFloat literal])

def ofJson? (v : Value) : Option FilterTest :=
  match form? v with
  | some ("In", data) => (texts? data).map .isIn
  | some ("NotIn", data) => (texts? data).map .notIn
  | some ("IsNull", none) | some ("IsNull", some .null) => some .isNull
  | some ("IsNotNull", none) | some ("IsNotNull", some .null) => some .isNotNull
  | some ("Compare", some (.list [op, literal])) => do
    return .compare (← plainForm? Comparison.ofName? op) (← float? (some literal))
  | _ => none

end FilterTest

namespace RowFilter

def toJson (f : RowFilter) : Value :=
  .object [("column", .text f.column), ("sign", f.test.toJson)]

def ofParsed? (v : Value) : Option RowFilter :=
  match parts? ["column", "sign"] v with
  | some [column, test] => do return ⟨← text? column, ← test.bind FilterTest.ofJson?⟩
  | _ => none

end RowFilter

namespace Check

def toJson : Check → Value
  | .fields => .text "Fields"
  | .statistics output => form "Statistics" (.object [("output", .ofOption .text output)])
  | .referential reference columns => form "Referential" (.object [
      ("reference", reference.toJson), ("reference_fields", .texts columns)])
  | .catalog allowed => form "Catalog" (.object [("allowed", .texts allowed)])
  | .range bounds => form "Range" bounds.toJson
  | .forbidden tokens => form "Forbidden" (.object [("tokens", .texts tokens)])
  | .type expected => form "Type" (.object [("expected", .text expected.name)])
  | .composition parts delimiter => form "Composition" (.object [
      ("parts", .texts parts), ("delimiter", .text delimiter)])
  | .length min max => form "Length" (.object [
      ("min", .ofOption word min), ("max", .ofOption word max)])
  | .storageType expected => form "StorageType" (.object [("expected", .text expected.name)])
  | .numericFormat integerDigits decimalDigits separator => form "NumericFormat" (.object [
      ("max_integer_digits", word integerDigits), ("decimal_digits", word decimalDigits),
      ("separator", .text (String.ofList [separator]))])
  | .numericOperation operator operand tolerance => form "NumericOperation" (.object [
      ("operator", .text operator.name), ("operand", .text operand),
      ("tolerance", .ofFloat tolerance)])
  | .dateFormat format => form "DateFormat" (.object [("format", .text format.name)])
  | .timeRange reference format unit bounds => form "TimeRange" (.object [
      ("reference", .text reference), ("format", .text format.name), ("unit", .text unit.name),
      ("bounds", bounds.toJson)])
  | .positionValue first last expected => form "PositionValue" (.object [
      ("start", word first), ("end", word last), ("expected", .texts expected)])
  | .email reference domainField tokens => form "Email" (.object [
      ("reference", reference.toJson), ("domain_field", .text domainField),
      ("forbidden", .texts tokens)])
  | .valueTrend columns method => form "ValueTrend" (.object [
      ("reference_fields", .texts columns), ("method", .text method.name)])

def source? (v : Option Value) : Option Source := v.bind fun v => (Source.ofJson v).toOption

def format? (v : Option Value) : Option Calendar.Format :=
  v.bind fun v => (Serial.format v).toOption

def plainOf? {α : Type} (ofName? : String → Option α) (v : Option Value) : Option α :=
  v.bind (plainForm? ofName?)

def ofForm? (name : String) (data : Option Value) : Option Check :=
  match name with
  | "Fields" =>
    match data with
    | none | some .null => some .fields
    | _ => none
  | "Range" => (data.bind RangeBounds.ofJson?).map .range
  | "Statistics" =>
    match formParts? ["output"] data with
    | some [output] => (optional? text? output).map .statistics
    | _ => none
  | "Referential" =>
    match formParts? ["reference", "reference_fields"] data with
    | some [reference, columns] => do return .referential (← source? reference) (← texts? columns)
    | _ => none
  | "Catalog" =>
    match formParts? ["allowed"] data with
    | some [allowed] => (texts? allowed).map .catalog
    | _ => none
  | "Forbidden" =>
    match formParts? ["tokens"] data with
    | some [tokens] => (texts? tokens).map .forbidden
    | _ => none
  | "Type" =>
    match formParts? ["expected"] data with
    | some [expected] => (plainOf? ValueType.ofName? expected).map .type
    | _ => none
  | "Composition" =>
    match formParts? ["parts", "delimiter"] data with
    | some [parts, delimiter] => do return .composition (← texts? parts) (← text? delimiter)
    | _ => none
  | "Length" =>
    match formParts? ["min", "max"] data with
    | some [min, max] => do return .length (← optional? word? min) (← optional? word? max)
    | _ => none
  | "StorageType" =>
    match formParts? ["expected"] data with
    | some [expected] => (plainOf? StorageType.ofName? expected).map .storageType
    | _ => none
  | "NumericFormat" =>
    match formParts? ["max_integer_digits", "decimal_digits", "separator"] data with
    | some [integers, decimals, separator] => do
      return .numericFormat (← word? integers) (← word? decimals) (← char? separator)
    | _ => none
  | "NumericOperation" =>
    match formParts? ["operator", "operand", "tolerance"] data with
    | some [operator, operand, tolerance] => do
      return .numericOperation (← plainOf? Comparison.ofName? operator) (← text? operand)
        (← float? tolerance)
    | _ => none
  | "DateFormat" =>
    match formParts? ["format"] data with
    | some [format] => (format? format).map .dateFormat
    | _ => none
  | "TimeRange" =>
    match formParts? ["reference", "format", "unit", "bounds"] data with
    | some [reference, format, unit, bounds] => do
      return .timeRange (← text? reference) (← format? format) (← plainOf? TimeUnit.ofName? unit)
        (← bounds.bind RangeBounds.ofJson?)
    | _ => none
  | "PositionValue" =>
    match formParts? ["start", "end", "expected"] data with
    | some [first, last, expected] => do
      return .positionValue (← word? first) (← word? last) (← texts? expected)
    | _ => none
  | "Email" =>
    match formParts? ["reference", "domain_field", "forbidden"] data with
    | some [reference, domain, tokens] => do
      return .email (← source? reference) (← text? domain) (← texts? tokens)
    | _ => none
  | "ValueTrend" =>
    match formParts? ["reference_fields", "method"] data with
    | some [columns, method] => do
      return .valueTrend (← texts? columns) (← plainOf? TrendMethod.ofName? method)
    | _ => none
  | _ => none

end Check

namespace Rule

/-- The head of a rule and its check as an object. -/
def withHead (h : RuleHead) (check : Value) : Value :=
  .object [
    ("code", .text h.code),
    ("kind", .text h.kind.name),
    ("target", h.target.toJson),
    ("threshold_percent", .ofFloat h.threshold),
    ("write_violations", .bool h.writes),
    ("params", check)]

def toJson : Rule → Value
  | plain h check => withHead h check.toJson
  | conditional h condition filters inner => withHead h <| form "Conditional" <| .object [
      ("condition", .text condition.name),
      ("filters", .list (filters.map RowFilter.toJson)),
      ("inner", inner.toJson)]

def partNames : List String :=
  ["code", "kind", "target", "threshold_percent", "write_violations", "params"]

/-- The head of a rule and the value of its check. -/
def ofParts? : Option (List (Option Value)) → Option (RuleHead × Value)
  | some [code, kind, target, threshold, writes, check] => do
    let head := ⟨← text? code, ← kind.bind (plainForm? RuleKind.ofName?),
      ← target.bind Target.ofJson?, ← float? threshold, ← bool? writes⟩
    return (head, ← check)
  | _ => none

def filters? (v : Option Value) : Option (List RowFilter) :=
  match v with
  | some (.list items) => items.mapM RowFilter.ofParsed?
  | _ => none

/-- Reads a rule in which conditional rules nest at most so deep. -/
def ofJsonWithin : Nat → Value → Option Rule
  | 0, _ => none
  | fuel + 1, v => do
    let (head, check) ← ofParts? (parts? partNames v)
    match ← form? check with
    | ("Conditional", data) =>
      match formParts? ["condition", "filters", "inner"] data with
      | some [condition, filters, inner] =>
        return .conditional head (← condition.bind (plainForm? Condition.ofName?))
          (← filters? filters) (← ofJsonWithin fuel (← inner))
      | _ => none
    | (name, data) => return .plain head (← Check.ofForm? name data)

/-- Reads a rule. Rules nest no deeper than the value they are read from. -/
def ofJson? (v : Value) : Option Rule := ofJsonWithin v.depth v

end Rule

end TableAudit
