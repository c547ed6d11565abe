import TableAudit.Json.Flag
import TableAudit.Rule.Basic

/-!
# Rules from configuration records

A record is a JSON object whose keys may be spelt with or without underscores and hyphens and in
any letter case. Reading one gives a rule, finds that it is switched off by its own fields, or
fails with the first problem met.
-/

namespace TableAudit

open Json (Value)

inductive RecordError
  | unknownCode (code : String)
  | missing (code parameter : String)
  | invalid (code parameter reason : String)
  | unknownDateFormat (code format : String)
  | unsupportedInner (code kind : String)
deriving DecidableEq, Repr

def RecordError.message : RecordError → String
  | unknownCode code => s!"rule {code}: unknown rule code prefix"
  | missing code parameter => s!"rule {code}: missing parameter `{parameter}`"
  | invalid code parameter reason => s!"rule {code}: invalid parameter `{parameter}`: {reason}"
  | unknownDateFormat code format => s!"rule {code}: unrecognized date format `{format}`"
  | unsupportedInner code kind =>
    s!"rule {code}: {kind} cannot be used as a conditional quality function"

namespace Source

def optionalText (v : Value) : Except String (Option String) :=
  match v with
  | .null => .ok none
  | .text s => .ok (some s)
  | _ => .error (v.wrongType "a string")

/-- Takes one named part of a source; unknown names are passed over. -/
def setPart (s : Source) (name : String) (v : Value) : Except String Source :=
  match name with
  | "entity" => (optionalText v).map fun e => { s with entity := e }
  | "path" => (optionalText v).map fun p => { s with path := p }
  | "type" => (optionalText v).map fun t => { s with type := t }
  | "delimiter" => (optionalText v).map fun d => { s with delimiter := d }
  | "header" => .ok { s with header := v.flag? }
  | _ => .ok s

def partNames : List String := ["entity", "path", "type", "delimiter", "header"]

def blank : Source := ⟨none, none, none, none, none⟩

/-- A source from an object, or from a list of its parts in order. -/
def ofJson (v : Value) : Except String Source :=
  match v with
  | .object entries => entries.foldlM (fun s (k, v) => s.setPart k v) blank
  | .list items => do
    let s ← (partNames.zip items).foldlM (fun s (k, v) => s.setPart k v) blank
    if items.length > partNames.length then
      throw s!"invalid length {items.length}, expected fewer elements in array"
    return s
  | _ => .error (v.wrongType "struct ReferenceSource")

end Source

/-- A key without underscores, hyphens and capitals. -/
def plainKey (key : String) : String :=
  String.ofList ((key.toList.filter fun c => c != '_' && c != '-').flatMap Text.lowerChar)

/-- A record with its keys in their plain spelling. -/
structure RuleRecord where
  code : String
  entries : List (String × Value)

/-- A list of texts: scalars in a list, or one scalar alone. -/
def textList (code parameter : String) (v : Value) : Except RecordError (List String) :=
  match v with
  | .list items => items.mapM fun item =>
      match item.scalarText? with
      | some s => .ok s
      | none => .error (.invalid code parameter "list items must be scalars")
  | .null => .error (.missing code parameter)
  | v =>
    match v.scalarText? with
    | some s => .ok [s]
    | none => .error (.invalid code parameter "expected a list")

namespace RuleRecord

def ofJson (code : String) (v : Value) : Except RecordError RuleRecord :=
  match v with
  | .object entries => .ok ⟨code, entries.map fun (k, v) => (plainKey k, v)⟩
  | _ => .error (.invalid code "record" "rule records are JSON objects")

/-- The value at a key, the last of several; `null` counts as absent. -/
def get? (r : RuleRecord) (key : String) : Option Value :=
  ((r.entries.reverse.find? (·.1 == plainKey key)).map (·.2)).filter (!·.isNull)

def require (r : RuleRecord) (key : String) : Except RecordError Value :=
  match r.get? key with
  | some v => .ok v
  | none => .error (.missing r.code key)

def text (r : RuleRecord) (key : String) : Except RecordError String := do
  match (← r.require key).scalarText? with
  | some s => return s
  | none => throw (.invalid r.code key "expected a string")

def text? (r : RuleRecord) (key : String) : Option String :=
  (r.get? key).bind Value.scalarText?

def number? (r : RuleRecord) (key : String) : Except RecordError (Option Float) :=
  match r.get? key with
  | none => .ok none
  | some v =>
    match v.float? with
    | some x => .ok (some x)
    | none => .error (.invalid r.code key "expected a number")

/-- A number without fraction and sign. What exceeds 64 bits becomes the largest count. -/
def count? (r : RuleRecord) (key : String) : Except RecordError (Option UInt64) := do
  match ← r.number? key with
  | none => return none
  | some x =>
    if x ≥ 0 && Decimal.isIntegral x then return some x.toUInt64
    else
      throw (.invalid r.code key s!"expected a non-negative integer, found {Decimal.plain x}")

def count (r : RuleRecord) (key : String) : Except RecordError UInt64 := do
  match ← r.count? key with
  | some n => return n
  | none => throw (.missing r.code key)

def list (r : RuleRecord) (key : String) : Except RecordError (List String) := do
  textList r.code key (← r.require key)

def list? (r : RuleRecord) (key : String) : Except RecordError (Option (List String)) :=
  match r.get? key with
  | none => .ok none
  | some v => (textList r.code key v).map some

def flag (r : RuleRecord) (key : String) (absent : Bool) : Bool :=
  ((r.get? key).bind Value.flag?).getD absent

/-- The fields a rule applies to; none if all of them are blank or zero, which switches it off. -/
def fields? (r : RuleRecord) : Except RecordError (Option (List String)) := do
  let fields ← textList r.code "fields" (← r.require "fields")
  let off := fields.all fun f => Text.trim f == "" || Text.trim f == "0"
  return if off then none else some fields

def threshold (r : RuleRecord) : Except RecordError Float :=
  (r.number? "threshold").map (·.getD 100)

def writes (r : RuleRecord) : Bool := r.flag "write" true

def dateFormat (r : RuleRecord) : Except RecordError Calendar.Format := do
  let raw ← r.text "format_date"
  match Calendar.Format.ofName? raw with
  | some f => return f
  | none => throw (.unknownDateFormat r.code raw)

def limit? (r : RuleRecord) (key : String) : Except RecordError (Option RangeLimit) :=
  match r.get? key with
  | none => .ok none
  | some v =>
    match v.scalarText?.filter (Text.trim · != "") with
    | some s => .ok (some (RangeLimit.ofText s))
    | none => .error (.invalid r.code key "expected a number or column")

def bounds (r : RuleRecord) : Except RecordError RangeBounds := do
  let min ← r.limit? "min_range"
  let max ← r.limit? "max_range"
  return {
    min
    max
    includeLeft := r.flag "include_limit_left" true
    includeRight := r.flag "include_limit_right" true
    inclusive := r.flag "inclusive" true }

/-- A parameter that names one of several things. -/
def named {α : Type} (r : RuleRecord) (key what : String) (read : String → Option α)
    (raw : String) : Except RecordError α :=
  match read raw with
  | some a => .ok a
  | none => .error (.invalid r.code key s!"unknown {what} `{raw}`")

def source (r : RuleRecord) (input : Value) : Except RecordError Source :=
  match Source.ofJson input with
  | .ok s => .ok s
  | .error reason => .error (.invalid r.code "input" reason)

def referential (r : RuleRecord) : Except RecordError Check := do
  let input ← r.require "input"
  let reference ← r.source input
  match input.get? "fields" with
  | none => throw (.missing r.code "input.fields")
  | some v =>
    let theirs ← textList r.code "input.fields" v
    let ours := (← r.fields?).getD []
    if ours.length ≠ theirs.length then
      throw (.invalid r.code "input.fields"
        s!"expected {ours.length} reference fields, found {theirs.length}")
    return .referential reference theirs

def email (r : RuleRecord) : Except RecordError Check := do
  let input ← r.require "input"
  let reference ← r.source input
  let found := (input.get? "reference_fields").or
    ((input.get? "referenceFields").or (input.get? "fields"))
  match found with
  | none => throw (.missing r.code "input.reference_fields")
  | some v =>
    match ← textList r.code "input.reference_fields" v with
    | [] => throw (.missing r.code "input.reference_fields")
    | domainField :: _ =>
      return .email reference domainField ((← r.list? "expression_forbidden").getD [])

def range (r : RuleRecord) : Except RecordError Check := do
  let b ← r.bounds
  if b.min.isNone && b.max.isNone then throw (.missing r.code "min_range")
  return .range b

def length (r : RuleRecord) : Except RecordError Check := do
  let min ← r.count? "min_range"
  let max ← r.count? "max_range"
  if min.isNone && max.isNone then throw (.missing r.code "min_range")
  return .length min max

def numericOperation (r : RuleRecord) : Except RecordError Check := do
  let operator ← r.named "operator" "operator" Comparison.ofText? (← r.text "operator")
  let operand ← r.text "input_val"
  if (Text.words operand).isEmpty then throw (.invalid r.code "input_val" "empty expression")
  return .numericOperation operator operand ((← r.number? "error_val").getD 0)

def timeRange (r : RuleRecord) : Except RecordError Check := do
  let unit ← match r.text? "diff_unit" with
    | some raw => r.named "diff_unit" "unit" TimeUnit.ofText? raw
    | none => pure .days
  let reference ← r.text "reference_date"
  let format ← r.dateFormat
  return .timeRange reference format unit (← r.bounds)

def positionValue (r : RuleRecord) : Except RecordError Check := do
  let first ← r.count "initial_position"
  let last ← r.count "final_position"
  if first = 0 || last < first then
    throw (.invalid r.code "final_position"
      s!"positions {first.toNat}..{last.toNat} are not a 1-based inclusive span")
  return .positionValue first last (← r.list "expected_value")

/-- Where a table is to be written: a path, or an object that has one. -/
def output? (r : RuleRecord) : Option String :=
  match r.get? "output" with
  | some (.text path) => some path
  | some v => (v.get? "path").bind Value.text?
  | none => none

/-- The check that the parameters of a record describe. -/
def check (r : RuleRecord) : RuleKind → Except RecordError Check
  | .prerequisites | .nullCheck | .duplicateCheck => return .fields
  | .statisticsSummary => return .statistics r.output?
  | .referentialIntegrity => r.referential
  | .catalogCheck => return .catalog (← r.list "values")
  | .rangeCheck => r.range
  | .forbiddenCharacters => return .forbidden (← r.list "values")
  | .typeCheck => do
    let raw ← r.text "data_type"
    return .type (← r.named "data_type" "type" ValueType.ofText? raw)
  | .compositionCheck => return .composition (← r.list "values") ((r.text? "delimiter").getD "")
  | .lengthCheck => r.length
  | .storageTypeCheck => do
    let raw ← r.text "data_type"
    return .storageType (← r.named "data_type" "type" StorageType.ofText? raw)
  | .numericFormatCheck => do
    let separator := ((r.text? "sep").bind (·.toList.head?)).getD '.'
    let integerDigits ← r.count "max_int"
    return .numericFormat integerDigits (← r.count "num_dec") separator
  | .numericOperationCheck => r.numericOperation
  | .dateFormatCheck => return .dateFormat (← r.dateFormat)
  | .timeRangeCheck => r.timeRange
  | .positionValueCheck => r.positionValue
  | .emailCheck => r.email
  | .valueTrendCheck => do
    let reference := (← r.list? "reference_fields").getD []
    return .valueTrend reference (TrendMethod.ofText ((r.text? "method").getD ""))
  | .conditionalRule => throw (.unsupportedInner r.code RuleKind.conditionalRule.name)

/-- A rule of any kind but the conditional one; none if its fields switch it off. -/
def plainRule (r : RuleRecord) (kind : RuleKind) : Except RecordError (Option Rule) := do
  match ← r.fields? with
  | none => return none
  | some fields =>
    let target := if kind = .prerequisites then .columns fields else Target.ofList fields
    let check ← r.check kind
    let threshold ← r.threshold
    return some (.plain ⟨r.code, kind, target, threshold, r.writes⟩ check)

end RuleRecord

namespace RowFilter

/-- A filter from a list of a column, a sign and a value. -/
def ofJson (code : String) (entry : Value) : Except RecordError RowFilter :=
  let invalid {α : Type} (reason : String) : Except RecordError α :=
    .error (.invalid code "filter_list" reason)
  match entry with
  | .list [column, sign, value] => do
    let .text column := column | invalid "filter column must be a string"
    let .text sign := sign | invalid "filter sign must be a string"
    let sign := Text.lower (Text.trim sign)
    match sign with
    | "in" | "==" => return ⟨column, .isIn (← textList code "filter_list" value)⟩
    | "not in" | "!=" => return ⟨column, .notIn (← textList code "filter_list" value)⟩
    | "is" =>
      match value.scalarText?.map Text.lower with
      | some "null" => return ⟨column, .isNull⟩
      | some "notnull" | some "not null" => return ⟨column, .isNotNull⟩
      | _ => invalid "`is` filters take Null or NotNull"
    | _ =>
      match (Comparison.ofText? sign).filter fun op => op != .eq && op != .ne with
      | none => invalid s!"unknown filter sign `{sign}`"
      | some op =>
        match value.float? with
        | some literal => return ⟨column, .compare op literal⟩
        | none => invalid "comparison filters take a numeric value"
  | _ => invalid "filters are [column, sign, value] lists"

end RowFilter

namespace Rule

/-- The filters of a conditional rule, of which there must be one. -/
def filtersOf (r : RuleRecord) : Except RecordError (List RowFilter) := do
  match ← r.require "filter_list" with
  | .list (e :: entries) => (e :: entries).mapM (RowFilter.ofJson r.code)
  | _ => throw (.invalid r.code "filter_list" "expected a non-empty list")

def conditionOf (r : RuleRecord) : Except RecordError Condition :=
  match r.text? "condition" with
  | some raw => r.named "condition" "condition" Condition.ofText? raw
  | none => .ok .first

/-- Whether a conditional rule may wrap a rule of this kind. -/
def isWrappable : RuleKind → Bool
  | .conditionalRule | .statisticsSummary | .prerequisites => false
  | _ => true

/-- The rule that a conditional rule applies; it is never conditional itself. -/
def innerOf (r : RuleRecord) : Except RecordError (Option Rule) := do
  let v ← r.require "quality_function"
  let some (.text code) := v.get? "code" | throw (.missing r.code "quality_function.code")
  let some kind := RuleKind.ofCode? code | throw (.unknownCode code)
  if !isWrappable kind then throw (.unsupportedInner r.code kind.name)
  (← RuleRecord.ofJson code v).plainRule kind

def conditionalOf (r : RuleRecord) : Except RecordError (Option Rule) := do
  let condition ← conditionOf r
  let filters ← filtersOf r
  match ← innerOf r with
  | none => return none
  | some inner =>
    let threshold ← r.threshold
    return some (.conditional ⟨r.code, .conditionalRule, inner.head.target, threshold, r.writes⟩
      condition filters inner)

/-- The rule of a code and its record; none if the record switches itself off. -/
def ofRecord (code : String) (record : Value) : Except RecordError (Option Rule) := do
  let some kind := RuleKind.ofCode? code | throw (.unknownCode code)
  let r ← RuleRecord.ofJson code record
  if kind = .conditionalRule then conditionalOf r else r.plainRule kind

end Rule

end TableAudit
