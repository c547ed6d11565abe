import TableAudit.Rule.Record

/-!
# Configurations

What to audit, with which rules, and where to put the results.
-/

namespace TableAudit

open Json (Value)

/-- Something that was left out of a run, under the code that it belongs to. -/
structure Diagnostic where
  code : String
  message : String
deriving DecidableEq, Repr

def Diagnostic.text (d : Diagnostic) : String := s!"[{d.code}] {d.message}"

/-- What is known about the audited data beside the data. -/
structure Metadata where
  country : String
  project : String
  entity : String
  domain : String
  subDomain : String
  segment : String
  area : String
  dataDate : String
deriving DecidableEq, Repr

namespace Metadata

def blank : Metadata := ⟨"", "", "", "", "", "", "", ""⟩

/-- The entity as it appears in rule codes. -/
def entityCode (m : Metadata) : String := Text.upper m.entity

end Metadata

structure Sink where
  path : Option String
  type : Option String
  delimiter : Option String
  header : Option Bool
deriving DecidableEq, Repr

def Sink.blank : Sink := ⟨none, none, none, none⟩

/-- The audited data: where it is, what it is, and whether a clean copy is wanted. -/
structure Input where
  metadata : Metadata
  path : Option String
  type : Option String
  delimiter : Option String
  header : Option Bool
  validData : Option Bool
deriving DecidableEq, Repr

namespace Input

def blank : Input := ⟨.blank, none, none, none, none, none⟩

def source (i : Input) : Source :=
  ⟨if i.metadata.entity == "" then none else some i.metadata.entity,
    i.path, i.type, i.delimiter, i.header⟩

end Input

/-- The clean copy: the key by which rows are left out, and where it is written. -/
structure CleanCopy where
  fields : List String
  sink : Sink
deriving DecidableEq, Repr

structure Config where
  input : Input
  output : Option Sink
  error : Option Sink
  filter : List Value
  data : Option CleanCopy
  rules : List (String × Value)

namespace Config

def blank : Config := ⟨.blank, none, none, [], none, []⟩

def parsed (c : Config) : List (String × Except RecordError (Option Rule)) :=
  c.rules.map fun (code, record) => (code, Rule.ofRecord code record)

def rulesOf (parsed : List (String × Except RecordError (Option Rule))) : List Rule :=
  parsed.filterMap fun
    | (_, .ok r) => r
    | (_, .error _) => none

/-- A diagnostic for every record that is no rule. -/
def diagnosticsOf (parsed : List (String × Except RecordError (Option Rule))) : List Diagnostic :=
  parsed.filterMap fun
    | (code, .error e) => some ⟨code, e.message⟩
    | (_, .ok _) => none

def acceptedRules (c : Config) : List Rule := rulesOf c.parsed

/-- The rule that guards the others: the first of its kind. -/
def prerequisites? (rules : List Rule) : Option Rule :=
  rules.find? (·.head.kind == .prerequisites)

/-- The entries of the global filter, those that are none among them. -/
def filters (c : Config) : List (Except RecordError RowFilter) :=
  c.filter.map (RowFilter.ofJson "filter")

def filtersOf (entries : List (Except RecordError RowFilter)) : List RowFilter :=
  entries.filterMap Except.toOption

def filterDiagnosticsOf (entries : List (Except RecordError RowFilter)) : List Diagnostic :=
  entries.filterMap fun
    | .error e => some ⟨"filter", e.message⟩
    | .ok _ => none

def wantsClean (c : Config) : Bool :=
  c.input.validData.getD false && c.data.any fun d => !d.fields.isEmpty

end Config

end TableAudit
