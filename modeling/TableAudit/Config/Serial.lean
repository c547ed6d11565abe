import TableAudit.Config.Basic

/-!
# Configurations as JSON

A configuration written out in full, with `null` for what is not set.
-/

namespace TableAudit

open Json (Value)

namespace Metadata

def entries (m : Metadata) : List (String × Value) :=
  [("country", .text m.country), ("project", .text m.project), ("entity", .text m.entity),
   ("domain", .text m.domain), ("sub_domain", .text m.subDomain), ("segment", .text m.segment),
   ("area", .text m.area), ("data_date", .text m.dataDate)]

def toJson (m : Metadata) : Value := .object m.entries

end Metadata

namespace Sink

def entries (s : Sink) : List (String × Value) :=
  [("path", .ofOption .text s.path), ("type", .ofOption .text s.type),
   ("delimiter", .ofOption .text s.delimiter), ("header", .ofOption .bool s.header)]

def toJson (s : Sink) : Value := .object s.entries

end Sink

namespace Input

def toJson (i : Input) : Value :=
  .object <| i.metadata.entries ++
    [("path", .ofOption .text i.path), ("type", .ofOption .text i.type),
     ("delimiter", .ofOption .text i.delimiter), ("header", .ofOption .bool i.header),
     ("valid_data", .ofOption .bool i.validData)]

end Input

def CleanCopy.toJson (c : CleanCopy) : Value :=
  .object (("fields", .texts c.fields) :: c.sink.entries)

def Config.toJson (c : Config) : Value :=
  .object [
    ("input", c.input.toJson),
    ("output", .ofOption Sink.toJson c.output),
    ("error", .ofOption Sink.toJson c.error),
    ("filter", .list c.filter),
    ("data", .ofOption CleanCopy.toJson c.data),
    ("rules", .object c.rules)]

end TableAudit
