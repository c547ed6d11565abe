import TableAudit.Table.Cell
import TableAudit.Text.Case

/-!
# Declared types

The type a rule expects the texts of a column to spell, and the type it expects the column to be
stored as. Both are named in many ways.
-/

namespace TableAudit

/-- The small form of a type name, without what follows a bracket and without a final `type`. -/
def typeWord (raw : String) : String :=
  let word := (Text.lower (Text.trim raw)).toList.takeWhile (· != '(')
  let stem := word.take (word.length - 4)
  let bytes := word.foldl (fun n c => n + c.utf8Size) 0
  if bytes > 4 && word.drop stem.length == "type".toList then String.ofList stem
  else String.ofList word

inductive ValueType
  | integer
  | long
  | double
  | decimal
  | boolean
  | date
  | timestamp
  | string
deriving DecidableEq, Repr

namespace ValueType

def all : List ValueType := [integer, long, double, decimal, boolean, date, timestamp, string]

def name : ValueType → String
  | integer => "Integer"
  | long => "Long"
  | double => "Double"
  | decimal => "Decimal"
  | boolean => "Boolean"
  | date => "Date"
  | timestamp => "Timestamp"
  | string => "String"

def word : ValueType → String
  | integer => "integer"
  | long => "long"
  | double => "double"
  | decimal => "decimal"
  | boolean => "boolean"
  | date => "date"
  | timestamp => "timestamp"
  | string => "string"

def ofName? (name : String) : Option ValueType := all.find? (·.name == name)

@[simp] theorem ofName?_name (t : ValueType) : ofName? t.name = some t := by cases t <;> rfl

def ofText? (raw : String) : Option ValueType :=
  match typeWord raw with
  | "int" | "integer" | "short" | "smallint" | "byte" | "tinyint" => some integer
  | "long" | "bigint" => some long
  | "double" | "float" | "real" => some double
  | "decimal" | "numeric" => some decimal
  | "boolean" | "bool" => some boolean
  | "date" => some date
  | "timestamp" | "datetime" => some timestamp
  | "string" | "str" | "varchar" | "text" => some string
  | _ => none

end ValueType

inductive StorageType
  | boolean
  | byte
  | short
  | integer
  | long
  | unsignedInteger
  | float
  | double
  | decimal
  | string
  | binary
  | date
  | timestamp
  | time
  | null
deriving DecidableEq, Repr

namespace StorageType

def all : List StorageType :=
  [boolean, byte, short, integer, long, unsignedInteger, float, double, decimal, string, binary,
   date, timestamp, time, null]

def name : StorageType → String
  | boolean => "Boolean"
  | byte => "Byte"
  | short => "Short"
  | integer => "Integer"
  | long => "Long"
  | unsignedInteger => "UnsignedInteger"
  | float => "Float"
  | double => "Double"
  | decimal => "Decimal"
  | string => "String"
  | binary => "Binary"
  | date => "Date"
  | timestamp => "Timestamp"
  | time => "Time"
  | null => "Null"

def ofName? (name : String) : Option StorageType := all.find? (·.name == name)

@[simp] theorem ofName?_name (t : StorageType) : ofName? t.name = some t := by cases t <;> rfl

def ofText? (raw : String) : Option StorageType :=
  match typeWord raw with
  | "boolean" | "bool" => some boolean
  | "byte" | "tinyint" | "i8" | "int8" => some byte
  | "short" | "smallint" | "i16" | "int16" => some short
  | "integer" | "int" | "i32" | "int32" => some integer
  | "long" | "bigint" | "i64" | "int64" => some long
  | "u8" | "u16" | "u32" | "u64" | "uint8" | "uint16" | "uint32" | "uint64" =>
    some unsignedInteger
  | "float" | "f32" | "float32" => some float
  | "double" | "f64" | "float64" => some double
  | "decimal" => some decimal
  | "string" | "str" | "utf8" | "varchar" => some string
  | "binary" => some binary
  | "date" => some date
  | "timestamp" | "datetime" => some timestamp
  | "time" => some time
  | "null" | "void" => some null
  | _ => none

/-- The storage type of a column; some columns have none. -/
def ofCellType? : CellType → Option StorageType
  | .text => some string
  | .bool => some boolean
  | .int8 => some byte
  | .int16 => some short
  | .int32 => some integer
  | .int64 => some long
  | .uint32 | .uint64 => some unsignedInteger
  | .float32 => some float
  | .float64 => some double
  | .day => some date
  | .instant => some timestamp
  | .time => some time
  | .duration => none
  | .binary => some binary
  | .null => some null

end StorageType

end TableAudit
