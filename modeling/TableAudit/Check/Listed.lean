import TableAudit.Check.Basic
import TableAudit.Text.Regular
import TableAudit.Text.Word

/-!
# Checks against lists

A catalog of allowed values, rows of another table, mail domains listed in another table, and the
storage type of a column.
-/

namespace TableAudit.RowCheck

/-- The letter under an accent, for the accents in use. -/
def withoutAccent (c : Char) : Char :=
  match c with
  | 'á' | 'à' | 'ä' | 'â' | 'ã' | 'å' => 'a'
  | 'Á' | 'À' | 'Ä' | 'Â' | 'Ã' | 'Å' => 'A'
  | 'é' | 'è' | 'ë' | 'ê' => 'e'
  | 'É' | 'È' | 'Ë' | 'Ê' => 'E'
  | 'í' | 'ì' | 'ï' | 'î' => 'i'
  | 'Í' | 'Ì' | 'Ï' | 'Î' => 'I'
  | 'ó' | 'ò' | 'ö' | 'ô' | 'õ' => 'o'
  | 'Ó' | 'Ò' | 'Ö' | 'Ô' | 'Õ' => 'O'
  | 'ú' | 'ù' | 'ü' | 'û' => 'u'
  | 'Ú' | 'Ù' | 'Ü' | 'Û' => 'U'
  | 'ñ' => 'n'
  | 'Ñ' => 'N'
  | 'ç' => 'c'
  | 'Ç' => 'C'
  | c => c

/-- The form in which catalog values are compared: no blanks around, no accents, small letters. -/
def catalogForm (s : String) : String :=
  String.ofList (((Text.trim s).toList.map withoutAccent).flatMap Text.lowerChar)

/-- A missing text is in no catalog. -/
def catalog (s : Schema) (field : String) (allowed : List String) : Prepared := do
  let i ← findColumn s field
  let allowed := Std.HashSet.ofList (allowed.map catalogForm)
  return .ofEvery fun row => (row.text? i).all fun text => !allowed.contains (catalogForm text)

/-- Every row needs a partner in the reference table. -/
def referential (s : Schema) (fields : List String) (reference : Table)
    (referenceFields : List String) : Prepared := do
  if fields.length ≠ referenceFields.length then
    throw (.table (.keyArity fields.length referenceFields.length))
  let keys ← (reference.keys referenceFields).mapError .table
  let present := Std.HashSet.ofList (keys.filterMap Key.complete?)
  let is ← (s.columns fields).mapError .table
  return .ofEvery fun row =>
    match (row.key is).complete? with
    | some k => !present.contains k
    | none => true

def isLabelChar (c : Char) : Bool := Text.isWordChar c || c == '-'

def isLocalChar (c : Char) : Bool := isLabelChar c || c == '.'

/-- A sound mail address: a local part, labels with a point behind each of them, and a last label
without hyphens. -/
def addressPattern : Text.Regular :=
  .seq (.oneOrMore (.char isLocalChar)) <|
    .seq (.char (· == '@')) <|
      .seq (.oneOrMore (.seq (.oneOrMore (.char isLabelChar)) (.char (· == '.'))))
        (.oneOrMore (.char Text.isWordChar))

/-- Whether a mail address is sound, of a listed domain, and its local part is not forbidden. -/
def acceptsAddress (listed : String → Bool) (forbidden : List String) (address : String) : Bool :=
  match Text.cutAt '@' address with
  | none => false
  | some (name, domain) =>
    addressPattern.accepts address.toList && listed domain && !forbidden.contains name

def email (s : Schema) (field : String) (reference : Table) (domainField : String)
    (forbidden : List String) : Prepared := do
  let texts ← (reference.texts domainField).mapError .table
  let domains := Std.HashSet.ofList (texts.filterMap fun t => t.map Text.trim)
  textCheck s field fun address => !acceptsAddress domains.contains forbidden address

/-- All rows fail if the column, found in any letter case, is stored as another type. -/
def storageType (s : Schema) (field : String) (expected : StorageType) : Prepared := do
  let some name := lookupName s.names field | throw (.table (.missingColumn field))
  let stored := (s.typeOf? name).bind StorageType.ofCellType?
  return .ofEvery fun _ => stored != some expected

end TableAudit.RowCheck
