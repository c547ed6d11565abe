import TableAudit.Text.Pieces

/-!
# Kinds of rules

Every rule code starts with the three digits of its kind. A kind also fixes the words that reports
use for its rules.
-/

namespace TableAudit

inductive RuleKind
  | prerequisites
  | nullCheck
  | duplicateCheck
  | referentialIntegrity
  | dateFormatCheck
  | rangeCheck
  | catalogCheck
  | forbiddenCharacters
  | typeCheck
  | compositionCheck
  | lengthCheck
  | storageTypeCheck
  | numericFormatCheck
  | numericOperationCheck
  | statisticsSummary
  | timeRangeCheck
  | conditionalRule
  | positionValueCheck
  | emailCheck
  | valueTrendCheck
deriving DecidableEq, Repr

namespace RuleKind

def all : List RuleKind :=
  [prerequisites, nullCheck, duplicateCheck, referentialIntegrity, dateFormatCheck, rangeCheck,
   catalogCheck, forbiddenCharacters, typeCheck, compositionCheck, lengthCheck, storageTypeCheck,
   numericFormatCheck, numericOperationCheck, statisticsSummary, timeRangeCheck, conditionalRule,
   positionValueCheck, emailCheck, valueTrendCheck]

def code : RuleKind → String
  | prerequisites => "100"
  | nullCheck => "101"
  | duplicateCheck => "102"
  | referentialIntegrity => "103"
  | dateFormatCheck => "104"
  | rangeCheck => "105"
  | catalogCheck => "106"
  | forbiddenCharacters => "107"
  | typeCheck => "108"
  | compositionCheck => "109"
  | lengthCheck => "110"
  | storageTypeCheck => "111"
  | numericFormatCheck => "112"
  | numericOperationCheck => "113"
  | statisticsSummary => "114"
  | timeRangeCheck => "115"
  | conditionalRule => "116"
  | positionValueCheck => "117"
  | emailCheck => "118"
  | valueTrendCheck => "119"

/-- The kind's name in serialized rules and in messages. -/
def name : RuleKind → String
  | prerequisites => "Prerequisites"
  | nullCheck => "NullCheck"
  | duplicateCheck => "DuplicateCheck"
  | referentialIntegrity => "ReferentialIntegrity"
  | dateFormatCheck => "DateFormatCheck"
  | rangeCheck => "RangeCheck"
  | catalogCheck => "CatalogCheck"
  | forbiddenCharacters => "ForbiddenCharacters"
  | typeCheck => "TypeCheck"
  | compositionCheck => "CompositionCheck"
  | lengthCheck => "LengthCheck"
  | storageTypeCheck => "ParquetTypeCheck"
  | numericFormatCheck => "NumericFormatCheck"
  | numericOperationCheck => "NumericOperationCheck"
  | statisticsSummary => "StatisticsSummary"
  | timeRangeCheck => "TimeRangeCheck"
  | conditionalRule => "ConditionalRule"
  | positionValueCheck => "PositionValueCheck"
  | emailCheck => "EmailCheck"
  | valueTrendCheck => "ValueTrendCheck"

/-- The group under which reports list the rule. -/
def group : RuleKind → String
  | prerequisites => "Requisitos Previos"
  | nullCheck => "Nulos"
  | duplicateCheck => "Duplicados"
  | referentialIntegrity => "Integridad Referencial"
  | dateFormatCheck => "Formato de Fecha"
  | rangeCheck => "Rango"
  | catalogCheck => "Catalogo"
  | forbiddenCharacters => "Caracteres Prohibidos"
  | typeCheck => "Tipo de Dato"
  | compositionCheck => "Composicion"
  | lengthCheck => "Longitud"
  | storageTypeCheck => "Tipo de Dato Almacenado"
  | numericFormatCheck => "Formato Numerico"
  | numericOperationCheck => "Operacion Numerica"
  | statisticsSummary => "Estadisticas"
  | timeRangeCheck => "Rango de Fechas"
  | conditionalRule => "Regla Condicional"
  | positionValueCheck => "Valor en Posicion"
  | emailCheck => "Email"
  | valueTrendCheck => "Valor en Tendencia"

/-- The quality dimension that the rule measures. -/
def property : RuleKind → String
  | prerequisites => "Requisitos Previos"
  | nullCheck => "Completitud"
  | duplicateCheck => "Unicidad"
  | statisticsSummary => "Perfilamiento"
  | referentialIntegrity | compositionCheck | conditionalRule => "Consistencia"
  | rangeCheck | catalogCheck | forbiddenCharacters | numericOperationCheck | timeRangeCheck
  | valueTrendCheck => "Exactitud"
  | dateFormatCheck | typeCheck | lengthCheck | storageTypeCheck | numericFormatCheck
  | positionValueCheck | emailCheck => "Validez"

/-- How the text of a data requirement starts. -/
def label : RuleKind → String
  | prerequisites => "Requisitos previos"
  | nullCheck => "Nulos"
  | duplicateCheck => "Duplicidad"
  | referentialIntegrity => "Integridad referencial"
  | dateFormatCheck => "Formato"
  | rangeCheck => "Rango"
  | catalogCheck => "Catalogo"
  | forbiddenCharacters => "Caracteres prohibidos"
  | typeCheck => "Tipo de dato error"
  | compositionCheck => "Composicion error"
  | lengthCheck => "Longitud"
  | storageTypeCheck => "Tipo de dato almacenado"
  | numericFormatCheck => "Formato Numerico"
  | numericOperationCheck => "Operacion Numerica"
  | statisticsSummary => "Estadisticas"
  | timeRangeCheck => "Rango de fechas"
  | conditionalRule => "Regla condicional"
  | positionValueCheck => "Valor en posición específica"
  | emailCheck => "Regla de Email"
  | valueTrendCheck => "Regla de Valor en Tendencia"

/-- Whether rules of this kind appear in the result table. -/
def isScored : RuleKind → Bool
  | prerequisites | statisticsSummary => false
  | _ => true

def ofCode? (code : String) : Option RuleKind :=
  all.find? fun k => k.code.toList == (Text.trim code).toList.take 3

def ofName? (name : String) : Option RuleKind := all.find? (·.name == name)

@[simp] theorem ofName?_name (k : RuleKind) : ofName? k.name = some k := by cases k <;> rfl

end RuleKind

end TableAudit
