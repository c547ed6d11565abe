import TableAudit.Json.Value

/-!
# Why a JSON text is refused

A flaw says what is wrong. Where it shows is told by the part of the text that is left unread there;
only a finished refusal turns that into a line and a column, which counts bytes.
-/

namespace TableAudit.Json

inductive Flaw
  | endInList
  | endInObject
  | endInText
  | endInValue
  | noColon
  | noListEnd
  | noObjectEnd
  | noName
  | noValue
  | badKey
  | badEscape
  | badNumber
  | numberTooLarge
  | controlCharacter
  | loneSurrogate
  | cutSurrogate
  | trailingComma
  | trailingText
  | tooDeep
  /-- A value of the wrong shape. -/
  | shape (message : String)
deriving DecidableEq, Repr

/-- Classes of flaws: the text ends too early, it is no JSON, or it has the wrong shape. -/
inductive FlawClass
  | truncated
  | malformed
  | mismatched
deriving DecidableEq, Repr

namespace Flaw

def toClass : Flaw → FlawClass
  | endInList | endInObject | endInText | endInValue => .truncated
  | shape _ => .mismatched
  | _ => .malformed

def message : Flaw → String
  | endInList => "EOF while parsing a list"
  | endInObject => "EOF while parsing an object"
  | endInText => "EOF while parsing a string"
  | endInValue => "EOF while parsing a value"
  | noColon => "expected `:`"
  | noListEnd => "expected `,` or `]`"
  | noObjectEnd => "expected `,` or `\x7d`"
  | noName => "expected ident"
  | noValue => "expected value"
  | badKey => "key must be a string"
  | badEscape => "invalid escape"
  | badNumber => "invalid number"
  | numberTooLarge => "number out of range"
  | controlCharacter => "control character (\\u0000-\\u001F) found while parsing a string"
  | loneSurrogate => "lone leading surrogate in hex escape"
  | cutSurrogate => "unexpected end of hex escape"
  | trailingComma => "trailing comma"
  | trailingText => "trailing characters"
  | tooDeep => "recursion limit exceeded"
  | shape message => message

end Flaw

/-- A flaw and its place: so many bytes into the part of the text that is left. -/
structure Refusal where
  flaw : Flaw
  left : List Char
  bytes : Nat

namespace Refusal

def atEnd (flaw : Flaw) : Refusal := ⟨flaw, [], 0⟩

def before (flaw : Flaw) (left : List Char) : Refusal := ⟨flaw, left, 0⟩

/-- The place is behind the first byte of what is left, the byte that is to blame. -/
def blaming (flaw : Flaw) (left : List Char) : Refusal := ⟨flaw, left, 1⟩

end Refusal

/-- A place in a text; lines count from one and columns from zero. -/
structure Position where
  line : Nat
  column : Nat
deriving DecidableEq, Repr

namespace Position

def behind (p : Position) (c : Char) : Position :=
  if c == '\n' then ⟨p.line + 1, 0⟩ else ⟨p.line, p.column + c.utf8Size⟩

/-- The place so many bytes further on, if the text goes on for so long. -/
def advance (p : Position) (bytes : Nat) : List Char → Position
  | [] => p
  | c :: cs =>
    if c.utf8Size ≤ bytes then advance (p.behind c) (bytes - c.utf8Size) cs
    else ⟨p.line, p.column + bytes⟩

/-- The place in a text at which `left` is left of it. -/
def ofLeft (text left : List Char) : Position :=
  (text.take (text.length - left.length)).foldl behind ⟨1, 0⟩

end Position

structure ReadError where
  flaw : Flaw
  position : Position
deriving DecidableEq, Repr

def ReadError.message (e : ReadError) : String :=
  s!"{e.flaw.message} at line {e.position.line} column {e.position.column}"

def Refusal.locate (r : Refusal) (text : String) : ReadError :=
  ⟨r.flaw, (Position.ofLeft text.toList r.left).advance r.bytes r.left⟩

end TableAudit.Json
