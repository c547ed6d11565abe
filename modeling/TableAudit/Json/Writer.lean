import TableAudit.Json.Number

/-!
# Writing JSON

On one line without spaces, or indented by two spaces with one entry on a line.
-/

namespace TableAudit.Json

def hexDigit (n : Nat) : Char := (Nat.toDigits 16 n).headD '0'

/-- A character inside a quoted string. Only quotes, backslashes and control characters change. -/
def escapeChar (c : Char) : List Char :=
  match c with
  | '"' => ['\\', '"']
  | '\\' => ['\\', '\\']
  | '\x08' => ['\\', 'b']
  | '\x0c' => ['\\', 'f']
  | '\n' => ['\\', 'n']
  | '\r' => ['\\', 'r']
  | '\t' => ['\\', 't']
  | c =>
    if c.toNat < 0x20 then
      ['\\', 'u', '0', '0', hexDigit (c.toNat / 16), hexDigit (c.toNat % 16)]
    else [c]

def quoted (s : String) : String :=
  String.ofList ('"' :: s.toList.flatMap escapeChar ++ ['"'])

mutual

def Value.compact : Value → String
  | .null => "null"
  | .bool b => if b then "true" else "false"
  | .number n => n.text
  | .text s => quoted s
  | .list items => "[" ++ ",".intercalate (compactItems items) ++ "]"
  | .object entries => "\x7b" ++ ",".intercalate (compactEntries entries) ++ "\x7d"

def compactItems : List Value → List String
  | [] => []
  | v :: vs => v.compact :: compactItems vs

def compactEntries : List (String × Value) → List String
  | [] => []
  | (k, v) :: es => (quoted k ++ ":" ++ v.compact) :: compactEntries es

end

def indent (n : Nat) : String := String.ofList (List.replicate (2 * n) ' ')

/-- Brackets around lines, which are indented one step further than the brackets. -/
def block (opening closing : String) (depth : Nat) (lines : List String) : String :=
  if lines.isEmpty then opening ++ closing
  else
    opening ++ "\n" ++ ",\n".intercalate (lines.map (indent (depth + 1) ++ ·)) ++ "\n" ++
      indent depth ++ closing

mutual

/-- A value over several lines, `depth` steps in. -/
def Value.pretty (depth : Nat) : Value → String
  | .null => "null"
  | .bool b => if b then "true" else "false"
  | .number n => n.text
  | .text s => quoted s
  | .list items => block "[" "]" depth (prettyItems (depth + 1) items)
  | .object entries => block "\x7b" "\x7d" depth (prettyEntries (depth + 1) entries)

def prettyItems (depth : Nat) : List Value → List String
  | [] => []
  | v :: vs => v.pretty depth :: prettyItems depth vs

def prettyEntries (depth : Nat) : List (String × Value) → List String
  | [] => []
  | (k, v) :: es => (quoted k ++ ": " ++ v.pretty depth) :: prettyEntries depth es

end

end TableAudit.Json
