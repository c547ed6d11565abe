import TableAudit.Json.Flag
import TableAudit.Json.Number
import TableAudit.Json.Refusal

/-!
# JSON text as far as it can be read

A `Draft` is the tree of a JSON text, faults included: reading stops at the first hard fault and
keeps what came before it, so that a reader with expectations of its own can tell whether a wrong
shape or the fault comes first. Two flaws do not stop the reading, since a value that nobody looks
at may have them: a number out of range, and a surrogate without its partner. Places in the text are
kept as what is left of it.
-/

namespace TableAudit.Json

/-- A hard fault, as it shows when the value is looked at and when it is skipped. -/
structure Fault where
  read : Refusal
  skipped : Refusal

def Fault.both (r : Refusal) : Fault := ⟨r, r⟩

/-- How a container ends: at its bracket, with a text left behind it; in a fault of its own; or not
at all, if its last value is broken. -/
inductive Ending
  | closed (left : List Char)
  | cut (fault : Fault)
  | absent

/-- What is left behind a container that is closed. -/
def Ending.left : Ending → List Char
  | closed left => left
  | _ => []

/-- The key of an entry, unless it has a lone surrogate, and what is left behind it. -/
structure Key where
  name : Except Refusal String
  left : List Char

/-- The tree of a text. A scalar knows what is left behind it, a container what is left before it,
and so does every item of a list. -/
inductive Draft
  | scalar (v : Value) (left : List Char)
  | flawed (r : Refusal)
  | list (start : List Char) (items : List (List Char × Draft)) (ending : Ending)
  | object (start : List Char) (entries : List (Key × Draft)) (ending : Ending)
  | broken (fault : Fault)

namespace Draft

def isSpace (c : Char) : Bool := c == ' ' || c == '\n' || c == '\t' || c == '\r'

def skipSpace (cs : List Char) : List Char := cs.dropWhile isSpace

def hexDigit? (c : Char) : Option Nat :=
  if c.isDigit then some (c.toNat - '0'.toNat)
  else if 'a' ≤ c && c ≤ 'f' then some (c.toNat - 'a'.toNat + 10)
  else if 'A' ≤ c && c ≤ 'F' then some (c.toNat - 'A'.toNat + 10)
  else none

/-- Four hexadecimal digits. A text with fewer than four bytes left is too short for them. -/
def readHex (cs : List Char) : Except Refusal (Nat × List Char) :=
  if (cs.take 4).foldl (fun n c => n + c.utf8Size) 0 < 4 then .error (.atEnd .endInText)
  else match cs with
    | a :: b :: c :: d :: rest =>
      match hexDigit? a, hexDigit? b, hexDigit? c, hexDigit? d with
      | some a, some b, some c, some d => .ok (((a * 16 + b) * 16 + c) * 16 + d, rest)
      | _, _, _, _ => .error ⟨.badEscape, cs, 4⟩
    | _ => .error ⟨.badEscape, cs, 4⟩

/-- The low surrogate that has to follow a high one. -/
def partner : List Char → Except Refusal (Nat × List Char)
  | [] => .error (.atEnd .endInText)
  | ['\\'] => .error (.atEnd .endInText)
  | '\\' :: 'u' :: rest => do
    let (n, rest) ← readHex rest
    if 0xdc00 ≤ n && n < 0xe000 then return (n, rest) else throw (.before .loneSurrogate rest)
  | '\\' :: rest => .error (.blaming .cutSurrogate rest)
  | rest => .error (.blaming .cutSurrogate rest)

/-- What reading a string gives: its characters, unless it has a lone surrogate, and the rest of the
text; or the fault that ends it. -/
abbrev StringResult := Except Fault (Except Refusal String × List Char)

/-- The characters of a string up to its closing quote. `lone` is the first lone surrogate so far;
`acc` holds the characters so far, last first. -/
def readString : Nat → Option Refusal → List Char → List Char → StringResult
  | 0, _, _, _ => .error (.both (.atEnd .endInText))
  | fuel + 1, lone, acc, cs =>
    let failAs (read skipped : Refusal) : StringResult := .error ⟨lone.getD read, skipped⟩
    let fail (r : Refusal) : StringResult := failAs r r
    match cs with
    | [] => fail (.atEnd .endInText)
    | '"' :: rest =>
      match lone with
      | some r => .ok (.error r, rest)
      | none => .ok (.ok (String.ofList acc.reverse), rest)
    | '\\' :: rest =>
      match rest with
      | [] => fail (.atEnd .endInText)
      | '"' :: rest => readString fuel lone ('"' :: acc) rest
      | '\\' :: rest => readString fuel lone ('\\' :: acc) rest
      | '/' :: rest => readString fuel lone ('/' :: acc) rest
      | 'b' :: rest => readString fuel lone ('\x08' :: acc) rest
      | 'f' :: rest => readString fuel lone ('\x0c' :: acc) rest
      | 'n' :: rest => readString fuel lone ('\n' :: acc) rest
      | 'r' :: rest => readString fuel lone ('\r' :: acc) rest
      | 't' :: rest => readString fuel lone ('\t' :: acc) rest
      | 'u' :: rest =>
        match readHex rest with
        | .error r => fail r
        | .ok (n, rest) =>
          if 0xdc00 ≤ n && n < 0xe000 then
            readString fuel (lone.or (some (.before .loneSurrogate rest))) acc rest
          else if 0xd800 ≤ n && n < 0xdc00 then
            match partner rest with
            | .ok (m, rest) =>
              let c := Char.ofNat (0x10000 + (n - 0xd800) * 0x400 + (m - 0xdc00))
              readString fuel lone (c :: acc) rest
            | .error r => readString fuel (lone.or (some r)) acc rest
          else readString fuel lone (Char.ofNat n :: acc) rest
      | rest => fail (.blaming .badEscape rest)
    | c :: rest =>
      if c.toNat < 0x20 then
        failAs (.blaming .controlCharacter (c :: rest)) (.before .controlCharacter (c :: rest))
      else readString fuel lone (c :: acc) rest

def readDigits (cs : List Char) : Except Refusal (List Char × List Char) :=
  match cs with
  | [] => .error (.atEnd .endInValue)
  | c :: _ =>
    if c.isDigit then .ok (cs.takeWhile Char.isDigit, cs.dropWhile Char.isDigit)
    else .error (.blaming .badNumber cs)

/-- The digits before the point; a zero stands alone. -/
def readWhole (cs : List Char) : Except Refusal (List Char × List Char) :=
  match cs with
  | '0' :: c :: rest =>
    if c.isDigit then .error (.blaming .badNumber (c :: rest)) else .ok (['0'], c :: rest)
  | _ => readDigits cs

def readFraction (cs : List Char) : Except Refusal (List Char × List Char) :=
  match cs with
  | '.' :: rest => readDigits rest
  | _ => .ok ([], cs)

def readExponent (cs : List Char) : Except Refusal (Option (Bool × List Char) × List Char) :=
  match cs with
  | c :: rest =>
    if c == 'e' || c == 'E' then
      let (down, rest) := takeSign rest
      (readDigits rest).map fun (ds, rest) => (some (down, ds), rest)
    else .ok (none, cs)
  | [] => .ok (none, cs)
where
  takeSign : List Char → Bool × List Char
    | '-' :: cs => (true, cs)
    | '+' :: cs => (false, cs)
    | cs => (false, cs)

def readNumeral (cs : List Char) : Except Refusal (Numeral × List Char) := do
  let (negative, cs) := match cs with
    | '-' :: rest => (true, rest)
    | _ => (false, cs)
  let (whole, cs) ← readWhole cs
  let (fraction, cs) ← readFraction cs
  let (exponent, cs) ← readExponent cs
  return (⟨negative, whole, fraction, exponent⟩, cs)

/-- The fault of a numeral. Where it is skipped, a numeral that breaks off is simply none. -/
def numeralFault (r : Refusal) : Fault := ⟨r, { r with flaw := .badNumber }⟩

def expect : List Char → List Char → Except Refusal (List Char)
  | [], cs => .ok cs
  | _ :: _, [] => .error (.atEnd .endInValue)
  | n :: name, c :: cs =>
    if n == c then expect name cs else .error (.blaming .noName (c :: cs))

/-- A tree and the text behind it; no text if reading has stopped. -/
abbrev Result := Draft × Option (List Char)

def stop (f : Fault) : Result := (.broken f, none)

def literal (v : Value) (name : String) (cs : List Char) : Result :=
  match expect name.toList cs with
  | .ok rest => (.scalar v rest, some rest)
  | .error r => stop (.both r)

mutual

/-- One value. Every step takes a character, so fuel for each character and one more suffices. -/
def readValue : Nat → List Char → Result
  | 0, _ => stop (.both (.atEnd .endInValue))
  | fuel + 1, cs =>
    match skipSpace cs with
    | [] => stop (.both (.atEnd .endInValue))
    | '"' :: rest =>
      match readString (rest.length + 1) none [] rest with
      | .ok (.ok s, rest) => (.scalar (.text s) rest, some rest)
      | .ok (.error r, rest) => (.flawed r, some rest)
      | .error f => stop f
    | '[' :: rest => readItems fuel true ('[' :: rest) [] rest
    | '{' :: rest => readEntries fuel true ('{' :: rest) [] rest
    | 'n' :: rest => literal .null "ull" rest
    | 't' :: rest => literal (.bool true) "rue" rest
    | 'f' :: rest => literal (.bool false) "alse" rest
    | c :: rest =>
      if c == '-' || c.isDigit then
        match readNumeral (c :: rest) with
        | .ok (s, rest) =>
          match s.value? with
          | some n => (.scalar (.number n) rest, some rest)
          | none => (.flawed (.before .numberTooLarge rest), some rest)
        | .error r => stop (numeralFault r)
      else stop (.both (.blaming .noValue (c :: rest)))

/-- The items of a list behind its bracket, `acc` holding those already read, last first. -/
def readItems : Nat → Bool → List Char → List (List Char × Draft) → List Char → Result
  | 0, _, start, acc, _ => (.list start acc.reverse (.cut (.both (.atEnd .endInList))), none)
  | fuel + 1, first, start, acc, cs =>
    let cutShort (f : Fault) : Result := (.list start acc.reverse (.cut f), none)
    let item (cs : List Char) : Result :=
      match readValue fuel cs with
      | (v, some rest) => readItems fuel false start ((cs, v) :: acc) rest
      | (v, none) => (.list start ((cs, v) :: acc).reverse .absent, none)
    match skipSpace cs with
    | [] => cutShort (.both (.atEnd .endInList))
    | ']' :: rest => (.list start acc.reverse (.closed rest), some rest)
    | c :: rest =>
      if first then item (c :: rest)
      else if c != ',' then cutShort (.both (.blaming .noListEnd (c :: rest)))
      else
        match skipSpace rest with
        | ']' :: rest =>
          cutShort ⟨.blaming .trailingComma (']' :: rest), .blaming .noValue (']' :: rest)⟩
        | rest => item rest

/-- The entries of an object behind its brace. -/
def readEntries : Nat → Bool → List Char → List (Key × Draft) → List Char → Result
  | 0, _, start, acc, _ => (.object start acc.reverse (.cut (.both (.atEnd .endInObject))), none)
  | fuel + 1, first, start, acc, cs =>
    let cutShort (f : Fault) : Result := (.object start acc.reverse (.cut f), none)
    let entry (rest : List Char) : Result :=
      match readString (rest.length + 1) none [] rest with
      | .error f => cutShort f
      | .ok (name, rest) =>
        let left := skipSpace rest
        let key : Key := ⟨name, left⟩
        -- a key without a value still counts as seen
        let noValue (r : Refusal) : Result :=
          (.object start ((key, .broken (.both r)) :: acc).reverse .absent, none)
        match left with
        | [] => noValue (.atEnd .endInObject)
        | ':' :: rest =>
          match readValue fuel rest with
          | (v, some rest) => readEntries fuel false start ((key, v) :: acc) rest
          | (v, none) => (.object start ((key, v) :: acc).reverse .absent, none)
        | rest => noValue (.blaming .noColon rest)
    match skipSpace cs with
    | [] => cutShort (.both (.atEnd .endInObject))
    | '}' :: rest => (.object start acc.reverse (.closed rest), some rest)
    | c :: rest =>
      if first then
        if c == '"' then entry rest else cutShort (.both (.blaming .badKey (c :: rest)))
      else if c != ',' then cutShort (.both (.blaming .noObjectEnd (c :: rest)))
      else
        match skipSpace rest with
        | [] => cutShort ⟨.atEnd .endInValue, .atEnd .endInObject⟩
        | '"' :: rest => entry rest
        | '}' :: rest =>
          cutShort ⟨.blaming .trailingComma ('}' :: rest), .blaming .badKey ('}' :: rest)⟩
        | rest => cutShort (.both (.blaming .badKey rest))

end

/-- The tree of a whole text, and what is left behind it other than space. -/
structure Document where
  root : Draft
  left : List Char

namespace Document

def read (text : String) : Document :=
  let cs := text.toList
  match readValue (cs.length + 1) cs with
  | (root, some rest) => ⟨root, skipSpace rest⟩
  | (root, none) => ⟨root, []⟩

def finish (doc : Document) : Except Refusal Unit :=
  if doc.left.isEmpty then .ok () else .error (.blaming .trailingText doc.left)

end Document

/-- Containers may nest this deep. -/
def maxDepth : Nat := 127

/-- Checks that containers do not nest too deep before one is entered. -/
def enter (depth : Nat) (start : List Char) : Except Refusal Unit :=
  if depth < maxDepth then .ok () else .error (.blaming .tooDeep start)

def skip : Draft → Except Refusal Unit
  | .broken f => .error f.skipped
  | .list _ items e => do skipAll items; ending e
  | .object _ entries e => do skipEntries entries; ending e
  | _ => .ok ()
where
  ending : Ending → Except Refusal Unit
    | .cut f => .error f.skipped
    | _ => .ok ()
  skipAll : List (List Char × Draft) → Except Refusal Unit
    | [] => .ok ()
    | (_, d) :: ds => do skip d; skipAll ds
  skipEntries : List (Key × Draft) → Except Refusal Unit
    | [] => .ok ()
    | (_, d) :: ds => do skip d; skipEntries ds

/-- The end of a container that is looked at. -/
def closing : Ending → Except Refusal Unit
  | .cut f => .error f.read
  | _ => .ok ()

/-- The value of a tree without faults; `depth` counts the containers around it. A repeated key
keeps its first place and its last value. -/
def value (depth : Nat) : Draft → Except Refusal Value
  | .scalar v _ => .ok v
  | .flawed r => .error r
  | .broken f => .error f.read
  | .list start items e => do
    enter depth start
    let vs ← values (depth + 1) items
    closing e
    return .list vs
  | .object start entries e => do
    enter depth start
    let es ← members (depth + 1) entries
    closing e
    return .object (es.foldl (fun acc e => Value.set acc e.1 e.2) [])
where
  values (depth : Nat) : List (List Char × Draft) → Except Refusal (List Value)
    | [] => .ok []
    | (_, d) :: ds => do
      let v ← value depth d
      let vs ← values depth ds
      return v :: vs
  members (depth : Nat) : List (Key × Draft) → Except Refusal (List (String × Value))
    | [] => .ok []
    | (k, d) :: ds => do
      let name ← k.name
      let v ← value depth d
      let es ← members depth ds
      return (name, v) :: es

/-- The refusal of a tree that should be something else. A scalar is read before it is refused, a
container is not. -/
def refuse (expected : String) : Draft → Refusal
  | .scalar v left => .before (.shape (v.wrongType expected)) left
  | .flawed r => r
  | .list start _ _ => .before (.shape ((Value.list []).wrongType expected)) start
  | .object start _ _ => .before (.shape ((Value.object []).wrongType expected)) start
  | .broken f => f.read

end Draft

def Value.read (text : String) : Except ReadError Value :=
  Except.mapError (·.locate text) do
    let doc := Draft.Document.read text
    let v ← doc.root.value 0
    doc.finish
    return v

end TableAudit.Json
