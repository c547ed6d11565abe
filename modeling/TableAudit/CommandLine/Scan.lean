import TableAudit.CommandLine.Complaint
import TableAudit.CommandLine.Help
import TableAudit.Text.Similarity

/-!
# Reading arguments

Arguments are read from left to right. An option's value, and a value by place, are looked at only
when the next parameter begins or the arguments end; so what is wrong with a later argument may come
to light first. A command reads all arguments behind it before the program looks at its own.
-/

namespace TableAudit.CommandLine

inductive Stop
  | help (page : HelpPage)
  | version
  /-- Nothing was given at all. -/
  | idle
  | complaint (c : Complaint)
deriving DecidableEq, Repr

inductive Shape
  /-- Two dashes: all that follows are values. -/
  | escape
  | long (name : String) (value : Option String)
  | short (letters : List Char)
  | word
deriving DecidableEq, Repr

namespace Shape

def of (argument : String) : Shape :=
  match argument.toList with
  | ['-', '-'] => escape
  | '-' :: '-' :: rest =>
    match Text.cut (· == '=') rest with
    | some (name, value) => long (String.ofList name) (some (String.ofList value))
    | none => long (String.ofList rest) none
  | ['-'] => word
  | '-' :: letters => short letters
  | _ => word

end Shape

/-- The parameters read so far, each time that they are given, with their values. -/
abbrev Given := List (Parameter × String)

namespace Given

/-- The parameters in the order in which they were last given. -/
def parameters (g : Given) : List Parameter := ((g.map (·.1)).reverse.eraseDups).reverse

def has (g : Given) (p : Parameter) : Bool := g.any (·.1 == p)

def count (g : Given) (p : Parameter) : Nat := g.countP (·.1 == p)

def value? (g : Given) (p : Parameter) : Option String := (g.find? (·.1 == p)).map (·.2)

end Given

/-- How far the arguments of a scope have been read. -/
structure Scan where
  scope : Scope
  given : Given
  /-- The parameter that has been begun, and its value once it is there. -/
  begun : Option (Parameter × Option String)
  /-- Whether the value by place is there. -/
  placed : Bool
  escaped : Bool

namespace Scan

def start (s : Scope) : Scan := ⟨s, [], none, false, false⟩

def complain {α : Type} (r : Scan) (m : Mistake) : Except Stop α := throw (.complaint ⟨r.scope, m⟩)

def isAwaiting (r : Scan) : Bool := r.begun.any (·.2.isNone)

/-- Takes a parameter with its value. It has to be the first of its kind, and the value one that the
parameter can have. -/
def accept (r : Scan) (p : Parameter) (value : String) : Except Stop Scan :=
  if r.given.has p then r.complain (.repeated p)
  else if value = "" then r.complain (.missingValue p)
  else if p.choices.isEmpty || p.choices.contains value then
    .ok { r with given := r.given ++ [(p, value)], begun := none }
  else r.complain (.invalidValue p value (Text.suggestion? value p.choices))

/-- Finishes the parameter that has been begun. -/
def finish (r : Scan) : Except Stop Scan :=
  match r.begun with
  | none => .ok r
  | some (p, some value) => r.accept p value
  | some (p, none) => r.complain (.missingValue p)

/-- Takes a switch; help and the version end the reading. -/
def switch (r : Scan) (p : Parameter) (byLetter : Bool) : Except Stop Scan := do
  let r ← r.finish
  match p with
  | .help => throw (.help ⟨r.scope, !byLetter⟩)
  | .version => throw .version
  | _ =>
    if p.usage = .switch && r.given.has p then r.complain (.repeated p)
    else return { r with given := r.given ++ [(p, "")] }

/-- Begins an option that has a value; a value behind an equals sign belongs to it at once. -/
def beginOption (r : Scan) (p : Parameter) (value : Option String) : Except Stop Scan := do
  let r ← r.finish
  match value with
  | some value => r.accept p value
  | none => return { r with begun := some (p, none) }

/-- What to suggest for a long option that is unknown: a similar option, a similar option of a
command that is named later, or to give it as a value. -/
def tip? (r : Scan) (name : String) (rest : List String) : Option Tip :=
  match Text.suggestion? name r.scope.longNames with
  | some long => some (.similarOption long)
  | none =>
    let commands := if r.scope = .program then
        rest.filterMap fun word => do
          let c ← Command.ofName? word
          let long ← Text.suggestion? name (Scope.command c).longNames
          return (c, long)
      else []
    match commands with
    | (c, long) :: _ => some (.commandOption c.name long)
    | [] => r.scope.position?.map fun _ => .escape ("--" ++ name)

def unknownLong {α : Type} (r : Scan) (name : String) (rest : List String) : Except Stop α :=
  let tip := r.tip? name rest
  let suggested := match tip with
    | some (.similarOption long) => (r.scope.ofLong? long).toList
    | _ => []
  r.complain (.unexpected ("--" ++ name) tip (r.given.parameters ++ suggested))

def takeLong (r : Scan) (name : String) (value : Option String) (rest : List String) :
    Except Stop Scan :=
  match r.scope.ofLong? name with
  | none => r.unknownLong name rest
  | some p =>
    if p.takesValue then r.beginOption p value
    else match value with
    | some value =>
      r.complain (.unexpectedValue p value
        ((r.given.parameters.filter (·.usage != .position)) ++ [p]))
    | none => r.switch p false

def takeLetter (r : Scan) (letter : Char) : Except Stop Scan :=
  match r.scope.ofShort? letter with
  | some p => r.switch p true
  | none =>
    let text := String.ofList ['-', letter]
    r.complain (.unexpected text (r.scope.position?.map fun _ => .escape text) [])

def misplaced (r : Scan) (word : String) : Mistake :=
  if r.scope = .program then
    if r.escaped && (Scope.ofName? word).isSome then .unexpected word (some (.unescape word)) []
    else .unknownCommand word (Text.similarNames word commandNames)
  else .unexpected word none []

def place (r : Scan) (word : String) : Except Stop Scan := do
  match r.scope.position?, r.placed with
  | some p, false =>
    let r ← r.finish
    return { r with begun := some (p, some word), placed := true }
  | _, _ => r.complain (r.misplaced word)

/-- Takes a word: the value of the option that waits for one, or else a value by place. -/
def takeWord (r : Scan) (word : String) : Except Stop Scan :=
  match r.begun with
  | some (p, none) => .ok { r with begun := some (p, some word) }
  | _ => r.place word

/-- Takes an argument; `rest` are those behind it. -/
def take (r : Scan) (argument : String) (rest : List String) : Except Stop Scan :=
  if r.escaped then r.place argument
  else match Shape.of argument with
  | .escape => .ok { r with escaped := true }
  | .long name value => r.takeLong name value rest
  | .short letters => letters.foldlM takeLetter r
  | .word => r.takeWord argument

/-- The scope that an argument of the program leads into. -/
def entered? (r : Scan) (argument : String) : Option Scope :=
  if r.scope = .program && !r.escaped && !r.isAwaiting then Scope.ofName? argument else none

/-- Reads arguments up to their end or to a command; what follows that is left. -/
def run (r : Scan) : List String → Except Stop (Scan × Option (Scope × List String))
  | [] => .ok (r, none)
  | argument :: rest =>
    match r.entered? argument with
    | some s => .ok (r, some (s, rest))
    | none => do (← r.take argument rest).run rest

/-- Two parameters that exclude each other, the one given first in front. -/
def conflict? (g : Given) : Option (Parameter × Parameter) :=
  match g.parameters.filter fun p => p = .verbose || p = .quiet with
  | p :: q :: _ => some (p, q)
  | _ => none

/-- Finishes a scope: what has been given must go together, and nothing may be missing. -/
def close (r : Scan) (entered : Bool) : Except Stop Given := do
  let r ← r.finish
  if r.scope = .program && !entered then
    if r.given.isEmpty then throw .idle else r.complain .missingCommand
  if let some (p, q) := conflict? r.given then
    r.complain (.conflict p q (r.given.parameters.filter (· != q)))
  if let some p := r.scope.position? then
    if !r.given.has p then r.complain (.missing p (r.given.parameters ++ [p]))
  return r.given

end Scan

/-- The scope that the words behind the command for help lead to. -/
def helpScope (s : Scope) : List String → Except Stop Scope
  | [] => .ok s
  | word :: words =>
    match if s = .program then Scope.ofName? word else none with
    | some s => helpScope s words
    | none => throw (.complaint ⟨s, .unknownTopic word⟩)

/-- What the arguments say: the command, what was given before it, and what was given behind it. -/
structure Reading where
  command : Command
  outer : Given
  inner : Given

def Reading.ofArguments (arguments : List String) : Except Stop Reading := do
  let (program, entered) ← (Scan.start .program).run arguments
  match entered with
  | some (.command c, rest) =>
    let (command, _) ← (Scan.start (.command c)).run rest
    let inner ← command.close false
    let outer ← program.close true
    return ⟨c, outer, inner⟩
  | some (_, words) => throw (.help ⟨← helpScope .program words, true⟩)
  | none =>
    let _ ← program.close false
    throw .idle

end TableAudit.CommandLine
