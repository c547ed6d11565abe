import TableAudit.CommandLine.Grammar

/-!
# Complaints about arguments

Why a command line is not understood, in what scope, and what was wrong with it. A complaint is told
in a line, often with a tip and with how the scope is used.
-/

namespace TableAudit.CommandLine

inductive Tip
  /-- An option of a similar name. -/
  | similarOption (long : String)
  /-- An option of a similar name, but of a command. -/
  | commandOption (command long : String)
  /-- How to give the text as a value. -/
  | escape (text : String)
  /-- A command that stands where only values can stand. -/
  | unescape (text : String)
deriving DecidableEq, Repr

def Tip.text : Tip → String
  | similarOption long => s!"a similar argument exists: '--{long}'"
  | commandOption command long => s!"'{command} --{long}' exists"
  | escape text => s!"to pass '{text}' as a value, use '-- {text}'"
  | unescape text => s!"subcommand '{text}' exists; to use it, remove the '--' before it"

inductive Mistake
  | unexpected (text : String) (tip : Option Tip) (used : List Parameter)
  /-- A value for a switch. -/
  | unexpectedValue (p : Parameter) (value : String) (used : List Parameter)
  /-- A value that is none of the choices. -/
  | invalidValue (p : Parameter) (value : String) (similar : Option String)
  | missingValue (p : Parameter)
  | repeated (p : Parameter)
  | conflict (p q : Parameter) (used : List Parameter)
  /-- A parameter that is required. -/
  | missing (p : Parameter) (used : List Parameter)
  | missingCommand
  | unknownCommand (text : String) (similar : List String)
  /-- A topic that help is asked about in vain. -/
  | unknownTopic (text : String)
deriving DecidableEq, Repr

structure Complaint where
  scope : Scope
  mistake : Mistake
deriving DecidableEq, Repr

def quote (s : String) : String := "'" ++ s ++ "'"

/-- The values there are, on a line of their own. -/
def choiceLines (p : Parameter) : List String :=
  if p.choices.isEmpty then [] else ["  [possible values: " ++ ", ".intercalate p.choices ++ "]"]

namespace Mistake

/-- What is wrong, in a line and the lines that belong to it. -/
def lines : Mistake → List String
  | unexpected text _ _ => [s!"unexpected argument '{text}' found"]
  | unexpectedValue p value _ =>
    [s!"unexpected value '{value}' for '{p.shown}' found; no more were expected"]
  | invalidValue p value _ => s!"invalid value '{value}' for '{p.shown}'" :: choiceLines p
  | missingValue p =>
    s!"a value is required for '{p.shown}' but none was supplied" :: choiceLines p
  | repeated p => [s!"the argument '{p.shown}' cannot be used multiple times"]
  | conflict p q _ => [s!"the argument '{p.shown}' cannot be used with '{q.shown}'"]
  | missing p _ => ["the following required arguments were not provided:", "  " ++ p.shown]
  | missingCommand =>
    [s!"'{programName}' requires a subcommand but one was not provided",
      "  [subcommands: " ++ ", ".intercalate commandNames ++ "]"]
  | unknownCommand text _ | unknownTopic text => [s!"unrecognized subcommand '{text}'"]

def tip? : Mistake → Option String
  | unexpected _ tip _ => tip.map Tip.text
  | invalidValue _ _ similar => similar.map fun s => s!"a similar value exists: '{s}'"
  | unknownCommand _ [similar] => some s!"a similar subcommand exists: '{similar}'"
  | unknownCommand _ (first :: more) =>
    some ("some similar subcommands exist: " ++ ", ".intercalate ((first :: more).map quote))
  | _ => none

/-- The parameters after which the usage is shown; nothing if no usage is shown. -/
def used? : Mistake → Option (List Parameter)
  | unexpected _ _ used | unexpectedValue _ _ used | conflict _ _ used | missing _ used => some used
  | invalidValue .. | missingValue _ => none
  | repeated _ | missingCommand | unknownCommand .. | unknownTopic _ => some []

end Mistake

namespace Complaint

def paragraphs (c : Complaint) : List String :=
  ["error: " ++ "\n".intercalate c.mistake.lines] ++
  (c.mistake.tip?.map fun tip => "  tip: " ++ tip).toList ++
  (c.mistake.used?.map fun used => "Usage: " ++ c.scope.usage used).toList ++
  if .help ∈ c.scope.options then ["For more information, try '--help'."] else []

def text (c : Complaint) : String := "\n\n".intercalate c.paragraphs ++ "\n"

end Complaint

end TableAudit.CommandLine
