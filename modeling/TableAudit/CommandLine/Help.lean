import TableAudit.CommandLine.Grammar

/-!
# Help

What is printed about the program and its commands: how they are called, and their commands,
arguments and options. The long form gives every option lines of its own.
-/

namespace TableAudit.CommandLine

/-- Help on a scope. Only the program itself has two forms of it. -/
structure HelpPage where
  scope : Scope
  long : Bool
deriving DecidableEq, Repr

def spaces (n : Nat) : String := String.ofList (List.replicate n ' ')

/-- Entries and what they mean in two columns. -/
def columns (entries : List (String × String)) : List String :=
  let width := (entries.map (·.1.length)).foldl max 0
  entries.map fun (entry, meaning) =>
    "  " ++ entry ++ spaces (width - entry.length) ++ "  " ++ meaning

namespace Parameter

/-- An option with its letter, or with the room for one. -/
def entry (p : Parameter) : String :=
  match p.short? with
  | some c => s!"-{c}, " ++ p.shown
  | none => (if p.usage = .position then "" else "    ") ++ p.shown

/-- The default and the values there are, each in brackets. -/
def remarks (p : Parameter) : List String :=
  (p.default?.map fun d => s!"[default: {d}]").toList ++
    if p.choices.isEmpty then [] else ["[possible values: " ++ ", ".intercalate p.choices ++ "]"]

end Parameter

namespace HelpPage

/-- What is said about a parameter; about help itself also where the other form is. -/
def about (h : HelpPage) (p : Parameter) : String :=
  if h.scope = .program ∧ p = .help then
    p.about ++ if h.long then " (see a summary with '-h')" else " (see more with '--help')"
  else p.about

def longEntry (h : HelpPage) (p : Parameter) : List String :=
  let remarks := if p.remarks.isEmpty then [] else "" :: p.remarks
  ("  " ++ p.entry) :: (h.about p :: remarks).map (spaces 10 ++ ·)

def parameterLines (h : HelpPage) (ps : List Parameter) : List String :=
  if h.scope = .program ∧ h.long then [""].intercalate (ps.map h.longEntry)
  else columns (ps.map fun p => (p.entry, " ".intercalate (h.about p :: p.remarks)))

def part (title : String) (lines : List String) : List String :=
  if lines.isEmpty then [] else ["", title] ++ lines

def commandLines (h : HelpPage) : List String :=
  if h.scope = .program then
    columns (Command.all.map (fun c => (c.name, c.about)) ++ [(helpName, helpAbout)])
  else []

def introduction (h : HelpPage) : List String :=
  match h.scope with
  | .program =>
    if h.long then
      ["Check a tabular dataset against a JSON rule configuration.", "",
        "Writes the audit report, the failing rows, the optional clean",
        "dataset and column statistics."]
    else ["Data-quality audit runner - check a dataset against declarative rules"]
  | .command c => [c.about]
  | .help => [helpAbout]

def lines (h : HelpPage) : List String :=
  h.introduction ++ ["", "Usage: " ++ h.scope.fullUsage] ++ part "Commands:" h.commandLines ++
    part "Arguments:" (h.parameterLines h.scope.position?.toList) ++
    part "Options:" (h.parameterLines h.scope.options)

def text (h : HelpPage) : String := String.join (h.lines.map (· ++ "\n"))

end HelpPage

end TableAudit.CommandLine
