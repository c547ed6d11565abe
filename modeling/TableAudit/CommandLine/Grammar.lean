import TableAudit.Log.Line

/-!
# The grammar of the command line

The program has commands; the program and its commands have parameters. Most parameters of the
program may stand behind the command as well.
-/

namespace TableAudit.CommandLine

def programName : String := "dq-audit"

inductive Command
  | run
  | rules
deriving DecidableEq, Repr

namespace Command

def all : List Command := [run, rules]

def name : Command → String
  | run => "run"
  | rules => "rules"

def about : Command → String
  | run => "Run an audit described by a JSON configuration file"
  | rules => "List the supported rule codes"

def ofName? (s : String) : Option Command := all.find? (·.name == s)

end Command

/-- The name of the command that asks for help. -/
def helpName : String := "help"

def helpAbout : String := "Print this message or the help of the given subcommand(s)"

def commandNames : List String := Command.all.map (·.name) ++ [helpName]

inductive Parameter
  | topic
  | config
  | baseDir
  | dryRun
  | verbose
  | quiet
  | color
  | logLevel
  | logFormat
  | logFile
  | help
  | version
deriving DecidableEq, Repr

/-- How a parameter is given: by its place, as a switch, as a switch whose repetitions count, or
with a value. -/
inductive Usage
  | position
  | switch
  | counted
  | valued
deriving DecidableEq, Repr

namespace Parameter

def usage : Parameter → Usage
  | topic | config => .position
  | dryRun | help | version => .switch
  | verbose | quiet => .counted
  | baseDir | color | logLevel | logFormat | logFile => .valued

def takesValue (p : Parameter) : Bool := p.usage = .position || p.usage = .valued

/-- The name behind two dashes; parameters by place have none. -/
def long? : Parameter → Option String
  | topic | config => none
  | baseDir => some "base-dir"
  | dryRun => some "dry-run"
  | verbose => some "verbose"
  | quiet => some "quiet"
  | color => some "color"
  | logLevel => some "log-level"
  | logFormat => some "log-format"
  | logFile => some "log-file"
  | help => some "help"
  | version => some "version"

def short? : Parameter → Option Char
  | verbose => some 'v'
  | quiet => some 'q'
  | help => some 'h'
  | version => some 'V'
  | _ => none

def valueName : Parameter → String
  | topic => "COMMAND"
  | config => "CONFIG"
  | baseDir => "DIR"
  | color => "WHEN"
  | logLevel => "LOG_LEVEL"
  | logFormat => "LOG_FORMAT"
  | logFile => "PATH"
  | dryRun | verbose | quiet | help | version => ""

/-- The values there are; any if none is listed. -/
def choices : Parameter → List String
  | color => ["auto", "always", "never"]
  | logLevel => Log.Level.all.map (·.name)
  | logFormat => ["pretty", "compact", "json"]
  | _ => []

def default? : Parameter → Option String
  | color => some "auto"
  | logFormat => some "pretty"
  | _ => none

def about : Parameter → String
  | topic => "Print help for the subcommand(s)"
  | config => "Path to the JSON run configuration"
  | baseDir => "Directory that relative input and output paths resolve against (default: the " ++
      "configuration file's directory)"
  | dryRun => "Evaluate and print the summary without writing any table"
  | verbose => "Increase logging verbosity"
  | quiet => "Decrease logging verbosity"
  | color => "Controls when to use color"
  | logLevel => "Explicit log level (overrides -v/-q flags)"
  | logFormat => "Log output format (pretty for human, json for machine parsing)"
  | logFile => "Write logs to a file instead of stderr"
  | help => "Print help"
  | version => "Print version"

def shown (p : Parameter) : String :=
  match p.long?, p.usage with
  | none, _ => if p = topic then s!"[{p.valueName}]..." else s!"<{p.valueName}>"
  | some long, .valued => s!"--{long} <{p.valueName}>"
  | some long, .counted => s!"--{long}..."
  | some long, _ => s!"--{long}"

/-- Parameters that may stand before or behind the command. -/
def global : List Parameter := [verbose, quiet, color, logLevel, logFormat, logFile]

end Parameter

/-- Whose parameters are read: the program's, those of a command, or those of the command that asks
for help. -/
inductive Scope
  | program
  | command (c : Command)
  | help
deriving DecidableEq, Repr

namespace Scope

def parameters : Scope → List Parameter
  | program => Parameter.global ++ [.help, .version]
  | command .run => [.config, .baseDir, .dryRun] ++ Parameter.global ++ [.help]
  | command .rules => Parameter.global ++ [.help]
  | help => [.topic]

def options (s : Scope) : List Parameter := s.parameters.filter (·.usage != .position)

def position? (s : Scope) : Option Parameter := s.parameters.find? (·.usage = .position)

def longNames (s : Scope) : List String := s.options.filterMap (·.long?)

def ofLong? (s : Scope) (name : String) : Option Parameter :=
  s.options.find? fun p => p.long? == some name

def ofShort? (s : Scope) (letter : Char) : Option Parameter :=
  s.options.find? fun p => p.short? == some letter

/-- The scope that a word behind the program's name leads to. -/
def ofName? (word : String) : Option Scope :=
  if word = helpName then some help else (Command.ofName? word).map command

def call : Scope → String
  | program => programName
  | command c => programName ++ " " ++ c.name
  | help => programName ++ " " ++ helpName

def operands (s : Scope) : List String :=
  if s = program then ["<COMMAND>"] else (s.position?.map (·.shown)).toList

def fullUsage (s : Scope) : String :=
  let options := if s.options.isEmpty then [] else ["[OPTIONS]"]
  " ".intercalate (s.call :: options ++ s.operands)

/-- How the scope is used, given the parameters that have been used. -/
def usage (s : Scope) (used : List Parameter) : String :=
  if used.isEmpty then s.fullUsage
  else
    let options := (used.filter (·.usage != .position)).eraseDups
    " ".intercalate (s.call :: options.map (·.shown) ++ s.operands)

end Scope

end TableAudit.CommandLine
