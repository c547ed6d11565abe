import TableAudit.Text.Case

/-!
# Log events

An event has a level, the part of the program that it comes from, a message and fields. A threshold
lets the levels pass that are at least as severe.
-/

namespace TableAudit.Log

inductive Level
  | error
  | warn
  | info
  | debug
  | trace
deriving DecidableEq, Repr

namespace Level

def all : List Level := [error, warn, info, debug, trace]

/-- The place of a level, one for the most severe. -/
def rank : Level → Nat
  | error => 1
  | warn => 2
  | info => 3
  | debug => 4
  | trace => 5

def name : Level → String
  | error => "error"
  | warn => "warn"
  | info => "info"
  | debug => "debug"
  | trace => "trace"

def label : Level → String
  | error => "ERROR"
  | warn => "WARN"
  | info => "INFO"
  | debug => "DEBUG"
  | trace => "TRACE"

end Level

inductive Threshold
  | off
  | upTo (level : Level)
deriving DecidableEq, Repr

namespace Threshold

def allows : Threshold → Level → Bool
  | off, _ => false
  | upTo most, level => level.rank ≤ most.rank

/-- The threshold at a rank: nothing passes at zero or below, everything from five on. -/
def ofRank (n : Int) : Threshold :=
  if n ≤ 0 then off
  else match n.toNat with
  | 1 => upTo .error
  | 2 => upTo .warn
  | 3 => upTo .info
  | 4 => upTo .debug
  | _ => upTo .trace

/-- A threshold by its number or by its name in any case. -/
def ofText? (s : String) : Option Threshold :=
  match s with
  | "0" => some off
  | "1" => some (upTo .error)
  | "2" => some (upTo .warn)
  | "3" => some (upTo .info)
  | "4" => some (upTo .debug)
  | "5" => some (upTo .trace)
  | _ =>
    if Text.sameIgnoringAsciiCase s "off" then some off
    else (Level.all.find? fun l => Text.sameIgnoringAsciiCase s l.name).map upTo

end Threshold

/-- What a field says. -/
inductive FieldValue
  | shown (text : String)
  /-- A text that is put between quotes. -/
  | quoted (text : String)
  | count (n : Nat)
  /-- A measured time; `wide` if it is kept in more digits than a JSON number can be trusted
  with. -/
  | elapsed (wide : Bool)
deriving DecidableEq, Repr

structure Event where
  level : Level
  /-- The part of the program that the event comes from. -/
  target : String
  message : String
  fields : List (String × FieldValue)
  /-- Whether it is told apart as a part of the audit's span. -/
  inSpan : Bool
deriving DecidableEq, Repr

end TableAudit.Log
