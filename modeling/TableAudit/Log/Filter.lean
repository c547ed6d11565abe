import TableAudit.Log.Event
import TableAudit.Text.Pieces
import TableAudit.Text.Word

/-!
# Log filters

A filter is a list of directives, each of which sets a threshold for the targets that begin with a
given text or for all. The longest such text decides; of two directives for the same text, the later
one. A target without a directive is silent. A directive may name a span instead: it lets through
what is told within that span, whatever the target.
-/

namespace TableAudit.Log

structure Directive where
  /-- How the targets begin; all of them if nothing is given. -/
  target? : Option String
  /-- The span that the directive is about. -/
  span? : Option String
  threshold : Threshold
deriving DecidableEq, Repr

namespace Directive

def covers (d : Directive) (target : String) : Bool :=
  d.target?.all fun start => start.toList.isPrefixOf target.toList

/-- How much of a target the directive determines. -/
def precision (d : Directive) : Nat :=
  match d.target? with
  | some start => start.utf8ByteSize + 1
  | none => 0

def isInitial (c : Char) : Bool := Text.isWordChar c || c == '-' || c == ':'

/-- What is said about the level; everything passes if that is nothing. -/
def thresholdOf? (cs : List Char) : Option Threshold :=
  if cs.isEmpty then some (.upTo .trace) else Threshold.ofText? (String.ofList cs)

/-- A threshold alone, a target alone, or a target, a span in brackets or both, with an equals sign
and a threshold behind. The signs are looked for behind the blanks in front, but what stands between
them is counted off with those blanks. -/
def parse? (s : String) : Option Directive :=
  let cs := s.toList
  let bare := Text.stripEnds Text.isBlank cs
  let n := (bare.takeWhile fun c => c != '=' && c != '[').length
  if !bare.head?.any (fun c => isInitial c || c == '[') then none
  else match bare.drop n with
    | [] =>
      match Threshold.ofText? s with
      | some t => some ⟨none, none, t⟩
      | none => some ⟨some s, none, .upTo .trace⟩
    | '=' :: _ =>
      (thresholdOf? (cs.drop (n + 1))).map (⟨some (String.ofList (cs.take n)), none, ·⟩)
    | _ :: inside =>
      let target? := if n = 0 then none else some (String.ofList (cs.take n))
      let m := (inside.takeWhile fun c => c != ']' && c != '{').length
      let span? := some (String.ofList ((cs.drop (n + 1)).take m))
      match inside.drop m with
      | [']'] => some ⟨target?, span?, .upTo .trace⟩
      | ']' :: '=' :: _ => (thresholdOf? (cs.drop (n + m + 3))).map (⟨target?, span?, ·⟩)
      | _ => none

end Directive

abbrev Filter := List Directive

namespace Filter

/-- The directives between commas; without any, only errors pass. -/
def parse? (s : String) : Option Filter := do
  match ← ((Text.splitAt ',' s).filter (· != "")).mapM Directive.parse? with
  | [] => some [⟨none, none, .upTo .error⟩]
  | directives => some directives

def decisive? (f : Filter) (target : String) : Option Directive :=
  (f.filter fun d => d.span?.isNone && d.covers target).foldl
    (fun best d =>
      match best with
      | some b => if b.precision ≤ d.precision then some d else best
      | none => some d)
    none

/-- Whether the directives for targets let an event pass. -/
def allows (f : Filter) (target : String) (level : Level) : Bool :=
  (f.decisive? target).any (·.threshold.allows level)

/-- The directives about a span that comes from a target. -/
def about (f : Filter) (span target : String) : List Directive :=
  f.filter fun d => d.span? == some span && d.covers target

/-- Whether a span shows. One that a directive is about does, unless the filter as a whole is
stricter than its level. -/
def shows (f : Filter) (span target : String) (level : Level) : Bool :=
  f.allows target level ||
    !(f.about span target).isEmpty && f.any fun d => d.threshold.allows level

/-- Whether an event passes that is told within a span. -/
def allowsWithin (f : Filter) (span target : String) (spanLevel level : Level) : Bool :=
  f.shows span target spanLevel && (f.about span target).any (·.threshold.allows level)

def parts : List String :=
  ["dq_cli", "dq_common", "dq_ingest", "dq_model", "dq_report", "dq_validate"]

/-- One threshold for the program's own parts; of anything else only warnings. -/
def ofThreshold (t : Threshold) : Filter :=
  ⟨none, none, .upTo .warn⟩ :: parts.map fun part => ⟨some part, none, t⟩

end Filter

end TableAudit.Log
