import TableAudit.Config.Basic
import TableAudit.Json.Draft

/-!
# Reading configurations

A configuration is read in the order of its text, so that the first thing wrong decides how it is
refused. Every part may be missing. A structure is an object, or a list of its fields in order; what
an object holds besides is passed over.
-/

namespace TableAudit

open Json (Draft Refusal Value)

namespace Shape

def text (d : Draft) : Except Refusal String :=
  match d with
  | .scalar (.text s) _ => .ok s
  | d => .error (d.refuse "a string")

def optional {α : Type} (read : Draft → Except Refusal α) (d : Draft) :
    Except Refusal (Option α) :=
  match d with
  | .scalar .null _ => .ok none
  | d => (read d).map some

def text? (d : Draft) : Except Refusal (Option String) := optional text d

/-- Any value, of which only those that stand for a truth value count. -/
def flag? (depth : Nat) (d : Draft) : Except Refusal (Option Bool) :=
  (d.value depth).map Value.flag?

def list {α : Type} (item : Nat → Draft → Except Refusal α) (depth : Nat) (d : Draft) :
    Except Refusal (List α) := do
  match d with
  | .list start items ending =>
    Draft.enter depth start
    let values ← items.mapM fun (_, d) => item (depth + 1) d
    Draft.closing ending
    return values
  | d => throw (d.refuse "a sequence")

/-- How a structure takes one of its fields, at a given depth. -/
abbrev Setter (σ : Type) := Nat → σ → String → Draft → Except Refusal σ

/-- What is said of a field that is there twice. -/
def duplicate (name : String) : Json.Flaw := .shape s!"duplicate field `{name}`"

/-- Takes the entries of an object one by one; `seen` are the fields taken so far. -/
def takeEntries {σ : Type} (names : List String) (set : Setter σ) (depth : Nat) :
    List String → σ → List (Json.Key × Draft) → Except Refusal σ
  | _, s, [] => .ok s
  | seen, s, (key, d) :: rest => do
    let name ← key.name
    if names.contains name then
      if seen.contains name then throw (.before (duplicate name) key.left)
      takeEntries names set depth (name :: seen) (← set depth s name d) rest
    else
      d.skip
      takeEntries names set depth seen s rest

/-- The end of a list from which every field has been taken: nothing else may stand there. -/
def closingFull : Json.Ending → Except Refusal Unit
  | .cut f => .error <| if f.read.flaw = .noListEnd then { f.read with flaw := .trailingText }
    else f.read
  | _ => .ok ()

def record {σ : Type} (what : String) (names : List String) (set : Setter σ) (blank : σ)
    (depth : Nat) (d : Draft) : Except Refusal σ := do
  match d with
  | .object start entries ending =>
    Draft.enter depth start
    let s ← takeEntries names set (depth + 1) [] blank entries
    Draft.closing ending
    return s
  | .list start items ending =>
    Draft.enter depth start
    let s ← (names.zip items).foldlM (fun s (name, _, d) => set (depth + 1) s name d) blank
    match items.drop names.length with
    | (start, _) :: _ => throw (.blaming .trailingText start)
    | [] => if items.length = names.length then closingFull ending else Draft.closing ending
    return s
  | d => throw (d.refuse ("struct " ++ what))

end Shape

namespace Sink

def names : List String := ["path", "type", "delimiter", "header"]

def set : Shape.Setter Sink := fun depth s name d =>
  match name with
  | "path" => (Shape.text? d).map fun v => { s with path := v }
  | "type" => (Shape.text? d).map fun v => { s with type := v }
  | "delimiter" => (Shape.text? d).map fun v => { s with delimiter := v }
  | "header" => (Shape.flag? depth d).map fun v => { s with header := v }
  | _ => .ok s

def read (depth : Nat) (d : Draft) : Except Refusal Sink :=
  Shape.record "SinkConfig" names set blank depth d

end Sink

namespace Input

def names : List String :=
  ["country", "project", "entity", "domain", "sub_domain", "segment", "area", "data_date", "path",
   "type", "delimiter", "header", "valid_data"]

def set : Shape.Setter Input := fun depth i name d =>
  let described (f : Metadata → String → Metadata) : Except Refusal Input :=
    (Shape.text d).map fun v => { i with metadata := f i.metadata v }
  match name with
  | "country" => described fun m v => { m with country := v }
  | "project" => described fun m v => { m with project := v }
  | "entity" => described fun m v => { m with entity := v }
  | "domain" => described fun m v => { m with domain := v }
  | "sub_domain" => described fun m v => { m with subDomain := v }
  | "segment" => described fun m v => { m with segment := v }
  | "area" => described fun m v => { m with area := v }
  | "data_date" => described fun m v => { m with dataDate := v }
  | "path" => (Shape.text? d).map fun v => { i with path := v }
  | "type" => (Shape.text? d).map fun v => { i with type := v }
  | "delimiter" => (Shape.text? d).map fun v => { i with delimiter := v }
  | "header" => (Shape.flag? depth d).map fun v => { i with header := v }
  | "valid_data" => (Shape.flag? depth d).map fun v => { i with validData := v }
  | _ => .ok i

def read (depth : Nat) (d : Draft) : Except Refusal Input :=
  Shape.record "InputConfig" names set blank depth d

end Input

namespace CleanCopy

/-- The fields of the key, and whatever else the object holds, as values. -/
structure Parts where
  fields : Option (List String)
  others : List (String × Value)

def takeParts (depth : Nat) : Parts → List (Json.Key × Draft) → Except Refusal Parts
  | p, [] => .ok p
  | p, (key, d) :: rest => do
    let name ← key.name
    if name == "fields" then
      if p.fields.isSome then throw (.before (Shape.duplicate name) key.left)
      let fields ← Shape.list (fun _ d => Shape.text d) depth d
      takeParts depth { p with fields := some fields } rest
    else
      let v ← d.value depth
      takeParts depth { p with others := p.others ++ [(name, v)] } rest

def optionalText (v : Value) : Except Json.Flaw (Option String) :=
  match v with
  | .null => .ok none
  | .text s => .ok (some s)
  | v => .error (.shape (v.wrongType "a string"))

/-- The sink among the other entries, which have all been read by then. -/
def sinkOf : List String → Sink → List (String × Value) → Except Json.Flaw Sink
  | _, s, [] => .ok s
  | seen, s, (key, v) :: rest => do
    if !Sink.names.contains key then sinkOf seen s rest
    else
      if seen.contains key then throw (Shape.duplicate key)
      let s ← match key with
        | "path" => (optionalText v).map fun v => { s with path := v }
        | "type" => (optionalText v).map fun v => { s with type := v }
        | "delimiter" => (optionalText v).map fun v => { s with delimiter := v }
        | _ => .ok { s with header := v.flag? }
      sinkOf (key :: seen) s rest

/-- The clean copy shares one object with its sink, so it cannot be a list. What is wrong with the
sink shows behind the object. -/
def read (depth : Nat) (d : Draft) : Except Refusal CleanCopy := do
  match d with
  | .object start entries ending =>
    Draft.enter depth start
    let parts ← takeParts (depth + 1) ⟨none, []⟩ entries
    Draft.closing ending
    let sink ← (sinkOf [] .blank parts.others).mapError fun flaw => .before flaw ending.left
    return ⟨parts.fields.getD [], sink⟩
  | d => throw (d.refuse "struct DataConfig")

end CleanCopy

namespace Config

def names : List String := ["input", "output", "error", "filter", "data", "rules"]

/-- The records by code. A code that is repeated keeps its first place and its last record. -/
def readRules (depth : Nat) (d : Draft) : Except Refusal (List (String × Value)) := do
  match d with
  | .object .. =>
    match ← d.value depth with
    | .object entries => return entries
    | _ => throw (d.refuse "a map")
  | d => throw (d.refuse "a map")

def set : Shape.Setter Config := fun depth c name d =>
  match name with
  | "input" => (Input.read depth d).map fun v => { c with input := v }
  | "output" => (Shape.optional (Sink.read depth) d).map fun v => { c with output := v }
  | "error" => (Shape.optional (Sink.read depth) d).map fun v => { c with error := v }
  | "filter" => (Shape.list (fun n d => d.value n) depth d).map fun v => { c with filter := v }
  | "data" => (Shape.optional (CleanCopy.read depth) d).map fun v => { c with data := v }
  | "rules" => (readRules depth d).map fun v => { c with rules := v }
  | _ => .ok c

/-- The configuration that a JSON text holds. -/
def read (text : String) : Except Json.ReadError Config :=
  Except.mapError (·.locate text) do
    let doc := Draft.Document.read text
    let c ← Shape.record "AuditConfig" names set blank 0 doc.root
    doc.finish
    return c

end Config

end TableAudit
