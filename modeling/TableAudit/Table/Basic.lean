import TableAudit.Table.Cell
import TableAudit.Text.Case

/-!
# Tables

A table is a list of typed, distinctly named fields and a list of rows, each with one cell per
field. A missing cell is `none`.
-/

namespace TableAudit

structure Field where
  name : String
  type : CellType
deriving DecidableEq, Repr

/-- The fields of a table, in order. -/
abbrev Schema := List Field

abbrev Row := List (Option Cell)

structure Table where
  fields : Schema
  rows : List Row
  rect : ∀ r ∈ rows, r.length = fields.length
  distinct : (fields.map Field.name).Nodup

/-- What can go wrong with a table as a whole. -/
inductive TableError
  | missingColumn (name : String)
  | maskLength (expected found : Nat)
  | keyArity (left right : Nat)
  | duplicateColumn (name : String)
  | schemaMismatch
deriving DecidableEq, Repr

namespace TableError

/-- What the error says without the layer that it comes from. -/
def detail : TableError → String
  | missingColumn name => s!"column not found: {name}"
  | maskLength expected found =>
    s!"row mask has {found} entries but the dataset has {expected} rows"
  | keyArity left right => s!"join keys differ in arity: {left} local vs {right} reference"
  | duplicateColumn name =>
    "duplicate: could not create a new DataFrame: column with name '" ++ name ++
      "' has more than one occurrence"
  | schemaMismatch => "schema mismatch"

def message (e : TableError) : String :=
  match e with
  | duplicateColumn _ | schemaMismatch => "polars error: " ++ e.detail
  | _ => e.detail

end TableError

namespace Schema

def names (s : Schema) : List String := s.map Field.name

def index? (s : Schema) (name : String) : Option Nat := s.findIdx? (·.name == name)

def has (s : Schema) (name : String) : Bool := (s.index? name).isSome

theorem index?_eq_none {s : Schema} {name : String} : s.index? name = none ↔ name ∉ s.names := by
  simp [index?, names]

theorem has_eq_true {s : Schema} {name : String} : s.has name = true ↔ name ∈ s.names := by
  rw [has, Option.isSome_iff_ne_none, ne_eq, index?_eq_none, Decidable.not_not]

def column (s : Schema) (name : String) : Except TableError Nat :=
  match s.index? name with
  | some i => .ok i
  | none => .error (.missingColumn name)

/-- The positions of several columns; the first that is missing is the error. -/
def columns (s : Schema) (names : List String) : Except TableError (List Nat) :=
  names.mapM s.column

def typeOf? (s : Schema) (name : String) : Option CellType :=
  (s.find? (·.name == name)).map Field.type

end Schema

/-- The text of the cell at a position; a row has no cell past its end. -/
def Row.text? (r : Row) (i : Nat) : Option String := (r[i]?).join.map Cell.toText

def Row.number? (r : Row) (i : Nat) : Option Float := (r[i]?).join.bind Cell.toNumber?

/-- The elements of a list whose mark is set. -/
def marked {α : Type} (marks : List Bool) (items : List α) : List α :=
  (items.zip marks).filterMap fun (a, m) => if m then some a else none

theorem mem_of_mem_marked {α : Type} {marks : List Bool} {items : List α} {a : α}
    (h : a ∈ marked marks items) : a ∈ items := by
  simp only [marked, List.mem_filterMap] at h
  obtain ⟨⟨b, m⟩, hmem, hb⟩ := h
  cases m with
  | false => simp at hb
  | true =>
    simp only [if_true, Option.some.injEq] at hb
    exact hb ▸ (List.of_mem_zip hmem).1

theorem length_marked {α : Type} (marks : List Bool) (items : List α)
    (h : marks.length = items.length) : (marked marks items).length = marks.count true := by
  induction items generalizing marks with
  | nil => simp_all [marked]
  | cons a items ih =>
    cases marks with
    | nil => simp at h
    | cons m marks =>
      have hl : marks.length = items.length := by simpa using h
      cases m <;> simpa [marked] using ih marks hl

/-- The first name that occurs again later. -/
def firstRepeated : List String → Option String
  | [] => none
  | n :: ns => if ns.contains n then some n else firstRepeated ns

private theorem nodup_of_firstRepeated {names : List String} (h : firstRepeated names = none) :
    names.Nodup := by
  induction names with
  | nil => simp
  | cons n ns ih =>
    by_cases hn : n ∈ ns
    · simp [firstRepeated, hn] at h
    · exact List.nodup_cons.2 ⟨hn, ih (by simpa [firstRepeated, hn] using h)⟩

private theorem firstRepeated_eq_none {names : List String} (h : names.Nodup) :
    firstRepeated names = none := by
  induction names with
  | nil => rfl
  | cons n ns ih =>
    obtain ⟨hn, hns⟩ := List.nodup_cons.1 h
    simp [firstRepeated, hn, ih hns]

/-- The first name that has occurred before, among `seen` or in front of it. -/
def firstRecurring (seen : List String) : List String → Option String
  | [] => none
  | n :: ns => if seen.contains n then some n else firstRecurring (n :: seen) ns

private theorem nodup_of_firstRecurring {seen names : List String} (hs : seen.Nodup)
    (h : firstRecurring seen names = none) : (names.reverse ++ seen).Nodup := by
  induction names generalizing seen with
  | nil => simpa using hs
  | cons n ns ih =>
    by_cases hn : n ∈ seen
    · simp [firstRecurring, hn] at h
    · have := ih (List.nodup_cons.2 ⟨hn, hs⟩) (by simpa [firstRecurring, hn] using h)
      simpa using this

private theorem firstRecurring_eq_none {seen names : List String}
    (h : (names.reverse ++ seen).Nodup) :
    firstRecurring seen names = none := by
  induction names generalizing seen with
  | nil => rfl
  | cons n ns ih =>
    have hmove : (ns.reverse ++ n :: seen).Nodup := by simpa using h
    have hn : n ∉ seen := (List.nodup_cons.1 (List.nodup_append.1 hmove).2.1).1
    simp [firstRecurring, hn, ih hmove]

/-- The name on account of which names are refused as not distinct. Up to four names are compared
one with all that follow; more are gone through once. -/
def repeatedName (names : List String) : Option String :=
  if names.length ≤ 4 then firstRepeated names else firstRecurring [] names

private theorem nodup_of_repeatedName {names : List String} (h : repeatedName names = none) :
    names.Nodup := by
  unfold repeatedName at h
  split at h
  · exact nodup_of_firstRepeated h
  · have hr : names.reverse.Nodup := by simpa using nodup_of_firstRecurring List.nodup_nil h
    exact (List.reverse_perm names).nodup hr

theorem repeatedName_eq_none {names : List String} (h : names.Nodup) :
    repeatedName names = none := by
  unfold repeatedName
  split
  · exact firstRepeated_eq_none h
  · apply firstRecurring_eq_none
    rw [List.append_nil]
    exact (List.reverse_perm names).symm.nodup h

namespace Table

def names (t : Table) : List String := t.fields.names

def height (t : Table) : Nat := t.rows.length

def empty : Table := ⟨[], [], by simp, by simp⟩

/-- The table with these columns, as high as the first of them. -/
def ofColumns (columns : List (Field × List (Option Cell))) : Except TableError Table :=
  let fields := columns.map (·.1)
  match h : repeatedName (fields.map Field.name) with
  | some name => .error (.duplicateColumn name)
  | none =>
    let cells := columns.map fun c => c.2.toArray
    let height := (cells.head?.map Array.size).getD 0
    .ok {
      fields
      rows := (List.range height).map fun i => cells.map fun column => (column[i]?).join
      rect := by simp [fields, cells]
      distinct := nodup_of_repeatedName h }

theorem ofColumns_eq_ok {columns : List (Field × List (Option Cell))}
    (h : ((columns.map (·.1)).map Field.name).Nodup) :
    ∃ t, ofColumns columns = .ok t ∧ t.fields = columns.map (·.1) ∧
      t.rows = (List.range ((columns.head?.map (·.2.length)).getD 0)).map fun i =>
        columns.map fun c => (c.2[i]?).join := by
  unfold ofColumns
  dsimp only
  split
  · next name hname =>
    rw [repeatedName_eq_none h] at hname
    cases hname
  · refine ⟨_, rfl, rfl, ?_⟩
    simp [Function.comp_def]

def texts (t : Table) (name : String) : Except TableError (List (Option String)) :=
  (t.fields.column name).map fun i => t.rows.map (·.text? i)

/-- A column as numbers; what is no number counts as missing. -/
def numbers (t : Table) (name : String) : Except TableError (List (Option Float)) :=
  (t.fields.column name).map fun i => t.rows.map (·.number? i)

def filter (t : Table) (p : Row → Bool) : Table :=
  { t with
    rows := t.rows.filter p
    rect := fun r hr => t.rect r (List.mem_filter.1 hr).1 }

/-- The rows whose mark is set, whatever the number of marks. -/
def select (t : Table) (marks : List Bool) : Table :=
  { t with
    rows := marked marks t.rows
    rect := fun r hr => t.rect r (mem_of_mem_marked hr) }

/-- The rows whose mark is set; there has to be a mark for each row. -/
def keep (t : Table) (marks : List Bool) : Except TableError Table :=
  if marks.length = t.height then .ok (t.select marks)
  else .error (.maskLength t.height marks.length)

def cleared (t : Table) : Table := { t with rows := [], rect := by simp }

theorem names_set_self {fields : List Field} {i : Nat} {name : String}
    (h : fields.findIdx? (·.name == name) = some i) (type : CellType) :
    (fields.set i ⟨name, type⟩).map Field.name = fields.map Field.name := by
  obtain ⟨hi, hname, _⟩ := List.findIdx?_eq_some_iff_getElem.1 h
  rw [List.map_set]
  apply List.ext_getElem (by simp)
  intro j h₁ h₂
  rw [List.getElem_set]
  split
  · next he =>
    subst he
    simpa using (eq_of_beq hname).symm
  · rfl

/-- Puts the same text into every row under a name: in place of the column of that name, or as a
last column. -/
def withConstant (t : Table) (name text : String) : Table :=
  let cell := some (Cell.text text)
  match h : t.fields.index? name with
  | some i =>
    { fields := t.fields.set i ⟨name, .text⟩
      rows := t.rows.map (·.set i cell)
      rect := by
        intro r hr
        obtain ⟨s, hs, rfl⟩ := List.mem_map.1 hr
        simpa using t.rect s hs
      distinct := by
        rw [names_set_self h]
        exact t.distinct }
  | none =>
    { fields := t.fields ++ [⟨name, .text⟩]
      rows := t.rows.map (· ++ [cell])
      rect := by
        intro r hr
        obtain ⟨s, hs, rfl⟩ := List.mem_map.1 hr
        simpa using t.rect s hs
      distinct := by
        have hn : ∀ f ∈ t.fields, f.name ≠ name := by
          intro f hf he
          have := List.findIdx?_eq_none_iff.1 h f hf
          simp [he] at this
        rw [List.map_append, List.nodup_append]
        refine ⟨t.distinct, by simp, ?_⟩
        intro a ha b hb
        obtain ⟨f, hf, rfl⟩ := List.mem_map.1 ha
        simp only [List.map_cons, List.map_nil, List.mem_singleton] at hb
        exact hb ▸ hn f hf }

/-- The rows of one table below those of another with the same fields. -/
def stack (t u : Table) : Except TableError Table :=
  if h : t.fields = u.fields then
    .ok { t with
      rows := t.rows ++ u.rows
      rect := by
        intro r hr
        rcases List.mem_append.1 hr with hr | hr
        · exact t.rect r hr
        · exact h ▸ u.rect r hr }
  else .error .schemaMismatch

end Table

/-- The listed name with the same capital form. -/
def lookupName (names : List String) (name : String) : Option String :=
  names.reverse.find? fun n => Text.upper n == Text.upper name

def countNames (names : List String) : Nat := (names.map Text.upper).eraseDups.length

end TableAudit
