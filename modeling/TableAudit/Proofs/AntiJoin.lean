import TableAudit.Proofs.ErrorTable
import TableAudit.Proofs.Marks
import TableAudit.Table.Keys

/-!
# What an anti-join keeps

The key of a row under names is the list of its texts, and there is none if a text is missing. An
anti-join keeps the rows that have no key and those whose key no row of the other table has.
-/

namespace TableAudit

namespace Schema

def key? (s : Schema) (r : Row) (names : List String) : Option (List String) :=
  names.mapM fun name => (s.cell r name).map Cell.toText

variable {s : Schema} {r : Row}

theorem key?_cons (name : String) (names : List String) :
    s.key? r (name :: names) = ((s.cell r name).map Cell.toText).bind fun text =>
      (s.key? r names).map (text :: ·) := by
  unfold key?
  rw [List.mapM_cons]
  cases (s.cell r name).map Cell.toText with
  | none => rfl
  | some text => cases names.mapM fun name => (s.cell r name).map Cell.toText <;> rfl

theorem key?_eq_none {names : List String} :
    s.key? r names = none ↔ ∃ name ∈ names, s.cell r name = none := by
  induction names with
  | nil => simp [key?]
  | cons name names ih =>
    rw [key?_cons]
    cases hc : s.cell r name with
    | none => simp [hc]
    | some cell => simp [hc, ih]

/-- Rows with the same cells under names have the same key. -/
theorem key?_congr {s' : Schema} {r' : Row} {names : List String}
    (h : ∀ name ∈ names, s.cell r name = s'.cell r' name) : s.key? r names = s'.key? r' names := by
  induction names with
  | nil => rfl
  | cons name names ih =>
    have hname := h name List.mem_cons_self
    have hnames := ih fun n hn => h n (List.mem_cons_of_mem _ hn)
    rw [key?_cons, key?_cons, hname, hnames]

theorem cell_of_column {name : String} {i : Nat} (h : s.column name = .ok i) (r : Row) :
    s.cell r name = (r[i]?).join := by
  unfold column at h
  split at h
  · next j hj =>
    cases h
    rw [cell, hj]
    rfl
  · cases h

theorem text?_eq_cell {name : String} {i : Nat} (h : s.column name = .ok i) :
    r.text? i = (s.cell r name).map Cell.toText := by
  rw [cell_of_column h]
  rfl

theorem number?_eq_cell {name : String} {i : Nat} (h : s.column name = .ok i) :
    r.number? i = (s.cell r name).bind Cell.toNumber? := by
  rw [cell_of_column h]
  rfl

def texts (s : Schema) (r : Row) (names : List String) : Key :=
  names.map fun name => (s.cell r name).map Cell.toText

theorem key_eq_texts {names : List String} {is : List Nat} (h : s.columns names = .ok is) :
    r.key is = s.texts r names := by
  induction names generalizing is with
  | nil =>
    cases h
    rfl
  | cons name names ih =>
    unfold columns at h
    rw [List.mapM_cons] at h
    obtain ⟨i, hi, h⟩ := bind_eq_ok.1 h
    obtain ⟨is, his, h⟩ := bind_eq_ok.1 h
    cases h
    have hkey : r.key (i :: is) = r.text? i :: r.key is := rfl
    rw [hkey, text?_eq_cell hi, ih his]
    rfl

private theorem complete?_texts (names : List String) :
    (s.texts r names).complete? = s.key? r names := by
  induction names with
  | nil => rfl
  | cons name names ih =>
    rw [key?_cons, ← ih]
    cases htext : (s.cell r name).map Cell.toText <;> simp [texts, Key.complete?, htext]

theorem complete?_key {names : List String} {is : List Nat} (h : s.columns names = .ok is) :
    Key.complete? (r.key is) = s.key? r names := by
  rw [key_eq_texts h, complete?_texts]

end Schema

namespace Table

def hasPartner (t other : Table) (on otherOn : List String) (r : Row) : Bool :=
  (t.fields.key? r on).any fun k => other.rows.any fun q => other.fields.key? q otherOn == some k

variable {t other kept : Table} {on otherOn : List String} {r : Row}

theorem mem_filter {p : Row → Bool} : r ∈ (t.filter p).rows ↔ r ∈ t.rows ∧ p r = true :=
  List.mem_filter

theorem hasPartner_eq_true :
    t.hasPartner other on otherOn r = true ↔
      ∃ k, t.fields.key? r on = some k ∧
        ∃ q ∈ other.rows, other.fields.key? q otherOn = some k := by
  simp [hasPartner, Option.any_eq_true]

theorem unmatched_eq_ok {marks : List Bool} (h : t.unmatched other on otherOn = .ok marks) :
    marks = t.rows.map fun r => !t.hasPartner other on otherOn r := by
  unfold unmatched at h
  dsimp only at h
  split at h
  · cases h
  obtain ⟨otherKeys, ho, h⟩ := bind_eq_ok.1 h
  obtain ⟨keys, hk, h⟩ := bind_eq_ok.1 h
  obtain ⟨js, hjs, rfl⟩ := map_eq_ok.1 ho
  obtain ⟨is, his, rfl⟩ := map_eq_ok.1 hk
  have hpresent : (other.rows.map (·.key js)).filterMap Key.complete? =
      other.rows.filterMap (other.fields.key? · otherOn) := by
    rw [List.filterMap_map]
    exact congrArg (List.filterMap · other.rows) (funext fun q => Schema.complete?_key hjs)
  rw [← pure_eq_ok.1 h, hpresent, List.map_map]
  apply List.map_congr_left
  intro r _
  simp only [Function.comp_apply, Schema.complete?_key his, hasPartner,
    Std.HashSet.contains_ofList]
  cases t.fields.key? r on with
  | none => rfl
  | some k =>
    rw [Option.any_some, Bool.eq_iff_iff]
    simp

/-- An anti-join filters the rows of the left table by whether they have a partner. -/
theorem antiJoin_eq_ok (h : t.antiJoin other on otherOn = .ok kept) :
    kept = t.filter fun r => !t.hasPartner other on otherOn r := by
  obtain ⟨marks, hm, rfl⟩ := map_eq_ok.1 h
  rw [unmatched_eq_ok hm]
  exact t.select_map _

theorem hasPartner_of_missing (h : ∃ name ∈ on, t.fields.cell r name = none) :
    t.hasPartner other on otherOn r = false := by
  simp only [hasPartner, Schema.key?_eq_none.2 h, Option.any_none]

end Table

end TableAudit
