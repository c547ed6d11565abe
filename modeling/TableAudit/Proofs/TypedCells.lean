import TableAudit.Proofs.CellViews
import TableAudit.Proofs.NumberTexts

/-!
# Typed columns and their texts

Writing the texts of typed cells down and loading them again leaves the numbers as they were: a
whole number and a finite float are read back from their texts, and truth values, dates and bytes
are numbers neither way. Only a float that is not finite is lost, since no text is read as one. So
whatever looks at views comes to the same on a table and on the table of its texts.
-/

namespace TableAudit

/-- An integer takes up at most a sign and 64 bits; other cells are not limited. -/
def Cell.IsWord : Cell → Prop
  | .int n => n.natAbs < 2 ^ 64
  | _ => True

/-- Whether a cell is no infinite float and no float that is not a number. -/
def Cell.isFinite : Cell → Bool
  | .float x => Decimal.isFinite x
  | _ => true

def Row.spelled (r : Row) : Row := r.map (Option.map fun c => .text c.toText)

/-- The table in which each column is a column of texts. -/
def Table.spelled (t : Table) : Table where
  fields := t.fields.map fun f => ⟨f.name, .text⟩
  rows := t.rows.map Row.spelled
  rect := by
    intro r hr
    obtain ⟨q, hq, rfl⟩ := List.mem_map.1 hr
    simpa [Row.spelled] using t.rect q hq
  distinct := by
    rw [List.map_map]
    exact t.distinct

/-- Two tables give the same texts, numbers, masks and profiles, and the same findings of all rules
that do not ask how a column is stored, or the same errors. -/
structure Table.SameAnswers (t u : Table) : Prop where
  texts : t.texts = u.texts
  numbers : t.numbers = u.numbers
  masks : t.filterMask = u.filterMask
  profiles : profileTable t = profileTable u
  findings : ∀ r : Rule, r.asksStorage = false → ∀ (fields : List String) (ctx : Context),
    r.evaluate fields ctx t = r.evaluate fields ctx u

namespace Decimal

open Text Calendar

section Unreadable

/-- A number does not go on behind its first digits but with a point or with an exponent. -/
theorem readUnsigned_eq_none {ds rest : List Char} {c : Char} (hds : ∀ d ∈ ds, d.isDigit = true)
    (hc : c.isDigit = false) (hpoint : c ≠ '.') (hexponent : ds ≠ [] → c ≠ 'e' ∧ c ≠ 'E') :
    readUnsigned (ds ++ c :: rest) = none := by
  have htake : takeDigits (ds ++ c :: rest) = (ds, c :: rest) :=
    takeDigits_append hds (by simpa using hc)
  unfold readUnsigned
  rw [htake]
  by_cases hne : ds = []
  · simp [hpoint, hne]
  · have hread : readExponent (c :: rest) = none := by simp [readExponent, hexponent hne]
    simp [hpoint, hread]

theorem readFloat_eq_none {s : String} {negative : Bool} {cs : List Char}
    (hsign : takeSign s.toList = (negative, cs)) (hname : readNamed negative cs = none)
    (hread : readUnsigned cs = none) : readFloat s = none := by
  simp only [readFloat, hsign, hname, hread, Option.map_none]

/-- Dates start with a year, with or without a sign, and a dash. -/
structure StartsWithYear (mark year rest : List Char) (s : String) : Prop where
  signed : mark = [] ∨ mark = ['-'] ∨ mark = ['+']
  ne_nil : year ≠ []
  digits : ∀ d ∈ year, d.isDigit = true
  text : s.toList = mark ++ year ++ '-' :: rest

namespace StartsWithYear

variable {mark year rest : List Char} {s : String}

private theorem readFloat_eq_none (h : StartsWithYear mark year rest s) : readFloat s = none := by
  have hread : readUnsigned (year ++ '-' :: rest) = none :=
    readUnsigned_eq_none h.digits rfl (by decide) fun _ => by decide
  obtain ⟨d, ds, hyear⟩ := List.exists_cons_of_ne_nil h.ne_nil
  have hd : d.isDigit = true := h.digits d (hyear ▸ List.mem_cons_self)
  have hsign : ∃ negative, takeSign s.toList = (negative, d :: (ds ++ '-' :: rest)) := by
    rw [h.text, hyear]
    rcases h.signed with rfl | rfl | rfl
    · exact ⟨false, takeSign_of_digit hd⟩
    · exact ⟨true, rfl⟩
    · exact ⟨false, rfl⟩
  obtain ⟨negative, hsign⟩ := hsign
  rw [hyear, List.cons_append] at hread
  exact Decimal.readFloat_eq_none hsign (readNamed_of_digit hd _ _) hread

theorem trim (h : StartsWithYear mark year rest s) :
    ∃ rest', StartsWithYear mark year rest' (Text.trim s) := by
  have hstart : ∀ d ∈ (mark ++ year ++ ['-']).head?, isBlank d = false := by
    rcases h.signed with rfl | rfl | rfl
    · intro d hd
      rw [List.nil_append, List.head?_append_of_ne_nil _ h.ne_nil] at hd
      exact not_isBlank_of_isDigit (h.digits d (List.mem_of_mem_head? hd))
    · simp [isBlank]
    · simp [isBlank]
  obtain ⟨rest', hrest⟩ := exists_stripEnds_append rfl hstart rest
  refine ⟨rest', h.signed, h.ne_nil, h.digits, ?_⟩
  rw [Text.trim, String.toList_ofList, h.text, hrest]

theorem append (h : StartsWithYear mark year rest s) (more : String) :
    StartsWithYear mark year (rest ++ more.toList) (s ++ more) := by
  refine ⟨h.signed, h.ne_nil, h.digits, ?_⟩
  rw [String.toList_append, h.text, List.append_assoc, List.cons_append]

theorem cellNumber_eq_none (h : StartsWithYear mark year rest s) : cellNumber s = none := by
  obtain ⟨rest', htrim⟩ := h.trim
  rw [cellNumber, htrim.readFloat_eq_none]
  rfl

end StartsWithYear

theorem padded_ne_nil (width n : Nat) : (padded width n).toList ≠ [] := by
  simp [padded, Nat.toDigits_ne_nil]

theorem isDigit_of_mem_padded {width n : Nat} {c : Char} (h : c ∈ (padded width n).toList) :
    c.isDigit = true := by
  rw [padded, String.toList_ofList] at h
  rcases List.mem_append.1 h with h | h
  · exact isDigit_of_mem_zeros h
  · exact isDigit_of_mem_toDigits h

private theorem toList_yearText (year : Int) : ∃ mark, (mark = [] ∨ mark = ['-'] ∨ mark = ['+']) ∧
    (yearText year).toList = mark ++ (padded 4 year.natAbs).toList := by
  unfold yearText
  split
  · next h =>
    simp only [Bool.and_eq_true, decide_eq_true_eq] at h
    have hnat : year.toNat = year.natAbs := by omega
    rw [hnat]
    exact ⟨[], .inl rfl, (List.nil_append _).symm⟩
  · split
    · exact ⟨['-'], .inr (.inl rfl), String.toList_append⟩
    · exact ⟨['+'], .inr (.inr rfl), String.toList_append⟩

theorem startsWithYear_date (d : Date) :
    ∃ mark year rest, StartsWithYear mark year rest d.text := by
  obtain ⟨mark, hmark, hyear⟩ := toList_yearText d.year
  refine ⟨mark, (padded 4 d.year.natAbs).toList,
    (padded 2 d.month ++ "-" ++ padded 2 d.day).toList, hmark, padded_ne_nil _ _,
    fun _ => isDigit_of_mem_padded, ?_⟩
  simp [Date.text, hyear]

private theorem cellNumber_date (d : Date) : cellNumber d.text = none := by
  obtain ⟨mark, year, rest, h⟩ := startsWithYear_date d
  exact h.cellNumber_eq_none

private theorem cellNumber_instant (ms : Int) : cellNumber (instantText ms) = none := by
  obtain ⟨mark, year, rest, h⟩ := startsWithYear_date (Moment.ofInstant ms).date
  rw [instantText, Moment.text]
  exact (((h.append _).append _).append _).cellNumber_eq_none

/-- Bytes are written with a letter in front that no number starts with. -/
theorem cellNumber_binary (bytes : List UInt8) : cellNumber (Cell.binaryText bytes) = none := by
  have htext : ∃ rest, (Cell.binaryText bytes).toList = 'b' :: rest := ⟨_, by
    rw [Cell.binaryText, String.append_assoc, String.toList_append]
    rfl⟩
  obtain ⟨rest, htext⟩ := htext
  have htrim : ∃ rest', stripEnds isBlank ([] ++ 'b' :: rest) = [] ++ 'b' :: rest' :=
    exists_stripEnds_append rfl (by simp [isBlank]) rest
  obtain ⟨rest', htrim⟩ := htrim
  have hread : readUnsigned ([] ++ 'b' :: rest') = none :=
    readUnsigned_eq_none (by simp) rfl (by decide) (absurd rfl)
  have hsign : takeSign (Text.trim (Cell.binaryText bytes)).toList = (false, 'b' :: rest') := by
    rw [Text.trim, String.toList_ofList, htext]
    exact congrArg takeSign htrim
  rw [cellNumber, readFloat_eq_none hsign (readNamed_cons (by decide) (by decide) _ _) hread]
  rfl

end Unreadable

end Decimal

namespace Cell

/-- The number that is read from the text of a cell is the number of the cell, if that is finite. -/
theorem cellNumber_toText {c : Cell} (h : c.IsWord) :
    Decimal.cellNumber c.toText = if c.isFinite then c.toNumber? else none := by
  cases c with
  | text s => exact (if_pos rfl).symm
  | bool b => cases b <;> decide +kernel
  | int n => exact Decimal.cellNumber_digits h
  | float x =>
    rw [toText, Decimal.cellNumber_cellText]
    rfl
  | day d => exact Decimal.cellNumber_date _
  | instant ms => exact Decimal.cellNumber_instant ms
  | binary bytes => exact Decimal.cellNumber_binary bytes

end Cell

namespace Row

variable {r : Row}

private theorem text?_spelled (r : Row) : r.spelled.text? = r.text? := by
  funext i
  simp only [text?, spelled, List.getElem?_map]
  rcases r[i]? with _ | _ | c <;> rfl

private theorem number?_spelled (h : ∀ c, some c ∈ r → c.IsWord ∧ c.isFinite = true) :
    r.spelled.number? = r.number? := by
  have hnumber : ∀ c, some c ∈ r → (Cell.text c.toText).toNumber? = c.toNumber? := by
    intro c hc
    rw [Cell.toNumber?, Cell.cellNumber_toText (h c hc).1, if_pos (h c hc).2]
  funext i
  simp only [number?, spelled, List.getElem?_map]
  cases hr : r[i]? with
  | none => rfl
  | some cell =>
    cases cell with
    | none => rfl
    | some c =>
      have hc := hnumber c (List.mem_of_getElem? hr)
      simpa only [Option.map_some, Option.join_some, Option.bind_some] using hc

end Row

namespace Table

variable {t u : Table}

private theorem readsAs_spelled (h : ∀ r ∈ t.rows, ∀ c, some c ∈ r → c.IsWord ∧ c.isFinite = true) :
    t.ReadsAs t.spelled where
  names := by simp [names, spelled, Schema.names]
  rows := by
    have hrows : ∀ r ∈ t.rows, r.ReadsAs r.spelled :=
      fun r hr => ⟨r.text?_spelled.symm, (Row.number?_spelled (h r hr)).symm⟩
    exact List.forall₂_map_right_iff.2 (List.forall₂_same.2 hrows)

theorem ReadsAs.sameAnswers (h : t.ReadsAs u) : t.SameAnswers u where
  texts := funext h.texts_eq
  numbers := funext h.numbers_eq
  masks := funext fun condition => funext (h.filterMask_eq condition)
  profiles := funext (profileTable_of_readsAs h)
  findings _ hr := Rule.evaluate_of_readsAs h hr

end Table

/-- The number of a cell is read from its text, unless it is a float that is not finite; then none
is read. So a table of typed cells without such floats and the table of their texts give the same
answers. -/
theorem typed_cells_as_texts :
    (∀ c : Cell, c.IsWord →
      Decimal.cellNumber c.toText = if c.isFinite then c.toNumber? else none) ∧
    ∀ t : Table, (∀ r ∈ t.rows, ∀ c, some c ∈ r → c.IsWord ∧ c.isFinite = true) →
      t.SameAnswers t.spelled :=
  ⟨fun _ => Cell.cellNumber_toText, fun _ h => (Table.readsAs_spelled h).sameAnswers⟩

def Table.ofFloat (name : String) (x : Float) : Table where
  fields := [⟨name, .float64⟩]
  rows := [[some (.float x)]]
  rect := by simp
  distinct := by simp

/-- A column with the number 1.5 and the column with the text of it. -/
theorem typed_cells_as_texts_fraction :
    (Table.ofFloat "x" (.ofBits 0x3ff8000000000000)).spelled.rows = [[some (.text "1.5")]] ∧
      (Table.ofFloat "x" (.ofBits 0x3ff8000000000000)).spelled.numbers "x" =
        .ok [some (.ofBits 0x3ff8000000000000)] := by
  have hfinite : Decimal.isFinite (.ofBits 0x3ff8000000000000) = true := by decide +kernel
  have hsame := typed_cells_as_texts.2 (.ofFloat "x" (.ofBits 0x3ff8000000000000)) (by
    intro r hr c hc
    cases List.mem_singleton.1 hr
    cases List.mem_singleton.1 hc
    exact ⟨trivial, hfinite⟩)
  have htext : Decimal.cellText (.ofBits 0x3ff8000000000000) = "1.5" := by decide +kernel
  have hrows : (Table.ofFloat "x" (.ofBits 0x3ff8000000000000)).spelled.rows =
      [[some (.text (Decimal.cellText (.ofBits 0x3ff8000000000000)))]] := rfl
  refine ⟨by rw [hrows, htext], ?_⟩
  rw [← hsame.numbers]
  rfl

/-- What is not a number is a number of a typed column, but none of a column of texts. -/
theorem not_a_number_lost :
    (Cell.float (.ofBits 0x7ff8000000000000)).IsWord ∧
      Decimal.cellNumber (Cell.float (.ofBits 0x7ff8000000000000)).toText ≠
        (Cell.float (.ofBits 0x7ff8000000000000)).toNumber? := by
  have hword : (Cell.float (.ofBits 0x7ff8000000000000)).IsWord := trivial
  have hinfinite : ¬ (Cell.float (.ofBits 0x7ff8000000000000)).isFinite = true := by
    decide +kernel
  refine ⟨hword, ?_⟩
  rw [Cell.cellNumber_toText hword, if_neg hinfinite]
  exact (Option.some_ne_none _).symm

end TableAudit
