import TableAudit.Check.Evaluate
import TableAudit.Proofs.DateGrammar
import TableAudit.Proofs.Keys
import TableAudit.Proofs.Locality
import TableAudit.Proofs.TypedCells

/-!
# Dates written in their formats

The name of a format shows how its dates are written: a run of a letter stands for a number of as
many digits. A date of the years 0 to 9999 that is written so is read back, whatever blanks stand
around it, and no check of the format fails such a text.
-/

namespace TableAudit.Calendar

namespace Moment

def number? (m : Moment) : Char → Option Nat
  | 'y' => some m.date.year.toNat
  | 'M' => some m.date.month
  | 'd' => some m.date.day
  | 'H' => some m.hour
  | 'm' => some m.minute
  | 's' => some m.second
  | _ => none

/-- A run of one letter is written as its number, padded with zeros to the length of the run. Other
characters are written as they are, except for the apostrophes around them. -/
def renderRun (m : Moment) (run : List Char) : List Char :=
  match run.head?.bind m.number? with
  | some n => (padded run.length n).toList
  | none => run.filter (· != '\x27')

/-- A moment as the name of a format shows it. -/
def rendered (m : Moment) (name : String) : String :=
  String.ofList ((name.toList.splitBy (· == ·)).flatMap m.renderRun)

end Moment

private theorem rendered_name (f : Format) (m : Moment) : m.rendered f.name = f.layout.write m := by
  cases f <;> rfl

section Padded

variable {width n : Nat}

theorem length_padded (hwidth : 0 < width) (h : n < 10 ^ width) :
    (padded width n).toList.length = width := by
  have hlength := Nat.toDigits_length 10 n width hwidth h
  rw [padded, String.toList_ofList, List.length_append, List.length_replicate]
  omega

private theorem digitsValue_padded (width n : Nat) :
    Decimal.digitsValue (padded width n).toList = n := by
  rw [padded, String.toList_ofList, Decimal.digitsValue_zeros_append, Decimal.digitsValue_toDigits]

end Padded

namespace Item

variable {item : Item} {m : Moment}

theorem write_of_isNumber (h : item.isNumber = true) :
    item.write m = (padded item.width (item.value m).toNat).toList := by
  cases item <;> first | rfl | cases h

theorem write_ne_nil (h : item.isNumber = true) : item.write m ≠ [] := by
  rw [write_of_isNumber h]
  exact Decimal.padded_ne_nil _ _

theorem isDigit_of_mem_write {c : Char} (h : item.isNumber = true) (hc : c ∈ item.write m) :
    c.isDigit = true := by
  rw [write_of_isNumber h] at hc
  exact Decimal.isDigit_of_mem_padded hc

/-- A number written to its width is a numeral that fits in front of anything. -/
theorem exists_numeral_write (hnumber : item.isNumber = true) (hpos : 0 ≤ item.value m)
    (hlt : item.value m < 10 ^ item.width) :
    ∃ n : Numeral, n.text = item.write m ∧ n.value = item.value m ∧ ∀ rest, item.Fits n rest := by
  have hwrite := write_of_isNumber (m := m) hnumber
  have hwidth : 0 < item.width := by cases item <;> first | decide | cases hnumber
  have hnat : (item.value m).toNat < 10 ^ item.width := by
    rw [Int.toNat_lt hpos]
    exact_mod_cast hlt
  let n : Numeral := .ofDigits (item.write m) (fun _ => isDigit_of_mem_write hnumber)
    (write_ne_nil hnumber)
  refine ⟨n, rfl, ?_, fun rest => fits_of_width hnumber rfl ?_ rest⟩
  · change ((Decimal.digitsValue (item.write m) : Nat) : Int) = item.value m
    rw [hwrite, digitsValue_padded, Int.toNat_of_nonneg hpos]
  · change (item.write m).length = item.width
    rw [hwrite, length_padded hwidth hnat]

end Item

namespace Pattern

variable {p : Pattern} {m : Moment}

/-- A pattern without parts that may be left out, where each stretch of blanks ends at a number. -/
def definite : Pattern → Bool
  | [] => true
  | .fraction :: _ => false
  | .blanks :: items => items.head?.any Item.isNumber && definite items
  | _ :: items => definite items

theorem isDigit_of_head?_write {c : Char} (h : p.head?.any Item.isNumber = true)
    (hc : c ∈ (p.write m).toList.head?) : c.isDigit = true := by
  obtain ⟨item, hitem, hnumber⟩ := (Option.any_eq_true _ _).1 h
  obtain ⟨items, rfl⟩ := List.head?_eq_some_iff.1 hitem
  rw [write, String.toList_ofList, List.flatMap_cons,
    List.head?_append_of_ne_nil _ (Item.write_ne_nil hnumber)] at hc
  exact Item.isDigit_of_mem_write hnumber (List.mem_of_mem_head? hc)

private theorem isDigit_of_getLast?_write {c : Char} (h : p.getLast?.any Item.isNumber = true)
    (hc : c ∈ (p.write m).toList.getLast?) : c.isDigit = true := by
  obtain ⟨item, hitem, hnumber⟩ := (Option.any_eq_true _ _).1 h
  obtain ⟨items, rfl⟩ := List.getLast?_eq_some_iff.1 hitem
  rw [write, String.toList_ofList, List.flatMap_append, List.flatMap_singleton,
    List.getLast?_append_of_ne_nil _ (Item.write_ne_nil hnumber)] at hc
  exact Item.isDigit_of_mem_write hnumber (List.mem_of_mem_getLast? hc)

theorem toList_write_cons (item : Item) (items : Pattern) :
    (Pattern.write (item :: items) m).toList = item.write m ++ (items.write m).toList := by
  simp [write]

theorem definite_of_cons {item : Item} {items : Pattern}
    (h : definite (item :: items) = true) : definite items = true := by
  cases item with
  | blanks => exact (Bool.and_eq_true_iff.1 h).2
  | fraction => cases h
  | year | month | day | hour | minute | second | literal => exact h

private theorem passes_write {item : Item} {items : Pattern} (hnumber : item.isNumber = false)
    (h : definite (item :: items) = true) :
    item.Passes (item.write m) (items.write m).toList := by
  cases item with
  | literal c => exact .literal c _
  | blanks =>
    obtain ⟨hhead, -⟩ := Bool.and_eq_true_iff.1 h
    refine .blanks (List.forall_mem_singleton.2 (by decide)) fun c hc => ?_
    exact Decimal.not_isBlank_of_isDigit (isDigit_of_head?_write hhead hc)
  | fraction => cases h
  | year | month | day | hour | minute | second => cases hnumber

/-- A moment written in a pattern is spelled as the pattern says. -/
theorem exists_spells_write (hdefinite : p.definite = true)
    (hwidth : ∀ item ∈ p.numbers, 0 ≤ item.value m ∧ item.value m < 10 ^ item.width) :
    ∃ ns, p.Spells ns (p.write m).toList ∧ ns.map Numeral.value = p.numbers.map (Item.value m) := by
  induction p with
  | nil => exact ⟨[], by simpa [write] using Spells.nil, rfl⟩
  | cons item items ih =>
    have hitems := definite_of_cons hdefinite
    rw [toList_write_cons]
    cases hnumber : item.isNumber with
    | true =>
      rw [numbers_cons_of_number hnumber] at hwidth ⊢
      obtain ⟨⟨hpos, hlt⟩, hwidth⟩ := List.forall_mem_cons.1 hwidth
      obtain ⟨ns, hns, hvalues⟩ := ih hitems hwidth
      obtain ⟨n, htext, hvalue, hfits⟩ := Item.exists_numeral_write hnumber hpos hlt
      refine ⟨n :: ns, htext ▸ .number (hfits _) hns, ?_⟩
      rw [List.map_cons, List.map_cons, hvalue, hvalues]
    | false =>
      rw [numbers_cons_of_piece hnumber] at hwidth ⊢
      obtain ⟨ns, hns, hvalues⟩ := ih hitems hwidth
      exact ⟨ns, .piece (passes_write hnumber hdefinite) hns, hvalues⟩

end Pattern

namespace Format

/-- The date that a text in a format can tell: the first of its month if the format has no day. -/
def told (f : Format) (d : Date) : Date := if f.precision = .month then { d with day := 1 } else d

private theorem write_pattern (f : Format) (m : Moment) :
    f.layout.write m ++ f.daySuffix = f.pattern.write { m with date := f.told m.date } := by
  cases f with
  | yearMonthDashed | yearMonthPlain =>
    have hday : (padded 2 1).toList = ['0', '1'] := rfl
    rw [← String.toList_inj]
    simp [layout, daySuffix, pattern, separated, told, precision, Pattern.write, Item.write, hday]
  | _ => exact String.append_empty

private theorem trim_rendered (f : Format) (m : Moment) {before after : String}
    (hbefore : ∀ c ∈ before.toList, Text.isBlank c = true)
    (hafter : ∀ c ∈ after.toList, Text.isBlank c = true) :
    Text.trim (before ++ m.rendered f.name ++ after) = f.layout.write m := by
  have hends : f.layout.head?.any Item.isNumber = true ∧
      f.layout.getLast?.any Item.isNumber = true := by
    cases f <;> exact ⟨rfl, rfl⟩
  have hstart : ∀ c ∈ (f.layout.write m).toList.head?, Text.isBlank c = false := fun c hc =>
    Decimal.not_isBlank_of_isDigit (Pattern.isDigit_of_head?_write hends.1 hc)
  have hstop : ∀ c ∈ (f.layout.write m).toList.getLast?, Text.isBlank c = false := fun c hc =>
    Decimal.not_isBlank_of_isDigit (Pattern.isDigit_of_getLast?_write hends.2 hc)
  rw [rendered_name, Text.trim, String.toList_append, String.toList_append,
    Text.stripEnds_append hbefore hafter, Text.stripEnds_eq_self hstart hstop, String.ofList_toList]

variable {f : Format} {m : Moment}

private theorem isValid_told {d : Date} (h : d.isValid = true) : (f.told d).isValid = true := by
  unfold told
  split
  · obtain ⟨hyear, hmonth, hday, hday'⟩ := Date.isValid_iff.1 h
    exact Date.isValid_iff.2 ⟨hyear, hmonth, le_rfl, hday.trans hday'⟩
  · exact h

private theorem year_told (f : Format) (d : Date) : (f.told d).year = d.year := by
  unfold told
  split <;> rfl

/-- All numbers of a date of the years 0 to 9999 have room in their widths. -/
theorem width_of_isValid (hvalid : m.date.isValid = true)
    (hyear : 0 ≤ m.date.year ∧ m.date.year ≤ 9999) (hclock : f.hasTime = true → m.OnClock) :
    ∀ item ∈ f.pattern.numbers, 0 ≤ item.value m ∧ item.value m < 10 ^ item.width := by
  intro item hitem
  have hallowed := (allowed_iff hvalid).2 hclock item hitem
  cases item with
  | year => exact ⟨hyear.1, Int.lt_add_one_of_le hyear.2⟩
  | month | day | hour | minute | second =>
    obtain ⟨hlow, hhigh⟩ := hallowed _ rfl
    exact ⟨by omega, by simp only [Item.width]; omega⟩
  | fraction | blanks | literal => cases (List.mem_filter.1 hitem).2

private theorem readDate_of_trim {text : String} (hvalid : m.date.isValid = true)
    (hyear : 0 ≤ m.date.year ∧ m.date.year ≤ 9999) (hclock : f.hasTime = true → m.OnClock)
    (htrim : Text.trim text = f.layout.write m) : f.readDate text = some (f.told m.date) := by
  let told : Moment := { m with date := f.told m.date }
  have hdefinite : f.pattern.definite = true := by cases f <;> rfl
  have htold : told.date.isValid = true := isValid_told hvalid
  have hclock' : f.hasTime = true → told.OnClock := fun h =>
    ⟨(hclock h).hour, (hclock h).minute, (hclock h).second⟩
  have hwidth := width_of_isValid (m := told) htold (by rwa [year_told]) hclock'
  obtain ⟨ns, hns, hvalues⟩ := Pattern.exists_spells_write hdefinite hwidth
  rw [← write_pattern, ← htrim] at hns
  exact (readDate_iff_of_spells hns).2 ⟨htold, told, rfl, hclock', hvalues.symm⟩

end Format

end TableAudit.Calendar

namespace TableAudit

open Calendar

/-- The check of a date format fails the rows whose text is no date in the format. -/
theorem evaluate_dateFormat {t : Table} {field : String} (h : field ∈ t.names) (f : Format)
    (kind : RuleKind) (ctx : Context) :
    Check.evaluate (.dateFormat f) kind [field] t ctx =
      .ok ⟨t.rows.countP fun row => (t.fields.cell row field).isSome,
        t.rows.map fun row => ((t.fields.cell row field).map Cell.toText).any
          fun text => (f.readDate text).isNone⟩ := by
  obtain ⟨i, hfind, hcell⟩ := exists_findColumn h
  have hjudged : Check.evaluate (.dateFormat f) kind [field] t ctx =
      RowCheck.judge {
        tested := fun row => (row.text? i).isSome
        fails := fun row => (row.text? i).any fun text => (f.readDate text).isNone } t.rows := by
    simp only [Check.evaluate, firstField, List.headD_cons, RowCheck.dateFormat, hfind]
    rfl
  rw [hjudged, RowCheck.judge_eq, if_neg (by simp)]
  simp only [hcell, Option.isSome_map, Except.ok.injEq, Finding.mk.injEq, true_and]
  apply List.map_congr_left
  intro row _
  cases hc : t.fields.cell row field <;> simp [RowCheck.rejects, hc]

/-- A date of the years 0 to 9999 that is written as the name of a format shows it, with any blanks
around, is read back, up to the day if the format has none; and a check of the format can be
evaluated wherever its field is a column and passes every row with such a text. -/
theorem readDate_rendered (f : Format) {m : Moment} (hvalid : m.date.isValid = true)
    (hyear : 0 ≤ m.date.year ∧ m.date.year ≤ 9999) (hclock : f.hasTime = true → m.OnClock)
    {before after : String} (hbefore : ∀ c ∈ before.toList, Text.isBlank c = true)
    (hafter : ∀ c ∈ after.toList, Text.isBlank c = true) :
    f.readDate (before ++ m.rendered f.name ++ after) = some (f.told m.date) ∧
      ∀ (t : Table) (field : String) (kind : RuleKind) (ctx : Context), field ∈ t.names →
        ∃ finding, Check.evaluate (.dateFormat f) kind [field] t ctx = .ok finding ∧
          ∀ (k : Nat) (row : Row), t.rows[k]? = some row →
            (t.fields.cell row field).map Cell.toText =
                some (before ++ m.rendered f.name ++ after) →
              finding.failed[k]? = some false := by
  have hread := Format.readDate_of_trim hvalid hyear hclock (f.trim_rendered m hbefore hafter)
  refine ⟨hread, fun t field kind ctx hfield => ⟨_, evaluate_dateFormat hfield f kind ctx, ?_⟩⟩
  intro k row hrow htext
  rw [List.getElem?_map, hrow, Option.map_some, htext, Option.any_some, hread]
  rfl

/-- The leap second at the end of a leap day, with a tabulator in front and a no-break space behind
it. -/
theorem readDate_rendered_leap :
    Format.stampWithT.readDate ("\t" ++ "2024-02-29T23:59:60" ++ "\u00a0") = some ⟨2024, 2, 29⟩ ∧
      ∃ finding, Check.evaluate (.dateFormat .stampWithT) .dateFormatCheck ["at"]
          (.ofTexts "at" [none, some ("\t" ++ "2024-02-29T23:59:60" ++ "\u00a0")])
          ⟨[], ⟨2024, 6, 1⟩⟩ = .ok finding ∧
        finding.failed[1]? = some false := by
  let m : Moment := ⟨⟨2024, 2, 29⟩, 23, 59, 60⟩
  have hrendered : m.rendered Format.stampWithT.name = "2024-02-29T23:59:60" := by decide +kernel
  have hbefore : ∀ c ∈ "\t".toList, Text.isBlank c = true := by simp [Text.isBlank]
  have hafter : ∀ c ∈ "\u00a0".toList, Text.isBlank c = true := by simp [Text.isBlank]
  obtain ⟨hread, hcheck⟩ := readDate_rendered .stampWithT (m := m) (by decide) (by decide)
    (fun _ => ⟨by decide, by decide, by decide⟩) hbefore hafter
  rw [hrendered] at hread hcheck
  obtain ⟨finding, hfinding, hfailed⟩ := hcheck
    (.ofTexts "at" [none, some ("\t" ++ "2024-02-29T23:59:60" ++ "\u00a0")]) "at" .dateFormatCheck
    ⟨[], ⟨2024, 6, 1⟩⟩ (by decide)
  exact ⟨hread, finding, hfinding, hfailed 1 _ rfl rfl⟩

end TableAudit
