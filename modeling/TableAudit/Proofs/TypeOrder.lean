import Mathlib.Logic.Relation
import TableAudit.Check.Evaluate
import TableAudit.Proofs.NumberTexts
import TableAudit.Proofs.StorageTypes

/-!
# The order of types

A type is wider than another one if every text that spells a value of the other spells one of it.
Integers have bounds, and those of a wider integer type take in those of a narrower one. The digits
of an integer, behind the same sign, are also those of a number, and no integer of 64 bits is beyond
the finite numbers. A date is as good as a time, and any text is a string.
-/

namespace TableAudit

/-- The types next to each other in their order. -/
inductive ValueType.Narrower : ValueType → ValueType → Prop
  | integer : Narrower .integer .long
  | double : Narrower .long .double
  | decimal : Narrower .long .decimal
  | date : Narrower .date .timestamp
  | string (type : ValueType) : Narrower type .string

namespace Decimal

variable {low high : Int} {s : String} {n : Int}

/-- An integer between bounds is a sign, which may be missing, and digits; their value is within the
bounds. -/
theorem readInt_eq_some (h : readInt low high s = some n) :
    ∃ negative ds, takeSign s.toList = (negative, ds) ∧ IsNumeral ds [] ∧
      n = (if negative then -(digitsValue ds : Int) else digitsValue ds) ∧ low ≤ n ∧ n ≤ high := by
  cases hsign : takeSign s.toList with
  | mk negative ds =>
    simp only [readInt, hsign] at h
    generalize hvalue : (if negative then -(digitsValue ds : Int) else digitsValue ds) = value at h
    split at h
    · cases h
    · next hdigits =>
      obtain ⟨hne, hall⟩ : ds ≠ [] ∧ ∀ c ∈ ds, c.isDigit = true := by simpa using hdigits
      split at h
      · next hbounds =>
        obtain rfl := Option.some.inj h
        obtain ⟨hle, hle'⟩ : low ≤ value ∧ value ≤ high := by simpa using hbounds
        exact ⟨negative, ds, rfl, ⟨hne, hall, by simp⟩, hvalue.symm, hle, hle'⟩
      · cases h

private theorem readInt_of_bounds {low' high' : Int} (hlow : low' ≤ low) (hhigh : high ≤ high')
    (h : readInt low high s = some n) : readInt low' high' s = some n := by
  obtain ⟨negative, ds, hsign, hds, hn, hle, hle'⟩ := readInt_eq_some h
  have hdigits : (ds.isEmpty || !ds.all Char.isDigit) = false := by
    simpa using And.intro hds.ne_nil hds.whole
  have hbounds : (low' ≤ n && n ≤ high') = true := by
    simpa using And.intro (hlow.trans hle) (hle'.trans hhigh)
  simp only [readInt, hsign, hdigits, ← hn]
  exact if_pos hbounds

/-- Digits behind a sign, which may be missing, read as a number. -/
theorem readFloat_of_digits {negative : Bool} {ds : List Char}
    (hsign : takeSign s.toList = (negative, ds)) (h : IsNumeral ds []) :
    readFloat s = some (ofScaled negative (digitsValue ds) 0) := by
  have hread := readUnsigned_numeral h (rfl : readExponent [] = some 0)
  obtain ⟨c, cs, hcs, hc⟩ := h.exists_cons
  have hds : numeral ds [] = ds := if_pos rfl
  simp only [hds, List.append_nil] at hread hcs
  subst hcs
  simp only [readFloat, hsign, readNamed_of_digit hc, hread]
  rfl

theorem isFinite_of_readInt (hlow : -0x8000000000000000 ≤ low) (hhigh : high ≤ 0x7fffffffffffffff)
    (h : readInt low high s = some n) : (readFloat s).any isFinite = true := by
  obtain ⟨negative, ds, hsign, hds, hn, hle, hle'⟩ := readInt_eq_some h
  have hword : digitsValue ds < 2 ^ 64 := by
    cases negative <;> simp at hn <;> omega
  rw [readFloat_of_digits hsign hds, Option.any_some, ofScaled_zero_exponent hword]
  exact isFinite_signed (magnitudeBits_lt hword) negative

end Decimal

namespace RowCheck

open Decimal

variable {narrow wide : ValueType}

private theorem spells_of_narrower (h : narrow.Narrower wide) {text : String}
    (hs : spells narrow text = true) : spells wide text = true := by
  cases h with
  | integer =>
    obtain ⟨n, hn⟩ := Option.isSome_iff_exists.1 hs
    exact Option.isSome_iff_exists.2 ⟨n, readInt_of_bounds (by decide) (by decide) hn⟩
  | double =>
    obtain ⟨n, hn⟩ := Option.isSome_iff_exists.1 hs
    exact isFinite_of_readInt (by decide) (by decide) hn
  | decimal =>
    obtain ⟨n, hn⟩ := Option.isSome_iff_exists.1 hs
    exact isFinite_of_readInt (by decide) (by decide) hn
  | date =>
    have hday : (dayPattern.read text).isSome = true := hs
    simp only [spells, hday, Bool.true_or]
  | string type => rfl

/-- What spells a value of a type spells one of each wider type, over any number of steps. -/
theorem spells_of_wider (h : Relation.ReflTransGen ValueType.Narrower narrow wide) {text : String}
    (hs : spells narrow text = true) : spells wide text = true := by
  induction h with
  | refl => exact hs
  | tail _ hstep ih => exact spells_of_narrower hstep ih

def failsType (s : Schema) (field : String) (type : ValueType) (row : Row) : Bool :=
  ((s.cell row field).map Cell.toText).any fun text => !spells type (Text.trim text)

theorem evaluate_type {t : Table} {field : String} (h : field ∈ t.names) (type : ValueType)
    (kind : RuleKind) (ctx : Context) :
    Check.evaluate (.type type) kind [field] t ctx =
      .ok ⟨t.height, t.rows.map (failsType t.fields field type)⟩ := by
  simp only [Check.evaluate, firstField, List.headD_cons, typed]
  exact judge_textCheck h _

theorem evaluate_type_of_missing {t : Table} {field : String} (h : field ∉ t.names)
    (type : ValueType) (kind : RuleKind) (ctx : Context) :
    Check.evaluate (.type type) kind [field] t ctx = .error (.table (.missingColumn field)) := by
  have hfind : findColumn t.fields field = .error (.table (.missingColumn field)) := by
    rw [findColumn, Schema.column, Schema.index?_eq_none.2 h]
    rfl
  simp only [Check.evaluate, firstField, List.headD_cons, typed, textCheck, hfind]
  rfl

private theorem failsType_of_wider (h : Relation.ReflTransGen ValueType.Narrower narrow wide)
    {s : Schema}
    {field : String} {row : Row} (hfails : failsType s field wide row = true) :
    failsType s field narrow row = true := by
  obtain ⟨text, htext, hwide⟩ := (Option.any_eq_true _ _).1 hfails
  refine (Option.any_eq_true _ _).2 ⟨text, htext, ?_⟩
  cases hnarrow : spells narrow (Text.trim text) with
  | false => rfl
  | true =>
    rw [spells_of_wider h hnarrow] at hwide
    cases hwide

end RowCheck

/-- What spells a value of a type spells one of each wider type, and any text is a string. So a
check for the wider type fails no row that a check for the narrower one passes, or neither finds the
column. -/
theorem rows_of_wider_type {narrow wide : ValueType}
    (h : Relation.ReflTransGen ValueType.Narrower narrow wide) :
    (∀ text, RowCheck.spells narrow text = true → RowCheck.spells wide text = true) ∧
    (∀ text, RowCheck.spells .string text = true) ∧
    ∀ (t : Table) (field : String) (kind : RuleKind) (ctx : Context),
      (field ∉ t.names →
        Check.evaluate (.type narrow) kind [field] t ctx = .error (.table (.missingColumn field)) ∧
        Check.evaluate (.type wide) kind [field] t ctx = .error (.table (.missingColumn field))) ∧
      (field ∈ t.names → ∃ f g, Check.evaluate (.type narrow) kind [field] t ctx = .ok f ∧
        Check.evaluate (.type wide) kind [field] t ctx = .ok g ∧
        f.tested = t.height ∧ g.tested = t.height ∧
        f.failed.length = t.height ∧ g.failed.length = t.height ∧
        ∀ i : Nat, g.failed[i]? = some true → f.failed[i]? = some true) := by
  refine ⟨fun text => RowCheck.spells_of_wider h, fun text => rfl,
    fun t field kind ctx => ⟨fun hfield => ?_, fun hfield => ?_⟩⟩
  · exact ⟨RowCheck.evaluate_type_of_missing hfield narrow kind ctx,
      RowCheck.evaluate_type_of_missing hfield wide kind ctx⟩
  · refine ⟨_, _, RowCheck.evaluate_type hfield narrow kind ctx,
      RowCheck.evaluate_type hfield wide kind ctx, rfl, rfl, List.length_map _, List.length_map _,
      fun i hi => ?_⟩
    dsimp only at hi ⊢
    rw [List.getElem?_map, Option.map_eq_some_iff] at hi ⊢
    obtain ⟨row, hrow, hwide⟩ := hi
    exact ⟨row, hrow, RowCheck.failsType_of_wider h hwide⟩

/-- Among quantities, the text that is no number is no integer either. -/
theorem rows_of_wider_type_quantities :
    Relation.ReflTransGen ValueType.Narrower .integer .double ∧
      (∀ text, RowCheck.spells .integer text = true → RowCheck.spells .double text = true) ∧
      ∃ f g, Check.evaluate (.type .integer) .typeCheck ["quantity"]
          (.ofTexts "quantity" [some "+007", some "7 kg", none]) ⟨[], ⟨2024, 6, 1⟩⟩ = .ok f ∧
        Check.evaluate (.type .double) .typeCheck ["quantity"]
          (.ofTexts "quantity" [some "+007", some "7 kg", none]) ⟨[], ⟨2024, 6, 1⟩⟩ = .ok g ∧
        g.failed[1]? = some true ∧ f.failed[1]? = some true := by
  have h : Relation.ReflTransGen ValueType.Narrower .integer .double :=
    (Relation.ReflTransGen.single .integer).tail .double
  obtain ⟨htexts, -, hrows⟩ := rows_of_wider_type h
  obtain ⟨f, g, hf, hg, -, -, -, -, hfails⟩ :=
    (hrows (.ofTexts "quantity" [some "+007", some "7 kg", none]) "quantity" .typeCheck
      ⟨[], ⟨2024, 6, 1⟩⟩).2 (by decide)
  have hother : g.failed[1]? = some true := by
    have hjudged := RowCheck.evaluate_type
      (t := .ofTexts "quantity" [some "+007", some "7 kg", none]) List.mem_cons_self
      .double .typeCheck ⟨[], ⟨2024, 6, 1⟩⟩
    obtain rfl := Except.ok.inj (hg.symm.trans hjudged)
    decide +kernel
  exact ⟨h, htexts, f, g, hf, hg, hother, hfails 1 hother⟩

end TableAudit
