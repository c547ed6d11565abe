import Mathlib.Data.Set.Defs
import Mathlib.Tactic.Tauto
import TableAudit.Proofs.Keys
import TableAudit.Proofs.Runs

/-!
# Anti-joins as a matter of keys

An anti-join needs as many columns on the one side as on the other, and all of them have to be
there. Of the right table it looks at the complete keys only, and it leaves a row of the left table
out exactly if that has one of them.
-/

namespace TableAudit

namespace Table

variable {t other : Table} {on otherOn : List String} {r : Row}

def completeKeys (t : Table) (names : List String) : Set Key :=
  {k | none ∉ k ∧ ∃ r ∈ t.rows, t.fields.texts r names = k}

theorem exists_unmatched_iff :
    (∃ marks, t.unmatched other on otherOn = .ok marks) ↔
      on.length = otherOn.length ∧ (∀ name ∈ on, name ∈ t.names) ∧
        ∀ name ∈ otherOn, name ∈ other.names := by
  rw [← keys_eq_ok_iff, ← keys_eq_ok_iff]
  unfold unmatched
  by_cases hl : on.length = otherOn.length
  · simp only [hl, ne_eq, not_true_eq_false, if_false, true_and]
    constructor
    · rintro ⟨marks, h⟩
      obtain ⟨otherKeys, ho, h⟩ := bind_eq_ok.1 h
      obtain ⟨keys, hk, -⟩ := bind_eq_ok.1 h
      exact ⟨⟨keys, hk⟩, otherKeys, ho⟩
    · rintro ⟨⟨keys, hk⟩, otherKeys, ho⟩
      exact ⟨_, bind_eq_ok.2 ⟨otherKeys, ho, bind_eq_ok.2 ⟨keys, hk, rfl⟩⟩⟩
  · simp only [hl, ne_eq, not_false_eq_true, if_true, false_and, iff_false]
    rintro ⟨marks, h⟩
    cases h

theorem exists_antiJoin_iff :
    (∃ kept, t.antiJoin other on otherOn = .ok kept) ↔
      on.length = otherOn.length ∧ (∀ name ∈ on, name ∈ t.names) ∧
        ∀ name ∈ otherOn, name ∈ other.names := by
  rw [← exists_unmatched_iff]
  constructor
  · rintro ⟨kept, h⟩
    obtain ⟨marks, hm, -⟩ := map_eq_ok.1 h
    exact ⟨marks, hm⟩
  · rintro ⟨marks, hm⟩
    exact ⟨_, map_eq_ok.2 ⟨marks, hm, rfl⟩⟩

/-- Where an anti-join can be made, it filters by whether a row has a partner. -/
theorem antiJoin_eq_filter (hl : on.length = otherOn.length) (hon : ∀ name ∈ on, name ∈ t.names)
    (hother : ∀ name ∈ otherOn, name ∈ other.names) :
    t.antiJoin other on otherOn = .ok (t.filter (!t.hasPartner other on otherOn ·)) := by
  obtain ⟨kept, h⟩ := exists_antiJoin_iff.2 ⟨hl, hon, hother⟩
  exact antiJoin_eq_ok h ▸ h

theorem hasPartner_iff :
    t.hasPartner other on otherOn r = true ↔
      t.fields.texts r on ∈ other.completeKeys otherOn := by
  rw [hasPartner_eq_true]
  constructor
  · rintro ⟨k, hk, q, hq, hqk⟩
    have hr := Schema.key?_eq_some.1 hk
    refine ⟨?_, q, hq, (Schema.key?_eq_some.1 hqk).trans hr.symm⟩
    simp [hr]
  · rintro ⟨hcomplete, q, hq, htexts⟩
    cases hk : t.fields.key? r on with
    | none => exact absurd (Schema.none_mem_texts.2 hk) hcomplete
    | some k =>
      refine ⟨k, rfl, q, hq, ?_⟩
      rw [Schema.key?_eq_some, htexts]
      exact Schema.key?_eq_some.1 hk

private theorem hasPartner_congr {other' : Table} {otherOn' : List String}
    (h : other'.completeKeys otherOn' = other.completeKeys otherOn) (r : Row) :
    t.hasPartner other' on otherOn' r = t.hasPartner other on otherOn r := by
  rw [Bool.eq_iff_iff, hasPartner_iff, hasPartner_iff, h]

/-- Rows without a complete key contribute no key, and the others do so wherever they stand. -/
theorem completeKeys_congr {other' : Table} (hf : other'.fields = other.fields)
    (h : ∀ q, none ∉ other.fields.texts q on → (q ∈ other'.rows ↔ q ∈ other.rows)) :
    other'.completeKeys on = other.completeKeys on := by
  ext k
  simp only [completeKeys, hf]
  constructor
  · rintro ⟨hk, q, hq, rfl⟩
    exact ⟨hk, q, (h q hk).1 hq, rfl⟩
  · rintro ⟨hk, q, hq, rfl⟩
    exact ⟨hk, q, (h q hk).2 hq, rfl⟩

private theorem filter_filter_self (t : Table) (p : Row → Bool) :
    (t.filter p).filter p = t.filter p :=
  eq_of_rows rfl (by simp [filter])

/-- A row has a partner in its own table as soon as its key is complete. -/
theorem hasPartner_self (hr : r ∈ t.rows) :
    t.hasPartner t on on r = !(t.fields.texts r on).contains none := by
  rw [Bool.eq_iff_iff, hasPartner_iff]
  simp only [Bool.not_eq_true', List.contains_eq_mem, decide_eq_false_iff_not]
  exact ⟨fun h => h.1, fun h => ⟨h, r, hr, rfl⟩⟩

/-- A row is left alone if a text of its key is missing or no complete key on the other side equals
its own. -/
theorem hasPartner_eq_false_iff :
    t.hasPartner other on otherOn r = false ↔
      none ∈ t.fields.texts r on ∨ ∀ q ∈ other.rows, none ∉ other.fields.texts q otherOn →
        other.fields.texts q otherOn ≠ t.fields.texts r on := by
  rw [← Bool.not_eq_true, hasPartner_iff]
  constructor
  · intro h
    by_cases hmissing : none ∈ t.fields.texts r on
    · exact .inl hmissing
    · exact .inr fun q hq _ htexts => h ⟨hmissing, q, hq, htexts⟩
  · rintro (hmissing | hnone) ⟨hcomplete, q, hq, htexts⟩
    · exact hcomplete hmissing
    · exact hnone q hq (htexts ▸ hcomplete) htexts

end Table

/-- An anti-join fails exactly if the lists of columns differ in length or name a column that is not
there. It keeps the rows without a partner as they are and in their order, and a second one finds
nothing more to leave out. Nothing counts of the right table but the set of its complete keys; in an
anti-join of a table with itself, only rows with incomplete keys are left. -/
theorem antiJoin_of_tables (t other : Table) (on otherOn : List String) :
    ((∃ kept, t.antiJoin other on otherOn = .ok kept) ↔
      on.length = otherOn.length ∧ (∀ name ∈ on, name ∈ t.names) ∧
        ∀ name ∈ otherOn, name ∈ other.names) ∧
    (∀ kept, t.antiJoin other on otherOn = .ok kept →
      kept.fields = t.fields ∧
      (∃ alone : Row → Bool, kept.rows = t.rows.filter alone ∧
        ∀ r ∈ t.rows, alone r = true ↔
          none ∈ t.fields.texts r on ∨ ∀ q ∈ other.rows, none ∉ other.fields.texts q otherOn →
            other.fields.texts q otherOn ≠ t.fields.texts r on) ∧
      (∀ (other' : Table) (otherOn' : List String), on.length = otherOn'.length →
        (∀ name ∈ otherOn', name ∈ other'.names) →
        other'.completeKeys otherOn' = other.completeKeys otherOn →
        t.antiJoin other' on otherOn' = .ok kept) ∧
      (∀ other' : Table, other'.fields = other.fields →
        (∀ q, none ∉ other.fields.texts q otherOn → (q ∈ other'.rows ↔ q ∈ other.rows)) →
        t.antiJoin other' on otherOn = .ok kept) ∧
      kept.antiJoin other on otherOn = .ok kept) ∧
    ((∀ name ∈ on, name ∈ t.names) →
      t.antiJoin t on on = .ok (t.filter fun r => (t.fields.texts r on).contains none)) := by
  refine ⟨Table.exists_antiJoin_iff, fun kept h => ?_, fun hon => ?_⟩
  · obtain ⟨hl, hon, hother⟩ := Table.exists_antiJoin_iff.1 ⟨kept, h⟩
    obtain rfl := Table.antiJoin_eq_ok h
    have hcongr : ∀ (other' : Table) (otherOn' : List String), on.length = otherOn'.length →
        (∀ name ∈ otherOn', name ∈ other'.names) →
        other'.completeKeys otherOn' = other.completeKeys otherOn →
        t.antiJoin other' on otherOn' = .ok (t.filter (!t.hasPartner other on otherOn ·)) := by
      intro other' otherOn' hl' hother' hkeys
      rw [Table.antiJoin_eq_filter hl' hon hother']
      simp only [Table.hasPartner_congr hkeys]
    refine ⟨rfl, ⟨_, rfl, fun r _ => ?_⟩, hcongr, fun other' hf hrows => ?_, ?_⟩
    · rw [Bool.not_eq_true', Table.hasPartner_eq_false_iff]
    · have hother' : ∀ name ∈ otherOn, name ∈ other'.names := by
        rw [Table.names, hf]
        exact hother
      exact hcongr other' otherOn hl hother' (Table.completeKeys_congr hf hrows)
    · have hagain := Table.antiJoin_eq_filter
        (t := t.filter (!t.hasPartner other on otherOn ·)) hl hon hother
      exact hagain.trans (congrArg Except.ok (Table.filter_filter_self t _))
  · rw [Table.antiJoin_eq_filter rfl hon hon]
    refine congrArg Except.ok (Table.eq_of_rows rfl ?_)
    exact List.filter_congr fun r hr => by rw [Table.hasPartner_self hr, Bool.not_not]

/-- Of three names, the missing one and the one that is not listed are kept; and so they are if the
list has its entries in another order, twice, and with a gap. -/
theorem antiJoin_of_tables_names :
    (Table.ofTexts "name" [some "x", none, some "y"]).antiJoin (.ofTexts "code" [some "x", some "z"])
        ["name"] ["code"] = .ok (.ofTexts "name" [none, some "y"]) ∧
      (Table.ofTexts "name" [some "x", none, some "y"]).antiJoin
        (.ofTexts "code" [some "z", none, some "x", some "z"]) ["name"] ["code"] =
          .ok (.ofTexts "name" [none, some "y"]) ∧
      (Table.ofTexts "name" [none, some "y"]).antiJoin (.ofTexts "code" [some "x", some "z"])
        ["name"] ["code"] = .ok (.ofTexts "name" [none, some "y"]) ∧
      (Table.ofTexts "name" [some "x", none, some "y"]).antiJoin
        (.ofTexts "name" [some "x", none, some "y"]) ["name"] ["name"] =
          .ok (.ofTexts "name" [none]) := by
  obtain ⟨-, hkept, hself⟩ := antiJoin_of_tables (.ofTexts "name" [some "x", none, some "y"])
    (.ofTexts "code" [some "x", some "z"]) ["name"] ["code"]
  have h : (Table.ofTexts "name" [some "x", none, some "y"]).antiJoin
      (.ofTexts "code" [some "x", some "z"]) ["name"] ["code"] =
        .ok (.ofTexts "name" [none, some "y"]) :=
    Table.antiJoin_eq_filter rfl (by decide) (by decide)
  obtain ⟨-, -, -, hsame, hagain⟩ := hkept _ h
  refine ⟨h, hsame _ rfl ?_, hagain, hself (by decide)⟩
  intro q hq
  have hgap : q ≠ [none] := by
    rintro rfl
    exact hq (by decide)
  simp only [Table.ofTexts, List.map_cons, List.map_nil, Option.map_none, List.mem_cons,
    List.not_mem_nil]
  tauto

end TableAudit
