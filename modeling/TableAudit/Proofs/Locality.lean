import TableAudit.Proofs.Keys
import TableAudit.Proofs.Runs

/-!
# Verdicts on single rows

A rule that does not hold rows against each other comes to one check of single rows for all tables
with the same fields. Conditions do not change that, since a filter looks at single rows as well.
So the verdict on a row is the same in all these tables, wherever the row stands in them and
whatever the other rows are.
-/

namespace TableAudit

namespace RowCheck

def rejects (c : RowCheck) (row : Row) : Bool := c.fails row && c.tested row

/-- The check of the rows that pass a filter; the others are not eligible. -/
def under (c : RowCheck) (pass : Row → Bool) : RowCheck where
  tested row := pass row && c.tested row
  fails row := pass row && c.fails row
  overflows row := pass row && c.overflows row

theorem judge_eq (c : RowCheck) (rows : List Row) :
    c.judge rows = if rows.any c.overflows then .error .overflow
      else .ok ⟨rows.countP c.tested, rows.map c.rejects⟩ := by
  have htested : (rows.map c.tested).count true = rows.countP c.tested := by
    rw [List.count, List.countP_map]
    exact List.countP_congr fun row _ => by simp
  have hfailed : (rows.map c.fails).zipWith (· && ·) (rows.map c.tested) = rows.map c.rejects := by
    rw [List.zipWith_map, List.zipWith_self]
    rfl
  simp only [judge, Finding.ofEligible, htested, hfailed]

theorem judge_eq_ok {c : RowCheck} {rows : List Row} {f : Finding} (h : c.judge rows = .ok f) :
    f = ⟨rows.countP c.tested, rows.map c.rejects⟩ := by
  rw [judge_eq] at h
  split at h <;> cases h
  rfl

theorem judge_ofEvery (fails : Row → Bool) (rows : List Row) :
    (ofEvery fails).judge rows = .ok ⟨rows.length, rows.map fails⟩ := by
  have hrejects : (ofEvery fails).rejects = fails := by
    funext row
    exact Bool.and_true _
  have htested : rows.countP (ofEvery fails).tested = rows.length :=
    List.countP_eq_length.2 fun _ _ => rfl
  rw [judge_eq, hrejects, htested]
  exact if_neg (by simp [ofEvery])

theorem judge_textCheck {t : Table} {field : String} (h : field ∈ t.names)
    (fails : String → Bool) :
    (textCheck t.fields field fails).bind (·.judge t.rows) =
      .ok ⟨t.height,
        t.rows.map fun row => ((t.fields.cell row field).map Cell.toText).any fails⟩ := by
  obtain ⟨i, hfind, hcell⟩ := exists_findColumn h
  simp only [textCheck, hfind, ← hcell]
  exact judge_ofEvery _ _

private theorem spread_map (pass verdict : Row → Bool) (rows : List Row) :
    spread (rows.map pass) ((rows.filter pass).map verdict) =
      rows.map fun row => pass row && verdict row := by
  induction rows with
  | nil => rfl
  | cons row rows ih => cases hp : pass row <;> simp [spread, hp, ih]

/-- Judging the rows that pass a filter and spreading the verdicts is judging all rows under the
filter. -/
theorem map_spread_judge (c : RowCheck) (pass : Row → Bool) (rows : List Row) :
    (c.judge (rows.filter pass)).map (·.spread (rows.map pass)) = (c.under pass).judge rows := by
  have htested : (rows.filter pass).countP c.tested = rows.countP (c.under pass).tested := by
    rw [List.countP_filter]
    exact List.countP_congr fun row _ => by simp [under, and_comm]
  have hrejects : spread (rows.map pass) ((rows.filter pass).map c.rejects) =
      rows.map (c.under pass).rejects := by
    rw [spread_map]
    apply List.map_congr_left
    intro row _
    cases hp : pass row <;> simp [rejects, under, hp]
  have hoverflows : (rows.filter pass).any c.overflows = rows.any (c.under pass).overflows := by
    rw [List.any_filter]
    rfl
  rw [judge_eq, judge_eq, ← htested, ← hrejects, ← hoverflows]
  split <;> rfl

end RowCheck

namespace Rule

/-- Whether the innermost rule holds rows against each other: it looks for repeated keys, or for
numbers far from the mean of their group. -/
def comparesRows : Rule → Bool
  | plain h c => c.comparesRows h.kind
  | conditional _ _ _ inner => inner.comparesRows

/-- All other rules are prepared from the schema alone and then judge row by row. -/
theorem exists_preparedTo {r : Rule} (h : r.comparesRows = false) (fields : List String)
    (s : Schema) (ctx : Context) :
    ∃ p, PreparedTo s (r.evaluate fields ctx) r.reachesLimit p := by
  induction r with
  | plain head check => exact Check.exists_preparedTo h fields s ctx
  | conditional head condition filters inner ih =>
    obtain ⟨p, hp⟩ := ih h
    cases hpass : RowFilter.prepareAll condition filters s with
    | error e =>
      refine ⟨.error (.table e), NeverOverflows.ofTable (.error e), fun _ => .throw,
        fun t ht => ?_⟩
      have hm : t.filterMask condition filters = .error e := by
        rw [Table.filterMask, ht, hpass]
        rfl
      simp only [evaluate, hm]
      rfl
    | ok pass =>
      refine ⟨p.map (·.under pass), hp.neverOverflows.map _, fun hlimit c hc row => ?_,
        fun t ht => ?_⟩
      · obtain ⟨d, hd, rfl⟩ := map_eq_ok.1 hc
        simp [RowCheck.under, hp.isExact hlimit d hd row]
      have hm : t.filterMask condition filters = .ok (t.rows.map pass) := by
        rw [Table.filterMask, ht, hpass]
        rfl
      have hinner := hp.evaluate_eq (t.select (t.rows.map pass)) ht
      have hrows : (t.select (t.rows.map pass)).rows = t.rows.filter pass :=
        marked_map pass t.rows
      rw [evaluate_conditional hm, hinner, hrows]
      cases p with
      | error e => rfl
      | ok c => exact c.map_spread_judge pass t.rows

end Rule

/-- A rule that holds no rows against each other can be evaluated on both of two tables with the
same fields or on neither, if an overflow counts as an evaluation; and one overflows at most if it
asks for positions up to the last of 64 bits. It overflows on account of a single row, in whatever
table that stands, and a row that stands in both of two tables has the same verdict in both. -/
theorem verdict_of_row {r : Rule} (h : r.comparesRows = false) (fields : List String)
    (ctx : Context) {t u : Table} (hs : t.fields = u.fields) :
    ((r.evaluate fields ctx t = .error .overflow ∨ ∃ f, r.evaluate fields ctx t = .ok f) ↔
      (r.evaluate fields ctx u = .error .overflow ∨ ∃ g, r.evaluate fields ctx u = .ok g)) ∧
    (r.reachesLimit = false →
      ((∃ f, r.evaluate fields ctx t = .ok f) ↔ ∃ g, r.evaluate fields ctx u = .ok g)) ∧
    (r.evaluate fields ctx t = .error .overflow → ∃ row ∈ t.rows, ∀ v : Table,
      v.fields = t.fields → row ∈ v.rows → r.evaluate fields ctx v = .error .overflow) ∧
    ∀ f g, r.evaluate fields ctx t = .ok f → r.evaluate fields ctx u = .ok g →
      ∀ (i j : Nat) (row : Row), t.rows[i]? = some row → u.rows[j]? = some row →
        ∃ verdict, f.failed[i]? = some verdict ∧ g.failed[j]? = some verdict := by
  obtain ⟨p, hp⟩ := Rule.exists_preparedTo h fields u.fields ctx
  have ht := hp.evaluate_eq t hs
  have hu := hp.evaluate_eq u rfl
  cases p with
  | error e =>
    have hne : e ≠ .overflow := hp.neverOverflows e rfl
    have hover : ¬ r.evaluate fields ctx t = .error .overflow := fun ho =>
      hne (Except.error.inj (ht.symm.trans ho))
    rw [ht, hu]
    refine ⟨Iff.rfl, fun _ => Iff.rfl, fun ho => (hover (ht.trans ho)).elim, fun f g hf => ?_⟩
    cases hf
  | ok c =>
    refine ⟨?_, fun hlimit => ?_, fun ho => ?_, fun f g hf hg i j row hi hj => ?_⟩
    · rw [ht, hu]
      exact iff_of_true (c.judge_cases t.rows) (c.judge_cases u.rows)
    · have hexact := hp.isExact hlimit c rfl
      rw [ht, hu]
      exact iff_of_true ⟨_, RowCheck.judge_of_isExact hexact _⟩
        ⟨_, RowCheck.judge_of_isExact hexact _⟩
    · obtain ⟨row, hrow, hc⟩ := RowCheck.judge_eq_overflow.1 (ht.symm.trans ho)
      refine ⟨row, hrow, fun v hv hmem => ?_⟩
      rw [hp.evaluate_eq v (hv.trans hs)]
      exact RowCheck.judge_eq_overflow.2 ⟨row, hmem, hc⟩
    · cases RowCheck.judge_eq_ok (ht.symm.trans hf)
      cases RowCheck.judge_eq_ok (hu.symm.trans hg)
      exact ⟨c.rejects row, by simp [hi], by simp [hj]⟩

def Rule.ofNotEmpty (field : String) : Rule :=
  .conditional ⟨"116", .conditionalRule, .columns [field], 100, true⟩ .all [⟨field, .isNotNull⟩]
    (.plain ⟨"101", .nullCheck, .columns [field], 100, true⟩ .fields)

/-- The empty name fails as the last of three and as the first of two. -/
theorem verdict_of_row_names :
    (Rule.ofNotEmpty "name").comparesRows = false ∧ (Rule.ofNotEmpty "name").reachesLimit = false ∧
      ∃ f g, Rule.evaluate ["name"] ⟨[], ⟨2024, 6, 1⟩⟩ (.ofNotEmpty "name")
          (.ofTexts "name" [some "x", none, some ""]) = .ok f ∧
        Rule.evaluate ["name"] ⟨[], ⟨2024, 6, 1⟩⟩ (.ofNotEmpty "name")
          (.ofTexts "name" [some "", some "y"]) = .ok g ∧
        f.failed[2]? = some true ∧ g.failed[0]? = some true := by
  have hf : Rule.evaluate ["name"] ⟨[], ⟨2024, 6, 1⟩⟩ (.ofNotEmpty "name")
      (.ofTexts "name" [some "x", none, some ""]) = .ok ⟨2, [false, false, true]⟩ := rfl
  have hfields : (Table.ofTexts "name" [some "x", none, some ""]).fields =
      (Table.ofTexts "name" [some "", some "y"]).fields := rfl
  have hr : (Rule.ofNotEmpty "name").comparesRows = false := rfl
  have hlimit : (Rule.ofNotEmpty "name").reachesLimit = false := rfl
  obtain ⟨-, hok, -, hverdict⟩ := verdict_of_row hr ["name"] ⟨[], ⟨2024, 6, 1⟩⟩ hfields
  obtain ⟨g, hg⟩ := (hok hlimit).1 ⟨_, hf⟩
  obtain ⟨verdict, hfirst, hsecond⟩ := hverdict _ g hf hg 2 0 [some (.text "")] rfl rfl
  cases hfirst
  exact ⟨hr, hlimit, _, g, hf, hg, rfl, hsecond⟩

/-- A rule for all characters of an account overflows on one that is there, and passes a table
without any. -/
theorem verdict_of_last_position :
    (Rule.ofAccount 18446744073709551615).comparesRows = false ∧
      (Table.ofTexts "account" [none]).fields = (Table.ofTexts "account" [some "PE"]).fields ∧
      Rule.evaluate ["account"] ⟨[], ⟨2024, 6, 1⟩⟩ (.ofAccount 18446744073709551615)
        (.ofTexts "account" [none]) = .ok ⟨1, [false]⟩ ∧
      Rule.evaluate ["account"] ⟨[], ⟨2024, 6, 1⟩⟩ (.ofAccount 18446744073709551615)
        (.ofTexts "account" [some "PE"]) = .error .overflow := ⟨rfl, rfl, rfl, rfl⟩

end TableAudit
