import TableAudit.Proofs.ErrorColumns

/-!
# Outcomes in another order

An outcome puts its rows into the error table whatever outcomes stand around it. So the outcomes of
a table can be summed up in any order and in parts: the error rows are the same ones, in the order
of the outcomes.
-/

namespace TableAudit

section Orders

variable {outcomes others : List Outcome} {subject : Table} {runTime : String}

/-- Summing up rows chosen from a table tags them one by one. -/
theorem aggregate_of_selects (h : ∀ o ∈ outcomes, o.Selects subject) (runTime : String) :
    ∃ a, aggregate outcomes subject runTime = .ok a ∧ a.results = outcomes ∧
      a.errors.fields = subject.fields.tagged ∧
      a.errors.rows = (outcomes.flatMap Outcome.writtenRows).map fun (o, r) =>
        r.tagged subject.fields o.requirement runTime := by
  obtain ⟨a, ha, hres, hf, hr⟩ := aggregate_eq_ok (fun o ho => (h o ho).keeps) runTime
  refine ⟨a, ha, hres, hf, hr.trans ?_⟩
  rw [List.map_flatMap]
  exact congrArg (List.flatMap · outcomes) (funext fun o => o.errorRows_eq_map _ _)

theorem errors_rows_perm {a b : Aggregate} (h : outcomes.Perm others)
    (ha : a.errors.rows = (outcomes.flatMap Outcome.writtenRows).map fun (o, r) =>
      r.tagged subject.fields o.requirement runTime)
    (hb : b.errors.rows = (others.flatMap Outcome.writtenRows).map fun (o, r) =>
      r.tagged subject.fields o.requirement runTime) :
    a.errors.rows.Perm b.errors.rows := by
  rw [ha, hb]
  exact (h.flatMap_right _).map _

end Orders

/-- Outcomes that keep rows of a table can be summed up; they are left as they are, and each row
that is to be written becomes an error row. Those of the same outcomes in another order have the
same columns and are the same rows, as often as before; and if the outcomes are summed up in two
parts, the error rows of the one stand below those of the other as they do in the whole. -/
theorem aggregates_of_orders {outcomes : List Outcome} {subject : Table}
    (h : ∀ o ∈ outcomes, o.Selects subject) (runTime : String) :
    ∃ a, aggregate outcomes subject runTime = .ok a ∧ a.results = outcomes ∧
      a.errors.fields = subject.fields.tagged ∧
      a.errors.rows = (outcomes.flatMap Outcome.writtenRows).map (fun (o, r) =>
        r.tagged subject.fields o.requirement runTime) ∧
      (∀ others, outcomes.Perm others → ∃ b, aggregate others subject runTime = .ok b ∧
        b.results = others ∧ b.errors.fields = a.errors.fields ∧
        a.errors.rows.Perm b.errors.rows) ∧
      ∀ front back, outcomes = front ++ back → ∃ x y, aggregate front subject runTime = .ok x ∧
        aggregate back subject runTime = .ok y ∧ x.results = front ∧ y.results = back ∧
        x.errors.stack y.errors = .ok a.errors := by
  obtain ⟨a, ha, hres, hf, hr⟩ := aggregate_of_selects h runTime
  refine ⟨a, ha, hres, hf, hr, fun others hp => ?_, ?_⟩
  · have hothers : ∀ o ∈ others, o.Selects subject := fun o ho => h o (hp.mem_iff.2 ho)
    obtain ⟨b, hb, hbres, hbf, hbr⟩ := aggregate_of_selects hothers runTime
    exact ⟨b, hb, hbres, hbf.trans hf.symm, errors_rows_perm hp hr hbr⟩
  · rintro front back rfl
    obtain ⟨x, hx, hxres, hxf, hxr⟩ :=
      aggregate_of_selects (fun o ho => h o (List.mem_append_left _ ho)) runTime
    obtain ⟨y, hy, hyres, hyf, hyr⟩ :=
      aggregate_of_selects (fun o ho => h o (List.mem_append_right _ ho)) runTime
    obtain ⟨whole, hw, hwf, hwr⟩ := Table.stack_eq_ok (hxf.trans hyf.symm)
    have hrows : whole.rows = a.errors.rows := by
      rw [hwr, hxr, hyr, hr, List.flatMap_append, List.map_append]
    have hwhole : whole = a.errors := Table.eq_of_rows (hwf.trans (hxf.trans hf.symm)) hrows
    exact ⟨x, y, hx, hy, hxres, hyres, hwhole ▸ hw⟩

def Table.ofGaps : Table := .ofTexts "name" [none, some "x", none]

/-- The outcome of a check of its names of some kind, which both missing names fail. -/
def Outcome.ofGaps (kind : RuleKind) (writes : Bool) : Outcome :=
  (Instance.mk (.plain ⟨kind.code, kind, .columns ["name"], 100, writes⟩ .fields)
    ["name"]).outcomeOf .ofGaps "CLIENTS" (.full [true, false, true])

/-- The missing names fail two checks that are written and a third that is not; the checks are put
into the opposite order, and taken in two parts. -/
theorem aggregates_of_orders_gaps :
    (∀ o ∈ [Outcome.ofGaps .nullCheck true, .ofGaps .nullCheck false, .ofGaps .duplicateCheck true],
      o.Selects .ofGaps) ∧
    ∃ a b x y,
      aggregate [.ofGaps .nullCheck true, .ofGaps .nullCheck false, .ofGaps .duplicateCheck true]
        .ofGaps "2024-06-01 10:30:00" = .ok a ∧
      aggregate [.ofGaps .duplicateCheck true, .ofGaps .nullCheck false, .ofGaps .nullCheck true]
        .ofGaps "2024-06-01 10:30:00" = .ok b ∧
      a.results.length = 3 ∧ a.errors.height = 4 ∧ a.errors.rows.Perm b.errors.rows ∧
      aggregate [.ofGaps .nullCheck true] .ofGaps "2024-06-01 10:30:00" = .ok x ∧
      aggregate [.ofGaps .nullCheck false, .ofGaps .duplicateCheck true] .ofGaps
        "2024-06-01 10:30:00" = .ok y ∧
      x.errors.stack y.errors = .ok a.errors := by
  have h : ∀ o ∈ [Outcome.ofGaps .nullCheck true, .ofGaps .nullCheck false,
      .ofGaps .duplicateCheck true], o.Selects .ofGaps := by
    simp only [List.forall_mem_cons, List.not_mem_nil, false_implies, implies_true, and_true]
    exact ⟨selects_outcomeOf _ _ _ _, selects_outcomeOf _ _ _ _, selects_outcomeOf _ _ _ _⟩
  obtain ⟨a, ha, hres, -, hr, horder, hparts⟩ := aggregates_of_orders h "2024-06-01 10:30:00"
  obtain ⟨b, hb, -, -, hperm⟩ := horder _ (List.reverse_perm _).symm
  obtain ⟨x, y, hx, hy, -, -, hstack⟩ := hparts [_] [_, _] rfl
  refine ⟨h, a, b, x, y, ha, hb, ?_, ?_, hperm, hx, hy, hstack⟩
  · rw [hres]
    rfl
  · rw [Table.height, hr]
    rfl

end TableAudit
