import TableAudit.Proofs.Runs

/-!
# Counts of outcomes

No outcome of a run fails more rows than it tests or tests more rows than were audited, so the
differences behind its rates are those of integers. It keeps its failing rows exactly if they are to
be written and there are any, and then all of them.
-/

namespace TableAudit

structure Outcome.Counts (o : Outcome) (rows : Nat) : Prop where
  failed_le_tested : o.failed ≤ o.tested
  tested_le_rows : o.tested ≤ rows
  isSome_violating : o.violating.isSome = true ↔ o.writes = true ∧ 0 < o.failed
  height_violating : ∀ t, o.violating = some t → t.height = o.failed

namespace Outcome.Counts

variable {o : Outcome} {rows : Nat}

private theorem passed_add_failed (h : o.Counts rows) : o.passed + o.failed = o.tested :=
  Nat.sub_add_cancel h.failed_le_tested

/-- The rate is that of the integer difference of its counts. -/
theorem successRate_eq (h : o.Counts rows) :
    o.successRate = if o.tested = 0 then 100 else
      Decimal.ofInt ((o.tested : Int) - o.failed) / Decimal.ofInt o.tested * 100 := by
  have hs : ((o.tested - o.failed : Nat) : Int) = (o.tested : Int) - o.failed :=
    Int.ofNat_sub h.failed_le_tested
  simp only [successRate, TableAudit.successRate, hs]

end Outcome.Counts

private theorem counts_outcomeOf {i : Instance} {t : Table} {f : Finding} (h : f.Fits t)
    (entity : String) : (i.outcomeOf t entity f).Counts t.height where
  failed_le_tested := h.failed_le_tested
  tested_le_rows := h.tested_le_height
  isSome_violating := by
    change (if i.head.writes && f.failedCount > 0 then some (t.select f.failed) else none).isSome =
      true ↔ i.head.writes = true ∧ 0 < f.failedCount
    split <;> simp_all
  height_violating u hu := by
    obtain ⟨-, rfl⟩ := Instance.violating_outcomeOf.1 hu
    exact Table.height_select h.length_failed

theorem counts_gateFailure (head : RuleHead) (required : List String) (message : String)
    (rows : Nat) (entity : String) :
    (gateFailure head required message rows entity).Counts rows where
  failed_le_tested := Nat.le_refl rows
  tested_le_rows := Nat.le_refl rows
  isSome_violating := by simp [gateFailure]
  height_violating u hu := by simp [gateFailure] at hu

private theorem counts_outcomes {c : Config} {rules : List Rule} {subject : Table}
    {resolve : Resolver}
    {runTime : Calendar.Moment} {e : Evaluation} (he : e = .of c rules subject resolve runTime)
    {o : Outcome} (ho : o ∈ e.outcomes) : o.Counts e.scope.table.height := by
  obtain ⟨i, f, hf, rfl⟩ := finding_of_outcome he ho
  exact counts_outcomeOf (Rule.fits_of_evaluate hf) _

/-- Whether a run is completed or stopped, the counts of all its results hold together; and under
it, the verdicts of any rule fit the table that it is evaluated on. There are results unless the run
overflows. -/
theorem counts_of_run (c : Config) (subject : Table) (resolve : Resolver)
    (runTime : Calendar.Moment) :
    (Audit.run c subject resolve runTime = .error .overflow ∨
      ∃ a, Audit.run c subject resolve runTime = .ok a ∧ ∀ o ∈ a.results,
        o.Counts a.testedRows ∧ o.passed + o.failed = o.tested ∧
          o.successRate = if o.tested = 0 then 100 else
            Decimal.ofInt ((o.tested : Int) - o.failed) / Decimal.ofInt o.tested * 100) ∧
      ∀ (r : Rule) (fields : List String) (ctx : Context) (t : Table) (f : Finding),
        r.evaluate fields ctx t = .ok f → f.Fits t := by
  refine ⟨?_, fun r fields ctx t f hf => Rule.fits_of_evaluate hf⟩
  by_cases hrun : Audit.run c subject resolve runTime = .error .overflow
  · exact .inl hrun
  obtain ⟨a, ha⟩ := Audit.exists_run hrun
  refine .inr ⟨a, ha, fun o ho => ?_⟩
  have hcounts : o.Counts a.testedRows := by
    rcases Audit.cases_of_run ha with ⟨failure, hfail, hs⟩ | ⟨-, hc⟩
    · obtain ⟨rule, message, -, -, rfl⟩ := Config.gateFailure?_eq_some.1 hfail
      rw [hs.results, List.mem_singleton] at ho
      rw [ho, hs.testedRows]
      exact counts_gateFailure _ _ _ _ _
    · rw [hc.results] at ho
      rw [hc.testedRows]
      exact counts_outcomes rfl ho
  exact ⟨hcounts, hcounts.passed_add_failed, hcounts.successRate_eq⟩

/-- Of three names two are missing or empty; of those that are not missing, one is empty. -/
theorem counts_of_run_names :
    (∃ a, Audit.run (.ofNullCheck "name") (.ofTexts "name" [some "x", none, some ""])
        (fun _ => .ok .empty) ⟨⟨2024, 6, 1⟩, 10, 30, 0⟩ = .ok a ∧
          ∃ o ∈ a.results, o.tested = 3 ∧ o.failed = 2 ∧ o.Counts a.testedRows) ∧
      ∃ f, Rule.evaluate ["name"] ⟨[], ⟨2024, 6, 1⟩⟩
          (.conditional ⟨"116", .conditionalRule, .columns ["name"], 100, true⟩ .all
            [⟨"name", .isNotNull⟩]
            (.plain ⟨"101", .nullCheck, .columns ["name"], 100, true⟩ .fields))
          (.ofTexts "name" [some "x", none, some ""]) = .ok f ∧
        f.failed = [false, false, true] ∧ f.Fits (.ofTexts "name" [some "x", none, some ""]) := by
  obtain ⟨hruns, hf⟩ := counts_of_run (.ofNullCheck "name")
    (.ofTexts "name" [some "x", none, some ""]) (fun _ => .ok .empty) ⟨⟨2024, 6, 1⟩, 10, 30, 0⟩
  constructor
  · obtain hover | ⟨a, ha, ho⟩ := hruns
    · cases hover
    have hrun : (Audit.run (.ofNullCheck "name") (.ofTexts "name" [some "x", none, some ""])
        (fun _ => .ok .empty) ⟨⟨2024, 6, 1⟩, 10, 30, 0⟩).map
          (·.results.map fun o => (o.tested, o.failed)) = .ok [(3, 2)] := rfl
    rw [ha, Except.map, Except.ok.injEq] at hrun
    have hmem : (3, 2) ∈ a.results.map fun o => (o.tested, o.failed) := by simp [hrun]
    obtain ⟨o, hoa, hc⟩ := List.mem_map.1 hmem
    obtain ⟨ht, hfail⟩ := Prod.mk.inj hc
    exact ⟨a, ha, o, hoa, ht, hfail, (ho o hoa).1⟩
  · have he : Rule.evaluate ["name"] ⟨[], ⟨2024, 6, 1⟩⟩
        (.conditional ⟨"116", .conditionalRule, .columns ["name"], 100, true⟩ .all
          [⟨"name", .isNotNull⟩] (.plain ⟨"101", .nullCheck, .columns ["name"], 100, true⟩ .fields))
        (.ofTexts "name" [some "x", none, some ""]) = .ok ⟨2, [false, false, true]⟩ := rfl
    exact ⟨_, he, rfl, hf _ _ _ _ _ he⟩

end TableAudit
