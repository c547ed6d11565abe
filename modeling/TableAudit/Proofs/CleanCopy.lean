import TableAudit.Proofs.AntiJoin
import TableAudit.Proofs.Runs

/-!
# Failing rows and the clean copy

The clean copy leaves rows out by their key. A failing row that is written has all its cells in the
error table but those under the names of the tags. So it is left out if its key is made of other
columns and complete; a key with a missing text matches nothing, not even itself, and its row stays.
-/

namespace TableAudit

private theorem key?_tagged {s errors : Schema} {requirement runTime : String} {r tagged : Row}
    (h : TagsOf s errors requirement runTime r tagged) {names : List String}
    (he : errorColumn ∉ names) (hr : runTimeColumn ∉ names) :
    errors.key? tagged names = s.key? r names := by
  refine Schema.key?_congr fun name hn => h.others name ?_ ?_
  · rintro rfl
    exact he hn
  · rintro rfl
    exact hr hn

/-- The violating rows of an outcome are rows of the audited table, and all are written. -/
theorem written?_of_violating {c : Config} {rules : List Rule} {subject rows : Table}
    {resolve : Resolver} {runTime : Calendar.Moment} {e : Evaluation}
    (he : e = .of c rules subject resolve runTime) {o : Outcome} (ho : o ∈ e.outcomes)
    (hv : o.violating = some rows) :
    o.written? = some rows ∧ ∀ row ∈ rows.rows, row ∈ e.scope.table.rows := by
  obtain ⟨i, f, -, rfl⟩ := finding_of_outcome he ho
  obtain ⟨hw, rfl⟩ := Instance.violating_outcomeOf.1 hv
  exact ⟨written?_outcomeOf hw, fun row hrow => mem_of_mem_marked hrow⟩

namespace Audit

variable {a : Audit} {c : Config} {subject clean : Table} {diagnostics : List Diagnostic}
  {e : Evaluation} {runTime : Calendar.Moment}

theorem clean_eq_some (h : a.clean = some clean) : a.projection = some (.ok clean) := by
  unfold Audit.clean at h
  cases hp : a.projection with
  | none => simp [hp] at h
  | some p =>
    cases p with
    | error err => simp [hp, Except.toOption] at h
    | ok t => simpa [hp, Except.toOption] using h

/-- A clean copy has the rows of the audited table that have no partner among the error rows. -/
theorem Completed.clean_eq_filter (h : a.Completed c e diagnostics runTime)
    (hclean : a.clean = some clean) :
    ∃ d, c.data = some d ∧
      clean = e.scope.table.filter (!e.scope.table.hasPartner a.errors d.fields d.fields ·) := by
  have hp := clean_eq_some hclean
  rw [h.projection] at hp
  unfold project at hp
  split at hp
  · next d hd =>
    split at hp
    · exact ⟨d, hd, Table.antiJoin_eq_ok (Option.some.inj hp)⟩
    · simp at hp
  · simp at hp

/-- A failing row that is written has its tagged copy in the error table. -/
theorem Completed.exists_tagged {rules : List Rule} {resolve : Resolver}
    (he : e = .of c rules subject resolve runTime) (h : a.Completed c e diagnostics runTime)
    {o : Outcome} (ho : o ∈ a.results) {rows : Table} (hv : o.violating = some rows) {row : Row}
    (hrow : row ∈ rows.rows) :
    row ∈ e.scope.table.rows ∧ ∃ tagged ∈ a.errors.rows,
      TagsOf e.scope.table.fields a.errors.fields o.requirement runTime.text row tagged := by
  rw [h.results] at ho
  obtain ⟨hw, hsub⟩ := written?_of_violating he ho hv
  have hmem := hsub row hrow
  refine ⟨hmem, row.tagged e.scope.table.fields o.requirement runTime.text, ?_, ?_⟩
  · rw [h.errors_rows, List.mem_flatMap]
    refine ⟨o, ho, ?_⟩
    simp only [Outcome.errorRows, hw]
    exact List.mem_map_of_mem hrow
  · rw [h.errors_fields]
    exact tagsOf_tagged (e.scope.table.rect row hmem) _ _

end Audit

/-- The clean copy has the audited rows whose key no error row has. So a failing row that is written
stays if it has no complete key, and is left out if it has one. Nothing is said of the latter where
the key is made of columns that tags replace. -/
theorem clean_of_run {c : Config} {subject : Table} {resolve : Resolver}
    {runTime : Calendar.Moment} {a : Audit} (ha : Audit.run c subject resolve runTime = .ok a)
    {clean : Table} (hclean : a.clean = some clean) :
    let table := (Scope.of c subject).table
    ∃ d, c.data = some d ∧
      clean = table.filter (!table.hasPartner a.errors d.fields d.fields ·) ∧
      ∀ o ∈ a.results, ∀ rows, o.violating = some rows → ∀ row ∈ rows.rows,
        ((∃ name ∈ d.fields, table.fields.cell row name = none) → row ∈ clean.rows) ∧
        (errorColumn ∉ d.fields → runTimeColumn ∉ d.fields →
          (∀ name ∈ d.fields, table.fields.cell row name ≠ none) → row ∉ clean.rows) := by
  rcases Audit.cases_of_run ha with ⟨failure, -, hs⟩ | ⟨-, hc⟩
  · have hp := Audit.clean_eq_some hclean
    simp [hs.projection] at hp
  have hscope : (Evaluation.of c c.acceptedRules subject resolve runTime).scope =
      Scope.of c subject := rfl
  obtain ⟨d, hd, heq⟩ := hc.clean_eq_filter hclean
  rw [hscope] at heq
  refine ⟨d, hd, heq, fun o ho rows hv row hrow => ?_⟩
  obtain ⟨hmem, tagged, htagged, htags⟩ := hc.exists_tagged rfl ho hv hrow
  rw [hscope] at hmem htags
  rw [heq, Table.mem_filter]
  constructor
  · intro hmissing
    refine ⟨hmem, ?_⟩
    rw [Table.hasPartner_of_missing hmissing]
    rfl
  · rintro he hr hfull ⟨-, hkept⟩
    obtain ⟨k, hk⟩ : ∃ k, (Scope.of c subject).table.fields.key? row d.fields = some k := by
      rw [← Option.ne_none_iff_exists']
      intro hnone
      obtain ⟨name, hn, hmissing⟩ := Schema.key?_eq_none.1 hnone
      exact hfull name hn hmissing
    have hpartner := Table.hasPartner_eq_true.2
      ⟨k, hk, tagged, htagged, (key?_tagged htags he hr).trans hk⟩
    simp [hpartner] at hkept

def Config.ofCleanNullCheck (field : String) : Config :=
  { Config.ofNullCheck field with
    input := { Input.blank with validData := some true }
    data := some ⟨[field], .blank⟩ }

/-- Of the rows without an identifier and with an empty one, both of which fail, only the former is
kept. -/
theorem clean_of_run_identifiers :
    ∃ a clean, Audit.run (.ofCleanNullCheck "id") (.ofTexts "id" [some "1", none, some ""])
        (fun _ => .ok .empty) ⟨⟨2024, 6, 1⟩, 10, 30, 0⟩ = .ok a ∧ a.clean = some clean ∧
      [none] ∈ clean.rows ∧ [some (.text "")] ∉ clean.rows := by
  obtain ⟨a, ha⟩ : ∃ a, Audit.run (.ofCleanNullCheck "id")
    (.ofTexts "id" [some "1", none, some ""]) (fun _ => .ok .empty)
      ⟨⟨2024, 6, 1⟩, 10, 30, 0⟩ = .ok a := ⟨_, rfl⟩
  have hsome : (Audit.run (.ofCleanNullCheck "id") (.ofTexts "id" [some "1", none, some ""])
      (fun _ => .ok .empty) ⟨⟨2024, 6, 1⟩, 10, 30, 0⟩).map (·.clean.isSome) = .ok true := rfl
  have hviolating : (Audit.run (.ofCleanNullCheck "id") (.ofTexts "id" [some "1", none, some ""])
      (fun _ => .ok .empty) ⟨⟨2024, 6, 1⟩, 10, 30, 0⟩).map (·.results.map Outcome.violating) =
        .ok [some (.ofTexts "id" [none, some ""])] := rfl
  rw [ha, Except.map, Except.ok.injEq] at hsome hviolating
  obtain ⟨clean, hclean⟩ := Option.isSome_iff_exists.1 hsome
  obtain ⟨d, hd, -, hrows⟩ := clean_of_run ha hclean
  cases hd
  have hmem : some (Table.ofTexts "id" [none, some ""]) ∈ a.results.map Outcome.violating := by
    simp [hviolating]
  obtain ⟨o, ho, hv⟩ := List.mem_map.1 hmem
  have hmissing := (hrows o ho _ hv [none] (by simp [Table.ofTexts])).1
  have hempty := (hrows o ho _ hv [some (.text "")] (by simp [Table.ofTexts])).2
  exact ⟨a, clean, ha, hclean, hmissing ⟨"id", by decide, rfl⟩,
    hempty (by decide) (by decide) (by decide)⟩

/-- A row without an identifier fails, is written, and is kept all the same. -/
theorem missing_identifier_kept :
    ∃ a clean o rows, Audit.run (.ofCleanNullCheck "id") (.ofTexts "id" [some "1", none])
        (fun _ => .ok .empty) ⟨⟨2024, 6, 1⟩, 10, 30, 0⟩ = .ok a ∧
      a.status = .completed ∧ a.clean = some clean ∧ o ∈ a.results ∧ o.writes = true ∧
      o.violating = some rows ∧ [none] ∈ rows.rows ∧ [none] ∈ clean.rows := by
  obtain ⟨a, ha⟩ : ∃ a, Audit.run (.ofCleanNullCheck "id") (.ofTexts "id" [some "1", none])
      (fun _ => .ok .empty) ⟨⟨2024, 6, 1⟩, 10, 30, 0⟩ = .ok a := ⟨_, rfl⟩
  rcases Audit.cases_of_run ha with ⟨failure, hfail, -⟩ | ⟨-, hc⟩
  · have hnone : (Config.ofCleanNullCheck "id").gateFailure? (.ofTexts "id" [some "1", none]) =
        none := rfl
    simp [hnone] at hfail
  have hsome : (Audit.run (.ofCleanNullCheck "id") (.ofTexts "id" [some "1", none])
      (fun _ => .ok .empty) ⟨⟨2024, 6, 1⟩, 10, 30, 0⟩).map (·.clean.isSome) = .ok true := rfl
  have hresults : (Audit.run (.ofCleanNullCheck "id") (.ofTexts "id" [some "1", none])
      (fun _ => .ok .empty) ⟨⟨2024, 6, 1⟩, 10, 30, 0⟩).map
        (·.results.map fun o => (o.writes, o.violating)) =
      .ok [(true, some (.ofTexts "id" [none]))] := rfl
  rw [ha, Except.map, Except.ok.injEq] at hsome hresults
  obtain ⟨clean, hclean⟩ := Option.isSome_iff_exists.1 hsome
  have hmem : (true, some (Table.ofTexts "id" [none])) ∈
      a.results.map fun o => (o.writes, o.violating) := by
    simp [hresults]
  obtain ⟨o, ho, hv⟩ := List.mem_map.1 hmem
  obtain ⟨hwrites, hviolating⟩ := Prod.mk.inj hv
  obtain ⟨d, hd, rfl⟩ := hc.clean_eq_filter hclean
  cases hd
  refine ⟨a, _, o, _, ha, hc.status, hclean, ho, hwrites, hviolating, List.mem_singleton_self _, ?_⟩
  rw [Table.mem_filter, Table.hasPartner_of_missing ⟨"id", List.mem_singleton_self _, rfl⟩]
  exact ⟨List.mem_cons_of_mem _ (List.mem_singleton_self _), rfl⟩

end TableAudit
