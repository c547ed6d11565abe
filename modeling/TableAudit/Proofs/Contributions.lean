import TableAudit.Proofs.Subpopulation

/-!
# What each instance contributes

Every instance of the plan of a completed run leaves exactly one thing behind, a result, a table of
profiles or a diagnostic, and each list of the audit has its entries in the order of the plan. The
plan follows the configuration: rule by rule, and for a rule column by column, or all its columns
at once.
-/

namespace TableAudit

/-- What an instance leaves in one of the lists of an audit. -/
inductive Contribution
  | result (o : Outcome)
  | profiling (p : Profiling)
  | diagnostic (d : Diagnostic)

namespace Contribution

def result? : Contribution → Option Outcome
  | result o => some o
  | _ => none

def profiling? : Contribution → Option Profiling
  | profiling p => some p
  | _ => none

def diagnostic? : Contribution → Option Diagnostic
  | diagnostic d => some d
  | _ => none

/-- A contribution has the code of the rule of an instance, and a result also its label. -/
def IsOf (i : Instance) : Contribution → Prop
  | result o => o.code = i.head.code ∧ o.label = i.label
  | profiling p => p.code = i.head.code
  | diagnostic d => d.code = i.head.code

end Contribution

def Diagnostic.ofFailure? {ε α : Type} (code : String) (message : ε → String) :
    Except ε α → Option Diagnostic
  | .ok _ => none
  | .error e => some ⟨code, message e⟩

namespace Instance

def contribution (i : Instance) : Except CheckError Verdict → Contribution
  | .ok (.outcome o) => .result o
  | .ok (.profiling p) => .profiling p
  | .error e => .diagnostic (i.skipped e)

private theorem isOf_contribution (i : Instance) (t : Table) (ctx : Context) (entity : String) :
    (i.contribution (i.evaluate t ctx entity)).IsOf i := by
  have hscore : (i.contribution ((i.score t ctx entity).map .outcome)).IsOf i := by
    rw [score_eq]
    cases i.rule.evaluate i.fields ctx t with
    | error e => rfl
    | ok f => exact ⟨rfl, rfl⟩
  unfold evaluate
  split
  · next h output hr =>
    have hcode : h.code = i.head.code := by rw [head, hr]; rfl
    cases profileTable t i.fields with
    | error e => rfl
    | ok table => exact hcode
  · exact hscore

end Instance

namespace Evaluation

def contributions (e : Evaluation) : List (Instance × Contribution) :=
  e.items.map fun (i, v) => (i, i.contribution v)

variable (e : Evaluation)

private theorem outcomes_eq_contributions :
    e.outcomes = e.contributions.filterMap (·.2.result?) := by
  rw [outcomes, contributions, List.filterMap_map]
  apply List.filterMap_congr
  rintro ⟨i, v⟩ -
  rcases v with _ | _ | _ <;> rfl

theorem profilings_eq_contributions :
    e.profilings = e.contributions.filterMap (·.2.profiling?) := by
  rw [profilings, contributions, List.filterMap_map]
  apply List.filterMap_congr
  rintro ⟨i, v⟩ -
  rcases v with _ | _ | _ <;> rfl

end Evaluation

section Planning

/-- The rule by whose kind and columns a rule is planned: of a conditional rule the wrapped one. -/
def Rule.core : Rule → Rule
  | .conditional _ _ _ inner => inner
  | r => r

/-- The innermost rule of an accepted one is read from a record of its own. -/
theorem Rule.exists_plainRule_core {code : String} {record : Json.Value} {rule : Rule}
    (h : Rule.ofRecord code record = .ok (some rule)) :
    ∃ (r : RuleRecord) (kind : RuleKind), r.plainRule kind = .ok (some rule.core) := by
  have hy : Yields (Rule.ofRecord code record) fun found => ∀ rule ∈ found,
      ∃ (r : RuleRecord) (kind : RuleKind), r.plainRule kind = .ok (some rule.core) := by
    unfold Rule.ofRecord
    split
    · refine .bind fun r => ?_
      split
      · refine .bind fun condition => .bind fun filters =>
          .bind_of (p := fun found => Rule.innerOf r = .ok found) (fun _ h => h)
            fun inner hinner => ?_
        cases inner with
        | none => exact .pure (by simp)
        | some inner =>
          refine .bind fun threshold => .pure ?_
          intro rule hrule
          cases hrule
          obtain ⟨-, -, kind, q, -, -, -, -, -, hinner⟩ := Rule.exists_plainRule_of_innerOf hinner
          exact ⟨q, kind, hinner⟩
      · intro found hfound rule hrule
        obtain ⟨target, threshold, check, rfl, -⟩ := r.plainRule_eq _ found hfound rule hrule
        exact ⟨r, _, hfound.trans (congrArg _ (Option.mem_def.1 hrule))⟩
    · exact .throw
  exact hy _ h rule rfl

/-- So it has the fields of that record and the check that the record describes for its kind. -/
theorem Rule.exists_check_core {code : String} {record : Json.Value} {rule : Rule} {head : RuleHead}
    {check : Check} (h : Rule.ofRecord code record = .ok (some rule))
    (hcore : rule.core = .plain head check) :
    ∃ (r : RuleRecord) (fields : List String), r.fields? = .ok (some fields) ∧
      r.check head.kind = .ok check ∧ head.kind.takes check = true ∧
      head.target =
        if head.kind = .prerequisites then .columns fields else Target.ofList fields := by
  obtain ⟨r, kind, hplain⟩ := Rule.exists_plainRule_core h
  rw [hcore] at hplain
  obtain ⟨fields, check', threshold, hfields, hcheck, heq⟩ := RuleRecord.plainRule_eq_ok hplain
  cases heq
  exact ⟨r, fields, hfields, hcheck, r.takes_check kind _ hcheck, rfl⟩

/-- The instances that a rule is to have over some columns. -/
def Rule.expansion (r : Rule) (columns : List String) : List Instance :=
  let fields := r.core.head.target.resolve columns
  if r.head.kind = .prerequisites then []
  else if r.core.head.kind ∈ [.duplicateCheck, .referentialIntegrity, .statisticsSummary] then
    [⟨r, fields⟩]
  else fields.map fun field => ⟨r, [field]⟩

theorem RuleKind.takesAllFields_iff (kind : RuleKind) :
    kind.takesAllFields = true ↔
      kind ∈ [.duplicateCheck, .referentialIntegrity, .statisticsSummary] := by
  cases kind <;> simp [takesAllFields]

theorem Rule.planned_eq_core {code : String} {r : Rule} (h : r.ReadFor code) :
    r.planned = (r.core.head.kind, r.core.head.target) := by
  cases h <;> rfl

theorem Rule.instances_eq_expansion {code : String} {r : Rule} (h : r.ReadFor code)
    (columns : List String) : r.instances columns = r.expansion columns := by
  simp only [instances, expansion, planned_eq_core h, RuleKind.takesAllFields_iff]

/-- The plan lists the expansions of the accepted rules one after the other. -/
theorem Config.plan_acceptedRules (c : Config) (columns : List String) :
    plan c.acceptedRules columns = c.accepted.flatMap fun (_, r) => r.expansion columns := by
  rw [plan, acceptedRules_eq_accepted, List.flatMap_map]
  apply List.flatMap_congr
  rintro ⟨code, r⟩ h
  exact Rule.instances_eq_expansion (readFor_of_mem_accepted h) columns

end Planning

section Diagnostics

namespace Config

variable (c : Config) (subject : Table)

def rejections : List Diagnostic :=
  c.rules.filterMap fun (code, record) =>
    Diagnostic.ofFailure? code RecordError.message (Rule.ofRecord code record)

def filterRejections : List Diagnostic :=
  c.filter.filterMap fun entry =>
    Diagnostic.ofFailure? "filter" RecordError.message (RowFilter.ofJson "filter" entry)

def filtered : Except TableError Table := subject.filterBy .all (filtersOf c.filters)

/-- The table that the rules are evaluated on; a global filter that fails is left out. -/
def audited : Table := (c.filtered subject).toOption.getD subject

theorem scope_table : (Scope.of c subject).table = c.audited subject := by
  unfold audited
  cases h : c.filtered subject with
  | ok filtered => exact Scope.table_eq h
  | error e =>
    unfold filtered at h
    simp only [Scope.of]
    split
    · rfl
    · rw [h]

private theorem diagnosticsOf_parsed : diagnosticsOf c.parsed = c.rejections := by
  unfold diagnosticsOf parsed rejections
  rw [List.filterMap_map]
  apply List.filterMap_congr
  rintro ⟨code, record⟩ -
  dsimp only [Function.comp]
  cases Rule.ofRecord code record <;> rfl

private theorem filterDiagnosticsOf_filters :
    filterDiagnosticsOf c.filters = c.filterRejections := by
  unfold filterDiagnosticsOf filters filterRejections
  rw [List.filterMap_map]
  apply List.filterMap_congr
  intro entry _
  dsimp only [Function.comp]
  cases RowFilter.ofJson "filter" entry <;> rfl

private theorem scope_diagnostics :
    (Scope.of c subject).diagnostics = c.filterRejections ++
      (Diagnostic.ofFailure? "filter" TableError.message (c.filtered subject)).toList := by
  rw [← filterDiagnosticsOf_filters]
  unfold filtered
  cases hf : filtersOf c.filters with
  | nil =>
    simp only [Scope.of, hf]
    rfl
  | cons f fs =>
    simp only [Scope.of, hf, Scope.diagnostics]
    cases subject.filterBy .all (f :: fs) <;> rfl

end Config

theorem Evaluation.diagnostics_eq_contributions (e : Evaluation) :
    e.diagnostics = e.scope.diagnostics ++ e.contributions.filterMap (·.2.diagnostic?) := by
  rw [diagnostics, contributions, List.filterMap_map]
  apply congrArg (e.scope.diagnostics ++ ·)
  apply List.filterMap_congr
  rintro ⟨i, v⟩ -
  rcases v with _ | _ | _ <;> rfl

theorem Audit.Completed.diagnostics_eq {a : Audit} {c : Config} {e : Evaluation}
    {diagnostics : List Diagnostic} {runTime : Calendar.Moment}
    (h : a.Completed c e diagnostics runTime) :
    a.diagnostics = diagnostics ++ e.diagnostics ++
      ((Audit.project c e.scope.table a.errors).bind
        (Diagnostic.ofFailure? "data" TableError.message)).toList := by
  rw [h.diagnostics, ← h.projection]
  congr 1
  rcases a.projection with _ | _ | _ <;> rfl

end Diagnostics

section Runs

variable {c : Config} {subject : Table} {resolve : Resolver} {runTime : Calendar.Moment}

theorem Evaluation.instances_of (rules : List Rule) :
    (Evaluation.of c rules subject resolve runTime).contributions.map (·.1) =
      plan rules (c.audited subject).names := by
  rw [← Config.scope_table]
  simp [contributions, Evaluation.of, Function.comp_def]

theorem Evaluation.isOf_of_mem {rules : List Rule} {x : Instance × Contribution}
    (h : x ∈ (Evaluation.of c rules subject resolve runTime).contributions) : x.2.IsOf x.1 := by
  simp only [contributions, Evaluation.of, List.map_map, List.mem_map] at h
  obtain ⟨i, -, rfl⟩ := h
  exact i.isOf_contribution _ _ _

/-- In a completed run each instance of the plan contributes one item, and the lists of the audit
are made of these items in the order of the plan. Among the diagnostics the instances that could not
be evaluated come after the records that are no rules and the failures of the global filter, and
before the failure of the clean copy. -/
theorem contributions_of_run {a : Audit} (ha : Audit.run c subject resolve runTime = .ok a)
    (hs : a.status = .completed) :
    ∃ items : List (Instance × Contribution),
      items.map (·.1) = plan c.acceptedRules (c.audited subject).names ∧
      (plan c.acceptedRules (c.audited subject).names =
        c.accepted.flatMap fun (_, r) => r.expansion (c.audited subject).names) ∧
      (∀ x ∈ c.accepted, x.2.head.code = x.1) ∧
      (∀ x ∈ items, x.2.IsOf x.1) ∧
      a.results = items.filterMap (·.2.result?) ∧
      a.profilings = items.filterMap (·.2.profiling?) ∧
      a.diagnostics = c.rejections ++ c.filterRejections ++
        (Diagnostic.ofFailure? "filter" TableError.message (c.filtered subject)).toList ++
        items.filterMap (·.2.diagnostic?) ++
        ((Audit.project c (c.audited subject) a.errors).bind
          (Diagnostic.ofFailure? "data" TableError.message)).toList := by
  have hc := Audit.completed_of_run ha hs
  have htable : (Evaluation.of c c.acceptedRules subject resolve runTime).scope.table =
      c.audited subject := c.scope_table subject
  have hscope : (Evaluation.of c c.acceptedRules subject resolve runTime).scope.diagnostics = _ :=
    c.scope_diagnostics subject
  refine ⟨(Evaluation.of c c.acceptedRules subject resolve runTime).contributions,
    Evaluation.instances_of _, c.plan_acceptedRules _, fun x hx =>
      (Config.readFor_of_mem_accepted hx).code_eq, fun x hx => Evaluation.isOf_of_mem hx, ?_, ?_, ?_⟩
  · rw [hc.results, Evaluation.outcomes_eq_contributions]
  · rw [hc.profilings, Evaluation.profilings_eq_contributions]
  · rw [hc.diagnostics_eq, Evaluation.diagnostics_eq_contributions, c.diagnosticsOf_parsed,
      hscope, htable]
    simp only [List.append_assoc]

/-- A configuration with a rule for two columns, a record of an unknown kind and an entry of the
global filter that is none. -/
def Config.ofFlawed (present absent : String) : Config :=
  { Config.blank with
    filter := [.null]
    rules := [("999", .null), ("101", .object [("fields", .list [.text present, .text absent])])] }

/-- Of two instances, the one for the column that is there comes to a result and the other one to a
diagnostic. -/
theorem contributions_of_run_flawed :
    ∃ (a : Audit) (items : List (Instance × Contribution)),
      Audit.run (.ofFlawed "id" "name") (.ofTexts "id" [some "1"]) (fun _ => .ok .empty)
        ⟨⟨2024, 6, 1⟩, 10, 30, 0⟩ = .ok a ∧ a.status = .completed ∧
      items.length = 2 ∧ a.results = items.filterMap (·.2.result?) ∧
      a.results.map (·.label) = ["id"] ∧ a.profilings.length = 0 ∧
      a.diagnostics.map (·.code) = ["999", "filter", "101"] := by
  obtain ⟨a, ha, hs, hlabels, hprofilings, hcodes⟩ : ∃ a,
      Audit.run (.ofFlawed "id" "name") (.ofTexts "id" [some "1"]) (fun _ => .ok .empty)
        ⟨⟨2024, 6, 1⟩, 10, 30, 0⟩ = .ok a ∧ a.status = .completed ∧
      a.results.map (·.label) = ["id"] ∧ a.profilings.length = 0 ∧
      a.diagnostics.map (·.code) = ["999", "filter", "101"] := ⟨_, rfl, rfl, rfl, rfl, rfl⟩
  obtain ⟨items, hitems, -, -, -, hr, -, -⟩ := contributions_of_run ha hs
  have hlength : items.length = 2 := by
    rw [← List.length_map (·.1), hitems]
    rfl
  exact ⟨a, items, ha, hs, hlength, hr, hlabels, hprofilings, hcodes⟩

end Runs

end TableAudit
