import TableAudit.Proofs.AntiJoin
import TableAudit.Proofs.Contributions
import TableAudit.Proofs.ErrorColumns
import TableAudit.Proofs.Skipping

/-!
# What the time of a run decides

The time of a run is written into its error table, and its date is what a time range is measured
against whose reference is a word for today and no column. Nothing else looks at it. So two runs
that differ in their time only come to the same, but for the results of such time ranges, and
without any of these their error tables have the same cells outside the column for the time.
-/

namespace TableAudit

/-- Whether a check measures the time to the day of the run. -/
def Check.readsClock (columns : List String) : Check → Bool
  | .timeRange reference .. => RowCheck.meansToday reference && !columns.contains reference
  | _ => false

def Rule.readsClock (columns : List String) : Rule → Bool
  | .plain _ c => c.readsClock columns
  | .conditional _ _ _ inner => inner.readsClock columns

def Stage.instances : Stage → List Instance
  | .stopped _ => []
  | .evaluated e => e.items.map (·.1)

/-- The results of a run, each with its instance; the failure of a gate has none. -/
def Stage.results : Stage → List (Option Instance × Outcome)
  | .stopped failure => [(none, failure)]
  | .evaluated e => e.scored.map fun (i, o) => (some i, o)

/-- Two results are of the same instance and differ at most in what was found, and they do not
differ at all unless the rule measures the time to the day of the run. -/
structure SameButForToday (columns : List String) (x y : Option Instance × Outcome) : Prop where
  source : x.1 = y.1
  words : y.2 = { x.2 with tested := y.2.tested, failed := y.2.failed, violating := y.2.violating }
  found : (∀ i ∈ x.1, i.rule.readsClock columns = false) → x.2 = y.2

/-- Two tables with the same columns have, row by row, the same cells in all columns but one. -/
structure Table.SameOutside (column : String) (t u : Table) : Prop where
  fields : t.fields = u.fields
  cells : List.Forall₂ (fun r q => ∀ name, name ≠ column → t.fields.cell r name =
    u.fields.cell q name) t.rows u.rows

/-- Two audits and the stages they come from agree, but for what is due to the day. -/
structure SameRunButForToday (columns : List String) (rules : List Rule) (a a' : Audit)
    (s s' : Stage) : Prop where
  status : a.status = a'.status
  profilings : a.profilings = a'.profilings
  diagnostics : a.diagnostics = a'.diagnostics
  instances : s.instances = s'.instances
  results : a.results = s.results.map (·.2) ∧ a'.results = s'.results.map (·.2)
  found : List.Forall₂ (SameButForToday columns) s.results s'.results
  /-- Without rules that depend on the day nothing else differs. -/
  errors : (∀ r ∈ rules, r.readsClock columns = false) →
    a.results = a'.results ∧ a.errors.SameOutside runTimeColumn a'.errors

section Evaluations

variable {t : Table} {ctx ctx' : Context}

theorem RowCheck.referenceDate_of_day {s : Schema} {reference : String}
    (h : (meansToday reference && !s.names.contains reference) = false) (format : Calendar.Format)
    (today today' : Calendar.Date) :
    referenceDate s reference format today = referenceDate s reference format today' := by
  unfold referenceDate
  cases hi : s.index? reference with
  | some i => rfl
  | none =>
    have hn : reference ∉ s.names := Schema.index?_eq_none.1 hi
    have hw : meansToday reference = false := by simpa [hn] using h
    simp only [hw]
    rfl

theorem Context.reference_congr (h : ctx.references = ctx'.references) :
    ctx.reference = ctx'.reference := by
  funext source
  simp only [reference, h]

theorem Context.shape_congr (h : ctx.references = ctx'.references) : ctx.shape = ctx'.shape := by
  funext source
  simp only [shape, h]

theorem Check.evaluate_of_day {c : Check} (hc : c.readsClock t.names = false)
    (h : ctx.references = ctx'.references) (kind : RuleKind) (fields : List String) :
    c.evaluate kind fields t ctx = c.evaluate kind fields t ctx' := by
  have href := Context.reference_congr h
  cases c with
  | referential source names => simp only [evaluate, href]
  | email source name tokens => simp only [evaluate, href]
  | timeRange reference format unit bounds =>
    have hdate := RowCheck.referenceDate_of_day hc format ctx.runDate ctx'.runDate
    simp only [evaluate, RowCheck.timeRange, hdate]
  | _ => rfl

/-- Conditions leave rows out but no columns, so that a reference is a column inside of them exactly
if it is one outside. -/
theorem Rule.evaluate_of_day {r : Rule} (hr : r.readsClock t.names = false)
    (h : ctx.references = ctx'.references) (fields : List String) :
    r.evaluate fields ctx t = r.evaluate fields ctx' t := by
  induction r generalizing t with
  | plain head check => exact check.evaluate_of_day hr h head.kind fields
  | conditional head condition filters inner ih =>
    simp only [evaluate]
    cases t.filterMask condition filters with
    | error e => rfl
    | ok marks =>
      have hinner := ih (t := t.select marks) hr
      simp only [Except.mapError, bind, Except.bind, hinner]

/-- An instance was evaluated in two runs with the same verdict, or with results that may differ on
account of the day. -/
inductive SameItemButForToday (columns : List String) :
    Instance × Except CheckError Verdict → Instance × Except CheckError Verdict → Prop
  | same (x : Instance × Except CheckError Verdict) : SameItemButForToday columns x x
  | today {i : Instance} {o o' : Outcome}
      (h : SameButForToday columns (some i, o) (some i, o')) :
      SameItemButForToday columns (i, .ok (.outcome o)) (i, .ok (.outcome o'))

theorem Rule.profiles_of_readsClock {r : Rule} {columns : List String}
    (h : r.readsClock columns = true) : r.profiles = false := by
  cases r with
  | plain head check =>
    cases check with
    | timeRange reference format unit bounds => rfl
    | _ => cases h
  | conditional head condition filters inner => rfl

theorem Rule.reachesLimit_of_readsClock {r : Rule} {columns : List String}
    (h : r.readsClock columns = true) : r.reachesLimit = false := by
  induction r with
  | plain head check =>
    cases check with
    | timeRange reference format unit bounds => rfl
    | _ => cases h
  | conditional head condition filters inner ih => exact ih h

theorem Instance.evaluate_of_day {i : Instance} (hi : i.rule.readsClock t.names = false)
    (h : ctx.references = ctx'.references) (entity : String) :
    i.evaluate t ctx entity = i.evaluate t ctx' entity := by
  have hrule := Rule.evaluate_of_day hi h i.fields
  unfold evaluate score
  simp only [hrule]

private theorem sameItem_of_day (h : ctx.references = ctx'.references) (i : Instance)
    (entity : String) :
    SameItemButForToday t.names (i, i.evaluate t ctx entity) (i, i.evaluate t ctx' entity) := by
  obtain ⟨r, fields⟩ := i
  cases hr : r.readsClock t.names with
  | false =>
    rw [Instance.evaluate_of_day (i := ⟨r, fields⟩) hr h entity]
    exact .same _
  | true =>
    have hp := Rule.profiles_of_readsClock hr
    have htogether := Rule.evaluate_together (rfl : t.fields = t.fields) (Context.shape_congr h)
      (Rule.reachesLimit_of_readsClock hr) fields
    rw [evaluate_scored hp, evaluate_scored hp]
    cases hx : r.evaluate fields ctx t <;> cases hy : r.evaluate fields ctx' t <;>
      rw [hx, hy] at htogether <;> cases htogether
    · exact .same _
    · refine .today ⟨rfl, rfl, fun hread => ?_⟩
      have hfalse := hread _ rfl
      simp [hr] at hfalse

end Evaluations

section Items

variable {columns : List String} {xs ys : List (Instance × Except CheckError Verdict)}

/-- Whatever is told of items regardless of their outcomes is the same. -/
private theorem map_eq {α : Type} {f : Instance × Except CheckError Verdict → α}
    (hf : ∀ i o o', f (i, .ok (.outcome o)) = f (i, .ok (.outcome o')))
    (h : List.Forall₂ (SameItemButForToday columns) xs ys) : xs.map f = ys.map f := by
  induction h with
  | nil => rfl
  | cons hxy _ ih =>
    rw [List.map_cons, List.map_cons, ih]
    cases hxy with
    | same x => rfl
    | today h => exact congrArg (· :: _) (hf _ _ _)

private theorem any_eq {f : Instance × Except CheckError Verdict → Bool}
    (hf : ∀ i o, f (i, .ok (.outcome o)) = false)
    (h : List.Forall₂ (SameItemButForToday columns) xs ys) : xs.any f = ys.any f := by
  have hmap := map_eq (fun i o o' => (hf i o).trans (hf i o').symm) h
  have hany := congrArg (List.any · id) hmap
  simpa only [List.any_map, Function.id_comp] using hany

private theorem filterMap_eq {α : Type} {f : Instance × Except CheckError Verdict → Option α}
    (hf : ∀ i o, f (i, .ok (.outcome o)) = none)
    (h : List.Forall₂ (SameItemButForToday columns) xs ys) : xs.filterMap f = ys.filterMap f := by
  have hmap := map_eq (fun i o o' => (hf i o).trans (hf i o').symm) h
  have hfilter := congrArg (List.filterMap id) hmap
  simpa only [List.filterMap_map, Function.id_comp] using hfilter

end Items

section Evaluations

variable {c : Config} {rules : List Rule} {subject : Table} {resolve : Resolver}
  {time time' : Calendar.Moment} {e e' : Evaluation}

theorem names_audited (c : Config) (subject : Table) :
    (c.audited subject).names = subject.names := by
  unfold Config.audited Config.filtered
  rw [Table.filterBy_eq_select]
  cases subject.filterMask .all (Config.filtersOf c.filters) <;> rfl

theorem items_of_day (he : e = .of c rules subject resolve time)
    (he' : e' = .of c rules subject resolve time') :
    List.Forall₂ (SameItemButForToday subject.names) e.items e'.items := by
  subst he he'
  have hnames : (Scope.of c subject).table.names = subject.names := by
    rw [Config.scope_table, names_audited]
  rw [Evaluation.of, Evaluation.of, List.forall₂_map_left_iff, List.forall₂_map_right_iff,
    List.forall₂_same]
  intro i _
  have hreferences : (Context.mk (loadReferences rules resolve) time.date).references =
      (Context.mk (loadReferences rules resolve) time'.date).references := rfl
  rw [← hnames]
  exact sameItem_of_day hreferences i _

private theorem scored_of_day (he : e = .of c rules subject resolve time)
    (he' : e' = .of c rules subject resolve time') :
    List.Forall₂ (SameButForToday subject.names) (Stage.evaluated e).results
      (Stage.evaluated e').results := by
  rw [Stage.results, Stage.results, List.forall₂_map_left_iff, List.forall₂_map_right_iff]
  refine List.rel_filterMap ?_ (items_of_day he he')
  intro x y hxy
  cases hxy with
  | same x =>
    rcases x with ⟨i, _ | _ | _⟩
    · exact .none
    · exact .some ⟨rfl, rfl, fun _ => rfl⟩
    · exact .none
  | today h => exact .some h

private theorem overflows_of_day (he : e = .of c rules subject resolve time)
    (he' : e' = .of c rules subject resolve time') : e.overflows = e'.overflows :=
  any_eq (fun _ _ => rfl) (items_of_day he he')

private theorem profilings_of_day (he : e = .of c rules subject resolve time)
    (he' : e' = .of c rules subject resolve time') : e.profilings = e'.profilings :=
  filterMap_eq (fun _ _ => rfl) (items_of_day he he')

private theorem diagnostics_of_day (he : e = .of c rules subject resolve time)
    (he' : e' = .of c rules subject resolve time') : e.diagnostics = e'.diagnostics := by
  have hscope : e.scope = e'.scope := by rw [he, he']; rfl
  unfold Evaluation.diagnostics
  rw [hscope]
  exact congrArg _ (filterMap_eq (fun _ _ => rfl) (items_of_day he he'))

end Evaluations

namespace Table

private theorem unmatched_together {t u other other' : Table} (h : t.names = u.names)
    (ho : other.names = other'.names) (on otherOn : List String) :
    EndTogether (t.unmatched other on otherOn) (u.unmatched other' on otherOn) := by
  unfold unmatched
  dsimp only
  split
  · exact .error _
  · exact (keys_together ho otherOn).bind fun _ _ _ =>
      (keys_together h on).bind fun _ _ _ => .ok trivial

/-- A projection is refused on account of the names of columns. -/
theorem antiJoin_together {t u other other' : Table} (h : t.names = u.names)
    (ho : other.names = other'.names) (on otherOn : List String) :
    EndTogether (t.antiJoin other on otherOn) (u.antiJoin other' on otherOn) :=
  (unmatched_together h ho on otherOn).map _ _

end Table

namespace Audit

theorem projectFailure_eq (c : Config) (t : Table) {errors errors' : Table}
    (h : errors.names = errors'.names) :
    (project c t errors).bind (Diagnostic.ofFailure? "data" TableError.message) =
      (project c t errors').bind (Diagnostic.ofFailure? "data" TableError.message) := by
  unfold project
  split
  · next d _ =>
    split
    · have htogether := Table.antiJoin_together (t := t) rfl h d.fields d.fields
      simp only [cleanTable, Option.bind_some]
      cases hx : t.antiJoin errors d.fields d.fields <;>
        cases hy : t.antiJoin errors' d.fields d.fields <;>
        rw [hx, hy] at htogether <;> cases htogether <;> rfl
    · rfl
  · rfl

end Audit

section Runs

variable {c : Config} {rules : List Rule} {subject : Table} {resolve : Resolver}
  {time time' : Calendar.Moment} {e e' : Evaluation}

private theorem selects_of_mem (he : e = .of c rules subject resolve time) :
    ∀ o ∈ e.outcomes, o.Selects e.scope.table := by
  intro o ho
  obtain ⟨i, f, -, rfl⟩ := finding_of_outcome he ho
  exact selects_outcomeOf i _ _ f

private theorem rule_mem_of_plan {columns : List String} {i : Instance}
    (h : i ∈ plan rules columns) :
    i.rule ∈ rules := by
  obtain ⟨r, hr, hi⟩ := List.mem_flatMap.1 h
  rw [r.instances_eq_map] at hi
  obtain ⟨fields, -, rfl⟩ := List.mem_map.1 hi
  exact hr

private theorem outcomes_of_day (he : e = .of c rules subject resolve time)
    (he' : e' = .of c rules subject resolve time')
    (h : ∀ r ∈ rules, r.readsClock subject.names = false) : e.outcomes = e'.outcomes := by
  have hnames : (Scope.of c subject).table.names = subject.names := by
    rw [Config.scope_table, names_audited]
  have hitems : e.items = e'.items := by
    subst he he'
    apply List.map_congr_left
    intro i hi
    have hrule := h i.rule (rule_mem_of_plan hi)
    rw [← hnames] at hrule
    have hreferences : (Context.mk (loadReferences rules resolve) time.date).references =
        (Context.mk (loadReferences rules resolve) time'.date).references := rfl
    exact congrArg (Prod.mk i) (Instance.evaluate_of_day hrule hreferences _)
  rw [Evaluation.outcomes, Evaluation.outcomes, hitems]

private theorem sameOutside_of_outcomes {outcomes : List Outcome} {t errors errors' : Table}
    (h : ∀ o ∈ outcomes, o.Selects t) {written written' : String}
    (hf : errors.fields = t.fields.tagged) (hf' : errors'.fields = t.fields.tagged)
    (hr : errors.rows = outcomes.flatMap (·.errorRows t.fields written))
    (hr' : errors'.rows = outcomes.flatMap (·.errorRows t.fields written')) :
    errors.SameOutside runTimeColumn errors' := by
  refine ⟨hf.trans hf'.symm, ?_⟩
  simp only [Outcome.errorRows_eq_map] at hr hr'
  rw [hf, hf', hr, hr', ← List.map_flatMap, ← List.map_flatMap, List.forall₂_map_left_iff,
    List.forall₂_map_right_iff, List.forall₂_same]
  rintro ⟨o, r⟩ hp name hname
  obtain ⟨o', ho, hp⟩ := List.mem_flatMap.1 hp
  have hlength : r.length = t.fields.length := t.rect r ((h o' ho).mem_rows hp)
  have hleft := tagsOf_tagged hlength o.requirement written
  have hright := tagsOf_tagged hlength o.requirement written'
  by_cases herror : name = errorColumn
  · rw [herror, hleft.error, hright.error]
  · rw [hleft.others name herror hname, hright.others name herror hname]

private theorem stage_of_stopped {failure : Outcome} (h : c.gateFailure? subject = some failure) :
    (Course.of c subject resolve time).stage = .stopped failure := by
  unfold Config.gateFailure? Config.acceptedRules at h
  simp only [Course.of, h]

private theorem stage_of_evaluated (h : c.gateFailure? subject = none) :
    (Course.of c subject resolve time).stage =
      .evaluated (.of c c.acceptedRules subject resolve time) := by
  unfold Config.gateFailure? at h
  unfold Config.acceptedRules at h ⊢
  simp only [Course.of, h]

private theorem sameRun_of_stopped {a a' : Audit} {failure : Outcome}
    {diagnostics : List Diagnostic}
    (h : a.Stopped failure subject diagnostics) (h' : a'.Stopped failure subject diagnostics)
    (columns : List String) :
    SameRunButForToday columns rules a a' (.stopped failure) (.stopped failure) where
  status := h.status.trans h'.status.symm
  profilings := h.profilings.trans h'.profilings.symm
  diagnostics := h.diagnostics.trans h'.diagnostics.symm
  instances := rfl
  results := ⟨h.results, h'.results⟩
  found := .cons ⟨rfl, rfl, fun _ => rfl⟩ .nil
  errors _ := by
    refine ⟨h.results.trans h'.results.symm, h.errors_fields.trans h'.errors_fields.symm, ?_⟩
    rw [h.errors_rows, h'.errors_rows]
    exact .nil

private theorem sameRun_of_completed {a a' : Audit} {diagnostics : List Diagnostic}
    (he : e = .of c rules subject resolve time) (he' : e' = .of c rules subject resolve time')
    (h : a.Completed c e diagnostics time) (h' : a'.Completed c e' diagnostics time') :
    SameRunButForToday subject.names rules a a' (.evaluated e) (.evaluated e') := by
  have hscope : e.scope = e'.scope := by rw [he, he']; rfl
  have hfields : a.errors.fields = a'.errors.fields := by
    rw [h.errors_fields, h'.errors_fields, hscope]
  have hinstances : e.items.map (·.1) = e'.items.map (·.1) :=
    map_eq (fun _ _ _ => rfl) (items_of_day he he')
  refine ⟨h.status.trans h'.status.symm, ?_, ?_, hinstances, ⟨?_, ?_⟩, scored_of_day he he', ?_⟩
  · rw [h.profilings, h'.profilings, profilings_of_day he he']
  · have hprojection := Audit.projectFailure_eq c e'.scope.table (congrArg Schema.names hfields)
    rw [h.diagnostics_eq, h'.diagnostics_eq, diagnostics_of_day he he', hscope, hprojection]
  · rw [h.results, Evaluation.outcomes_eq_scored]
    simp [Stage.results, Function.comp_def]
  · rw [h'.results, Evaluation.outcomes_eq_scored]
    simp [Stage.results, Function.comp_def]
  · intro hclock
    have houtcomes := outcomes_of_day he he' hclock
    have hselects := selects_of_mem he
    refine ⟨by rw [h.results, h'.results, houtcomes], ?_⟩
    apply sameOutside_of_outcomes hselects h.errors_fields (hscope ▸ h'.errors_fields) h.errors_rows
    rw [h'.errors_rows, ← hscope, ← houtcomes]

private theorem overflow_of_day (h : Audit.run c subject resolve time = .error .overflow) :
    Audit.run c subject resolve time' = .error .overflow := by
  rw [Audit.run_eq_overflow] at h ⊢
  exact ⟨h.1, overflows_of_day rfl rfl ▸ h.2⟩

end Runs

/-- Two runs that differ in their time only both overflow, or they end alike, with the same profiles
and the same diagnostics. They evaluate the same instances, and the results are the same but for
those of time ranges that are measured to the day of the run. Without such rules their error tables
differ in the column for the time only. -/
theorem runs_at_two_times (c : Config) (subject : Table) (resolve : Resolver)
    (time time' : Calendar.Moment) :
    (Audit.run c subject resolve time = .error .overflow ∧
        Audit.run c subject resolve time' = .error .overflow) ∨
      ∃ a a', Audit.run c subject resolve time = .ok a ∧
        Audit.run c subject resolve time' = .ok a' ∧
        SameRunButForToday subject.names c.acceptedRules a a'
          (Course.of c subject resolve time).stage (Course.of c subject resolve time').stage := by
  by_cases hrun : Audit.run c subject resolve time = .error .overflow
  · exact .inl ⟨hrun, overflow_of_day hrun⟩
  obtain ⟨a, ha⟩ := Audit.exists_run hrun
  obtain ⟨a', ha'⟩ := Audit.exists_run (mt overflow_of_day hrun)
  refine .inr ⟨a, a', ha, ha', ?_⟩
  -- whether the gate stops a run does not depend on its time
  rcases Audit.cases_of_run ha with ⟨failure, hg, h⟩ | ⟨hg, h⟩
  · rcases Audit.cases_of_run ha' with ⟨failure', hg', h'⟩ | ⟨hg', -⟩
    · cases hg.symm.trans hg'
      rw [stage_of_stopped hg, stage_of_stopped hg]
      exact sameRun_of_stopped h h' _
    · cases hg.symm.trans hg'
  · rcases Audit.cases_of_run ha' with ⟨failure', hg', -⟩ | ⟨-, h'⟩
    · cases hg.symm.trans hg'
    · rw [stage_of_evaluated hg, stage_of_evaluated hg]
      exact sameRun_of_completed rfl rfl h h'

/-- The missing name is reported on both days. -/
theorem runs_at_two_times_names :
    ∃ a a', Audit.run (.ofNullCheck "name") (.ofTexts "name" [some "x", none])
        (fun _ => .ok .empty) ⟨⟨2024, 6, 1⟩, 10, 30, 0⟩ = .ok a ∧
      Audit.run (.ofNullCheck "name") (.ofTexts "name" [some "x", none])
        (fun _ => .ok .empty) ⟨⟨1999, 12, 31⟩, 0, 0, 0⟩ = .ok a' ∧
      (∀ r ∈ (Config.ofNullCheck "name").acceptedRules, r.readsClock ["name"] = false) ∧
      a.errors.rows =
        [[none, some (.text "Nulos - name"), some (.text "2024-06-01 10:30:00")]] ∧
      a.errors.SameOutside runTimeColumn a'.errors := by
  have hclock : ∀ r ∈ (Config.ofNullCheck "name").acceptedRules, r.readsClock ["name"] = false := by
    decide
  rcases runs_at_two_times (.ofNullCheck "name") (.ofTexts "name" [some "x", none])
    (fun _ => .ok .empty) ⟨⟨2024, 6, 1⟩, 10, 30, 0⟩ ⟨⟨1999, 12, 31⟩, 0, 0, 0⟩ with
    ⟨hrun, -⟩ | ⟨a, a', ha, ha', h⟩
  · cases hrun
  · refine ⟨a, a', ha, ha', hclock, ?_, (h.errors hclock).2⟩
    cases ha
    rfl

end TableAudit
