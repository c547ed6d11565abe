import TableAudit.Proofs.ErrorTable
import TableAudit.Proofs.Findings

/-!
# The course of a run

Either its gate stops a run, with the failure of the gate as the only result, or all planned
instances are evaluated and each outcome follows from a finding that fits the audited table. In both
cases there is an audit, unless the evaluation of an instance overflows.
-/

namespace TableAudit

namespace Evaluation

def scored (e : Evaluation) : List (Instance × Outcome) :=
  e.items.filterMap fun
    | (i, .ok (.outcome o)) => some (i, o)
    | _ => none

theorem outcomes_eq_scored (e : Evaluation) : e.outcomes = e.scored.map (·.2) := by
  unfold outcomes scored
  rw [List.map_filterMap]
  congr 1
  funext item
  rcases item with ⟨i, _ | _ | _⟩ <;> rfl

end Evaluation

theorem Instance.score_of_evaluate {i : Instance} {t : Table} {ctx : Context} {entity : String}
    {o : Outcome} (h : i.evaluate t ctx entity = .ok (.outcome o)) :
    i.score t ctx entity = .ok o := by
  unfold evaluate at h
  split at h
  · split at h <;> simp at h
  · simpa [map_eq_ok] using h

theorem Instance.evaluate_eq_overflow (i : Instance) (t : Table) (ctx : Context)
    (entity : String) :
    i.evaluate t ctx entity = .error .overflow ↔
      i.rule.evaluate i.fields ctx t = .error .overflow := by
  obtain ⟨r, fields⟩ := i
  unfold evaluate
  split
  · next h output hr =>
    have hrule : r.reachesLimit = false := by rw [show r = _ from hr]; rfl
    have hnever := r.neverOverflows_evaluate hrule fields ctx t
    refine iff_of_false (fun he => ?_) fun he => hnever _ he rfl
    split at he <;> cases he
  · rw [score_eq, map_eq_error, map_eq_error]

section Outcomes

variable {c : Config} {rules : List Rule} {subject : Table} {resolve : Resolver}
  {runTime : Calendar.Moment}

theorem Evaluation.overflows_eq_true {e : Evaluation}
    (he : e = .of c rules subject resolve runTime) :
    e.overflows = true ↔ ∃ i ∈ plan rules e.scope.table.names,
      i.rule.evaluate i.fields ⟨e.references, runTime.date⟩ e.scope.table = .error .overflow := by
  subst he
  simp only [overflows, Evaluation.of, List.any_map, List.any_eq_true, Function.comp_apply]
  refine exists_congr fun i => and_congr_right fun _ => ?_
  rw [← i.evaluate_eq_overflow _ _ c.input.metadata.entityCode]
  generalize i.evaluate _ _ _ = v
  rcases v with e | v
  · cases e <;> simp
  · simp

theorem finding_of_scored {i : Instance} {o : Outcome} {e : Evaluation}
    (he : e = .of c rules subject resolve runTime) (h : (i, o) ∈ e.scored) :
    ∃ f, i.rule.evaluate i.fields ⟨e.references, runTime.date⟩ e.scope.table = .ok f ∧
      o = i.outcomeOf e.scope.table c.input.metadata.entityCode f := by
  simp only [Evaluation.scored, List.mem_filterMap] at h
  obtain ⟨item, hitem, heq⟩ := h
  subst he
  obtain ⟨j, -, rfl⟩ := List.mem_map.1 hitem
  split at heq
  · next i' o' hj =>
    obtain ⟨rfl, hv⟩ := Prod.mk.inj hj
    obtain ⟨rfl, rfl⟩ := Prod.mk.inj (Option.some.inj heq)
    have hs := Instance.score_of_evaluate hv
    rw [Instance.score_eq, map_eq_ok] at hs
    obtain ⟨f, hf, rfl⟩ := hs
    exact ⟨f, hf, rfl⟩
  · simp at heq

theorem finding_of_outcome {o : Outcome} {e : Evaluation}
    (he : e = .of c rules subject resolve runTime) (h : o ∈ e.outcomes) :
    ∃ (i : Instance) (f : Finding),
      i.rule.evaluate i.fields ⟨e.references, runTime.date⟩ e.scope.table = .ok f ∧
        o = i.outcomeOf e.scope.table c.input.metadata.entityCode f := by
  rw [e.outcomes_eq_scored] at h
  obtain ⟨⟨i, o⟩, hio, rfl⟩ := List.mem_map.1 h
  exact ⟨i, finding_of_scored he hio⟩

private theorem keeps_outcomeOf (i : Instance) (t : Table) (entity : String) (f : Finding) :
    (i.outcomeOf t entity f).Keeps t.fields := by
  intro rows h
  obtain ⟨-, rfl⟩ := Instance.violating_outcomeOf.1 h
  rfl

theorem written?_outcomeOf {i : Instance} {t : Table} {entity : String} {f : Finding}
    (h : (i.head.writes && f.failedCount > 0) = true) :
    (i.outcomeOf t entity f).written? = some (t.select f.failed) := by
  simp only [Outcome.written?, Instance.outcomeOf, Instance.outcome, h, if_true]

private theorem keeps_outcomes {e : Evaluation} (he : e = .of c rules subject resolve runTime) :
    ∀ o ∈ e.outcomes, o.Keeps e.scope.table.fields := by
  intro o ho
  obtain ⟨i, f, -, rfl⟩ := finding_of_outcome he ho
  exact keeps_outcomeOf i _ _ f

end Outcomes

namespace Audit

structure Stopped (a : Audit) (failure : Outcome) (subject : Table)
    (diagnostics : List Diagnostic) : Prop where
  status : a.status = .prerequisitesFailed
  results : a.results = [failure]
  errors_fields : a.errors.fields = subject.fields.tagged
  errors_rows : a.errors.rows = []
  profilings : a.profilings = []
  projection : a.projection = none
  diagnostics : a.diagnostics = diagnostics
  testedRows : a.testedRows = subject.height

/-- An audit that sums up an evaluation. -/
structure Completed (a : Audit) (c : Config) (e : Evaluation) (diagnostics : List Diagnostic)
    (runTime : Calendar.Moment) : Prop where
  status : a.status = .completed
  results : a.results = e.outcomes
  errors_fields : a.errors.fields = e.scope.table.fields.tagged
  errors_rows : a.errors.rows =
    e.outcomes.flatMap (·.errorRows e.scope.table.fields runTime.text)
  profilings : a.profilings = e.profilings
  projection : a.projection = project c e.scope.table a.errors
  diagnostics : a.diagnostics = diagnostics ++ e.diagnostics ++
    match a.projection with
    | some (.error err) => [⟨"data", err.message⟩]
    | _ => []
  testedRows : a.testedRows = e.scope.table.height

private theorem stopped_of_keeps {failure : Outcome} (h : failure.violating = none)
    (subject : Table)
    (diagnostics : List Diagnostic) (runTime : Calendar.Moment) :
    ∃ a, stopped failure subject diagnostics runTime = .ok a ∧
      a.Stopped failure subject diagnostics := by
  have hk : ∀ o ∈ [failure], o.Keeps subject.fields := by simp [Outcome.Keeps, h]
  obtain ⟨sum, hs, hres, hf, hr⟩ := aggregate_eq_ok hk runTime.text
  have hw : failure.written? = none := by simp [Outcome.written?, h]
  refine ⟨_, bind_eq_ok.2 ⟨sum, hs, rfl⟩, rfl, hres, hf, ?_, rfl, rfl, rfl, rfl⟩
  simpa [Outcome.errorRows, hw] using hr

private theorem completed_of_keeps {e : Evaluation}
    (h : ∀ o ∈ e.outcomes, o.Keeps e.scope.table.fields)
    (c : Config) (diagnostics : List Diagnostic) (runTime : Calendar.Moment) :
    ∃ a, completed c e diagnostics runTime = .ok a ∧ a.Completed c e diagnostics runTime := by
  obtain ⟨sum, hs, hres, hf, hr⟩ := aggregate_eq_ok h runTime.text
  exact ⟨_, bind_eq_ok.2 ⟨sum, hs, rfl⟩, rfl, hres, hf, hr, rfl, rfl, rfl, rfl⟩

end Audit

/-- The failure with which the gate stops a run, if it does. -/
def Config.gateFailure? (c : Config) (subject : Table) : Option Outcome :=
  ((Config.prerequisites? c.acceptedRules).map (Guard.of · subject)).bind
    (·.failure? subject.height c.input.metadata.entityCode)

/-- A gate stops a run for its guarding rule and with the gate's message. -/
theorem Config.gateFailure?_eq_some {c : Config} {subject : Table} {failure : Outcome} :
    c.gateFailure? subject = some failure ↔
      ∃ rule message, Config.prerequisites? c.acceptedRules = some rule ∧
        (Guard.of rule subject).gate.message? = some message ∧
        failure = gateFailure rule.head (rule.head.target.resolve subject.names) message
          subject.height c.input.metadata.entityCode := by
  simp only [gateFailure?, Option.bind_eq_some_iff, Option.map_eq_some_iff, Guard.failure?]
  constructor
  · rintro ⟨_, ⟨rule, hr, rfl⟩, message, hm, rfl⟩
    exact ⟨rule, message, hr, hm, rfl⟩
  · rintro ⟨rule, message, hr, hm, rfl⟩
    exact ⟨_, ⟨rule, hr, rfl⟩, message, hm, rfl⟩

namespace Audit

variable {c : Config} {subject : Table} {resolve : Resolver} {runTime : Calendar.Moment}

theorem run_of_stopped {failure : Outcome} (h : c.gateFailure? subject = some failure)
    (resolve : Resolver) (runTime : Calendar.Moment) :
    ∃ a, run c subject resolve runTime = .ok a ∧
      a.Stopped failure subject (Config.diagnosticsOf c.parsed) := by
  have hrun : run c subject resolve runTime =
      (stopped failure subject (Config.diagnosticsOf c.parsed) runTime).mapError .table := by
    unfold Config.gateFailure? Config.acceptedRules at h
    simp only [run, Course.of, h]
    rfl
  have hv : failure.violating = none := by
    obtain ⟨rule, message, -, -, rfl⟩ := Config.gateFailure?_eq_some.1 h
    rfl
  obtain ⟨a, ha, hs⟩ := stopped_of_keeps hv subject (Config.diagnosticsOf c.parsed) runTime
  exact ⟨a, hrun.trans (mapError_eq_ok.2 ha), hs⟩

private theorem run_eq_of_passed (h : c.gateFailure? subject = none) :
    run c subject resolve runTime =
      let e := Evaluation.of c c.acceptedRules subject resolve runTime
      if e.overflows then .error .overflow
      else (completed c e (Config.diagnosticsOf c.parsed) runTime).mapError .table := by
  unfold Config.gateFailure? Config.acceptedRules at h
  simp only [run, Course.of, h]
  rfl

theorem run_of_evaluated (h : c.gateFailure? subject = none)
    (he : (Evaluation.of c c.acceptedRules subject resolve runTime).overflows = false) :
    ∃ a, run c subject resolve runTime = .ok a ∧
      a.Completed c (.of c c.acceptedRules subject resolve runTime)
        (Config.diagnosticsOf c.parsed) runTime := by
  obtain ⟨a, ha, hc⟩ := completed_of_keeps (keeps_outcomes rfl) c
    (Config.diagnosticsOf c.parsed) runTime
  refine ⟨a, ?_, hc⟩
  rw [run_eq_of_passed h]
  simp only [he, Bool.false_eq_true, if_false]
  exact mapError_eq_ok.2 ha

/-- A run overflows if its gate lets it pass and the evaluation of its rules overflows. -/
theorem run_eq_overflow : run c subject resolve runTime = .error .overflow ↔
    c.gateFailure? subject = none ∧
      (Evaluation.of c c.acceptedRules subject resolve runTime).overflows = true := by
  constructor
  · intro hrun
    cases hg : c.gateFailure? subject with
    | some failure =>
      obtain ⟨a, ha, -⟩ := run_of_stopped hg resolve runTime
      cases hrun.symm.trans ha
    | none =>
      refine ⟨rfl, Bool.not_eq_false _ ▸ fun he => ?_⟩
      obtain ⟨a, ha, -⟩ := run_of_evaluated hg he
      cases hrun.symm.trans ha
  · rintro ⟨hg, he⟩
    rw [run_eq_of_passed hg]
    exact if_pos he

theorem exists_run (h : run c subject resolve runTime ≠ .error .overflow) :
    ∃ a, run c subject resolve runTime = .ok a := by
  cases hg : c.gateFailure? subject with
  | some failure =>
    obtain ⟨a, ha, -⟩ := run_of_stopped hg resolve runTime
    exact ⟨a, ha⟩
  | none =>
    have he : (Evaluation.of c c.acceptedRules subject resolve runTime).overflows = false := by
      rw [← Bool.not_eq_true]
      exact fun he => h (run_eq_overflow.2 ⟨hg, he⟩)
    obtain ⟨a, ha, -⟩ := run_of_evaluated hg he
    exact ⟨a, ha⟩

/-- What is known of the audit that a run came to: the run was stopped by its gate, or it evaluated
all accepted rules. -/
theorem cases_of_run {a : Audit} (ha : run c subject resolve runTime = .ok a) :
    (∃ failure, c.gateFailure? subject = some failure ∧
        a.Stopped failure subject (Config.diagnosticsOf c.parsed)) ∨
      (c.gateFailure? subject = none ∧
        a.Completed c (.of c c.acceptedRules subject resolve runTime)
          (Config.diagnosticsOf c.parsed) runTime) := by
  cases hg : c.gateFailure? subject with
  | some failure =>
    obtain ⟨a', ha', hs⟩ := run_of_stopped hg resolve runTime
    obtain rfl : a' = a := Except.ok.inj (ha'.symm.trans ha)
    exact .inl ⟨failure, rfl, hs⟩
  | none =>
    have he : (Evaluation.of c c.acceptedRules subject resolve runTime).overflows = false := by
      rw [← Bool.not_eq_true]
      intro he
      cases ha.symm.trans (run_eq_overflow.2 ⟨hg, he⟩)
    obtain ⟨a', ha', hc⟩ := run_of_evaluated hg he
    obtain rfl : a' = a := Except.ok.inj (ha'.symm.trans ha)
    exact .inr ⟨rfl, hc⟩

theorem completed_of_run {a : Audit} (ha : run c subject resolve runTime = .ok a)
    (hs : a.status = .completed) :
    a.Completed c (.of c c.acceptedRules subject resolve runTime) (Config.diagnosticsOf c.parsed)
      runTime := by
  rcases cases_of_run ha with ⟨failure, -, hstop⟩ | ⟨-, hc⟩
  · simp [hstop.status] at hs
  · exact hc

end Audit

def Config.ofNullCheck (field : String) : Config :=
  { Config.blank with rules := [("101", .object [("fields", .text field)])] }

def Json.Value.ofAccount (last : Int) : Json.Value :=
  .object [("fields", .list [.text "account"]), ("initial_position", .number (.int 1)),
    ("final_position", .number (.int last)), ("expected_value", .list [.text "PE", .text "CO"])]

def Config.ofAccount (last : Int) : Config :=
  { Config.blank with rules := [("117", .ofAccount last)] }

def Table.ofTexts (name : String) (texts : List (Option String)) : Table where
  fields := [⟨name, .text⟩]
  rows := texts.map fun text => [text.map Cell.text]
  rect := by simp
  distinct := by simp

end TableAudit
