import Mathlib.Algebra.GroupWithZero.Nat
import Mathlib.Data.List.Forall2
import TableAudit.Proofs.Runs

/-!
# Rows of the error table

The error table of a run is made of one block for each outcome that is to be written and has failing
rows. A block has exactly the failing rows of the audited table, in their order, each with the
requirement of its outcome and the time of the run.
-/

namespace TableAudit

def Outcome.isWritten (o : Outcome) : Bool := o.writes && 0 < o.failed

private theorem flatMap_filter {α β : Type} {p : α → Bool} {f : α → List β} (items : List α)
    (h : ∀ a ∈ items, p a = false → f a = []) : (items.filter p).flatMap f = items.flatMap f := by
  induction items with
  | nil => rfl
  | cons a items ih =>
    have hi := ih fun b hb => h b (List.mem_cons_of_mem _ hb)
    cases hp : p a with
    | true => simp [hp, hi]
    | false => simp [hp, hi, h a List.mem_cons_self hp]

section Blocks

variable {i : Instance} {t : Table} {f : Finding} {entity : String}

theorem errorRows_outcomeOf (h : (i.outcomeOf t entity f).isWritten = true) (runTime : String) :
    (i.outcomeOf t entity f).errorRows t.fields runTime = (marked f.failed t.rows).map
      (·.tagged t.fields (i.outcomeOf t entity f).requirement runTime) := by
  simp only [Outcome.errorRows, written?_outcomeOf h]
  rfl

private theorem errorRows_eq_nil {o : Outcome} (h : o.isWritten = false) (s : Schema)
    (runTime : String) :
    o.errorRows s runTime = [] := by
  have hw : (o.writes && o.failed > 0) = false := h
  simp [Outcome.errorRows, Outcome.written?, hw]

/-- The block of a written outcome tags its failing rows one by one. -/
theorem tagsOf_errorRows (h : (i.outcomeOf t entity f).isWritten = true) (runTime : String) :
    List.Forall₂ (TagsOf t.fields t.fields.tagged (i.outcomeOf t entity f).requirement runTime)
      (marked f.failed t.rows) ((i.outcomeOf t entity f).errorRows t.fields runTime) := by
  rw [errorRows_outcomeOf h, List.forall₂_map_right_iff, List.forall₂_same]
  intro r hr
  exact tagsOf_tagged (t.rect r (mem_of_mem_marked hr)) _ _

theorem length_errorRows (hf : f.Fits t) (h : (i.outcomeOf t entity f).isWritten = true)
    (runTime : String) :
    ((i.outcomeOf t entity f).errorRows t.fields runTime).length = f.failedCount := by
  rw [errorRows_outcomeOf h, List.length_map]
  exact length_marked f.failed t.rows hf.length_failed

end Blocks

namespace Audit.Completed

variable {a : Audit} {c : Config} {rules : List Rule} {subject : Table} {resolve : Resolver}
  {runTime : Calendar.Moment} {diagnostics : List Diagnostic} {e : Evaluation}

/-- The error rows of an audit, by the instances whose outcomes are written. -/
theorem errors_rows_eq (h : a.Completed c e diagnostics runTime) :
    a.errors.rows = (e.scored.filter (·.2.isWritten)).flatMap
      (·.2.errorRows e.scope.table.fields runTime.text) := by
  rw [h.errors_rows, e.outcomes_eq_scored, List.flatMap_map, flatMap_filter]
  intro p _ hp
  exact errorRows_eq_nil hp _ _

private theorem height_errors (he : e = .of c rules subject resolve runTime)
    (h : a.Completed c e diagnostics runTime) :
    a.errors.height = ((a.results.filter Outcome.isWritten).map Outcome.failed).sum := by
  rw [Table.height, h.errors_rows_eq, h.results, e.outcomes_eq_scored, List.length_flatMap,
    List.filter_map, List.map_map]
  congr 1
  apply List.map_congr_left
  rintro ⟨i, o⟩ hio
  obtain ⟨hmem, hw⟩ := List.mem_filter.1 hio
  obtain ⟨f, hf, rfl⟩ := finding_of_scored he hmem
  exact length_errorRows (Rule.fits_of_evaluate hf) hw _

end Audit.Completed

/-- A run overflows if its gate lets it pass and the rule of a planned instance overflows. Only a
rule that asks for positions up to the last of 64 bits can do that. Any other run comes to an audit.
A stopped one has no error rows; those of a completed one are the blocks of its written outcomes,
one after the other. -/
theorem error_blocks_of_run (c : Config) (subject : Table) (resolve : Resolver)
    (runTime : Calendar.Moment) :
    let e := Evaluation.of c c.acceptedRules subject resolve runTime
    (Audit.run c subject resolve runTime = .error .overflow ↔
      c.gateFailure? subject = none ∧ ∃ i ∈ plan c.acceptedRules e.scope.table.names,
        i.rule.reachesLimit = true ∧
          i.rule.evaluate i.fields ⟨e.references, runTime.date⟩ e.scope.table =
            .error .overflow) ∧
    (Audit.run c subject resolve runTime ≠ .error .overflow →
      ∃ a, Audit.run c subject resolve runTime = .ok a ∧
        (a.status = .prerequisitesFailed → a.errors.height = 0) ∧
        (a.status = .completed →
          let written := e.scored.filter (·.2.isWritten)
          a.results = e.scored.map (·.2) ∧
            (∃ blocks, a.errors.rows = blocks.flatten ∧
              List.Forall₂ (fun (i, o) block => ∃ f,
                  i.rule.evaluate i.fields ⟨e.references, runTime.date⟩ e.scope.table = .ok f ∧
                  f.failedCount = o.failed ∧
                  List.Forall₂
                    (TagsOf e.scope.table.fields a.errors.fields o.requirement runTime.text)
                    (marked f.failed e.scope.table.rows) block)
                written blocks) ∧
            a.errors.height = ((a.results.filter Outcome.isWritten).map Outcome.failed).sum)) := by
  intro e
  constructor
  · rw [Audit.run_eq_overflow, Evaluation.overflows_eq_true rfl]
    refine and_congr_right fun _ => exists_congr fun i => and_congr_right fun _ =>
      ⟨fun h => ⟨Rule.reachesLimit_of_overflow h, h⟩, And.right⟩
  intro hrun
  obtain ⟨a, ha⟩ := Audit.exists_run hrun
  rcases Audit.cases_of_run ha with ⟨failure, -, hs⟩ | ⟨-, hc⟩
  · refine ⟨a, ha, fun _ => ?_, fun hstatus => ?_⟩
    · simp [Table.height, hs.errors_rows]
    · simp [hs.status] at hstatus
  · refine ⟨a, ha, fun hstatus => ?_, fun _ => ⟨?_, ?_, hc.height_errors rfl⟩⟩
    · simp [hc.status] at hstatus
    · rw [hc.results, Evaluation.outcomes_eq_scored]
    · refine ⟨_, hc.errors_rows_eq.trans List.flatMap_def, ?_⟩
      rw [List.forall₂_map_right_iff, List.forall₂_same]
      rintro ⟨i, o⟩ hio
      obtain ⟨hmem, hw⟩ := List.mem_filter.1 hio
      obtain ⟨f, hf, rfl⟩ := finding_of_scored rfl hmem
      refine ⟨f, hf, rfl, ?_⟩
      rw [hc.errors_fields]
      exact tagsOf_errorRows hw _

/-- The failing rows of a column that is itself named like a tag. -/
theorem error_blocks_of_run_named_error :
    Audit.run (.ofNullCheck "error") (.ofTexts "error" [some "x", none, some ""])
        (fun _ => .ok .empty) ⟨⟨2024, 6, 1⟩, 10, 30, 0⟩ ≠ .error .overflow ∧
      ∃ a, Audit.run (.ofNullCheck "error") (.ofTexts "error" [some "x", none, some ""])
          (fun _ => .ok .empty) ⟨⟨2024, 6, 1⟩, 10, 30, 0⟩ = .ok a ∧
        a.status = .completed ∧ a.errors.height = 2 := by
  have hok : Audit.run (.ofNullCheck "error") (.ofTexts "error" [some "x", none, some ""])
      (fun _ => .ok .empty) ⟨⟨2024, 6, 1⟩, 10, 30, 0⟩ ≠ .error .overflow := fun h => by cases h
  obtain ⟨a, ha, -, hc⟩ := (error_blocks_of_run (.ofNullCheck "error")
    (.ofTexts "error" [some "x", none, some ""]) (fun _ => .ok .empty)
    ⟨⟨2024, 6, 1⟩, 10, 30, 0⟩).2 hok
  have hs : a.status = .completed := by
    have hrun : (Audit.run (.ofNullCheck "error") (.ofTexts "error" [some "x", none, some ""])
        (fun _ => .ok .empty) ⟨⟨2024, 6, 1⟩, 10, 30, 0⟩).map Audit.status = .ok .completed := rfl
    simpa [ha, Except.map] using hrun
  obtain ⟨hr, -, hh⟩ := hc hs
  refine ⟨hok, a, ha, hs, ?_⟩
  rw [hh, hr]
  rfl

/-- An account that starts with a country, and a rule that is to look at all of its characters. -/
theorem run_of_last_position :
    Audit.run (.ofAccount 18446744073709551615) (.ofTexts "account" [some "PE"])
      (fun _ => .ok .empty) ⟨⟨2024, 6, 1⟩, 10, 30, 0⟩ = .error .overflow := rfl

end TableAudit
