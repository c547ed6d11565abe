import TableAudit.Proofs.Records
import TableAudit.Proofs.Runs

/-!
# What the gate holds back

The gate of a run looks at a single rule, the first accepted one of the guarding kind. If the table
lacks a column that this rule requires, or has no rows, the run stops with the failure as its only
result; otherwise it is completed. Another rule of the kind is neither looked at nor planned, so a
run may be completed on a table that does not meet it.
-/

namespace TableAudit

/-- A table has the columns that a rule requires, and it has rows. -/
structure Rule.MetBy (rule : Rule) (t : Table) : Prop where
  columns : ∀ name ∈ rule.head.target.resolve t.names, name ∈ t.names
  rows : 0 < t.height

def Rule.LeadsGuards (rule : Rule) (rules : List Rule) : Prop :=
  rule.head.kind = .prerequisites ∧
    ∃ before after, rules = before ++ rule :: after ∧ ∀ r ∈ before, r.head.kind ≠ .prerequisites

theorem Config.prerequisites?_eq_some {rules : List Rule} {rule : Rule} :
    prerequisites? rules = some rule ↔ rule.LeadsGuards rules := by
  simp [prerequisites?, List.find?_eq_some_iff_append, Rule.LeadsGuards]

namespace Gate

private theorem message?_eq_none {gate : Gate} : gate.message? = none ↔ gate = .satisfied := by
  cases gate <;> simp [message?]

private theorem check_eq_satisfied {t : Table} {required : List String} :
    check t required = .satisfied ↔ (∀ name ∈ required, name ∈ t.names) ∧ 0 < t.height := by
  have hmissing : required.filter (fun name => !t.fields.has name) = [] ↔
      ∀ name ∈ required, name ∈ t.names := by
    simp [List.filter_eq_nil_iff, Schema.has_eq_true, Table.names]
  unfold check
  split
  · next h =>
    rw [← hmissing, Nat.pos_iff_ne_zero]
    split <;> simp_all
  · next h =>
    constructor
    · intro hs
      cases hs
    · rintro ⟨hcolumns, -⟩
      exact (h (hmissing.2 hcolumns)).elim

end Gate

theorem Rule.metBy_iff {rule : Rule} {t : Table} :
    rule.MetBy t ↔ (Guard.of rule t).gate.message? = none := by
  rw [Gate.message?_eq_none, Guard.of, Gate.check_eq_satisfied]
  exact ⟨fun h => ⟨h.columns, h.rows⟩, fun h => ⟨h.1, h.2⟩⟩

namespace Config

variable {c : Config} {subject : Table}

/-- The gate lets a run pass if there is no guard, or if the first one is met. -/
theorem gateFailure?_eq_none :
    c.gateFailure? subject = none ↔
      ∀ rule : Rule, rule.LeadsGuards c.acceptedRules → rule.MetBy subject := by
  simp only [gateFailure?, Option.bind_eq_none_iff, Option.map_eq_some_iff, Guard.failure?,
    Option.map_eq_none_iff]
  constructor
  · intro h rule hrule
    exact Rule.metBy_iff.2 (h _ ⟨rule, prerequisites?_eq_some.2 hrule, rfl⟩)
  · rintro h _ ⟨rule, hrule, rfl⟩
    exact Rule.metBy_iff.1 (h rule (prerequisites?_eq_some.1 hrule))

theorem eq_of_leadsGuards {rules : List Rule} {r s : Rule} (hr : r.LeadsGuards rules)
    (hs : s.LeadsGuards rules) : r = s := by
  rw [← prerequisites?_eq_some] at hr hs
  exact Option.some.inj (hr.symm.trans hs)

end Config

/-- A guard lists the columns that it requires; for it an asterisk is a name like any other. -/
theorem Config.columns_of_prerequisites {c : Config} {rule : Rule} (h : rule ∈ c.acceptedRules)
    (hk : rule.head.kind = .prerequisites) : ∃ names, rule.head.target = .columns names := by
  rw [acceptedRules_eq_accepted] at h
  obtain ⟨⟨code, rule⟩, hmem, rfl⟩ := List.mem_map.1 h
  cases readFor_of_mem_accepted hmem with
  | plain _ columns => exact columns hk
  | conditional => cases hk

/-- A run that does not overflow is completed exactly if its first guard, if there is one, is met.
Otherwise the failure of that guard is its only result, and there are no profiles, no clean copy and
no error rows. An overflow is no way around the guard. -/
theorem gate_of_run (c : Config) (subject : Table) (resolve : Resolver)
    (runTime : Calendar.Moment) :
    (Audit.run c subject resolve runTime = .error .overflow ∧
        ∀ rule : Rule, rule.LeadsGuards c.acceptedRules → rule.MetBy subject) ∨
      ∃ a, Audit.run c subject resolve runTime = .ok a ∧
        (a.status = .completed ↔
          ∀ rule : Rule, rule.LeadsGuards c.acceptedRules → rule.MetBy subject) ∧
        (∀ rule : Rule, rule.LeadsGuards c.acceptedRules → ¬ rule.MetBy subject →
          a.status = .prerequisitesFailed ∧
          (∃ names message, rule.head.target = .columns names ∧
            a.results = [gateFailure rule.head names message subject.height
              c.input.metadata.entityCode]) ∧
          a.profilings = [] ∧ a.clean = none ∧ a.errors.rows = []) := by
  by_cases hrun : Audit.run c subject resolve runTime = .error .overflow
  · exact .inl ⟨hrun, Config.gateFailure?_eq_none.1 (Audit.run_eq_overflow.1 hrun).1⟩
  obtain ⟨a, ha⟩ := Audit.exists_run hrun
  refine .inr ⟨a, ha, ?_⟩
  rcases Audit.cases_of_run ha with ⟨failure, hfail, hs⟩ | ⟨hnone, hc⟩
  · have hstops : ¬ ∀ rule : Rule, rule.LeadsGuards c.acceptedRules → rule.MetBy subject := by
      rw [← Config.gateFailure?_eq_none, hfail]
      exact Option.some_ne_none failure
    have hstatus : a.status ≠ .completed := by simp [hs.status]
    refine ⟨iff_of_false hstatus hstops, fun rule hrule _ =>
      ⟨hs.status, ?_, hs.profilings, ?_, hs.errors_rows⟩⟩
    · obtain ⟨guard, message, hguard, -, rfl⟩ := Config.gateFailure?_eq_some.1 hfail
      obtain rfl := Config.eq_of_leadsGuards (Config.prerequisites?_eq_some.1 hguard) hrule
      have hmem : guard ∈ c.acceptedRules := List.mem_of_find?_eq_some hguard
      obtain ⟨names, hnames⟩ := Config.columns_of_prerequisites hmem hrule.1
      refine ⟨names, message, hnames, ?_⟩
      rw [hs.results, hnames]
      rfl
    · simp [Audit.clean, hs.projection]
  · have hmet := Config.gateFailure?_eq_none.1 hnone
    exact ⟨iff_of_true hc.status hmet, fun rule hrule hunmet =>
      (hunmet (hmet rule hrule)).elim⟩

def Config.ofGuards (guards : List (String × String)) : Config :=
  { Config.blank with
    rules := guards.map fun (code, field) => (code, .object [("fields", .text field)]) }

def Rule.ofGuard (code field : String) : Rule :=
  .plain ⟨code, .prerequisites, .columns [field], 100, true⟩ .fields

theorem Rule.not_metBy_ofGuard {code field : String} {t : Table} (h : field ∉ t.names) :
    ¬ (Rule.ofGuard code field).MetBy t :=
  fun hm => h (hm.columns field List.mem_cons_self)

/-- The first of two guards asks for a column that is not there. -/
theorem gate_of_run_missing :
    ∃ a, Audit.run (.ofGuards [("100", "email"), ("100B", "id")])
        (.ofTexts "id" [some "1"]) (fun _ => .ok .empty) ⟨⟨2024, 6, 1⟩, 10, 30, 0⟩ = .ok a ∧
      (Rule.ofGuard "100" "email").LeadsGuards
        (Config.ofGuards [("100", "email"), ("100B", "id")]).acceptedRules ∧
      ¬ (Rule.ofGuard "100" "email").MetBy (.ofTexts "id" [some "1"]) ∧
      a.status = .prerequisitesFailed ∧ a.results.length = 1 := by
  have hlead : (Rule.ofGuard "100" "email").LeadsGuards
      (Config.ofGuards [("100", "email"), ("100B", "id")]).acceptedRules :=
    ⟨rfl, [], [.ofGuard "100B" "id"], rfl, by simp⟩
  have hunmet : ¬ (Rule.ofGuard "100" "email").MetBy (.ofTexts "id" [some "1"]) :=
    Rule.not_metBy_ofGuard (by decide)
  rcases gate_of_run (.ofGuards [("100", "email"), ("100B", "id")]) (.ofTexts "id" [some "1"])
    (fun _ => .ok .empty) ⟨⟨2024, 6, 1⟩, 10, 30, 0⟩ with ⟨-, hmet⟩ | ⟨a, ha, -, hfail⟩
  · exact (hunmet (hmet _ hlead)).elim
  obtain ⟨hs, ⟨names, message, -, hr⟩, -⟩ := hfail _ hlead hunmet
  refine ⟨a, ha, hlead, hunmet, hs, ?_⟩
  rw [hr]
  rfl

/-- The second of two guards asks for it: the run is completed, and nothing is said of the guard. -/
theorem second_guard_ignored :
    ∃ a, Audit.run (.ofGuards [("100", "id"), ("100B", "email")]) (.ofTexts "id" [some "1"])
        (fun _ => .ok .empty) ⟨⟨2024, 6, 1⟩, 10, 30, 0⟩ = .ok a ∧
      a.status = .completed ∧ a.results = [] ∧ a.diagnostics = [] ∧
      ∃ rule ∈ (Config.ofGuards [("100", "id"), ("100B", "email")]).acceptedRules,
        rule.head.kind = .prerequisites ∧ ¬ rule.MetBy (.ofTexts "id" [some "1"]) := by
  refine ⟨_, rfl, rfl, rfl, rfl, .ofGuard "100B" "email", ?_, rfl, ?_⟩
  · exact List.mem_cons_of_mem (Rule.ofGuard "100" "id") List.mem_cons_self
  · exact Rule.not_metBy_ofGuard (by decide)

end TableAudit
